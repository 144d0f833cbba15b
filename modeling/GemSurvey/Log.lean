import GemSurvey.Source.Selection
import GemSurvey.Survey
import GemSurvey.Text.Quoted

/-! Log lines. A filter shows the lines of its level and above; by default the level follows the number
of times that more was asked for, and a filter of no known word shows nothing but errors. With two or
more requests for more, a line tells the part of the program that speaks. Controls that could steer a
terminal are shown by their codes. A survey tells of the paths judged, then how many will be read, then
what was met in reading them. -/
namespace GemSurvey.Log

inductive Level where
  | error | warn | info | debug | trace
  deriving DecidableEq, Repr

def Level.rank : Level → Nat
  | error => 1
  | warn => 2
  | info => 3
  | debug => 4
  | trace => 5

def Level.label : Level → Text
  | error => "ERROR"
  | warn => "WARN"
  | info => "INFO"
  | debug => "DEBUG"
  | trace => "TRACE"

def levelFor (verbosity : Nat) : Level :=
  match verbosity with
  | 0 => .warn
  | 1 => .info
  | 2 => .debug
  | _ => .trace

def filterWords : List (Text × Nat) :=
  [("off", 0), ("0", 0), ("error", 1), ("1", 1), ("warn", 2), ("2", 2), ("info", 3), ("3", 3),
    ("debug", 4), ("4", 4), ("trace", 5), ("5", 5)]

def asciiLower (t : Text) : Text := t.map Char.toLower

def threshold (filter : Text) (verbosity : Nat) : Nat :=
  if (Text.trim filter).isEmpty then (levelFor verbosity).rank
  else (filterWords.lookup (asciiLower filter)).getD 1

structure Entry where
  level : Level
  target : Text
  message : Text
  deriving DecidableEq, Repr

def safeChar (c : Char) : Text :=
  if c ∈ ['\x07', '\x08', '\x0c', '\x1b', '\x7f'] then ['\\', 'x'] ++ Text.hex 2 c.toNat
  else if 0x80 ≤ c.toNat && c.toNat ≤ 0x9F then
    ['\\', 'u', '\x7b'] ++ Text.hex 1 c.toNat ++ ['\x7d']
  else [c]

def Entry.shown (verbosity : Nat) (e : Entry) : Text :=
  let label := e.level.label
  List.replicate (5 - label.length) ' ' ++ label ++ " " ++
    (if 2 ≤ verbosity then e.target ++ ": " else []) ++ e.message.flatMap safeChar ++ "\n"

def render (filter : Text) (verbosity : Nat) (entries : List Entry) : Text :=
  (entries.filter fun e => e.level.rank ≤ threshold filter verbosity).flatMap (Entry.shown verbosity)

def ofProblem (d : Diagnostic) : Entry := ⟨.warn, "gemsmith::deps", d.shown⟩

def ofSelected (selected : List Selected) : List Entry :=
  (Selection.problems selected).map ofProblem

def ofSurvey (o : Survey.Outcome) : List Entry :=
  (match o.selected with
    | some selected => ofSelected selected ++
        [⟨.info, "gemsmith::deps",
          "scanning " ++ Text.decimal (Selection.files selected).length ++ " source files"⟩]
    | none => []) ++ o.session.problems.map ofProblem

def ofReadme (message : Text) : Entry := ⟨.warn, "gemsmith::project", message⟩

end GemSurvey.Log
