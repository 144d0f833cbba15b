import GemSurvey.Text.Casing
import GemSurvey.Text.CharClass

/-! The description in a README: the section under a heading of `#` or `=` signs and the word
DESCRIPTION, in whatever case, up to the next line that begins with such a sign; there must be one. Its
paragraphs stand between pairs of newlines. The first two describe the gem, the first one sums it up. -/
namespace GemSurvey.Readme

structure Extract where
  description : Text
  summary : Text
  deriving DecidableEq, Repr

def isMark (c : Char) : Bool := c == '=' || c == '#'

def afterFolded? : Text → Text → Option Text
  | [], t => some t
  | _ :: _, [] => none
  | x :: word, c :: rest => if Text.fold x = Text.fold c then afterFolded? word rest else none

def dropColon : Text → Text
  | ':' :: rest => rest
  | t => t

def afterHeading? (t : Text) : Option Text :=
  if (t.head?).any isMark then
    (afterFolded? "DESCRIPTION" (Text.trimStart (t.dropWhile isMark))).map dropColon
  else none

def untilMark? : Text → Option Text
  | [] => none
  | c :: rest =>
      if c == '\n' && (rest.head?).any isMark then some []
      else (untilMark? rest).map (c :: ·)

def section? : Text → Option Text
  | [] => none
  | c :: rest =>
      if c == '\n' then match afterHeading? rest with
        | some body => untilMark? body
        | none => section? rest
      else section? rest

def cutPairs : Text → List Text
  | '\n' :: '\n' :: rest => [] :: cutPairs rest
  | c :: rest => match cutPairs rest with
      | piece :: pieces => (c :: piece) :: pieces
      | [] => [[c]]
  | [] => [[]]

def paragraphs (body : Text) : List Text :=
  ((cutPairs (Text.trim body)).map Text.trim).filter (!·.isEmpty)

def extract? (t : Text) : Option Extract :=
  match (section? t).map paragraphs with
  | some (first :: rest) => some ⟨Text.join ['\n', '\n'] (first :: rest.take 1), first⟩
  | _ => none

end GemSurvey.Readme
