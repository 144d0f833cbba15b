import GemSurvey.Text.Basic

/-! The command line: a command with its own flag, `--json`, `--stdout` or `--check`, and on either side
of it the directory to start in and requests for more log lines. Options of one letter may run together;
what follows `C` names the directory, and if nothing does, the next argument will. A hyphen alone is no
option. The flag may be set once, and a directory, which must have a name, once on each side; what is
given after the command wins. The words after `help` name at most one command, or `help` again. -/
namespace GemSurvey.CommandLine

inductive CommandName where
  | files | dependencies | gemspec | info
  deriving DecidableEq, Repr

structure Invocation where
  command : CommandName
  flag : Bool
  verbosity : Nat
  directory : Option Text
  deriving DecidableEq, Repr

inductive Request where
  | run (i : Invocation)
  | version (command : Option CommandName)
  | help
  | misuse
  deriving DecidableEq, Repr

def names : List (Text × CommandName) :=
  [("files", .files), ("dependencies", .dependencies), ("gemspec", .gemspec), ("info", .info)]

def CommandName.label : CommandName → Text
  | files => "files"
  | dependencies => "dependencies"
  | gemspec => "gemspec"
  | info => "info"

def CommandName.flag? : CommandName → Option Text
  | files => none
  | dependencies => some "--json"
  | gemspec => some "--stdout"
  | info => some "--check"

structure Level where
  verbosity : Nat := 0
  directory : Option Text := none
  pending : Option Text := none
  flag : Bool := false
  deriving DecidableEq, Repr

def verbosityLimit : Nat := 255

namespace Level

def settle (l : Level) : Except Request Level :=
  match l.pending with
  | none => .ok l
  | some directory =>
      if directory.isEmpty || l.directory.isSome then .error .misuse
      else .ok { l with directory := some directory, pending := none }

def louder (l : Level) : Level := { l with verbosity := min verbosityLimit (l.verbosity + 1) }

def raise (l : Level) : Except Request Level :=
  if l.flag then .error .misuse else .ok { l with flag := true }

end Level

def withoutEquals : Text → Text
  | '=' :: rest => rest
  | t => t

def readLetters (command : Option CommandName) (l : Level) : Text → Except Request (Level × Bool)
  | [] => .ok (l, false)
  | c :: rest => do
      let l ← l.settle
      match c with
      | 'v' => readLetters command l.louder rest
      | 'h' => .error .help
      | 'V' => .error (.version command)
      | 'C' =>
          if rest.isEmpty then .ok (l, true)
          else .ok (← { l with pending := some (withoutEquals rest) }.settle, false)
      | _ => .error .misuse

def readWord (command : Option CommandName) (l : Level) (word : Text) : Except Request Level := do
  let l ← l.settle
  if word = "--verbose" then .ok l.louder
  else if word = "--help" then .error .help
  else if word = "--version" then .error (.version command)
  else if command.bind CommandName.flag? = some word then l.raise
  else .error .misuse

def isOption : Text → Bool
  | '-' :: _ :: _ => true
  | _ => false

def readLevel (command : Option CommandName) (l : Level) :
    List Text → Except Request (Level × List Text)
  | [] => do .ok (← l.settle, [])
  | word :: rest =>
      if !isOption word then do .ok (← l.settle, word :: rest)
      else if word = "--" then do
        let l ← l.settle
        if rest.isEmpty then .ok (l, []) else .error .misuse
      else if (Text.after? ['-', '-'] word).isSome then do
        readLevel command (← readWord command l word) rest
      else do
        let (l, wanting) ← readLetters command l (word.drop 1)
        if !wanting then readLevel command l rest
        else match rest with
          | value :: rest =>
              if isOption value then .error .misuse
              else readLevel command { l with pending := some value } rest
          | [] => .error .misuse

def readHelp : List Text → Request
  | [] => .help
  | [word] => if (names.lookup word).isSome || word = "help" then .help else .misuse
  | _ => .misuse

def invocation (command : CommandName) (before after : Level) : Invocation where
  command := command
  flag := after.flag
  verbosity := if after.verbosity = 0 then before.verbosity else after.verbosity
  directory := after.directory.or before.directory

def readAll (arguments : List Text) : Except Request Request := do
  match ← readLevel none {} arguments with
  | (_, []) => .error .misuse
  | (before, word :: rest) =>
      if word = "help" then .ok (readHelp rest)
      else match names.lookup word with
        | none => .error .misuse
        | some command => match ← readLevel (some command) {} rest with
            | (after, []) => .ok (.run (invocation command before after))
            | _ => .error .misuse

def read (arguments : List Text) : Request :=
  match readAll arguments with
  | .ok request | .error request => request

end GemSurvey.CommandLine
