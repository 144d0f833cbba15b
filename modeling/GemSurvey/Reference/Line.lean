import GemSurvey.Source.Basic

/-! References from source files to libraries and commands, and what a line of source refers to. A
library is named by `require` and what stands between the first quote and the next, of either kind. A
command is the first name after `system` or a backtick, on a line where no `#` comes before either, or
after the backtick that opens a comment; it begins past all that is no word, or is the last hyphen. A
line that has both shapes names a library. -/
namespace GemSurvey

inductive ReferenceKind where
  | library | command
  deriving DecidableEq, Repr

structure Reference where
  kind : ReferenceKind
  name : Text
  path : Path
  role : Role
  line : Nat
  deriving DecidableEq, Repr

end GemSurvey

namespace GemSurvey.Line

def isQuote (c : Char) : Bool := c == '\x27' || c == '"'

def isTokenChar (c : Char) : Bool := Text.isWord c || c == '-'

def quotedName? : Text → Option Text
  | [] => none
  | quote :: body =>
      let name := body.takeWhile (!isQuote ·)
      if isQuote quote && !name.isEmpty && name.length < body.length then some name else none

def required? (line : Text) : Option Text := do
  let rest ← Text.after? "require" (Text.trimStart line)
  if (rest.head?).any Text.isBlank then quotedName? (Text.trimStart rest) else none

def token? (tail : Text) : Option Text :=
  match tail.dropWhile (!Text.isWord ·) with
  | c :: rest => some ((c :: rest).takeWhile isTokenChar)
  | [] => if tail.contains '-' then some ['-'] else none

def afterSystem? (before : Option Char) (t : Text) : Option Text :=
  if before.any Text.isWord then none
  else match Text.after? "system" t with
    | some rest => if (rest.head?).any Text.isWord then none else some rest
    | none => none

def invocation? (before : Option Char) : Text → Option Text
  | [] => none
  | c :: rest =>
      match afterSystem? before (c :: rest) with
      | some tail => some tail
      | none =>
          if c == '\x60' then some rest
          else if c == '#' then none
          else invocation? (some c) rest

def commented? (line : Text) : Option Text := do
  let rest ← Text.after? ['#'] (Text.trimStart line)
  Text.after? ['\x60'] (Text.trimStart rest)

def command? (line : Text) : Option Text :=
  ((invocation? none line).bind token?).or ((commented? line).bind token?)

def match? (line : Text) : Option (ReferenceKind × Text) :=
  ((required? line).map (.library, ·)).or ((command? line).map (.command, ·))

end GemSurvey.Line
