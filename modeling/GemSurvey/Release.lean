import GemSurvey.Fault
import GemSurvey.Glob.Expansion
import GemSurvey.Text.CharClass

/-! The version that the sources state: on a line that assigns VERSION, the first three numbers with
dots between. Libraries' version files come first, then libraries, then executables. A file that cannot
be read as text states nothing. -/
namespace GemSurvey.Release

def sources : List Path := ["lib/*/version.rb", "lib/*.rb", "bin/*"]

def assignsAt (t : Text) : Bool :=
  match Text.after? "VERSION" t with
  | some rest => (Text.trimStart rest).head? == some '='
  | none => false

def assigns : Text → Bool
  | [] => false
  | c :: rest => assignsAt (c :: rest) || assigns rest

def digits? (t : Text) : Option (Text × Text) :=
  let digits := t.takeWhile Text.isDigit
  if digits.isEmpty then none else some (digits, t.dropWhile Text.isDigit)

def numberAt? (t : Text) : Option Text := do
  let (major, t) ← digits? t
  let (minor, t) ← digits? (← Text.after? ['.'] t)
  let (patch, _) ← digits? (← Text.after? ['.'] t)
  some (major ++ '.' :: minor ++ '.' :: patch)

def number? : Text → Option Text
  | [] => none
  | c :: rest => (numberAt? (c :: rest)).or (number? rest)

def ofLine? (line : Text) : Option Text := if assigns line then number? line else none

def ofText? (t : Text) : Option Text := (Text.lines t).findSome? ofLine?

def ofFile? (tree : Tree) (path : Path) : Option Text :=
  match tree.readText path with
  | .ok t => ofText? t
  | .error _ => none

def find (tree : Tree) (root : Path) : List Path → Except Glob.Fault (Option Text)
  | [] => .ok none
  | source :: rest => do
      let files ← Glob.filesUnder tree root source
      match files.findSome? fun file => ofFile? tree (root.join file) with
      | some version => .ok (some version)
      | none => find tree root rest

def version? (tree : Tree) (root : Path) : Except Fault (Option Text) :=
  match find tree root sources with
  | .ok version => .ok version
  | .error fault => .error (.rejected .glob fault.message)

end GemSurvey.Release
