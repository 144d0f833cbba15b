import GemSurvey.Path
import GemSurvey.Text.CharClass

/-! Source files: what part they play in the gem, how they were recognised, by the suffix of the name or
by the interpreter, and problems met with them that do not end a run. The first line of an executable
source is `#!`, and later on the line the interpreter's name with a word boundary on both sides. -/
namespace GemSurvey

inductive Role where
  | distributed
  | auxiliary
  deriving DecidableEq, Repr

inductive SourceKind where
  | script
  | shebang
  deriving DecidableEq, Repr

structure SourceFile where
  path : Path
  role : Role
  kind : SourceKind
  deriving DecidableEq, Repr

structure Diagnostic where
  path : Option Path
  message : Text
  deriving DecidableEq, Repr

namespace Role

def label : Role → Text
  | distributed => "runtime"
  | auxiliary => "development"

end Role

namespace Diagnostic

def about (path : Path) (message : Text) : Diagnostic := ⟨some path, message⟩

def general (message : Text) : Diagnostic := ⟨none, message⟩

def shown (d : Diagnostic) : Text :=
  match d.path with
  | some path => "could not process " ++ path.text ++ ": " ++ d.message
  | none => d.message

end Diagnostic

def isWordEdge (before after : Option Char) : Bool :=
  before.any Text.isWord != after.any Text.isWord

namespace Shebang

def standsAt (runtime : Text) (before : Option Char) (t : Text) : Bool :=
  match Text.after? runtime t with
  | some rest =>
      isWordEdge before t.head? && isWordEdge (runtime.getLast?.or before) rest.head?
  | none => false

def namesFrom (runtime : Text) (before : Option Char) : Text → Bool
  | [] => standsAt runtime before []
  | c :: rest =>
      standsAt runtime before (c :: rest) || (c != '\n' && namesFrom runtime (some c) rest)

def names (runtime : Text) : Text → Bool
  | '#' :: '!' :: rest => namesFrom runtime (some '!') rest
  | _ => false

end Shebang
end GemSurvey
