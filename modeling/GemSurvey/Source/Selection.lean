import GemSurvey.Settings.Basic
import GemSurvey.Source.Basic
import GemSurvey.Tree

/-! Selection: which tracked paths are sources. A name with a known suffix is one whether or not the
file is there; any other must be an executable file whose first line names the interpreter. The first
component of its path decides on its role. -/
namespace GemSurvey

inductive Selected where
  | source (file : SourceFile)
  | refused (problem : Diagnostic)
  deriving DecidableEq, Repr

namespace Selection

def hasSuffix (scan : ScanSettings) (path : Path) : Bool :=
  path.extension?.any fun suffix => scan.sourceSuffixes.contains suffix

def firstLine (content : Bytes) : Bytes :=
  let line := content.takeWhile (· != 10)
  if line.length < content.length then line ++ [10] else line

def readsAsScript (scan : ScanSettings) (content : Bytes) : Except IoFault Bool :=
  match Text.decode? (firstLine content) with
  | none => .error .notText
  | some line => .ok (Shebang.names scan.shebangRuntime (Text.trimEnd line))

def kindOf (scan : ScanSettings) (content : Bytes) : Except IoFault (Option SourceKind) :=
  (readsAsScript scan content).map fun names => if names then some .shebang else none

def kind? (scan : ScanSettings) (view : View) (root path : Path) :
    Except IoFault (Option SourceKind) :=
  if hasSuffix scan path then .ok (some .script)
  else match view (root.join path) with
    | .ok (.file content true) => kindOf scan content
    | .ok (.locked true cause) => .error cause
    | .ok (.broken content true cause) =>
        if content.contains 10 then kindOf scan content else .error cause
    | _ => .ok none

def roleOf (scan : ScanSettings) (path : Path) : Role :=
  match path.components.head? with
  | some (.name first) => if scan.distributedRoots.contains first then .distributed else .auxiliary
  | _ => .auxiliary

def classify (scan : ScanSettings) (view : View) (root path : Path) : Option Selected :=
  match kind? scan view root path with
  | .ok (some kind) => some (.source ⟨path, roleOf scan path, kind⟩)
  | .ok none => none
  | .error cause => some (.refused (.about path cause.message))

def select (scan : ScanSettings) (view : View) (root : Path) (tracked : List Path) :
    List Selected :=
  tracked.filterMap (classify scan view root)

def files (selected : List Selected) : List SourceFile :=
  selected.filterMap fun
    | .source file => some file
    | .refused _ => none

def problems (selected : List Selected) : List Diagnostic :=
  selected.filterMap fun
    | .refused problem => some problem
    | .source _ => none

end Selection
end GemSurvey
