import GemSurvey.Pattern.Basic
import GemSurvey.Pattern.Reader
import GemSurvey.Settings.Basic
import GemSurvey.Toml.Document
import GemSurvey.Tree

/-! Settings as a project holds them: the first settings file that there is, and the pattern of the
tracked paths to leave out. The text of the pattern's file without white space is one pattern, and an
empty one ignores nothing. -/
namespace GemSurvey.Settings

def candidates (root : Path) : List Path :=
  [root.join "gemsmith.toml", root.join ".gemsmith.toml", (root.join ".config").join "gemsmith.toml"]

def file? (tree : Tree) (root : Path) : Option Path := (candidates root).find? tree.existsAt

def ofText (t : Text) : Except Text Settings :=
  match Toml.read t with
  | .error fault => .error fault.message
  | .ok d => match ofDatum false d with
      | .error fault => .error fault.message
      | .ok settings => .ok settings

def load (tree : Tree) (root : Path) : Except Fault Settings :=
  match file? tree root with
  | none => .ok {}
  | some path => match tree.readText path with
      | .error cause => .error (.ofIo ("Failed to read config from " ++ path.text) cause)
      | .ok t => match ofText t with
          | .error reason => .error (.settings (.parse path reason))
          | .ok settings => match settings.scan.validate with
              | .error cause => .error (.settings cause)
              | .ok () => .ok settings

structure Ignore where
  source : Text
  pattern : Pattern

def Ignore.matches (ignore : Ignore) (path : Text) : Bool := ignore.pattern.occursIn path

def ignore? (scan : ScanSettings) (tree : Tree) (root : Path) : Except Fault (Option Ignore) :=
  let path := root.join scan.ignoreFile
  if !tree.isFile path then .ok none
  else match tree.readText path with
    | .error cause => .error (.ofIo ("Failed to read ignore file " ++ path.text) cause)
    | .ok t =>
        let source := t.filter (!Text.isBlank ·)
        if source.isEmpty then .ok none
        else match Pattern.read source with
          | .error fault => .error (.settings (.ignorePattern path (fault.message : Text)))
          | .ok pattern => .ok (some ⟨source, pattern⟩)

end GemSurvey.Settings
