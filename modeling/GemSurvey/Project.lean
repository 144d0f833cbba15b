import GemSurvey.Readme
import GemSurvey.Release
import GemSurvey.Workspace

/-! What a project says of itself: name and version, the README's description, the author, and gems
built before, in the root and under `pkg/`. What is not found is left open. -/
namespace GemSurvey

structure Project where
  workTree : Path
  readme : Path
  description : Option Text
  summary : Option Text
  name : Text
  gemspec : Text
  version : Option Text
  date : Text
  author : Option Text
  email : Option Text
  gems : List Path
  packaged : List Path
  homepage : Option Text
  license : Text
  deriving DecidableEq, Repr

namespace Project

def shownPaths (ps : List Path) : Text := Text.join ", " (ps.map Path.text)

def attributes (p : Project) : List (Text × Option Text) :=
  [("wd", some p.workTree.text), ("readme", some p.readme.text), ("description", p.description),
    ("summary", p.summary), ("name", some p.name), ("gemspec", some p.gemspec),
    ("version", p.version), ("date", some p.date), ("author", p.author), ("email", p.email),
    ("gems", some (shownPaths p.gems)), ("pkgems", some (shownPaths p.packaged))]

def missing (p : Project) : List Text :=
  (p.attributes.filter (·.2.isNone)).map (·.1)

def homepageOf (author name : Text) : Text :=
  "https://github.com/" ++ Text.lowercase author ++ "/" ++ name

def stated (value : Text) : Option Text :=
  let value := Text.trim value
  if value.isEmpty then none else some value

def builtGems (tree : Tree) (root pattern : Path) : Except Fault (List Path) :=
  match Glob.filesUnder tree root pattern with
  | .ok found => .ok found
  | .error fault => .error (.rejected .glob fault.message)

def readmeOf (w : Workspace) (tree : Tree) : Except IoFault Text :=
  tree.readText (w.root.join w.settings.package.readme)

def unreadable? (w : Workspace) (tree : Tree) : Option Text :=
  match readmeOf w tree with
  | .ok _ => none
  | .error cause =>
      some ("could not read " ++ w.settings.package.readme.text ++ ": " ++ cause.message)

def load (w : Workspace) (tree : Tree) (today : Text) : Except Fault Project := do
  let extract := (readmeOf w tree).toOption.bind Readme.extract?
  let author := stated w.git.userName
  let version ← Release.version? tree w.root
  let gems ← builtGems tree w.root "*.gem"
  let packaged ← builtGems tree w.root "pkg/*.gem"
  .ok { workTree := w.root
        readme := w.settings.package.readme
        description := extract.map Readme.Extract.description
        summary := extract.map Readme.Extract.summary
        name := w.package
        gemspec := w.package ++ ".gemspec"
        version := version
        date := today
        author := author
        email := stated w.git.userEmail
        gems := gems
        packaged := packaged
        homepage := w.settings.package.homepage.or (author.map fun a => homepageOf a w.package)
        license := w.settings.package.license }

end Project
end GemSurvey
