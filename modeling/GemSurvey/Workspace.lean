import GemSurvey.Git
import GemSurvey.Survey
import GemSurvey.World

/-! A project as a run sees it: its work tree, its settings and its name, which is that of the
settings or the directory's name up to the first hyphen. -/
namespace GemSurvey

structure Workspace where
  root : Path
  settings : Settings
  git : Git
  package : Text

namespace Workspace

def nameOf (root : Path) : Except Fault Text :=
  match root.fileName? with
  | none => .error (.ofText "work tree has no usable directory name")
  | some directory =>
      let name := directory.takeWhile (· != '-')
      if name.isEmpty then
        .error (.ofText ("'" ++ directory ++ "' does not start with a gem name"))
      else .ok name

def packageName (settings : Settings) (root : Path) : Except Fault Text :=
  match settings.package.name with
  | some name => .ok name
  | none => match nameOf root with
      | .ok name => .ok name
      | .error fault => .error (fault.withContext ("Cannot derive a gem name from " ++ root.text))

def openAt (world : World) (start : Path) : Except Fault Workspace := do
  let git ← Git.openAt world.run start
  let settings ← Settings.load world.tree git.workTree
  let ignore ← Settings.ignore? settings.scan world.tree git.workTree
  let package ← packageName settings git.workTree
  .ok ⟨git.workTree, settings, { git with ignore := ignore }, package⟩

def subject (w : Workspace) (tree : Tree) : Subject := ⟨tree.view, w.root, w.package, w.settings.scan⟩

def tools (w : Workspace) : Tools :=
  .steady (locateBy w.git.run w.settings.tools.gem) w.git.run

def survey (w : Workspace) (tree : Tree) : Survey.Outcome :=
  Survey.run (w.subject tree) w.tools w.settings.tools.which w.git.tracked

def sources (w : Workspace) (tree : Tree) : Except Fault (List Selected) :=
  (Survey.listing w.git.tracked).map (w.subject tree).select

end Workspace
end GemSurvey
