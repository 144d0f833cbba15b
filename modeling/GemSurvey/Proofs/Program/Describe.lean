import GemSurvey.Program
import GemSurvey.Proofs.Path.Name
import GemSurvey.Proofs.Tree
import Mathlib.Data.List.Basic

/-! A run that describes the gem writes all or nothing. Whatever it rests on is settled before
the one file is written, and what it refuses to describe is what a check of the project reports. -/
namespace GemSurvey

namespace Gemspec

variable {p : Project} {files : List Path} {declarations : List Declaration}

end Gemspec

namespace Workspace

def description (w : Workspace) : Path := w.root.join ⟨w.package ++ ".gemspec"⟩

theorem placeLoaded {w : Workspace} {tree : Tree} {today : Text} {project : Project}
    (loaded : Project.load w tree today = .ok project) :
    Gemspec.place w.root project = w.description := by
  obtain ⟨version, _, loaded⟩ := boundOk.mp loaded
  obtain ⟨gems, _, loaded⟩ := boundOk.mp loaded
  obtain ⟨packaged, _, loaded⟩ := boundOk.mp loaded
  cases Except.ok.inj loaded
  rfl

end Workspace

namespace Program

def content (tree : Tree) (today : Text) (w : Workspace) : Except Fault Text := do
  let project ← Project.load w tree today
  let report ← (w.survey tree).result
  let files ← w.git.tracked
  Gemspec.render project files report.declarations

def finish (tree : Tree) (path : Path) (print : Bool) (entries : List Log.Entry) (said text : Text) :
    Effect :=
  if print then { result := .ok (), stdout := text, entries := entries, tree := tree }
  else match tree.write path (Text.encode text) with
    | .ok changed => { result := .ok (), stdout := said, entries := entries, tree := changed }
    | .error cause => failed tree entries (.ofIo ("Failed to write " ++ path.text) cause)

theorem describeContent (tree : Tree) (today : Text) (w : Workspace) (print : Bool) :
    ∃ entries said, describe tree today w print =
      match content tree today w with
      | .error fault => failed tree entries fault
      | .ok text => finish tree w.description print entries said text := by
  unfold describe
  simp only [content, bind, Except.bind]
  cases loaded : Project.load w tree today with
  | error fault => exact ⟨readmeEntries tree w, [], rfl⟩
  | ok project =>
    generalize readmeEntries tree w ++ Log.ofSurvey (w.survey tree) = entries
    cases surveyed : (w.survey tree).result with
    | error fault => exact ⟨entries, [], rfl⟩
    | ok report =>
      cases tracked : w.git.tracked with
      | error fault => exact ⟨entries, [], rfl⟩
      | ok files =>
        refine ⟨entries, written w.root w.description report, ?_⟩
        dsimp only
        cases Gemspec.render project files report.declarations with
        | error fault => rfl
        | ok text =>
          simp only [finish, Gemspec.write, Workspace.placeLoaded loaded]
          cases tree.write w.description (Text.encode text) <;> rfl

section
variable (world : World) (verbosity : Nat) (directory : Option Text)

def opened : Except Fault Workspace :=
  Workspace.openAt world ((directory.map Path.mk).getD world.currentPath)

def described (print : Bool) : Result := invoke world ⟨.gemspec, print, verbosity, directory⟩

def checked : Result := invoke world ⟨.info, true, verbosity, directory⟩

end

section
variable {world : World} {verbosity : Nat} {directory : Option Text} {w : Workspace}

theorem invokeCode (world : World) (i : CommandLine.Invocation) :
    (invoke world i).code = codeOf (invoke world i).fault := by
  simp only [invoke]
  split <;> rfl

theorem invokeOpened {i : CommandLine.Invocation} (found : opened world i.directory = .ok w) :
    (invoke world i).fault = faultOf? (perform world.tree world.today w i).result ∧
    (invoke world i).stdout = (perform world.tree world.today w i).stdout ∧
    (invoke world i).tree = (perform world.tree world.today w i).tree := by
  unfold opened at found
  simp only [invoke]
  rw [found]
  exact ⟨rfl, rfl, rfl⟩

theorem invokeUnopened {i : CommandLine.Invocation} {fault : Fault}
    (unfound : opened world i.directory = .error fault) :
    (invoke world i).fault = some fault ∧ (invoke world i).stdout = [] ∧
    (invoke world i).tree = world.tree := by
  unfold opened at unfound
  simp only [invoke]
  rw [unfound]
  exact ⟨rfl, rfl, rfl⟩

end

end Program

theorem okMapped {ε α β : Type} {answer : Except ε α} {f : α → β} {b : β}
    (mapped : answer.map f = .ok b) : ∃ a, answer = .ok a ∧ f a = b := by
  cases answer with
  | error fault => nomatch mapped
  | ok a => exact ⟨a, rfl, Except.ok.inj mapped⟩

/- A project that is complete, and whose settings name the gem. -/
namespace Sample

def file (content : String) : Node := .file (Text.encode content.toList) false

def projectTree (name : String) : Tree where
  nodes := [
    (["w"], .directory), (["out"], .directory), (["w", "lib"], .directory),
    (["w", "README.md"], file "# own\n\n## DESCRIPTION:\n\nKeeps things tidy.\n\n## INSTALL:\n"),
    (["w", "gemsmith.toml"], file ("[package]\nname = \"" ++ name ++ "\"\n")),
    (["w", "lib", "own.rb"], file "VERSION = '1.2.3'\n")]
  current := ["w"]

def gitTells : List (Text × String) := [
  ("--show-toplevel", "/w\n"), ("ls-files", "README.md\nlib/own.rb\n"),
  ("user.name", "Ada Lovelace\n"), ("user.email", "ada@example.com\n")]

def projectWorld (name : String) : World where
  tree := projectTree name
  ask program arguments :=
    if program = ("git" : Text) then
      .ok ⟨Text.encode ((arguments.getLast?.bind fun asked =>
        gitTells.lookup asked).getD "").toList, [], true⟩
    else .error .notFound
  logFilter := "off"
  today := "2026-01-02"

def worldWhere (asked : String) (answer : Except IoFault Printed) : World :=
  { projectWorld "own" with
    ask := fun program arguments =>
      if program = ("git" : Text) ∧ arguments.getLast? = some asked.toList then answer
      else (projectWorld "own").ask program arguments }

end Sample

namespace Program

end Program
end GemSurvey
