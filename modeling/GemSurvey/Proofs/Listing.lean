import GemSurvey.Proofs.Survey.Declared
import GemSurvey.Report.Encoding

/-! The plain listing beside the declarations. The declarations tell the version of each gem and
each command that a section of the listing names, so that these and the buckets settle its text. -/
namespace GemSurvey

namespace Declaration

def version : Declaration → Text
  | dependency _ _ _ minimum => minimum
  | requirement _ version _ => version.getD []

def versionOf (declarations : List Declaration) (key : Key) : Text :=
  ((declarations.find? fun d => d.key = key).map version).getD []

theorem versionHeld {buckets : Buckets} {versions : Ledger} {d : Declaration}
    (there : d ∈ ofBuckets buckets versions) : d.version = (versions.version? d.key).getD [] := by
  cases d with
  | dependency development name compatible minimum =>
    obtain ⟨_, same⟩ := memDependency.mp there
    simp only [ofGem, dependency.injEq] at same
    exact same.2.2.2.symm
  | requirement name version development =>
    obtain ⟨_, same⟩ := memRequirement.mp there
    exact congrArg (Option.getD · []) same.symm

theorem versionOfDeclared {buckets : Buckets} {versions : Ledger} {d : Declaration}
    (there : d ∈ ofBuckets buckets versions) :
    versionOf (ofBuckets buckets versions) d.key = (versions.version? d.key).getD [] := by
  unfold versionOf
  cases found : (ofBuckets buckets versions).find? fun other => other.key = d.key with
  | none => simpa using List.find?_eq_none.mp found d there
  | some other =>
    have same : other.key = d.key := by simpa using List.find?_some found
    rw [Option.map_some, Option.getD_some, versionHeld (List.mem_of_find?_eq_some found), same]

end Declaration

theorem Needs.declaredOf {n : Needs} {role : Role} {name : Text}
    (named : name ∈ (n.forRole role).names) : ∃ development, name ∈ n.declared development := by
  by_cases runtime : name ∈ n.runtime.names
  · exact ⟨false, runtime⟩
  · cases role with
    | distributed => exact absurd named runtime
    | auxiliary => exact ⟨true, List.mem_filter.mpr ⟨named, by simpa [Bucket.contains] using runtime⟩⟩

namespace Declaration

variable {buckets : Buckets} {role : Role} {name : Text}

theorem gemDeclared (versions : Ledger) (named : name ∈ (buckets.gems.forRole role).names) :
    ∃ development compatible minimum,
      .dependency development name compatible minimum ∈ ofBuckets buckets versions := by
  obtain ⟨development, declared⟩ := Needs.declaredOf named
  exact ⟨development, _, _, memDependency.mpr ⟨declared, rfl⟩⟩

theorem commandDeclared (versions : Ledger) (named : name ∈ (buckets.commands.forRole role).names) :
    ∃ version development, .requirement name version development ∈ ofBuckets buckets versions := by
  obtain ⟨development, declared⟩ := Needs.declaredOf named
  exact ⟨_, development, memRequirement.mpr ⟨declared, rfl⟩⟩

end Declaration

namespace Listing
open Declaration (versionOf)

structure Section where
  heading : Text
  lines : List Text
  deriving DecidableEq, Repr

def written (lines : List Text) : Text := lines.flatMap fun line => line ++ "\n"

def Section.text (s : Section) : Text := written (("# " ++ s.heading) :: s.lines)

def beside (version : Key → Text) (kind : KeyKind) (bucket : Bucket) : List Text :=
  bucket.names.map fun name => name ++ ": " ++ version ⟨kind, name⟩

def together (bucket : Bucket) : List Text :=
  if bucket.names = [] then [] else [Text.join ", " bucket.names]

def sections (version : Key → Text) (b : Buckets) : List Section := [
  ⟨"runtime gems", beside version .gem b.gems.runtime⟩,
  ⟨"development gems", beside version .gem b.gems.development⟩,
  ⟨"runtime libraries", together b.libraries.runtime⟩,
  ⟨"development libraries", together b.libraries.development⟩,
  ⟨"runtime requirements", beside version .command b.commands.runtime⟩,
  ⟨"development requirements", beside version .command b.commands.development⟩]

theorem versionedLines {version : Key → Text} {versions : Ledger} {kind : KeyKind} {bucket : Bucket}
    (same : ∀ name ∈ bucket.names, version ⟨kind, name⟩ = (versions.version? ⟨kind, name⟩).getD []) :
    versioned versions kind bucket = written (beside version kind bucket) := by
  unfold versioned written beside
  rw [List.flatMap_map]
  refine List.flatMap_congr fun name named => ?_
  rw [same name named]

theorem headedLines (heading : Text) (lines : List Text) :
    headed heading (written lines) = Section.text ⟨heading, lines⟩ := by
  simp [headed, Section.text, written]

theorem joinedLines (bucket : Bucket) : joined bucket = written (together bucket) := by
  unfold joined written together
  by_cases none : bucket.names = [] <;> simp [none]

theorem renderDeclared (versions : Ledger) (b : Buckets) :
    render versions b =
      (sections (versionOf (Declaration.ofBuckets b versions)) b).flatMap Section.text := by
  have gems (role : Role) : versioned versions .gem (b.gems.forRole role) =
      written (beside (versionOf (Declaration.ofBuckets b versions)) .gem
        (b.gems.forRole role)) := by
    refine versionedLines fun name named => ?_
    obtain ⟨_, _, _, there⟩ := Declaration.gemDeclared versions named
    exact Declaration.versionOfDeclared there
  have commands (role : Role) : versioned versions .command (b.commands.forRole role) =
      written (beside (versionOf (Declaration.ofBuckets b versions)) .command
        (b.commands.forRole role)) := by
    refine versionedLines fun name named => ?_
    obtain ⟨_, _, there⟩ := Declaration.commandDeclared versions named
    exact Declaration.versionOfDeclared there
  have gemsRuntime := gems .distributed
  have gemsDevelopment := gems .auxiliary
  have commandsRuntime := commands .distributed
  have commandsDevelopment := commands .auxiliary
  simp only [Needs.forRole] at gemsRuntime gemsDevelopment commandsRuntime commandsDevelopment
  simp only [render, gemsRuntime, gemsDevelopment, commandsRuntime, commandsDevelopment,
    joinedLines, headedLines, sections, List.flatMap_cons, List.flatMap_nil, List.append_assoc,
    List.append_nil]

theorem surveyListed {subject : Subject} {tools : Tools} {which : Text} {tracked : List Path}
    {report : Report} (ok : (Survey.run subject tools which (.ok tracked)).result = .ok report) :
    ofReport report =
      .ok ((sections (versionOf report.declarations) report.buckets).flatMap Section.text) ∧
    (∀ d ∈ report.declarations, versionOf report.declarations d.key = d.version) ∧
    (∀ role, ∀ name ∈ (report.buckets.gems.forRole role).names,
      versionOf report.declarations ⟨.gem, name⟩ ≠ [] ∧
      ∃ development compatible minimum,
        .dependency development name compatible minimum ∈ report.declarations) ∧
    ∀ role, ∀ name ∈ (report.buckets.commands.forRole role).names,
      ∃ version development, .requirement name version development ∈ report.declarations := by
  obtain ⟨final, rfl, accounts, _⟩ := Survey.reported ok
  have declares := accounts.declares (subject.select tracked)
  have told {d} (there : d ∈ Declaration.ofBuckets final.buckets final.session.versions) :
      versionOf (Declaration.ofBuckets final.buckets final.session.versions) d.key = d.version :=
    (Declaration.versionOfDeclared there).trans (Declaration.versionHeld there).symm
  refine ⟨?_, fun d => told, fun role name named => ?_, fun role name named => ?_⟩
  · simp only [ofReport, Survey.summarise, Ledger.ofOwnRecords, renderDeclared]
  · obtain ⟨development, compatible, minimum, there⟩ :=
      Declaration.gemDeclared final.session.versions named
    refine ⟨?_, development, compatible, minimum, there⟩
    have version := told there
    simp only [Declaration.key, Declaration.version] at version
    rw [Survey.summarise, version]
    exact (declares.gemVersions development name compatible minimum there).2.1
  · exact Declaration.commandDeclared final.session.versions named

theorem sampleListed :
    (Survey.run Sample.subject (.steady (Sample.locate "7.2") Sample.ask) "which"
      (.ok Sample.tracked)).result = .ok Sample.report ∧
    ofReport Sample.report = .ok ((sections (versionOf Sample.report.declarations)
      Sample.report.buckets).flatMap Section.text) :=
  ⟨Sample.reported, (surveyListed Sample.reported).1⟩

example : sections (versionOf Sample.report.declarations) Sample.report.buckets = [
    ⟨"runtime gems", ["net-ssh: 7.2"]⟩,
    ⟨"development gems", ["net-ssh: 7.2", "rspec: 3.12.0"]⟩,
    ⟨"runtime libraries", ["json"]⟩,
    ⟨"development libraries", ["json"]⟩,
    ⟨"runtime requirements", ["git: git version 2.43.0", "system: linux/bash"]⟩,
    ⟨"development requirements", ["git: git version 2.43.0"]⟩] := by
  decide +kernel

end Listing
end GemSurvey
