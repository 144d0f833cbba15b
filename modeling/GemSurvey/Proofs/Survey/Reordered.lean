import GemSurvey.Proofs.Survey.Shipped

/-! The order in which the tracked files are listed, and how often each is, has no influence on
what a survey finds. Where the tools always answer alike, the references alone decide on the
ledger, on the names in each bucket and on a conflict. -/
namespace GemSurvey

namespace Subject

theorem referencesWithin (subject : Subject) {part tracked : List Path}
    (within : ∀ path ∈ part, path ∈ tracked) :
    ∀ r ∈ subject.references part, r ∈ subject.references tracked := by
  intro r there
  obtain ⟨item, emitted, same⟩ := List.mem_filterMap.mp there
  obtain ⟨file, member, emitted⟩ := List.mem_flatMap.mp emitted
  obtain ⟨path, listed, judged⟩ := Selection.memFiles.mp member
  have member' : file ∈ Selection.files (subject.select tracked) :=
    Selection.memFiles.mpr ⟨path, within path listed, judged⟩
  exact List.mem_filterMap.mpr ⟨item, List.mem_flatMap.mpr ⟨file, member', emitted⟩, same⟩

end Subject

/-- Two reports that differ at the most in the order of names and declarations, in their
diagnostics and in the number of files. -/
structure SameFindings (a b : Report) : Prop where
  versions : a.versions = b.versions
  gems : ∀ role name,
    name ∈ (a.buckets.gems.forRole role).names ↔ name ∈ (b.buckets.gems.forRole role).names
  libraries : ∀ role name, name ∈ (a.buckets.libraries.forRole role).names ↔
    name ∈ (b.buckets.libraries.forRole role).names
  commands : ∀ role name,
    name ∈ (a.buckets.commands.forRole role).names ↔ name ∈ (b.buckets.commands.forRole role).names
  declarations : a.declarations.Perm b.declarations

inductive SameCourse : Except Fault Report → Except Fault Report → Prop where
  | failed (a b : Fault) : SameCourse (.error a) (.error b)
  | reported {a b : Report} (same : SameFindings a b) : SameCourse (.ok a) (.ok b)

namespace Plain

theorem sameBuckets (locate : Text → Except IoFault Text)
    (run : Text → List Text → Except IoFault Output) (which package : Text)
    {rs rs' : List Reference} (same : ∀ r, r ∈ rs ↔ r ∈ rs') (role : Role) (name : Text) :
    (name ∈ ((buckets locate run which package rs).gems.forRole role).names ↔
      name ∈ ((buckets locate run which package rs').gems.forRole role).names) ∧
    (name ∈ ((buckets locate run which package rs).libraries.forRole role).names ↔
      name ∈ ((buckets locate run which package rs').libraries.forRole role).names) ∧
    (name ∈ ((buckets locate run which package rs).commands.forRole role).names ↔
      name ∈ ((buckets locate run which package rs').commands.forRole role).names) := by
  refine ⟨?_, ?_, ?_⟩
  · simp only [memGems, same]
  · simp only [memLibraries, same]
  · simp only [memCommands, same]

variable {locate : Text → Except IoFault Text} {run : Text → List Text → Except IoFault Output}
  {which package : Text} {seeded : Option Text} {subject : Subject} {tracked other : List Path}

theorem sameLedger {as as' : List Answered} {s s' : Session}
    (h : Survey.Accounts package (.steady locate run) which seeded as s)
    (h' : Survey.Accounts package (.steady locate run) which seeded as' s')
    (same : ∀ r, r ∈ as.map Answered.reference ↔ r ∈ as'.map Answered.reference) :
    s.versions = s'.versions :=
  Ledger.eqOfMem fun _ => ⟨recordsGrow h h' fun r => (same r).mp,
    recordsGrow h' h fun r => (same r).mpr⟩

theorem sameFindings {report report' : Report}
    (same : ∀ r, r ∈ subject.references tracked ↔ r ∈ subject.references other)
    (ok : (Survey.run subject (.steady locate run) which (.ok tracked)).result = .ok report)
    (ok' : (Survey.run subject (.steady locate run) which (.ok other)).result = .ok report') :
    SameFindings report report' := by
  have found := sameBuckets locate run which subject.package same
  rw [← reportedBuckets ok, ← reportedBuckets ok'] at found
  obtain ⟨s, rfl, accounts, references⟩ := Survey.reported ok
  obtain ⟨s', rfl, accounts', references'⟩ := Survey.reported ok'
  have versions : s.session.versions = s'.session.versions := by
    refine sameLedger accounts.session accounts'.session ?_
    rw [references, references']
    exact same
  have once := Survey.nodupKeys s.buckets s'.session.versions _ accounts.buckets
  have once' := Survey.nodupKeys s'.buckets s'.session.versions _ accounts'.buckets
  simp only [Survey.summarise] at found ⊢
  exact {
    versions := congrArg Ledger.records versions
    gems := fun role name => (found role name).1
    libraries := fun role name => (found role name).2.1
    commands := fun role name => (found role name).2.2
    declarations := by
      rw [versions]
      exact Declaration.permOfBuckets once once' (fun role name => (found role name).1)
        fun role name => (found role name).2.2 }

theorem surveyReordered (same : ∀ path, path ∈ tracked ↔ path ∈ other) :
    SameCourse (Survey.run subject (.steady locate run) which (.ok tracked)).result
      (Survey.run subject (.steady locate run) which (.ok other)).result := by
  have within := Subject.referencesWithin subject fun path => (same path).mp
  have within' := Subject.referencesWithin subject fun path => (same path).mpr
  cases result : (Survey.run subject (.steady locate run) which (.ok tracked)).result with
  | ok report => cases result' : (Survey.run subject (.steady locate run) which
      (.ok other)).result with
    | ok report' => exact .reported (sameFindings (fun r => ⟨within r, within' r⟩) result result')
    | error fault' =>
      obtain ⟨_, success⟩ := succeedsWithin within' result
      exact absurd (result'.symm.trans success) (by simp)
  | error fault => cases result' : (Survey.run subject (.steady locate run) which
      (.ok other)).result with
    | ok report' =>
      obtain ⟨_, success⟩ := succeedsWithin within result'
      exact absurd (result.symm.trans success) (by simp)
    | error fault' => exact .failed fault fault'

theorem sampleReordered :
    (∀ path, path ∈ Sample.tracked ↔
      path ∈ (["lib/own.rb", "test/helper.rb", "lib/own.rb", "lib/gone.rb"] : List Path)) ∧
    SameCourse (.ok Sample.report) (Survey.run Sample.subject
      (.steady (Sample.locate "7.2") Sample.ask) "which"
      (.ok ["lib/own.rb", "test/helper.rb", "lib/own.rb", "lib/gone.rb"])).result := by
  have same : ∀ path, path ∈ Sample.tracked ↔
      path ∈ (["lib/own.rb", "test/helper.rb", "lib/own.rb", "lib/gone.rb"] : List Path) := by
    intro path
    simp only [Sample.tracked, List.mem_cons, List.not_mem_nil, or_false]
    tauto
  exact ⟨same, Sample.reported ▸ surveyReordered same⟩

end Plain
end GemSurvey
