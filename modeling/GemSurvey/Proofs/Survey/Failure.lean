import GemSurvey.Proofs.Survey.Plain

/-! When a survey fails. The listing of the tracked files can fail, and two required names can
lead to one gem in two versions; commands and all problems with single files cannot end it. -/
namespace GemSurvey.Plain

section
variable (locate : Text → Except IoFault Text) (package : Text) (rs : List Reference)

def LeadsTo (gem version : Text) : Prop :=
  ∃ r ∈ rs, IsImport package r ∧ located? locate r.name = some (gem, version)

def Disagree (gem first second : Text) : Prop :=
  first ≠ second ∧ LeadsTo locate package rs gem first ∧ LeadsTo locate package rs gem second

end

section
variable {locate : Text → Except IoFault Text}
  {run : List Call → Text → List Text → Except IoFault Output} {which package : Text}
  {seeded : Option Text} {as : List Answered} {s : Session} {past : List Call}
  {name gem version : Text}

theorem foundGem : Library.foundAt ⟨fun _ => locate, run⟩ past name = .gem gem version ↔
    located? locate name = some (gem, version) := Library.foundGem

theorem gemRecorded
    (h : Survey.Accounts package ⟨fun _ => locate, run⟩ which seeded as s) :
    s.versions.version? ⟨.gem, gem⟩ = some version ↔
      LeadsTo locate package (as.map Answered.reference) gem version := by
  rw [Ledger.versionIff]
  constructor
  · rintro ⟨provenance, member⟩
    obtain ⟨r, past, there, kind, other, same⟩ := h.libraryRecord member (by simp)
    have found : Library.foundAt ⟨fun _ => locate, run⟩ past r.name = .gem gem version := by
      cases found : Library.foundAt ⟨fun _ => locate, run⟩ past r.name <;>
        simp_all [Library.toRecord]
    exact ⟨r, List.mem_map.mpr ⟨_, there, rfl⟩, ⟨kind, other⟩, foundGem.mp found⟩
  · rintro ⟨r, member, ⟨kind, other⟩, found⟩
    obtain ⟨a, there, rfl⟩ := List.mem_map.mp member
    have left : a.record? = some ⟨⟨.gem, gem⟩, some version, .packageManager⟩ := by
      cases h.justified a there with
      | own _ self => simp [self] at other
      | library past => simp [Answered.record?, foundGem.mpr found, Library.toRecord]
      | fallback command => simp [command] at kind
      | command _ command => simp [command] at kind
    exact ⟨.packageManager, (h.records _).mpr (.inr ⟨a, there, left⟩)⟩

theorem refusedGem
    (h : Survey.Accounts package ⟨fun _ => locate, run⟩ which seeded as s) {conflict}
    (refused : s.versions.record (Library.foundAt ⟨fun _ => locate, run⟩ past name).toRecord =
      .error conflict) :
    ∃ gem first second, first ≠ second ∧ conflict = ⟨⟨.gem, gem⟩, some first, some second⟩ ∧
      s.versions.version? ⟨.gem, gem⟩ = some first ∧ located? locate name = some (gem, second) := by
  have course := Ledger.recorded s.versions
    (Library.foundAt ⟨fun _ => locate, run⟩ past name).toRecord
  rw [refused] at course
  cases course with
  | @clash old there different =>
    obtain ⟨member, key⟩ := Ledger.getIff.mp there
    obtain ⟨r, before, _, _, _, rfl⟩ := h.libraryRecord member (key ▸ Survey.notCommand _)
    obtain ⟨gem, first, second, apart, held, offered⟩ := Survey.otherVersion key different
    rw [held] at member different ⊢
    rw [offered]
    exact ⟨gem, first, second, apart, rfl, Ledger.versionOfMem member, foundGem.mp offered⟩

theorem Disagree.mono {rs all : List Reference} {first second : Text}
    (within : ∀ r ∈ rs, r ∈ all) (h : Disagree locate package rs gem first second) :
    Disagree locate package all gem first second := by
  obtain ⟨apart, ⟨r, there, found⟩, ⟨r', there', found'⟩⟩ := h
  exact ⟨apart, ⟨r, within r there, found⟩, ⟨r', within r' there', found'⟩⟩

variable {subject : Subject} {tracked : List Path}

theorem agreeing {report : Report}
    (ok : (Survey.run subject ⟨fun _ => locate, run⟩ which (.ok tracked)).result = .ok report) :
    ¬ ∃ gem first second,
      Disagree locate subject.package (subject.references tracked) gem first second := by
  rintro ⟨gem, first, second, apart, left, right⟩
  obtain ⟨final, _, accounts, references⟩ := Survey.reported ok
  rw [← references, ← gemRecorded accounts.session] at left right
  exact apart (Option.some.inj (left.symm.trans right))

theorem disagreeing {fault : Fault}
    (failed : (Survey.run subject ⟨fun _ => locate, run⟩ which (.ok tracked)).result =
      .error fault) :
    ∃ gem first second,
      Disagree locate subject.package (subject.references tracked) gem first second ∧
      fault = Conflict.fault ⟨⟨.gem, gem⟩, some first, some second⟩ := by
  rw [Survey.runListed] at failed
  rcases course : Survey.takeAll subject.package ⟨fun _ => locate, run⟩ which
    (subject.items tracked) subject.start with ⟨conflict | _, final⟩
  · rw [course] at failed
    obtain ⟨before, known, r, accounts, stem, member, kind, other, refused⟩ :=
      Survey.stoppedAll (Survey.startAccounted subject _ which) course
    obtain ⟨gem, first, second, apart, rfl, held, offered⟩ :=
      refusedGem accounts.session refused
    obtain ⟨r', there, import', found⟩ := (gemRecorded accounts.session).mp held
    obtain ⟨a, answered, rfl⟩ := List.mem_map.mp there
    exact ⟨gem, first, second,
      ⟨apart, ⟨a.reference, stem a (by simpa using answered), import', found⟩,
        ⟨r, member, ⟨kind, other⟩, offered⟩⟩, (Except.error.inj failed).symm⟩
  · simp [course] at failed

theorem succeedsWithin {part : List Path} {report : Report}
    (within : ∀ r ∈ subject.references part, r ∈ subject.references tracked)
    (ok : (Survey.run subject ⟨fun _ => locate, run⟩ which (.ok tracked)).result = .ok report) :
    ∃ found, (Survey.run subject ⟨fun _ => locate, run⟩ which (.ok part)).result =
      .ok found := by
  cases result : (Survey.run subject ⟨fun _ => locate, run⟩ which (.ok part)).result with
  | ok found => exact ⟨found, rfl⟩
  | error fault =>
    obtain ⟨gem, first, second, apart, _⟩ := disagreeing result
    exact absurd ⟨gem, first, second, apart.mono within⟩ (agreeing ok)

theorem surveyFails (subject : Subject) (locate : Text → Except IoFault Text)
    (run : List Call → Text → List Text → Except IoFault Output) (which : Text)
    (tracked : Except Fault (List Path)) :
    ((∃ fault, (Survey.run subject ⟨fun _ => locate, run⟩ which tracked).result = .error fault) ↔
      (∃ fault, tracked = .error fault) ∨
      ∃ paths, tracked = .ok paths ∧ ∃ gem first second,
        Disagree locate subject.package (subject.references paths) gem first second) ∧
    ∀ paths fault, tracked = .ok paths →
      (Survey.run subject ⟨fun _ => locate, run⟩ which tracked).result = .error fault →
      (∃ message, fault = .invariant message) ∧ fault.exitCode = 70 ∧
      ∃ gem first second,
        Disagree locate subject.package (subject.references paths) gem first second ∧
        fault = Conflict.fault ⟨⟨.gem, gem⟩, some first, some second⟩ := by
  constructor
  · cases tracked with
    | error cause =>
      exact ⟨fun _ => .inl ⟨cause, rfl⟩, fun _ => ⟨_, Survey.runUnlisted subject _ which cause⟩⟩
    | ok paths =>
      constructor
      · rintro ⟨fault, failed⟩
        obtain ⟨gem, first, second, apart, _⟩ := disagreeing failed
        exact .inr ⟨paths, rfl, gem, first, second, apart⟩
      · rintro (⟨_, unlisted⟩ | ⟨_, listed, apart⟩)
        · cases unlisted
        · cases listed
          cases result : (Survey.run subject ⟨fun _ => locate, run⟩ which (.ok paths)).result with
          | error fault => exact ⟨fault, rfl⟩
          | ok report => exact absurd apart (agreeing result)
  · rintro paths fault rfl failed
    obtain ⟨gem, first, second, apart, rfl⟩ := disagreeing failed
    exact ⟨⟨_, rfl⟩, rfl, gem, first, second, apart, rfl⟩

theorem sampleFails :
    (Survey.run Sample.subject ⟨fun _ => Sample.locate "7.3", fun _ => Sample.ask⟩ "which"
      (.ok Sample.tracked)).result =
        .error (Conflict.fault ⟨⟨.gem, "net-ssh"⟩, some "7.3", some "7.2"⟩) ∧
    ∃ gem first second, Disagree (Sample.locate "7.3") "own"
      (Sample.subject.references Sample.tracked) gem first second :=
  have failed : (Survey.run Sample.subject ⟨fun _ => Sample.locate "7.3", fun _ => Sample.ask⟩
      "which" (.ok Sample.tracked)).result =
      .error (Conflict.fault ⟨⟨.gem, "net-ssh"⟩, some "7.3", some "7.2"⟩) := by decide +kernel
  have ⟨_, _, gem, first, second, apart, _⟩ := (surveyFails Sample.subject (Sample.locate "7.3")
    (fun _ => Sample.ask) "which" (.ok Sample.tracked)).2 _ _ rfl failed
  ⟨failed, gem, first, second, apart⟩

end
end GemSurvey.Plain
