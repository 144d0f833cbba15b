import GemSurvey.Proofs.Survey.Plain

/-! The versions of a report, in the order of their keys. There is one for the fallback, one for
each gem and each library that a reference came to and one for each command, however the tools
answer, and of each kind it is plain where its version is from. -/
namespace GemSurvey.Survey
open Requirement (fallback fallbackRecord commandKey)
open Plain (IsImport)

inductive Consistent (configured : Text) : Record → Prop where
  | gem {name version} : Consistent configured ⟨⟨.gem, name⟩, some version, .packageManager⟩
  | library {name} : Consistent configured ⟨⟨.library, name⟩, none, .notFound⟩
  | command {name version} (other : name ≠ fallback) :
      Consistent configured ⟨commandKey name, some version, .commandProbe⟩
  | unknown {name} (other : name ≠ fallback) :
      Consistent configured ⟨commandKey name, none, .notFound⟩
  | configured (given : configured ≠ []) :
      Consistent configured ⟨commandKey fallback, some configured, .configured⟩
  | blank (missing : configured = []) :
      Consistent configured ⟨commandKey fallback, none, .notFound⟩

structure Holds (package configured : Text) (rs : List Reference) (as : List Answered)
    (versions : List Record) : Prop where
  ordered : versions.Pairwise fun a b => a.key < b.key
  gems : ∀ name, ⟨.gem, name⟩ ∈ versions.map Record.key ↔
    ∃ r ∈ rs, IsImport package r ∧ ∃ version, ⟨r, .library (.gem name version)⟩ ∈ as
  libraries : ∀ name, ⟨.library, name⟩ ∈ versions.map Record.key ↔
    ∃ r ∈ rs, IsImport package r ∧ r.name = name ∧ ⟨r, .library (.builtin name)⟩ ∈ as
  commands : ∀ name, ⟨.command, name⟩ ∈ versions.map Record.key ↔
    name = fallback ∨ ∃ r ∈ rs, r.kind = .command ∧ r.name = name
  consistent : ∀ record ∈ versions, Consistent configured record

section
variable {package : Text} {tools : Tools} {which : Text} {seeded : Option Text}
  {as : List Answered} {s : Session}

theorem Justified.import {r : Reference} {found : Library}
    (h : Justified package tools which seeded ⟨r, .library found⟩) :
    IsImport package r ∧ ∃ past, found = Library.foundAt tools past r.name := by
  cases h with
  | library past kind other => exact ⟨⟨kind, other⟩, past, rfl⟩

theorem Justified.answers {a : Answered} (h : Justified package tools which seeded a)
    (kind : a.reference.kind = .command) : ∃ found, a.answer = .requirement found := by
  cases h with
  | own library => exact absurd (library.symm.trans kind) (by decide)
  | library _ library => exact absurd (library.symm.trans kind) (by decide)
  | fallback => exact ⟨_, rfl⟩
  | command => exact ⟨_, rfl⟩

theorem probedConsistent {configured command : Text} (other : command ≠ fallback) (version) :
    Consistent configured (Requirement.probed command version) := by
  cases version with
  | none => exact .unknown other
  | some version => exact .command other

theorem libraryConsistent {configured : Text} (found : Library) :
    Consistent configured found.toRecord := by
  cases found with
  | gem name version => exact .gem
  | builtin name => exact .library

theorem fallbackConsistent (scan : ScanSettings) :
    Consistent (Text.trim scan.systemRequirement) (fallbackRecord scan.requirement?) := by
  simp only [ScanSettings.requirement?]
  split
  · rename_i blank
    exact .blank (List.isEmpty_iff.mp blank)
  · rename_i given
    exact .configured fun blank => given (List.isEmpty_iff.mpr blank)

namespace Accounts

theorem keyOfGem (h : Accounts package tools which seeded as s) {name : Text} :
    ⟨.gem, name⟩ ∈ s.versions.records.map Record.key ↔
      ∃ r version, ⟨r, .library (.gem name version)⟩ ∈ as := by
  rw [List.mem_map]
  constructor
  · rintro ⟨record, member, key⟩
    obtain ⟨r, past, there, _, _, rfl⟩ := h.libraryRecord member (by simp [key])
    cases found : Library.foundAt tools past r.name with
    | gem gem version =>
      rw [found] at there key
      cases key
      exact ⟨r, version, there⟩
    | builtin library =>
      rw [found] at key
      cases key
  · rintro ⟨r, version, there⟩
    exact ⟨_, (h.records _).mpr (.inr ⟨_, there, rfl⟩), rfl⟩

theorem keyOfLibrary (h : Accounts package tools which seeded as s) {name : Text} :
    ⟨.library, name⟩ ∈ s.versions.records.map Record.key ↔
      ∃ r, r.name = name ∧ ⟨r, .library (.builtin name)⟩ ∈ as := by
  rw [List.mem_map]
  constructor
  · rintro ⟨record, member, key⟩
    obtain ⟨r, past, there, _, _, rfl⟩ := h.libraryRecord member (by simp [key])
    have course : Library.foundAt tools past r.name = .builtin r.name ∨
        ∃ gem version, Library.foundAt tools past r.name = .gem gem version := by
      unfold Library.foundAt Library.ofLocated
      split <;> simp
    rcases course with found | ⟨gem, version, found⟩
    · rw [found] at there key
      cases key
      exact ⟨r, rfl, there⟩
    · rw [found] at key
      cases key
  · rintro ⟨r, rfl, there⟩
    exact ⟨_, (h.records _).mpr (.inr ⟨_, there, rfl⟩), rfl⟩

theorem keyOfCommand (h : Accounts package tools which seeded as s) {name : Text} :
    ⟨.command, name⟩ ∈ s.versions.records.map Record.key ↔
      name = fallback ∨ ∃ r ∈ as.map Answered.reference, r.kind = .command ∧ r.name = name := by
  rw [List.mem_map]
  constructor
  · rintro ⟨record, member, key⟩
    cases h.stems member with
    | seed => exact .inl (Key.mk.inj key).2.symm
    | library _ _ _ => exact absurd (congrArg Key.kind key) (notCommand _)
    | command there kind other =>
      exact .inr ⟨_, List.mem_map.mpr ⟨_, there, rfl⟩, kind, (Key.mk.inj key).2⟩
  · rintro (rfl | ⟨r, member, kind, rfl⟩)
    · exact ⟨fallbackRecord seeded, (h.records _).mpr (.inl rfl), rfl⟩
    · obtain ⟨a, there, rfl⟩ := List.mem_map.mp member
      by_cases named : a.reference.name = fallback
      · exact ⟨fallbackRecord seeded, (h.records _).mpr (.inl rfl), by rw [named]; rfl⟩
      · obtain ⟨found, answer⟩ := (h.justified a there).answers kind
        have left : a.record? = some (Requirement.probed a.reference.name
            (if found.label = a.reference.name then found.version else none)) := by
          simp only [Answered.record?, answer, named, if_false]
        exact ⟨_, (h.records _).mpr (.inr ⟨a, there, left⟩), rfl⟩

end Accounts

theorem Accounted.holds {subject : Subject} {s : State}
    (h : Accounted subject.package tools which subject.scan.requirement? as s) :
    Holds subject.package (Text.trim subject.scan.systemRequirement)
      (as.map Answered.reference) as s.session.versions.records where
  ordered := s.session.versions.ordered
  gems name := by
    rw [h.session.keyOfGem]
    constructor
    · rintro ⟨r, version, there⟩
      have fair := (h.session.justified _ there).import
      exact ⟨r, List.mem_map.mpr ⟨_, there, rfl⟩, fair.1, version, there⟩
    · rintro ⟨r, _, _, version, there⟩
      exact ⟨r, version, there⟩
  libraries name := by
    rw [h.session.keyOfLibrary]
    constructor
    · rintro ⟨r, named, there⟩
      have fair := (h.session.justified _ there).import
      exact ⟨r, List.mem_map.mpr ⟨_, there, rfl⟩, fair.1, named, there⟩
    · rintro ⟨r, _, _, named, there⟩
      exact ⟨r, named, there⟩
  commands _ := h.session.keyOfCommand
  consistent record member := by
    cases h.session.stems member with
    | seed => exact fallbackConsistent subject.scan
    | library _ _ _ => exact libraryConsistent _
    | command _ _ other => exact probedConsistent other _

theorem surveyHolds {subject : Subject} {tracked : List Path} {report : Report}
    (ok : (run subject tools which (.ok tracked)).result = .ok report) :
    (subject.answers tools which tracked).map Answered.reference = subject.references tracked ∧
    (∀ a ∈ subject.answers tools which tracked,
      Justified subject.package tools which subject.scan.requirement? a) ∧
    Holds subject.package (Text.trim subject.scan.systemRequirement) (subject.references tracked)
      (subject.answers tools which tracked) report.versions := by
  obtain ⟨final, rfl, accounts, references⟩ := reported ok
  exact ⟨references, accounts.session.justified, references ▸ accounts.holds⟩

theorem sampleHolds :
    (run Sample.subject (.steady (Sample.locate "7.2") Sample.ask) "which"
      (.ok Sample.tracked)).result = .ok Sample.report ∧
    Holds "own" "linux/bash" (Sample.subject.references Sample.tracked)
      (Sample.subject.answers (.steady (Sample.locate "7.2") Sample.ask) "which" Sample.tracked)
      Sample.report.versions := by
  have blankless : Text.trim Sample.subject.scan.systemRequirement = "linux/bash" := by
    decide +kernel
  have holds := (surveyHolds Sample.reported).2.2
  rw [blankless] at holds
  exact ⟨Sample.reported, holds⟩

end
end GemSurvey.Survey
