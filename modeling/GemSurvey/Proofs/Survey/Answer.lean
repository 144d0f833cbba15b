import GemSurvey.Proofs.Bucket
import GemSurvey.Proofs.Resolution.Library
import GemSurvey.Proofs.Resolution.Requirement
import GemSurvey.Survey

/-! The answers that a survey gives to its references, in the order of the references. The
ledger, both memories and the buckets hold what was answered and nothing else, however the
tools answer. -/
namespace GemSurvey

inductive Answer where
  | own
  | library (found : Library)
  | requirement (found : Requirement)
  deriving DecidableEq, Repr

structure Answered where
  reference : Reference
  answer : Answer
  deriving DecidableEq, Repr

namespace Answered

def gem? (a : Answered) : Option (Role × Text) :=
  match a.answer with
  | .library (.gem name _) => some (a.reference.role, name)
  | _ => none

def builtin? (a : Answered) : Option (Role × Text) :=
  match a.answer with
  | .library (.builtin name) => some (a.reference.role, name)
  | _ => none

def label? (a : Answered) : Option (Role × Text) :=
  match a.answer with
  | .requirement found => some (a.reference.role, found.label)
  | _ => none

def record? (a : Answered) : Option Record :=
  match a.answer with
  | .own => none
  | .library found => some found.toRecord
  | .requirement found =>
      if a.reference.name = Requirement.fallback then none
      else some (Requirement.probed a.reference.name
        (if found.label = a.reference.name then found.version else none))

end Answered

def Buckets.ofAnswers (as : List Answered) : Buckets where
  gems := .ofNamed (as.filterMap Answered.gem?)
  libraries := .ofNamed (as.filterMap Answered.builtin?)
  commands := .ofNamed (as.filterMap Answered.label?)

def Emitted.reference? : Emitted → Option Reference
  | .reference r => some r
  | .problem _ => none

namespace Survey
open Requirement (fallback fallbackRecord settle versionAt? commandKey)

section
variable (package : Text) (tools : Tools) (which : Text)

def answer (r : Reference) (s : Session) : Except Conflict Answer :=
  match r.kind with
  | .library => (Library.resolve package tools r.name s).1.map (·.elim .own .library)
  | .command => (Requirement.resolve tools which r.name s).1.map .requirement

def answers : List Emitted → State → List Answered
  | [], _ => []
  | .problem d :: rest, s => answers rest { s with session := s.session.report d }
  | .reference r :: rest, s => match answer package tools which r s.session with
      | .ok a => ⟨r, a⟩ :: answers rest (takeReference package tools which r s).2
      | .error _ => []

inductive Justified (seeded : Option Text) : Answered → Prop where
  | own {r} (kind : r.kind = .library) (self : Library.isSelf package r.name = true) :
      Justified seeded ⟨r, .own⟩
  | library {r} (past) (kind : r.kind = .library) (other : Library.isSelf package r.name = false) :
      Justified seeded ⟨r, .library (Library.foundAt tools past r.name)⟩
  | fallback {r} (kind : r.kind = .command) (named : r.name = fallback) :
      Justified seeded ⟨r, .requirement ⟨fallback, seeded⟩⟩
  | command {r} (past) (kind : r.kind = .command) (other : r.name ≠ fallback) :
      Justified seeded
        ⟨r, .requirement (settle seeded r.name (versionAt? tools which r.name past))⟩

structure Accounts (seeded : Option Text) (as : List Answered) (s : Session) : Prop where
  records : ∀ x, x ∈ s.versions.records ↔
    x = fallbackRecord seeded ∨ ∃ a ∈ as, a.record? = some x
  justified : ∀ a ∈ as, Justified package tools which seeded a
  libraries : ∀ name found, s.libraries.lookup name = some found →
    ∃ r, ⟨r, .library found⟩ ∈ as ∧ r.name = name
  requirements : ∀ command found, s.requirements.lookup command = some found →
    ∃ r, ⟨r, .requirement found⟩ ∈ as ∧ r.name = command

structure Accounted (seeded : Option Text) (as : List Answered) (s : State) : Prop where
  session : Accounts package tools which seeded as s.session
  buckets : s.buckets = .ofAnswers as

end

section
variable {package : Text} {tools : Tools} {which : Text} {seeded : Option Text}
  {as : List Answered} {new : Answered} {s next : Session}

theorem recordOfCommand {r : Reference} {version} (other : r.name ≠ fallback) :
    Answered.record? ⟨r, .requirement (settle seeded r.name version)⟩ =
      some (Requirement.probed r.name version) := by
  simp only [Answered.record?, other, if_false]
  rw [Requirement.settleVersion other]

theorem settleFallback : settle seeded fallback seeded = ⟨fallback, seeded⟩ := by
  cases seeded <;> rfl

theorem sameRecord {found other : Library} (key : other.toRecord.key = found.toRecord.key)
    (version : other.toRecord.version = found.toRecord.version) :
    other.toRecord = found.toRecord := by
  cases found <;> cases other <;> simp_all [Library.toRecord]

theorem otherVersion {found other : Library} (key : other.toRecord.key = found.toRecord.key)
    (different : other.toRecord.version ≠ found.toRecord.version) :
    ∃ gem first second, first ≠ second ∧ other = .gem gem first ∧ found = .gem gem second := by
  cases found <;> cases other <;> simp_all [Library.toRecord]

theorem notCommand (found : Library) : found.toRecord.key.kind ≠ .command := by
  cases found <;> simp [Library.toRecord]

namespace Accounts

theorem fallbackVersion (h : Accounts package tools which seeded as s) :
    s.versions.version? (commandKey fallback) = seeded :=
  Ledger.versionOfMem (r := fallbackRecord seeded) ((h.records _).mpr (.inl rfl))

inductive Stems (package : Text) (tools : Tools) (which : Text) (seeded : Option Text)
    (as : List Answered) : Record → Prop where
  | seed : Stems package tools which seeded as (fallbackRecord seeded)
  | library {r past} (there : ⟨r, .library (Library.foundAt tools past r.name)⟩ ∈ as)
      (kind : r.kind = .library) (other : Library.isSelf package r.name = false) :
      Stems package tools which seeded as (Library.foundAt tools past r.name).toRecord
  | command {r past}
      (there : ⟨r, .requirement (settle seeded r.name (versionAt? tools which r.name past))⟩ ∈ as)
      (kind : r.kind = .command) (other : r.name ≠ fallback) :
      Stems package tools which seeded as
        (Requirement.probed r.name (versionAt? tools which r.name past))

theorem stems (h : Accounts package tools which seeded as s) {record}
    (member : record ∈ s.versions.records) : Stems package tools which seeded as record := by
  rcases (h.records record).mp member with rfl | ⟨a, there, left⟩
  · exact .seed
  · cases h.justified a there with
    | own => simp [Answered.record?] at left
    | library past kind other =>
      cases Option.some.inj left
      exact .library there kind other
    | fallback _ named => simp [Answered.record?, named] at left
    | command past kind other =>
      rw [recordOfCommand other] at left
      cases Option.some.inj left
      exact .command there kind other

theorem commandRecord (h : Accounts package tools which seeded as s) {record command}
    (member : record ∈ s.versions.records) (key : record.key = commandKey command) :
    (command = fallback ∧ record = fallbackRecord seeded) ∨
    (command ≠ fallback ∧
      ∃ past, record = Requirement.probed command (versionAt? tools which command past)) := by
  cases h.stems member with
  | seed =>
    have same : fallback = command := (Key.mk.inj key).2
    exact .inl ⟨same.symm, rfl⟩
  | library _ _ _ => exact absurd (congrArg Key.kind key) (notCommand _)
  | @command r past _ _ other =>
    have same : r.name = command := (Key.mk.inj key).2
    exact .inr ⟨same ▸ other, past, by rw [same]⟩

theorem libraryRecord (h : Accounts package tools which seeded as s) {record}
    (member : record ∈ s.versions.records) (kind : record.key.kind ≠ .command) :
    ∃ r past, ⟨r, .library (Library.foundAt tools past r.name)⟩ ∈ as ∧ r.kind = .library ∧
      Library.isSelf package r.name = false ∧
      record = (Library.foundAt tools past r.name).toRecord := by
  cases h.stems member with
  | seed => exact absurd rfl kind
  | @library r past there required other => exact ⟨r, past, there, required, other, rfl⟩
  | command _ _ _ => exact absurd rfl kind

theorem recordLibrary (h : Accounts package tools which seeded as s) {found : Library} {versions}
    (kept : s.versions.record found.toRecord = .ok versions) (x : Record) :
    x ∈ versions.records ↔ x ∈ s.versions.records ∨ some found.toRecord = some x := by
  have course := Ledger.recorded s.versions found.toRecord
  rw [kept] at course
  cases course with
  | held there same =>
    obtain ⟨member, key⟩ := Ledger.getIff.mp there
    obtain ⟨_, _, _, _, _, rfl⟩ := h.libraryRecord member (key ▸ notCommand found)
    constructor
    · exact .inl
    · rintro (before | new)
      · exact before
      · exact Option.some.inj new ▸ sameRecord key same ▸ member
  | added _ records =>
    rw [records, Option.some.injEq, eq_comm (a := found.toRecord)]
    exact or_comm

theorem extend (h : Accounts package tools which seeded as s)
    (fair : Justified package tools which seeded new)
    (records : ∀ x, x ∈ next.versions.records ↔ x ∈ s.versions.records ∨ new.record? = some x)
    (libraries : ∀ name found, next.libraries.lookup name = some found →
      s.libraries.lookup name = some found ∨
        new.reference.name = name ∧ new.answer = .library found)
    (requirements : ∀ command found, next.requirements.lookup command = some found →
      s.requirements.lookup command = some found ∨
        new.reference.name = command ∧ new.answer = .requirement found) :
    Accounts package tools which seeded (as ++ [new]) next where
  records x := by
    rw [records, h.records]
    simp only [List.mem_append, List.mem_singleton, or_and_right, exists_or, exists_eq_left]
    exact or_assoc
  justified a member := by
    rcases List.mem_append.mp member with before | last
    · exact h.justified a before
    · exact List.mem_singleton.mp last ▸ fair
  libraries name found memo := by
    rcases libraries name found memo with before | last
    · obtain ⟨r, member, same⟩ := h.libraries name found before
      exact ⟨r, List.mem_append_left _ member, same⟩
    · exact ⟨new.reference, by simp [← last.2], last.1⟩
  requirements command found memo := by
    rcases requirements command found memo with before | last
    · obtain ⟨r, member, same⟩ := h.requirements command found before
      exact ⟨r, List.mem_append_left _ member, same⟩
    · exact ⟨new.reference, by simp [← last.2], last.1⟩

end Accounts
end
end Survey
end GemSurvey
