import GemSurvey.Proofs.Resolution.Library
import GemSurvey.Proofs.Resolution.Requirement

/-! What settles in a session stays settled. Whatever is resolved, recorded or reported after it,
each record stands, each answer stays in memory, and the calls before come first. -/
namespace GemSurvey.Session

structure Grows (s t : Session) : Prop where
  records : ∀ key held, s.versions.get? key = some held → t.versions.get? key = some held
  libraries : ∀ name found,
    s.libraries.lookup name = some found → t.libraries.lookup name = some found
  requirements : ∀ command found,
    s.requirements.lookup command = some found → t.requirements.lookup command = some found
  calls : s.calls <+: t.calls

theorem recordIff {s t : Session} {r : Record} : s.record r = .ok t ↔
    ∃ versions, s.versions.record r = .ok versions ∧ t = { s with versions := versions } := by
  unfold record
  cases s.versions.record r with
  | error conflict => simp [Except.map]
  | ok versions => simp [Except.map, eq_comm]

theorem lookupKept {β : Type} {memo : List (Text × β)} {key name : Text} {value found : β}
    (fresh : memo.lookup key = none) (there : memo.lookup name = some found) :
    ((key, value) :: memo).lookup name = some found := by
  have apart : (name == key) = false := by
    refine beq_false_of_ne fun same => ?_
    rw [same, fresh] at there
    cases there
  rw [List.lookup_cons, apart]
  exact there

namespace Grows

variable {s t u : Session}

theorem refl (s : Session) : s.Grows s :=
  ⟨fun _ _ => id, fun _ _ => id, fun _ _ => id, List.prefix_rfl⟩

theorem trans (first : s.Grows t) (second : t.Grows u) : s.Grows u where
  records key held there := second.records key held (first.records key held there)
  libraries name found there := second.libraries name found (first.libraries name found there)
  requirements command found there :=
    second.requirements command found (first.requirements command found there)
  calls := first.calls.trans second.calls

theorem holds (h : s.Grows t) {key : Key} {version : Option Text}
    (held : s.versions.Holds key version) : t.versions.Holds key version := by
  obtain ⟨record, there, same⟩ := held
  exact ⟨record, h.records key record there, same⟩

theorem report (s : Session) (problem : Diagnostic) : s.Grows (s.report problem) :=
  ⟨fun _ _ => id, fun _ _ => id, fun _ _ => id, List.prefix_rfl⟩

theorem record {r : Record} (ok : s.record r = .ok t) : s.Grows t := by
  obtain ⟨versions, kept, rfl⟩ := recordIff.mp ok
  exact ⟨fun _ _ => Ledger.recordKeeps kept, fun _ _ => id, fun _ _ => id, List.prefix_rfl⟩

theorem located (s : Session) (tools : Tools) (name : Text) :
    s.Grows (Library.located s tools name).2 where
  records key held there := by simpa using there
  libraries name found there := by simpa using there
  requirements command found there := by simpa using there
  calls := by
    rw [Library.locatedCalls]
    exact List.prefix_append _ _

theorem probe (s : Session) (tools : Tools) (which command : Text) :
    s.Grows (Requirement.probe tools which command s).2 where
  records key held there := by simpa using there
  libraries name found there := by simpa using there
  requirements command found there := by simpa using there
  calls := by
    obtain ⟨asked, same⟩ := Requirement.probeAsks tools which command s
    rw [same]
    exact List.prefix_append _ _

theorem library (package : Text) (tools : Tools) (name : Text) (s : Session) :
    s.Grows (Library.resolve package tools name s).2 := by
  have course := Library.resolved package tools name s
  rcases result : Library.resolve package tools name s with ⟨_, next⟩
  rw [result] at course
  have asked := located s tools name
  cases course with
  | own => exact refl s
  | known => exact refl s
  | clash => exact asked
  | settled _ fresh kept => exact {
      records := fun _ _ => Ledger.recordKeeps kept
      libraries := fun _ _ => lookupKept fresh
      requirements := asked.requirements
      calls := asked.calls }

theorem requirement (tools : Tools) (which command : Text) (s : Session) :
    s.Grows (Requirement.resolve tools which command s).2 := by
  have course := Requirement.resolved tools which command s
  rcases result : Requirement.resolve tools which command s with ⟨_, next⟩
  rw [result] at course
  have asked := probe s tools which command
  cases course with
  | known => exact refl s
  | held fresh => exact ⟨fun _ _ => id, fun _ _ => id, fun _ _ => lookupKept fresh, List.prefix_rfl⟩
  | probed fresh absent records same =>
    subst same
    refine ⟨fun key held there => ?_, asked.libraries, fun command found there => ?_, asked.calls⟩
    · obtain ⟨member, key⟩ := Ledger.getIff.mp there
      exact Ledger.getIff.mpr ⟨(records held).mpr (.inr member), key⟩
    · exact lookupKept (by simpa using fresh) (asked.requirements command found there)

end Grows
end GemSurvey.Session
