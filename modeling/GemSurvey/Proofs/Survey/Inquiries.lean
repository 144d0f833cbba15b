import GemSurvey.Proofs.Survey.Asking
import GemSurvey.Proofs.Survey.References
import GemSurvey.Proofs.Text.CharClass

/-! What a survey asks its tools. However they answer and wherever the survey stops, its calls are
those that its references lead to, in their order. -/
namespace GemSurvey

namespace Requirement

theorem probeVersionCalls (tools : Tools) (command : Text) (s : Session) :
    (probeVersion tools command s).2.calls = s.calls ++
      if (stdoutOf (tools.run s.calls command ["--version"])).all Text.isBlank then
        [.run command ["--version"], .run command ["-v"]]
      else [.run command ["--version"]] := by
  have blankness := Text.firstLineNone (t := stdoutOf (tools.run s.calls command ["--version"]))
  rw [← List.all_eq_true] at blankness
  cases first : Text.firstLine? (stdoutOf (tools.run s.calls command ["--version"])) with
  | none =>
    simp only [probeVersion, Session.run, first, blankness.mp first, if_true, List.append_assoc,
      List.cons_append, List.nil_append]
  | some version =>
    have shows : ¬ (stdoutOf (tools.run s.calls command ["--version"])).all Text.isBlank := by
      intro blank
      rw [blankness.mpr blank] at first
      cases first
    simp only [probeVersion, Session.run, first, shows, Bool.false_eq_true, if_false]

theorem probeCalls (tools : Tools) (which command : Text) (s : Session) :
    (probe tools which command s).2.calls = s.calls ++ inquiry tools which s.calls command := by
  by_cases present : succeeded (tools.run s.calls which [command])
  · have calls := probeVersionCalls tools command
      { s with calls := s.calls ++ [.run which [command]] }
    simp only [probe, Session.run, inquiry, present, if_true, calls, List.append_assoc]
    split <;> rfl
  · simp only [probe, Session.run, inquiry, present, Bool.false_eq_true, if_false]

end Requirement

namespace Survey
open Requirement (fallback commandKey)

structure Remembers (package : Text) (before : List Reference) (s : Session) : Prop where
  libraries : ∀ name, Library.isSelf package name = false →
    (s.libraries.lookup name = none ↔ Unmet before .library name)
  requirements : ∀ command, s.requirements.lookup command = none ↔ Unmet before .command command
  ledger : ∀ command, s.versions.get? (commandKey command) = none ↔
    command ≠ fallback ∧ Unmet before .command command

section
variable {package : Text} {tools : Tools} {which : Text} {before : List Reference}
  {r : Reference} {s : Session} {kind : ReferenceKind} {name : Text}

theorem lookupCons {β : Type} {key : Text} {value : β} {memo : List (Text × β)} :
    ((key, value) :: memo).lookup name = none ↔ memo.lookup name = none ∧ key ≠ name := by
  rw [List.lookup_cons]
  by_cases same : name = key
  · simp [same]
  · simp [beq_false_of_ne same, Ne.symm same]

theorem inquiryMet (met : ¬ Unmet before r.kind r.name) (past : List Call) :
    inquiry package tools which before past r = [] := if_neg met

namespace Remembers

theorem again (h : Remembers package before s) (met : ¬ Unmet before r.kind r.name) :
    Remembers package (before ++ [r]) s where
  libraries name other := by rw [h.libraries name other, unmetAgain met]
  requirements command := by rw [h.requirements, unmetAgain met]
  ledger command := by rw [h.ledger, unmetAgain met]

theorem library (h : Remembers package before s) (which : Text) (kind : r.kind = .library)
    {result next}
    (course : Library.resolve package tools r.name s = (result, next)) :
    next.calls = s.calls ++ inquiry package tools which before s.calls r ∧
      (result.isOk → Remembers package (before ++ [r]) next) := by
  have resolved := Library.resolved package tools r.name s
  rw [course] at resolved
  have others {command} : Unmet (before ++ [r]) .command command ↔
      Unmet before .command command := unmetOther (by simp [kind])
  cases resolved with
  | own self =>
    refine ⟨by simp [inquiry, kind, self], fun _ => ?_⟩
    refine ⟨fun name other => ?_, fun command => ?_, fun command => ?_⟩
    · have apart : r.name ≠ name := by
        rintro rfl
        simp [self] at other
      rw [h.libraries name other, unmetSnoc]
      simp [apart]
    · rw [h.requirements, others]
    · rw [h.ledger, others]
  | known other memo =>
    have met : ¬ Unmet before .library r.name := by simp [← h.libraries r.name other, memo]
    exact ⟨by simp [inquiryMet (kind ▸ met)], fun _ => h.again (kind ▸ met)⟩
  | clash other fresh =>
    have unmet := (h.libraries r.name other).mp fresh
    refine ⟨?_, by simp [Except.isOk, Except.toBool]⟩
    simp [Library.locatedCalls, inquiry, kind, unmet, other]
  | @settled versions other fresh kept =>
    have unmet := (h.libraries r.name other).mp fresh
    refine ⟨by simp [Library.locatedCalls, inquiry, kind, unmet, other], fun _ => ?_⟩
    refine ⟨fun name other' => ?_, fun command => ?_, fun command => ?_⟩
    · rw [lookupCons, h.libraries name other', unmetSnoc]
      simp [kind]
    · simpa [others] using h.requirements command
    · have recorded := Ledger.recorded s.versions (Library.foundAt tools s.calls r.name).toRecord
      rw [kept] at recorded
      rw [others, ← h.ledger]
      cases recorded with
      | held => rfl
      | added _ records =>
        rw [Ledger.getNoneAdded records]
        exact and_iff_right fun same => notCommand _ (congrArg Key.kind same)

theorem command (h : Remembers package before s) (kind : r.kind = .command) {result next}
    (course : Requirement.resolve tools which r.name s = (result, next)) :
    next.calls = s.calls ++ inquiry package tools which before s.calls r ∧
      Remembers package (before ++ [r]) next := by
  have resolved := Requirement.resolved tools which r.name s
  rw [course] at resolved
  have others {name} : Unmet (before ++ [r]) .library name ↔ Unmet before .library name :=
    unmetOther (by simp [kind])
  cases resolved with
  | known memo =>
    have met : ¬ Unmet before .command r.name := by simp [← h.requirements r.name, memo]
    exact ⟨by simp [inquiryMet (kind ▸ met)], h.again (kind ▸ met)⟩
  | held fresh there =>
    have unmet := (h.requirements r.name).mp fresh
    have named : r.name = fallback := by
      by_contra other
      rw [(h.ledger r.name).mpr ⟨other, unmet⟩] at there
      cases there
    refine ⟨by simp [inquiry, kind, named, Requirement.remember], fun name other => ?_,
      fun command => ?_, fun command => ?_⟩
    · simpa [Requirement.remember, others] using h.libraries name other
    · rw [Requirement.remember, lookupCons, h.requirements, unmetSnoc]
      simp [kind]
    · simp only [Requirement.remember, h.ledger, unmetSnoc]
      by_cases same : command = fallback
      · simp [same]
      · simp [named, Ne.symm same]
  | probed fresh absent records same =>
    obtain ⟨other, unmet⟩ := (h.ledger r.name).mp absent
    subst same
    refine ⟨?_, fun name other' => ?_, fun command => ?_, fun command => ?_⟩
    · simp [Requirement.remember, Requirement.probeCalls, inquiry, kind, unmet, other]
    · simpa [Requirement.remember, others] using h.libraries name other'
    · rw [Requirement.remember, lookupCons, Requirement.probeRequirements, h.requirements,
        unmetSnoc]
      simp [kind]
    · have keys : (Requirement.probed r.name (Requirement.versionAt? tools which r.name
          s.calls)).key ≠ commandKey command ↔ ¬ (r.kind = .command ∧ r.name = command) := by
        simp [Requirement.probed, commandKey, kind]
      simp only [Requirement.remember, Ledger.getNoneAdded records, h.ledger, unmetSnoc, keys]
      tauto

theorem report (h : Remembers package before s) (problem : Diagnostic) :
    Remembers package before (s.report problem) := ⟨h.libraries, h.requirements, h.ledger⟩

theorem reference {s : State} (h : Remembers package before s.session) (tools : Tools)
    (which : Text) (r : Reference) :
    (takeReference package tools which r s).2.session.calls =
      s.session.calls ++ inquiry package tools which before s.session.calls r ∧
    ((takeReference package tools which r s).1 = .ok () →
      Remembers package (before ++ [r]) (takeReference package tools which r s).2.session) := by
  rw [takenResult, takenSession]
  cases kind : r.kind with
  | library =>
    rcases course : Library.resolve package tools r.name s.session with ⟨result, next⟩
    obtain ⟨calls, remembers⟩ := h.library which kind course
    refine ⟨calls, fun ok => remembers ?_⟩
    cases result with
    | error conflict => simp [answer, kind, course, Except.map] at ok
    | ok found => rfl
  | command =>
    rcases course : Requirement.resolve tools which r.name s.session with ⟨result, next⟩
    obtain ⟨calls, remembers⟩ := h.command kind course
    exact ⟨calls, fun _ => remembers⟩

end Remembers

theorem inquiredAll (package : Text) (tools : Tools) (which : Text) (items : List Emitted)
    {before : List Reference} {s : State} (h : Remembers package before s.session) :
    ∃ untaken, items.filterMap Emitted.reference? =
        (answers package tools which items s).map Answered.reference ++ untaken ∧
      (untaken = [] ↔ (takeAll package tools which items s).1 = .ok ()) ∧
      (takeAll package tools which items s).2.session.calls = s.session.calls ++
        inquiriesAfter package tools which before s.session.calls
          ((answers package tools which items s).map Answered.reference ++ untaken.take 1) := by
  induction items generalizing before s with
  | nil => exact ⟨[], rfl, by simp [takeAll], by simp [takeAll, answers, inquiriesAfter]⟩
  | cons e rest ih => cases e with
    | problem d => exact ih (h.report d)
    | reference r =>
      obtain ⟨calls, remembers⟩ := h.reference tools which r
      have told := takenResult package tools which r s
      rcases course : takeReference package tools which r s with ⟨conflict | _, next⟩ <;>
        simp only [course] at told calls remembers
      · cases result : answer package tools which r s.session with
        | ok a => simp [result, Except.map] at told
        | error _ =>
          refine ⟨r :: rest.filterMap Emitted.reference?, ?_, ?_, ?_⟩
          · simp [answers, result, Emitted.reference?]
          · simp [takeAll, take, course]
          · simp [takeAll, take, course, answers, result, inquiriesAfter, calls]
      · cases result : answer package tools which r s.session with
        | error _ => simp [result, Except.map] at told
        | ok a =>
          obtain ⟨untaken, references, stops, asked⟩ := ih (remembers trivial)
          refine ⟨untaken, ?_, ?_, ?_⟩
          · simp [answers, result, course, Emitted.reference?, references]
          · simpa [takeAll, take, course] using stops
          · simp only [takeAll, take, course, answers, result, asked, calls, List.map_cons,
              List.cons_append, inquiriesAfter, List.append_assoc]

theorem unmetFirst {kind : ReferenceKind} {name : Text} : Unmet [] kind name := by
  intro r there
  cases there

theorem startRemembers (subject : Subject) (tools : Tools) (which : Text) :
    Remembers package [] subject.start.session where
  libraries _ _ := iff_of_true rfl unmetFirst
  requirements _ := iff_of_true rfl unmetFirst
  ledger command := by
    have records := (startAccounted subject tools which).session.records
    simp only [Ledger.getNone, records, List.not_mem_nil, false_and, exists_false, or_false,
      forall_eq]
    constructor
    · intro apart
      exact ⟨fun same => apart (same ▸ rfl), unmetFirst⟩
    · rintro ⟨other, _⟩ same
      exact other (Key.mk.inj same).2.symm

theorem referencesTokens (subject : Subject) (tracked : List Path) :
    Tokens (subject.references tracked) := by
  intro r there command
  obtain ⟨line, written⟩ := Subject.written there
  exact Line.commandForm (Line.matchedCommand (command ▸ written))

theorem callsOnce (subject : Subject) (tools : Tools) (which : Text) (tracked : List Path) :
    (run subject tools which (.ok tracked)).session.calls.Nodup := by
  obtain ⟨untaken, references, _, calls⟩ := inquiredAll subject.package tools which
    (subject.items tracked) (startRemembers subject tools which)
  have part := (List.append_sublist_append_left
    ((subject.answers tools which tracked).map Answered.reference)).mpr (List.take_sublist 1 untaken)
  rw [runSession, calls]
  refine inquiriesOnce fun r there => referencesTokens subject tracked r ?_
  rw [show subject.references tracked = _ from references]
  exact part.subset there

/-- The calls of a survey are those that the first occurrences of its names lead to, in order and
up to the reference at which it stops, and none is made twice. -/
theorem surveyInquires (subject : Subject) (tools : Tools) (which : Text)
    (tracked : Except Fault (List Path)) :
    (run subject tools which tracked).session.calls.Nodup ∧
    match tracked with
    | .error _ => (run subject tools which tracked).session.calls = []
    | .ok paths => ∃ untaken,
        subject.references paths =
          (subject.answers tools which paths).map Answered.reference ++ untaken ∧
        (untaken = [] ↔ ∃ report, (run subject tools which tracked).result = .ok report) ∧
        (run subject tools which tracked).session.calls = inquiries subject.package tools which
          ((subject.answers tools which paths).map Answered.reference ++ untaken.take 1) := by
  cases tracked with
  | error fault => exact ⟨List.nodup_nil, rfl⟩
  | ok paths =>
    obtain ⟨untaken, references, stops, calls⟩ := inquiredAll subject.package tools which
      (subject.items paths) (startRemembers subject tools which)
    have asked : (run subject tools which (.ok paths)).session.calls =
        inquiries subject.package tools which
          ((subject.answers tools which paths).map Answered.reference ++ untaken.take 1) := by
      rw [runSession]
      exact calls
    have tokens : Tokens ((subject.answers tools which paths).map Answered.reference ++
        untaken.take 1) := by
      intro r there command
      have taken : r ∈ subject.references paths := by
        rw [show subject.references paths = _ from references]
        exact (List.append_sublist_append_left _ |>.mpr (List.take_sublist 1 untaken)).subset there
      obtain ⟨line, written⟩ := Subject.written taken
      exact Line.commandForm (Line.matchedCommand (command ▸ written))
    refine ⟨?_, untaken, references, ?_, asked⟩
    · rw [asked]
      exact inquiriesOnce tokens
    · rw [stops, runListed]
      rcases takeAll subject.package tools which (subject.items paths) subject.start with
        ⟨_ | _, _⟩ <;> simp

end
end Survey
end GemSurvey
