import GemSurvey.Proofs.Survey.Answer

/-! One reference after another: an answer keeps the accounts, and nothing but a gem with two
versions stops the course of a survey. -/
namespace GemSurvey.Survey
open Requirement (fallback fallbackRecord settle versionAt? commandKey remember)

variable {package : Text} {tools : Tools} {which : Text} {seeded : Option Text}
  {as : List Answered} {s : Session}

namespace Accounts

theorem report (h : Accounts package tools which seeded as s) (problem : Diagnostic) :
    Accounts package tools which seeded as (s.report problem) :=
  ⟨h.records, h.justified, h.libraries, h.requirements⟩

theorem memoCons {β : Type} {key name : Text} {value found : β} {memo : List (Text × β)}
    (there : ((key, value) :: memo).lookup name = some found) :
    memo.lookup name = some found ∨ key = name ∧ value = found := by
  rw [List.lookup_cons] at there
  split at there
  · rename_i same
    exact .inr ⟨(eq_of_beq same).symm, Option.some.inj there⟩
  · exact .inl there

theorem takeLibrary (h : Accounts package tools which seeded as s) {r : Reference} {found next}
    (kind : r.kind = .library) (ok : Library.resolve package tools r.name s = (.ok found, next)) :
    Accounts package tools which seeded (as ++ [⟨r, found.elim .own .library⟩]) next := by
  have course := Library.resolved package tools r.name s
  rw [ok] at course
  cases course with
  | own self =>
    exact h.extend (.own kind self) (by simp [Answered.record?]) (fun _ _ => .inl) (fun _ _ => .inl)
  | @known known other memo =>
    obtain ⟨before, member, same⟩ := h.libraries _ _ memo
    have fair : Justified package tools which seeded ⟨r, .library known⟩ := by
      cases h.justified _ member with
      | library past => exact same ▸ .library past kind other
    refine h.extend fair (fun x => ⟨.inl, ?_⟩) (fun _ _ => .inl) (fun _ _ => .inl)
    rintro (held | left)
    · exact held
    · exact (h.records x).mpr (.inr ⟨_, member, left⟩)
  | settled other fresh kept =>
    refine h.extend (.library s.calls kind other) (h.recordLibrary kept) ?_ ?_
    · intro name found memo
      exact (memoCons memo).imp_right fun new => ⟨new.1, congrArg Answer.library new.2⟩
    · intro command found memo
      exact .inl (by simpa using memo)

theorem takeCommand (h : Accounts package tools which seeded as s) {r : Reference} {found next}
    (kind : r.kind = .command) (ok : Requirement.resolve tools which r.name s = (.ok found, next)) :
    Accounts package tools which seeded (as ++ [⟨r, .requirement found⟩]) next := by
  have course := Requirement.resolved tools which r.name s
  rw [ok] at course
  cases course with
  | known memo =>
    obtain ⟨before, member, same⟩ := h.requirements _ _ memo
    have fair : Justified package tools which seeded ⟨r, .requirement found⟩ := by
      cases h.justified _ member with
      | fallback _ named => exact .fallback kind (same ▸ named)
      | command past _ other => exact same ▸ .command past kind (same ▸ other)
    refine h.extend fair (fun x => ⟨.inl, ?_⟩) (fun _ _ => .inl) (fun _ _ => .inl)
    rintro (held | left)
    · exact held
    · exact (h.records x).mpr (.inr ⟨_, member, by simpa [Answered.record?, same] using left⟩)
  -- The fallback is in the ledger before the first command, whatever the memory holds.
  | @held record fresh there =>
    obtain ⟨member, key⟩ := Ledger.getIff.mp there
    rw [Requirement.ofVersionSettled h.fallbackVersion]
    refine h.extend ?_ (fun x => ⟨.inl, ?_⟩) (fun _ _ => .inl) ?_
    · rcases h.commandRecord member key with ⟨named, rfl⟩ | ⟨other, past, rfl⟩
      · rw [named]
        exact settleFallback ▸ .fallback kind named
      · exact .command past kind other
    · rintro (held | left)
      · exact held
      · rcases h.commandRecord member key with ⟨named, rfl⟩ | ⟨other, past, rfl⟩
        · simp [Answered.record?, named] at left
        · rw [recordOfCommand other] at left
          exact Option.some.inj left ▸ member
    · intro command found memo
      exact (memoCons memo).imp_right fun new => ⟨new.1, congrArg Answer.requirement new.2⟩
  | @probed versions after fresh absent records same =>
    have other : r.name ≠ fallback := by
      intro named
      have there := (h.records (fallbackRecord seeded)).mpr (.inl rfl)
      exact Ledger.getNone.mp absent _ there (by rw [named]; rfl)
    have version : after.versions.version? (commandKey fallback) = seeded := by
      have there : fallbackRecord seeded ∈ after.versions.records := by
        rw [same]
        exact (records _).mpr (.inr ((h.records _).mpr (.inl rfl)))
      exact Ledger.versionOfMem there
    rw [Requirement.ofVersionSettled version]
    refine h.extend (.command s.calls kind other) (fun x => ?_) ?_ ?_
    · rw [recordOfCommand other, same, Option.some.injEq, eq_comm (b := x)]
      exact (records x).trans or_comm
    · intro name found memo
      exact .inl (by simpa [remember, same] using memo)
    · intro command found memo
      refine (memoCons memo).imp (fun old => ?_) fun new =>
        ⟨new.1, congrArg Answer.requirement new.2⟩
      simpa [same] using old

end Accounts

theorem Accounted.report {s : State} (h : Accounted package tools which seeded as s)
    (problem : Diagnostic) :
    Accounted package tools which seeded as { s with session := s.session.report problem } :=
  ⟨h.session.report problem, h.buckets⟩

theorem bucketsOwn (as : List Answered) (r : Reference) :
    Buckets.ofAnswers (as ++ [⟨r, .own⟩]) = .ofAnswers as := by
  simp [Buckets.ofAnswers, List.filterMap_cons, Answered.gem?, Answered.builtin?, Answered.label?]

theorem bucketsLibrary (as : List Answered) (r : Reference) (found : Library) :
    Buckets.ofAnswers (as ++ [⟨r, .library found⟩]) =
      (Buckets.ofAnswers as).addLibrary r.role found := by
  cases found <;>
    simp [Buckets.ofAnswers, Buckets.addLibrary, List.filterMap_cons, Answered.gem?,
      Answered.builtin?, Answered.label?, Needs.insertNamed]

theorem bucketsRequirement (as : List Answered) (r : Reference) (found : Requirement) :
    Buckets.ofAnswers (as ++ [⟨r, .requirement found⟩]) =
      (Buckets.ofAnswers as).addRequirement r.role found := by
  simp [Buckets.ofAnswers, Buckets.addRequirement, List.filterMap_cons, Answered.gem?,
    Answered.builtin?, Answered.label?, Needs.insertNamed]

theorem takenResult (package : Text) (tools : Tools) (which : Text) (r : Reference) (s : State) :
    (takeReference package tools which r s).1 =
      (answer package tools which r s.session).map fun _ => () := by
  unfold takeReference answer
  cases r.kind with
  | library =>
    rcases Library.resolve package tools r.name s.session with ⟨_ | _ | _, _⟩ <;> rfl
  | command => rcases Requirement.resolve tools which r.name s.session with ⟨_ | _, _⟩ <;> rfl

theorem takenSession (package : Text) (tools : Tools) (which : Text) (r : Reference) (s : State) :
    (takeReference package tools which r s).2.session = match r.kind with
      | .library => (Library.resolve package tools r.name s.session).2
      | .command => (Requirement.resolve tools which r.name s.session).2 := by
  unfold takeReference
  cases r.kind with
  | library =>
    simp only
    rcases Library.resolve package tools r.name s.session with ⟨_ | _ | _, _⟩ <;> rfl
  | command =>
    simp only
    rcases Requirement.resolve tools which r.name s.session with ⟨_ | _, _⟩ <;> rfl

inductive Taken (package : Text) (tools : Tools) (which : Text) (seeded : Option Text)
    (as : List Answered) (r : Reference) (s : State) : Except Conflict Unit × State → Prop where
  | answered {a next} (told : answer package tools which r s.session = .ok a)
      (accounts : Accounted package tools which seeded (as ++ [⟨r, a⟩]) next) :
      Taken package tools which seeded as r s (.ok (), next)
  | clash {conflict next} (told : answer package tools which r s.session = .error conflict)
      (kind : r.kind = .library) (other : Library.isSelf package r.name = false)
      (refused : s.session.versions.record
        (Library.foundAt tools s.session.calls r.name).toRecord = .error conflict) :
      Taken package tools which seeded as r s (.error conflict, next)

theorem taken {s : State} (h : Accounted package tools which seeded as s) (r : Reference) :
    Taken package tools which seeded as r s (takeReference package tools which r s) := by
  cases kind : r.kind with
  | library =>
    rcases result : Library.resolve package tools r.name s.session with ⟨conflict | found, next⟩
    · have told : answer package tools which r s.session = .error conflict := by
        simp [answer, kind, result, Except.map]
      have course := Library.resolved package tools r.name s.session
      rw [result] at course
      cases course with
      | clash other _ refused =>
        simpa [takeReference, kind, result] using .clash told kind other refused
    · have told : answer package tools which r s.session = .ok (found.elim .own .library) := by
        simp [answer, kind, result, Except.map]
      have accounts := h.session.takeLibrary kind result
      cases found with
      | none =>
        have next' : Accounted package tools which seeded _ { s with session := next } :=
          ⟨accounts, (bucketsOwn as r).symm ▸ h.buckets⟩
        simpa [takeReference, kind, result] using .answered told next'
      | some found =>
        have next' : Accounted package tools which seeded _
            ⟨next, s.buckets.addLibrary r.role found⟩ :=
          ⟨accounts, by rw [h.buckets]; exact (bucketsLibrary as r found).symm⟩
        simpa [takeReference, kind, result] using .answered told next'
  | command =>
    rcases result : Requirement.resolve tools which r.name s.session with ⟨conflict | found, next⟩
    · have course := Requirement.resolved tools which r.name s.session
      rw [result] at course
      nomatch course
    · have told : answer package tools which r s.session = .ok (.requirement found) := by
        simp [answer, kind, result, Except.map]
      have next' : Accounted package tools which seeded _
          ⟨next, s.buckets.addRequirement r.role found⟩ :=
        ⟨h.session.takeCommand kind result,
          by rw [h.buckets]; exact (bucketsRequirement as r found).symm⟩
      simpa [takeReference, kind, result] using .answered told next'

theorem takenAll {items : List Emitted} {s final : State}
    (h : Accounted package tools which seeded as s)
    (ok : takeAll package tools which items s = (.ok (), final)) :
    Accounted package tools which seeded (as ++ answers package tools which items s) final ∧
      (answers package tools which items s).map Answered.reference =
        items.filterMap Emitted.reference? := by
  induction items generalizing as s with
  | nil =>
    cases ok
    exact ⟨by simpa [answers] using h, rfl⟩
  | cons e rest ih => cases e with
    | problem d => exact ih (h.report d) ok
    | reference r =>
      have course := taken h r
      simp only [takeAll, take] at ok
      rcases result : takeReference package tools which r s with ⟨conflict | _, next⟩
      · simp [result] at ok
      · rw [result] at course ok
        cases course with
        | @answered a _ told accounts =>
          obtain ⟨all, references⟩ := ih accounts ok
          simp only [answers, told, result, List.map_cons, List.filterMap_cons, Emitted.reference?]
          exact ⟨by simpa using all, by rw [references]⟩

/-- A course that stops does so at a reference whose record the ledger refuses, and all that the
ledger holds then stems from references before it. -/
theorem stoppedAll {items : List Emitted} {s final : State} {conflict}
    (h : Accounted package tools which seeded as s)
    (stopped : takeAll package tools which items s = (.error conflict, final)) :
    ∃ before known r,
      Accounted package tools which seeded (as ++ before) known ∧
      (∀ a ∈ before, a.reference ∈ items.filterMap Emitted.reference?) ∧
      r ∈ items.filterMap Emitted.reference? ∧ r.kind = .library ∧
      Library.isSelf package r.name = false ∧
      known.session.versions.record
        (Library.foundAt tools known.session.calls r.name).toRecord = .error conflict := by
  induction items generalizing as s with
  | nil => simp [takeAll] at stopped
  | cons e rest ih => cases e with
    | problem d => exact ih (h.report d) stopped
    | reference r =>
      have course := taken h r
      simp only [takeAll, take] at stopped
      rcases result : takeReference package tools which r s with ⟨_ | _, next⟩
      · rw [result] at course stopped
        cases course with
        | clash told kind other refused =>
          cases stopped
          exact ⟨[], s, r, by simpa using h, by simp, by simp [Emitted.reference?], kind, other,
            refused⟩
      · rw [result] at course stopped
        cases course with
        | @answered a _ told accounts =>
          obtain ⟨before, known, r', accounts', stem, member, rest⟩ := ih accounts stopped
          refine ⟨⟨r, a⟩ :: before, known, r', by simpa using accounts', ?_,
            List.mem_cons_of_mem _ member, rest⟩
          intro a' there
          rcases List.mem_cons.mp there with rfl | there
          · exact List.mem_cons_self
          · exact List.mem_cons_of_mem _ (stem a' there)

end GemSurvey.Survey
