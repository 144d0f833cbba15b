import GemSurvey.Proofs.Resolution.Library
import GemSurvey.Proofs.Survey.Standing

/-! Refused names. A name is refused where it leads to something that is held in another version.
The refusal leaves behind the question and, if that failed, a note of it; whatever is asked and
recorded later, the name is refused again unless it was placed elsewhere in the meantime. -/
namespace GemSurvey.Library

inductive Offers (name place : Text) : Key → Option Text → Prop where
  | gem {owner version} (read : Located.parse? place = some (owner, version)) :
      Offers name place ⟨.gem, owner⟩ (some version)
  | library (read : Located.parse? place = none) : Offers name place ⟨.library, name⟩ none

theorem offersIff {name place : Text} {key : Key} {version : Option Text} :
    Offers name place key version ↔
      key = (ofLocated name place).toRecord.key ∧
        version = (ofLocated name place).toRecord.version := by
  constructor
  · intro offers
    cases offers with
    | gem read => simp [ofLocated, read, toRecord]
    | library read => simp [ofLocated, read, toRecord]
  · rintro ⟨rfl, rfl⟩
    unfold ofLocated
    cases read : Located.parse? place with
    | none => exact .library read
    | some found => exact .gem read

structure Disputes (s : Session) (name place : Text) (conflict : Conflict) : Prop where
  unknown : s.libraries.lookup name = none
  offers : Offers name place conflict.key conflict.offered
  held : s.versions.Holds conflict.key conflict.held
  differs : conflict.held ≠ conflict.offered

def Moved (tools : Tools) (name place : Text) (s t : Session) : Prop :=
  ∃ past, s.calls <+: past ∧ past ++ [.locate name] <+: t.calls ∧
    placeOf (tools.locate past name) ≠ place

def complaints (name : Text) : Except IoFault Text → List Diagnostic
  | .ok _ => []
  | .error cause => [unlocated name cause]

theorem locatedSession (s : Session) (tools : Tools) (name : Text) :
    (located s tools name).2 = { s with
      problems := s.problems ++ complaints name (tools.locate s.calls name)
      calls := s.calls ++ [.locate name]
      queries := s.queries + 1 } := by
  simp only [located, Session.locate]
  cases tools.locate s.calls name with
  | ok place => simp [complaints]
  | error cause => rfl

section
variable {package : Text} {tools : Tools} {which name place : Text} {s t u : Session}
  {conflict : Conflict}

theorem disputesIff : Disputes s name (placeOf (tools.locate s.calls name)) conflict ↔
    s.libraries.lookup name = none ∧
      s.versions.record (foundAt tools s.calls name).toRecord = .error conflict := by
  constructor
  · intro ⟨unknown, offers, held, differs⟩
    exact ⟨unknown, Ledger.recordRefused.mpr ⟨offersIff.mp offers, held, differs⟩⟩
  · rintro ⟨unknown, refused⟩
    obtain ⟨offered, held, differs⟩ := Ledger.recordRefused.mp refused
    exact ⟨unknown, offersIff.mpr offered, held, differs⟩

theorem refusedIff : (resolve package tools name s).1 = .error conflict ↔
    ¬ IsOwn package name ∧ Disputes s name (placeOf (tools.locate s.calls name)) conflict := by
  have course := resolved package tools name s
  rw [disputesIff, ← isSelfIff]
  rcases result : resolve package tools name s with ⟨found, next⟩
  rw [result] at course
  cases course with
  | own self => simp [self]
  | known other memo => simp [memo]
  | clash other unknown refused => simp [other, unknown, refused]
  | settled other unknown kept => simp [kept]

theorem refusedSession (refused : (resolve package tools name s).1 = .error conflict) :
    (resolve package tools name s).2 = (located s tools name).2 := by
  have course := resolved package tools name s
  rcases result : resolve package tools name s with ⟨found, next⟩
  rw [result] at course refused
  cases course with
  | own | known | settled => cases refused
  | clash => rfl

theorem resolveAsks (other : ¬ IsOwn package name) (unknown : s.libraries.lookup name = none) :
    (resolve package tools name s).2.calls = s.calls ++ [.locate name] := by
  have course := resolved package tools name s
  rcases result : resolve package tools name s with ⟨found, next⟩
  rw [result] at course
  cases course with
  | own self => exact absurd (isSelfIff.mp self) other
  | known _ memo => simp [unknown] at memo
  | clash | settled => exact locatedCalls s tools name

theorem Moved.earlier (grows : s.Grows t) (moved : Moved tools name place t u) :
    Moved tools name place s u := by
  obtain ⟨past, before, after, elsewhere⟩ := moved
  exact ⟨past, grows.calls.trans before, after, elsewhere⟩

theorem Moved.later (grows : t.Grows u) (moved : Moved tools name place s t) :
    Moved tools name place s u := by
  obtain ⟨past, before, after, elsewhere⟩ := moved
  exact ⟨past, before, after.trans grows.calls, elsewhere⟩

namespace Disputes

theorem kept (h : Disputes s name place conflict) (grows : s.Grows t)
    (unknown : t.libraries.lookup name = none) : Disputes t name place conflict :=
  ⟨unknown, h.offers, grows.holds h.held, h.differs⟩

theorem asked (h : Disputes s name place conflict) (tools : Tools)
    (other : ¬ IsOwn package name) :
    (resolve package tools name s).1 = .error conflict ∨
      Moved tools name place s (resolve package tools name s).2 := by
  by_cases here : placeOf (tools.locate s.calls name) = place
  · subst place
    exact .inl (refusedIff.mpr ⟨other, h⟩)
  · exact .inr ⟨s.calls, List.prefix_rfl, by simp [resolveAsks other h.unknown], here⟩

theorem library (h : Disputes s name place conflict) (package : Text) (tools : Tools)
    (asked : Text) :
    Disputes (resolve package tools asked s).2 name place conflict ∨
      Moved tools name place s (resolve package tools asked s).2 := by
  have grows := Session.Grows.library package tools asked s
  have course := resolved package tools asked s
  rcases result : resolve package tools asked s with ⟨found, next⟩
  rw [result] at course
  simp only [result] at grows ⊢
  cases course with
  | own | known => exact .inl h
  | clash => exact .inl (h.kept grows (by simpa using h.unknown))
  | settled other unknown kept =>
    by_cases same : name = asked
    · -- It was not refused under its own name, so it lay elsewhere.
      subst asked
      have foreign : ¬ IsOwn package name := isSelfIff.not.mp (by simp [other])
      rcases result ▸ h.asked tools foreign with refused | moved
      · cases refused
      · exact .inr moved
    · refine .inl (h.kept grows ?_)
      simpa only [List.lookup_cons, beq_false_of_ne same] using h.unknown

theorem requirement (h : Disputes s name place conflict) (tools : Tools)
    (which command : Text) :
    Disputes (Requirement.resolve tools which command s).2 name place conflict := by
  refine h.kept (Session.Grows.requirement tools which command s) ?_
  have course := Requirement.resolved tools which command s
  rcases result : Requirement.resolve tools which command s with ⟨found, next⟩
  rw [result] at course
  cases course with
  | known | held => exact h.unknown
  | probed _ _ _ same => simpa [Requirement.remember, same] using h.unknown

theorem record (h : Disputes s name place conflict) {r : Record} (ok : s.record r = .ok t) :
    Disputes t name place conflict := by
  refine h.kept (Session.Grows.record ok) ?_
  obtain ⟨versions, _, rfl⟩ := Session.recordIff.mp ok
  exact h.unknown

theorem perform (h : Disputes s name place conflict) (package : Text) (tools : Tools)
    (which : Text) (operation : Operation) :
    Disputes (s.perform package tools which operation) name place conflict ∨
      Moved tools name place s (s.perform package tools which operation) := by
  cases operation with
  | ask kind asked => cases kind with
    | library => exact h.library package tools asked
    | command => exact .inl (h.requirement tools which asked)
  | record r =>
    simp only [Session.perform]
    cases kept : s.record r with
    | ok next => exact .inl (h.record kept)
    | error conflict => exact .inl h

theorem performAll (h : Disputes s name place conflict) (package : Text) (tools : Tools)
    (which : Text) (operations : List Operation) :
    Disputes (s.performAll package tools which operations) name place conflict ∨
      Moved tools name place s (s.performAll package tools which operations) := by
  induction operations generalizing s with
  | nil => exact .inl h
  | cons operation rest ih =>
    have step := Session.performGrows package tools which s operation
    rcases h.perform package tools which operation with stays | moved
    · exact (ih stays).imp_right (Moved.earlier step)
    · exact .inr (moved.later (Session.performAllGrows package tools which rest _))

end Disputes
end

structure Refusal (package : Text) (tools : Tools) (name : Text) (s : Session) : Prop where
  refused : ∀ conflict, (resolve package tools name s).1 = .error conflict ↔
    ¬ IsOwn package name ∧ Disputes s name (placeOf (tools.locate s.calls name)) conflict
  session : ∀ conflict, (resolve package tools name s).1 = .error conflict →
    (resolve package tools name s).2 = { s with
      problems := s.problems ++ complaints name (tools.locate s.calls name)
      calls := s.calls ++ [.locate name]
      queries := s.queries + 1 }
  again : ∀ conflict, (resolve package tools name s).1 = .error conflict → ∀ which operations,
    let t := (resolve package tools name s).2.performAll package tools which operations
    (resolve package tools name t).1 = .error conflict ∨
      Moved tools name (placeOf (tools.locate s.calls name)) (resolve package tools name s).2
        (resolve package tools name t).2

theorem refusalAtomic (package : Text) (tools : Tools) (name : Text) (s : Session) :
    Refusal package tools name s where
  refused _ := refusedIff
  session conflict refused := by rw [refusedSession refused, locatedSession]
  again conflict refused which operations := by
    obtain ⟨other, disputes⟩ := refusedIff.mp refused
    have left : Disputes (resolve package tools name s).2 name
        (placeOf (tools.locate s.calls name)) conflict :=
      disputes.kept (Session.Grows.library package tools name s)
        (by simpa [refusedSession refused] using disputes.unknown)
    have grows := Session.Grows.library package tools name
      ((resolve package tools name s).2.performAll package tools which operations)
    rcases left.performAll package tools which operations with stays | moved
    · exact (stays.asked tools other).imp_right
        (Moved.earlier (Session.performAllGrows package tools which operations _))
    · exact .inr (moved.later grows)

theorem sampleRefused :
    let s := (resolve "own" Sample.disputed "net/ssh/proxy" {}).2
    let next := (resolve "own" Sample.disputed "net/ssh" s).2
    let conflict : Conflict := ⟨⟨.gem, "net-ssh"⟩, some "7.3", some "7.2"⟩
    (resolve "own" Sample.disputed "net/ssh" s).1 = .error conflict ∧
    next = { s with calls := s.calls ++ [.locate "net/ssh"], queries := s.queries + 1 } ∧
    (resolve "own" Sample.disputed "net/ssh"
      (next.performAll "own" Sample.disputed "which" Sample.askedLater)).1 = .error conflict := by
  intro s next conflict
  have atomic := refusalAtomic "own" Sample.disputed "net/ssh" s
  have disputes : Disputes s "net/ssh"
      (placeOf (Sample.disputed.locate s.calls "net/ssh")) conflict := {
    unknown := by decide +kernel
    offers := .gem (by decide +kernel)
    held := ⟨⟨⟨.gem, "net-ssh"⟩, some "7.3", .packageManager⟩, by decide +kernel, rfl⟩
    differs := by decide +kernel }
  have other : ¬ IsOwn "own" "net/ssh" := isSelfIff.not.mp (by decide +kernel)
  have refused := (atomic.refused conflict).mpr ⟨other, disputes⟩
  refine ⟨refused, ?_, ?_⟩
  · have quiet : complaints "net/ssh" (Sample.disputed.locate s.calls "net/ssh") = [] := rfl
    have session := atomic.session conflict refused
    rw [quiet, List.append_nil] at session
    exact session
  · rcases atomic.again conflict refused "which" Sample.askedLater with same | moved
    · exact same
    · obtain ⟨_, _, _, elsewhere⟩ := moved
      exact absurd rfl elsewhere

end GemSurvey.Library
