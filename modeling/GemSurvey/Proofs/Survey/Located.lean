import GemSurvey.Proofs.Survey.Standing

/-! Where the answers of a survey come from. What a name is found to be is what the tools told of
it at its place among the calls, and it stays in memory to the end. -/
namespace GemSurvey

def Library.FoundIn (tools : Tools) (calls : List Call) (name : Text) (found : Library) : Prop :=
  ∃ past later, calls = past ++ .locate name :: later ∧ found = foundAt tools past name

theorem Library.FoundIn.prefixed {tools : Tools} {calls longer : List Call} {name : Text}
    {found : Library} (h : FoundIn tools calls name found) (grows : calls <+: longer) :
    FoundIn tools longer name found := by
  obtain ⟨past, later, rfl, same⟩ := h
  obtain ⟨more, rfl⟩ := grows
  exact ⟨past, later ++ more, by simp, same⟩

namespace Session

def Located (tools : Tools) (s : Session) : Prop :=
  ∀ name found, s.libraries.lookup name = some found → Library.FoundIn tools s.calls name found

variable {tools : Tools} {s next : Session}

theorem Located.grow (h : Located tools s) (grows : s.Grows next)
    (libraries : ∀ name found, next.libraries.lookup name = some found →
      s.libraries.lookup name = some found ∨ Library.FoundIn tools next.calls name found) :
    Located tools next := by
  intro name found memo
  rcases libraries name found memo with before | new
  · exact (h name found before).prefixed grows.calls
  · exact new

theorem Located.ask (h : Located tools s) (package which : Text) (kind : ReferenceKind)
    (name : Text) : Located tools (s.ask package tools which kind name).2 := by
  have grows := askGrows package tools which kind name s
  cases kind with
  | library =>
    refine h.grow grows fun other found memo => ?_
    have course := Library.resolved package tools name s
    unfold Session.ask at memo ⊢
    rcases result : Library.resolve package tools name s with ⟨answer, after⟩
    simp only [result] at memo course ⊢
    cases course with
    | own => exact .inl memo
    | known => exact .inl memo
    | clash => exact .inl (by simpa using memo)
    | settled =>
      rcases Survey.Accounts.memoCons memo with before | ⟨rfl, rfl⟩
      · exact .inl before
      · exact .inr ⟨s.calls, [], Library.locatedCalls s tools name, rfl⟩
  | command =>
    refine h.grow grows fun other found memo => .inl ?_
    have course := Requirement.resolved tools which name s
    unfold Session.ask at memo
    rcases result : Requirement.resolve tools which name s with ⟨answer, after⟩
    simp only [result] at memo course
    cases course with
    | known => exact memo
    | held => exact memo
    | probed fresh absent records same => simpa [Requirement.remember, same] using memo

end Session

namespace Survey

variable {package : Text} {tools : Tools} {which : Text}

theorem answerAsked (package : Text) (tools : Tools) (which : Text) (r : Reference)
    (s : Session) :
    answer package tools which r s = (s.ask package tools which r.kind r.name).1 := by
  unfold answer Session.ask
  cases r.kind <;> rfl

theorem takenAsked (package : Text) (tools : Tools) (which : Text) (r : Reference) (s : State) :
    (takeReference package tools which r s).2.session =
      (s.session.ask package tools which r.kind r.name).2 := by
  rw [takenSession]
  unfold Session.ask
  cases r.kind <;> rfl

theorem takenAllKnown {items : List Emitted} {s final : State}
    (h : s.session.Located tools) (ok : takeAll package tools which items s = (.ok (), final)) :
    final.session.Located tools ∧ s.session.Grows final.session ∧
      ∀ a ∈ answers package tools which items s,
        Session.Known package final.session a.reference.kind a.reference.name a.answer := by
  induction items generalizing s with
  | nil =>
    cases ok
    exact ⟨h, Session.Grows.refl _, by simp [answers]⟩
  | cons e rest ih => cases e with
    | problem d =>
      obtain ⟨located, grows, known⟩ := ih (s := { s with session := s.session.report d }) h ok
      exact ⟨located, (Session.Grows.report s.session d).trans grows, known⟩
    | reference r =>
      have told := takenResult package tools which r s
      have asked := takenAsked package tools which r s
      have located := h.ask package which r.kind r.name
      have grown := Session.askGrows package tools which r.kind r.name s.session
      simp only [takeAll, take] at ok
      rcases result : takeReference package tools which r s with ⟨conflict | _, next⟩
      · simp [result] at ok
      · simp only [result] at ok told asked
        rw [← asked] at located grown
        cases answered : answer package tools which r s.session with
        | error conflict => simp [answered, Except.map] at told
        | ok a =>
          obtain ⟨kept, grows, known⟩ := ih located ok
          refine ⟨kept, grown.trans grows, ?_⟩
          simp only [answers, answered, result, List.forall_mem_cons]
          refine ⟨Session.Known.grow ?_ grows, known⟩
          rw [asked]
          exact Session.askedKnown ((answerAsked package tools which r s.session).symm.trans answered)

section
variable {subject : Subject} {tracked : List Path} {report : Report} {r : Reference}
  {found : Library}

theorem reportedKnown (ok : (run subject tools which (.ok tracked)).result = .ok report) :
    (run subject tools which (.ok tracked)).session.Located tools ∧
      ∀ a ∈ subject.answers tools which tracked,
        Session.Known subject.package (run subject tools which (.ok tracked)).session
          a.reference.kind a.reference.name a.answer := by
  obtain ⟨final, course, _⟩ := finished ok
  have start : subject.start.session.Located tools := by
    intro name found memo
    cases memo
  obtain ⟨located, _, known⟩ := takenAllKnown start course
  rw [runSession, course]
  exact ⟨located, known⟩

theorem answeredFound (ok : (run subject tools which (.ok tracked)).result = .ok report)
    (answered : ⟨r, .library found⟩ ∈ subject.answers tools which tracked) :
    r ∈ subject.references tracked ∧ r.kind = .library ∧
      Library.isSelf subject.package r.name = false ∧
      Library.FoundIn tools (run subject tools which (.ok tracked)).session.calls r.name found := by
  obtain ⟨_, _, _, references⟩ := reported ok
  obtain ⟨located, known⟩ := reportedKnown ok
  have member : r ∈ subject.references tracked := by
    rw [← references]
    exact List.mem_map.mpr ⟨_, answered, rfl⟩
  have stays := known _ answered
  simp only at stays
  generalize r.kind = kind at stays ⊢
  cases stays with
  | library other memo => exact ⟨member, rfl, other, located _ _ memo⟩

theorem importAnswered (ok : (run subject tools which (.ok tracked)).result = .ok report)
    (member : r ∈ subject.references tracked) (kind : r.kind = .library)
    (other : Library.isSelf subject.package r.name = false) :
    ∃ found, ⟨r, .library found⟩ ∈ subject.answers tools which tracked ∧
      Library.FoundIn tools (run subject tools which (.ok tracked)).session.calls r.name found := by
  obtain ⟨_, _, _, references⟩ := reported ok
  obtain ⟨located, known⟩ := reportedKnown ok
  rw [← references] at member
  obtain ⟨⟨r, told⟩, answered, rfl⟩ := List.mem_map.mp member
  have stays := known _ answered
  simp only at kind other stays ⊢
  rw [kind] at stays
  cases stays with
  | own self => simp [self] at other
  | library _ memo => exact ⟨_, answered, located _ _ memo⟩

end
end Survey
end GemSurvey
