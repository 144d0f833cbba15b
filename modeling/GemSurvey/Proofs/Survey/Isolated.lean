import GemSurvey.Proofs.Resolution.Noted
import GemSurvey.Proofs.Survey.Mended

/-! A file that fails, at once or at some line, takes nothing else with it: a survey comes to what
it would come to if the file ended there, and notes the failure. -/
namespace GemSurvey
namespace Survey

variable {package which : Text} {tools : Tools} {s s' : State} {lost : List Diagnostic}

def State.after (noted : List Diagnostic) (s : State) : State :=
  { s with session := s.session.after noted }

@[simp] theorem State.afterProblems (noted : List Diagnostic) (s : State) :
    (s.after noted).session.problems = noted ++ s.session.problems := rfl

theorem takeReferenceAfter (noted : List Diagnostic) (r : Reference) (s : State) :
    takeReference package tools which r (s.after noted) =
      ((takeReference package tools which r s).1,
        (takeReference package tools which r s).2.after noted) := by
  unfold takeReference
  cases r.kind with
  | library =>
    simp only [State.after, Library.resolveAfter]
    rcases Library.resolve package tools r.name s.session with ⟨_ | _ | _, _⟩ <;> rfl
  | command =>
    simp only [State.after, Requirement.resolveAfter]
    rcases Requirement.resolve tools which r.name s.session with ⟨_ | _, _⟩ <;> rfl

theorem takeAfter (noted : List Diagnostic) (e : Emitted) (s : State) :
    take package tools which e (s.after noted) =
      ((take package tools which e s).1, (take package tools which e s).2.after noted) := by
  cases e with
  | reference r => exact takeReferenceAfter noted r s
  | problem d => simp only [take, State.after, Session.reportAfter]

inductive Beside (lost : List Diagnostic) : State → State → Prop where
  | noted (s : State) {more fewer : List Diagnostic} (kept : fewer.Sublist more)
      (all : more.Perm (fewer ++ lost)) : Beside lost (s.after more) (s.after fewer)

structure Quieter (lost : List Diagnostic) (a b : Report) : Prop where
  filesScanned : b.filesScanned = a.filesScanned
  versions : b.versions = a.versions
  buckets : b.buckets = a.buckets
  declarations : b.declarations = a.declarations
  kept : b.diagnostics.Sublist a.diagnostics
  all : a.diagnostics.Perm (b.diagnostics ++ lost)

namespace Beside

theorem same (s : State) : Beside [] s s := .noted s (.refl []) (.refl [])

theorem problems (h : Beside lost s s') :
    s'.session.problems.Sublist s.session.problems ∧
      s.session.problems.Perm (s'.session.problems ++ lost) := by
  cases h with
  | @noted s more fewer kept all =>
    have swapped : (lost ++ s.session.problems).Perm (s.session.problems ++ lost) :=
      List.perm_append_comm
    have moved : (fewer ++ lost ++ s.session.problems).Perm
        (fewer ++ s.session.problems ++ lost) := by
      simpa only [List.append_assoc] using swapped.append_left fewer
    exact ⟨kept.append_right _, (all.append_right _).trans moved⟩

theorem calls (h : Beside lost s s') : s'.session.calls = s.session.calls := by
  cases h
  rfl

theorem take (h : Beside lost s s') (package : Text) (tools : Tools) (which : Text)
    (e : Emitted) :
    (Survey.take package tools which e s).1 = (Survey.take package tools which e s').1 ∧
      Beside lost (Survey.take package tools which e s).2
        (Survey.take package tools which e s').2 := by
  cases h with
  | noted s kept all =>
    simp only [takeAfter]
    exact ⟨trivial, .noted _ kept all⟩

theorem lose (h : Beside lost s s') (d : Diagnostic) :
    Beside (lost ++ [d]) { s with session := s.session.report d } s' := by
  have ⟨kept, all⟩ := h.problems
  cases h with
  | @noted s more fewer =>
    have all' : (more ++ s.session.problems ++ [d]).Perm
        ((fewer ++ s.session.problems) ++ (lost ++ [d])) := by
      simpa only [State.afterProblems, List.append_assoc] using all.append_right [d]
    simpa [State.after, Session.after, Session.report] using
      Beside.noted ⟨{ s.session with problems := [] }, s.buckets⟩
        (kept.trans (List.sublist_append_left _ [d])) all'

theorem summarise (h : Beside lost s s') (selected : List Selected) :
    Quieter lost (Survey.summarise selected s) (Survey.summarise selected s') := by
  have ⟨kept, all⟩ := h.problems
  cases h with
  | noted s => exact {
      filesScanned := rfl
      versions := rfl
      buckets := rfl
      declarations := rfl
      kept := kept.append_left _
      all := by simpa only [Survey.summarise, List.append_assoc] using all.append_left _ }

end Beside

theorem takesLess (package : Text) (tools : Tools) (which : Text) {items fewer : List Emitted}
    {ahead before : List Diagnostic} (less : Less items fewer ahead) (h : Beside before s s') :
    (takeAll package tools which items s).1 = (takeAll package tools which fewer s').1 ∧
      ∃ missed, Beside (before ++ missed) (takeAll package tools which items s).2
          (takeAll package tools which fewer s').2 ∧
        ((takeAll package tools which items s).1 = .ok () → missed = ahead) := by
  induction less generalizing s s' before with
  | done => exact ⟨rfl, [], by simpa [takeAll] using h, fun _ => rfl⟩
  | kept e _ ih =>
    obtain ⟨told, beside⟩ := h.take package tools which e
    unfold takeAll
    rcases first : take package tools which e s with ⟨conflict | _, next⟩ <;>
      rcases second : take package tools which e s' with ⟨conflict' | _, next'⟩ <;>
      simp only [first, second] at told beside
    · exact ⟨told, [], by simpa using beside, fun ok => by cases ok⟩
    · cases told
    · cases told
    · exact ih beside
  | lost d _ ih =>
    obtain ⟨told, missed, beside, all⟩ := ih (h.lose d)
    rw [List.append_assoc, List.singleton_append] at beside
    exact ⟨told, d :: missed, beside, fun ok => congrArg (d :: ·) (all ok)⟩

inductive QuieterCourse (lost : List Diagnostic) :
    Except Fault Report → Except Fault Report → Prop where
  | failed (fault : Fault) : QuieterCourse lost (.error fault) (.error fault)
  | reported {a b : Report} (quieter : Quieter lost a b) : QuieterCourse lost (.ok a) (.ok b)

theorem runsLess (subject other : Subject) {tracked : List Path} (tools : Tools) (which : Text)
    (package : other.package = subject.package) (start : other.start = subject.start)
    (selected : other.select tracked = subject.select tracked)
    (less : Less (subject.items tracked) (other.items tracked) lost) :
    (run other tools which (.ok tracked)).session.calls =
        (run subject tools which (.ok tracked)).session.calls ∧
      QuieterCourse lost (run subject tools which (.ok tracked)).result
        (run other tools which (.ok tracked)).result := by
  obtain ⟨told, missed, beside, all⟩ :=
    takesLess subject.package tools which less (.same subject.start)
  rw [List.nil_append] at beside
  rw [runSession, runSession, runListed, runListed, package, start, selected]
  refine ⟨beside.calls, ?_⟩
  rcases whole : takeAll subject.package tools which (subject.items tracked) subject.start with
      ⟨conflict | _, final⟩ <;>
    rcases short : takeAll subject.package tools which (other.items tracked) subject.start with
      ⟨conflict' | _, final'⟩ <;>
    simp only [whole, short] at told beside all ⊢
  · cases told
    exact .failed _
  · cases told
  · cases told
  · rw [all trivial] at beside
    exact .reported (beside.summarise _)

/-- Where each selected file that fails is cut short before it does, a survey asks the same, fails
alike, and reports the same less one diagnostic for each time that such a file is selected. -/
theorem surveyIsolated {subject : Subject} {tracked : List Path} {view : View}
    (h : Mended subject tracked view) (tools : Tools) (which : Text) :
    (run { subject with view := view } tools which (.ok tracked)).session.calls =
        (run subject tools which (.ok tracked)).session.calls ∧
      ∃ lost, lost.map Diagnostic.path = (subject.changed tracked view).map (some ·.path) ∧
        QuieterCourse lost (run subject tools which (.ok tracked)).result
          (run { subject with view := view } tools which (.ok tracked)).result := by
  obtain ⟨lost, less, paths⟩ := h.items
  have ⟨calls, course⟩ :=
    runsLess subject { subject with view := view } tools which rfl rfl h.selects less
  exact ⟨calls, lost, paths, course⟩

end Survey

namespace Sample

def torn : Subject where
  view p :=
    if p = ("/w/lib/own.rb" : Path) then
      .ok (.file (Text.encode "require 'net/ssh'\nrequire 'json'\n" ++ [0xff, 10] ++
        Text.encode "\x60git log\x60\n") false)
    else view p
  root := subject.root
  package := subject.package
  scan := subject.scan

def mended : View := torn.mend tracked

def ofTorn : Survey.Outcome :=
  Survey.run torn (.steady (locate "7.2") ask) "which" (.ok tracked)

def ofMended : Survey.Outcome :=
  Survey.run { torn with view := mended } (.steady (locate "7.2") ask) "which" (.ok tracked)

end Sample

theorem Survey.sampleIsolated :
    Mended Sample.torn Sample.tracked Sample.mended ∧
    Sample.ofMended.session.calls = Sample.ofTorn.session.calls ∧
    ∃ lost, lost.map Diagnostic.path = (["lib/gone.rb", "lib/own.rb"] : List Path).map some ∧
      QuieterCourse lost Sample.ofTorn.result Sample.ofMended.result := by
  have mended : Mended Sample.torn Sample.tracked Sample.mended := Mended.mends (by decide +kernel)
  have changed : (Sample.torn.changed Sample.tracked Sample.mended).map (some ·.path) =
      (["lib/gone.rb", "lib/own.rb"] : List Path).map some := by decide +kernel
  exact ⟨mended, changed ▸ surveyIsolated mended (.steady (Sample.locate "7.2") Sample.ask) "which"⟩

end GemSurvey
