import GemSurvey.Proofs.Source.Blanked
import GemSurvey.Proofs.Survey.Declared
import GemSurvey.Proofs.Survey.Located

/-! A survey of a gem whose files require themselves. Made blank, those lines leave everything as
it was, and no other import is passed over. -/
namespace GemSurvey

def Buckets.Has (b : Buckets) (role : Role) : Library → Prop
  | .gem name _ => name ∈ (b.gems.forRole role).names
  | .builtin name => name ∈ (b.libraries.forRole role).names

theorem Buckets.hasAnswered {as : List Answered} {r : Reference} {found : Library}
    (answered : ⟨r, .library found⟩ ∈ as) : (Buckets.ofAnswers as).Has r.role found := by
  cases found with
  | gem name version =>
    simp only [Has, ofAnswers, Needs.forRoleNamed, memFirstSeen]
    exact List.mem_filterMap.mpr ⟨_, answered, rfl⟩
  | builtin name =>
    simp only [Has, ofAnswers, Needs.forRoleNamed, memFirstSeen]
    exact List.mem_filterMap.mpr ⟨_, answered, rfl⟩

namespace Survey
open Emitted (foreign)
open Emission (Blanked BlankedNode RequiresOwn)

theorem takeOwn {package : Text} {e : Emitted} (own : e.isOwn package = true) (tools : Tools)
    (which : Text) (s : State) : take package tools which e s = (.ok (), s) := by
  cases e with
  | problem d => cases own
  | reference r =>
    obtain ⟨kind, self⟩ : r.kind = .library ∧ Library.isSelf package r.name = true := by
      simpa [Emitted.isOwn] using own
    simp [take, takeReference, kind, Library.resolve, self]

theorem takeAllForeign (package : Text) (tools : Tools) (which : Text) (items : List Emitted)
    (s : State) :
    takeAll package tools which (foreign package items) s =
      takeAll package tools which items s := by
  induction items generalizing s with
  | nil => rfl
  | cons e rest ih =>
    cases own : e.isOwn package with
    | true =>
      have dropped : foreign package (e :: rest) = foreign package rest := by simp [foreign, own]
      simp only [dropped, takeAll, takeOwn own, ih]
    | false =>
      have kept : foreign package (e :: rest) = e :: foreign package rest := by
        simp [foreign, own]
      simp only [kept, takeAll]
      rcases take package tools which e s with ⟨_ | _, next⟩
      · rfl
      · exact ih next

variable {subject : Subject} {view : View}

theorem selectBlanked (h : ∀ path, BlankedNode subject.package (subject.view path) (view path))
    (tracked : List Path) :
    { subject with view := view }.select tracked = subject.select tracked :=
  (Selection.selectBlanked (fun path => h (subject.root.join path)) tracked).symm

theorem itemsBlanked (h : ∀ path, BlankedNode subject.package (subject.view path) (view path))
    (tracked : List Path) :
    foreign subject.package ({ subject with view := view }.items tracked) =
      foreign subject.package (subject.items tracked) := by
  simp only [Subject.items, selectBlanked h, foreign, List.filter_flatMap]
  refine congrArg (List.flatMap · _) (funext fun file => ?_)
  exact (Emission.fromFileBlanked file (h (subject.root.join file.path))).symm

theorem runBlanked (h : ∀ path, BlankedNode subject.package (subject.view path) (view path))
    (tools : Tools) (which : Text) (tracked : Except Fault (List Path)) :
    run { subject with view := view } tools which tracked = run subject tools which tracked := by
  cases tracked with
  | error fault => rfl
  | ok paths =>
    have course : takeAll subject.package tools which
          ({ subject with view := view }.items paths) subject.start =
        takeAll subject.package tools which (subject.items paths) subject.start := by
      rw [← takeAllForeign, itemsBlanked h, takeAllForeign]
    rw [runCourse, runCourse, selectBlanked h, ← course]
    rfl

/-- All lines that require the package's own files can be made blank: nothing that comes of the
survey changes, nor any call. Every other import is located, and named with the role of its file
as what was found there. -/
theorem surveyWithoutOwn (subject : Subject) (tools : Tools) (which : Text)
    (tracked : Except Fault (List Path)) :
    (∀ content, ∃ content', Blanked subject.package content content' ∧
      ∀ line ∈ Emission.byteLines content', ¬ RequiresOwn subject.package line) ∧
    (∀ view : View, (∀ path, BlankedNode subject.package (subject.view path) (view path)) →
      run { subject with view := view } tools which tracked = run subject tools which tracked) ∧
    ∀ paths report, tracked = .ok paths → (run subject tools which tracked).result = .ok report →
      ∀ r ∈ subject.references paths, r.kind = .library →
        ¬ Library.IsOwn subject.package r.name →
        ∃ past later,
          (run subject tools which tracked).session.calls = past ++ .locate r.name :: later ∧
          report.buckets.Has r.role (Library.foundAt tools past r.name) := by
  refine ⟨Emission.blankedAll subject.package, fun view h => runBlanked h tools which tracked, ?_⟩
  rintro paths report rfl ok r member kind other
  rw [← Library.isSelfIff, Bool.not_eq_true] at other
  obtain ⟨found, answered, past, later, calls, rfl⟩ := importAnswered ok member kind other
  refine ⟨past, later, calls, ?_⟩
  obtain ⟨final, rfl, accounts, _⟩ := reported ok
  rw [show (summarise _ final).buckets = final.buckets from rfl, accounts.buckets]
  exact Buckets.hasAnswered answered

end Survey

namespace Sample
open Emission (Blanked BlankedNode RequiresOwn)

def ownLine : Bytes := Text.encode "require 'own/version'".toList

def otherLines : Bytes := Text.encode
  "require 'net/ssh'\nrequire 'json'\n\x60git log\x60\nsystem 'nope'\n".toList

def viewBlanked : View := fun p =>
  if p.text = ("/w/lib/own.rb" : Text) then .ok (.file (10 :: otherLines) false) else view p

theorem ownLineBlanked : Blanked "own" (ownLine ++ 10 :: otherLines) (10 :: otherLines) := by
  have unmarked : ∀ x ∈ ownLine, (x == 10) = false := by decide +kernel
  have read : Text.decode? (Emission.unended ownLine) = some "require 'own/version'".toList := by
    decide +kernel
  have required : Line.match? "require 'own/version'".toList =
      some (ReferenceKind.library, ("own/version" : Text)) := by decide +kernel
  have own : RequiresOwn "own" (Emission.unended ownLine) :=
    ⟨read, required, .inr ⟨"version", rfl⟩⟩
  have empty : Emission.IsBlankLine (Emission.unended []) := Emission.emptyBlank
  exact .line unmarked (by simp) own empty (.same otherLines)

theorem viewsBlanked (path : Path) : BlankedNode "own" (view path) (viewBlanked path) := by
  unfold viewBlanked
  split
  · rename_i named
    have there : view path = .ok (.file (ownLine ++ 10 :: otherLines) false) := by
      unfold view
      rw [named]
      decide +kernel
    rw [there]
    exact .file ownLineBlanked false
  · exact .same _

end Sample

theorem Survey.sampleWithoutOwn :
    (∀ path, Emission.BlankedNode "own" (Sample.view path) (Sample.viewBlanked path)) ∧
    run { Sample.subject with view := Sample.viewBlanked }
        (.steady (Sample.locate "7.2") Sample.ask) "which" (.ok Sample.tracked) =
      run Sample.subject (.steady (Sample.locate "7.2") Sample.ask) "which" (.ok Sample.tracked) ∧
    ∃ past later,
      (run Sample.subject (.steady (Sample.locate "7.2") Sample.ask) "which"
        (.ok Sample.tracked)).session.calls = past ++ .locate "json" :: later ∧
      Sample.report.buckets.Has .distributed
        (Library.foundAt (.steady (Sample.locate "7.2") Sample.ask) past "json") := by
  obtain ⟨_, same, located⟩ := surveyWithoutOwn Sample.subject
    (.steady (Sample.locate "7.2") Sample.ask) "which" (.ok Sample.tracked)
  refine ⟨Sample.viewsBlanked, same _ Sample.viewsBlanked, ?_⟩
  refine located _ _ rfl Sample.reported ⟨.library, "json", "lib/own.rb", .distributed, 3⟩ ?_ rfl ?_
  · decide +kernel
  · rw [← Library.isSelfIff]
    decide +kernel

end GemSurvey
