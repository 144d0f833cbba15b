import GemSurvey.Proofs.Reference.Readable
import GemSurvey.Proofs.Source.Selection
import GemSurvey.Proofs.Survey.Run

/-! A subject whose files hold no more than what of them can be read. The same files are selected
there, and they emit the same but for one problem less with each file that fails. -/
namespace GemSurvey

theorem Path.joinInj {p q q' : Path} (relative : q.isAbsolute = false)
    (relative' : q'.isAbsolute = false) (same : p.join q = p.join q') : q = q' := by
  cases q
  cases q'
  unfold join at same
  simp only [relative, relative', Bool.false_eq_true, false_or] at same
  split at same
  · exact same
  · split at same <;> simpa using same

namespace Selection
open Emission (readable soundPart ended)

variable {scan : ScanSettings} {view view' : View} {root path : Path} {content : Bytes}
  {kind : Option SourceKind}

theorem kindOfSound (judged : kindOf scan content = .ok kind) :
    kindOf scan (soundPart content) = .ok kind := by
  have text : Text.isText (firstLine content) = true := by
    unfold kindOf readsAsScript at judged
    cases decoded : Text.decode? (firstLine content) with
    | none => simp [decoded, Except.map] at judged
    | some line => simp [Text.isText, decoded]
  unfold kindOf readsAsScript at judged ⊢
  rwa [Emission.firstLineSound text]

theorem kindOfEnded (marked : content.contains 10 = true) :
    kindOf scan (ended content) = kindOf scan content := by
  unfold kindOf readsAsScript
  rw [Emission.firstLineEnded marked]

theorem kindReadable {kind : SourceKind}
    (mended : view' (root.join path) = readable (view (root.join path)))
    (judged : kind? scan view root path = .ok (some kind)) :
    kind? scan view' root path = .ok (some kind) := by
  unfold kind? at judged ⊢
  split at judged
  · rename_i suffix
    rwa [if_pos suffix]
  · rename_i other
    rw [if_neg other, mended]
    split at judged
    · rename_i found
      rw [found]
      exact kindOfSound judged
    · cases judged
    · rename_i found
      split at judged
      · rename_i marked
        rw [found]
        exact kindOfSound ((kindOfEnded marked).trans judged)
      · cases judged
    · cases judged

theorem classifyReadable {file : SourceFile}
    (mended : view' (root.join path) = readable (view (root.join path)))
    (judged : classify scan view root path = some (.source file)) :
    classify scan view' root path = some (.source file) := by
  obtain ⟨kind, judged, same⟩ := classifyIff.mp judged
  exact classifyIff.mpr ⟨kind, kindReadable mended judged, same⟩

theorem classifySame (same : view' (root.join path) = view (root.join path)) :
    classify scan view' root path = classify scan view root path := by
  unfold classify kind?
  rw [same]

end Selection

inductive Less : List Emitted → List Emitted → List Diagnostic → Prop where
  | done : Less [] [] []
  | kept {items fewer lost} (e : Emitted) (tail : Less items fewer lost) :
      Less (e :: items) (e :: fewer) lost
  | lost {items fewer lost} (d : Diagnostic) (tail : Less items fewer lost) :
      Less (.problem d :: items) fewer (d :: lost)

namespace Less

theorem refl (items : List Emitted) : Less items items [] := by
  induction items with
  | nil => exact .done
  | cons e rest ih => exact .kept e ih

theorem problems (lost : List Diagnostic) : Less (lost.map .problem) [] lost := by
  induction lost with
  | nil => exact .done
  | cons d rest ih => exact .lost d ih

theorem append {xs xs' ys ys' lost lost'} (first : Less xs xs' lost) (second : Less ys ys' lost') :
    Less (xs ++ ys) (xs' ++ ys') (lost ++ lost') := by
  induction first with
  | done => exact second
  | kept e _ ih => exact .kept e ih
  | lost d _ ih => exact .lost d ih

end Less

/-- Each selected file holds what of it can be read, and the other tracked paths lead where they
led. -/
structure Mended (subject : Subject) (tracked : List Path) (view : View) : Prop where
  sources : ∀ file ∈ Selection.files (subject.select tracked),
    view (subject.root.join file.path) =
      Emission.readable (subject.view (subject.root.join file.path))
  others : ∀ path ∈ tracked,
    path ∉ (Selection.files (subject.select tracked)).map SourceFile.path →
    view (subject.root.join path) = subject.view (subject.root.join path)

def Subject.mend (subject : Subject) (tracked : List Path) : View := fun p =>
  if p ∈ (Selection.files (subject.select tracked)).map (subject.root.join ·.path) then
    Emission.readable (subject.view p)
  else subject.view p

def Subject.changed (subject : Subject) (tracked : List Path) (view : View) : List SourceFile :=
  (Selection.files (subject.select tracked)).filter fun file =>
    view (subject.root.join file.path) ≠ subject.view (subject.root.join file.path)

namespace Mended

variable {subject : Subject} {tracked : List Path} {view : View}

theorem mends (relative : ∀ path ∈ tracked, path.isAbsolute = false) :
    Mended subject tracked (subject.mend tracked) where
  sources file member := if_pos (List.mem_map.mpr ⟨file, member, rfl⟩)
  others path listed unselected := by
    refine if_neg fun led => unselected ?_
    obtain ⟨file, member, same⟩ := List.mem_map.mp led
    obtain ⟨path', listed', judged⟩ := Selection.memFiles.mp member
    have relative' : file.path.isAbsolute = false := by
      rw [Selection.classifyPath judged]
      exact relative path' listed'
    exact List.mem_map.mpr ⟨file, member, Path.joinInj relative' (relative path listed) same⟩

theorem selects (h : Mended subject tracked view) :
    { subject with view := view }.select tracked = subject.select tracked := by
  refine List.filterMap_congr fun path listed => ?_
  by_cases source : ∃ file,
      Selection.classify subject.scan subject.view subject.root path = some (.source file)
  · obtain ⟨file, judged⟩ := source
    have mended := h.sources file (Selection.memFiles.mpr ⟨path, listed, judged⟩)
    rw [Selection.classifyPath judged] at mended
    exact (Selection.classifyReadable mended judged).trans judged.symm
  · refine Selection.classifySame (h.others path listed fun selected => source ?_)
    obtain ⟨file, member, rfl⟩ := List.mem_map.mp selected
    obtain ⟨path, _, judged⟩ := Selection.memFiles.mp member
    exact ⟨file, Selection.classifyPath judged ▸ judged⟩

theorem emits (h : Mended subject tracked view) {files : List SourceFile}
    (selected : ∀ file ∈ files, file ∈ Selection.files (subject.select tracked)) :
    ∃ lost, Less (files.flatMap subject.emitted)
        (files.flatMap { subject with view := view }.emitted) lost ∧
      lost.map Diagnostic.path = (files.filter fun file =>
        view (subject.root.join file.path) ≠ subject.view (subject.root.join file.path)).map
          (some ·.path) := by
  induction files with
  | nil => exact ⟨[], .done, rfl⟩
  | cons file rest ih =>
    obtain ⟨later, less, paths⟩ := ih fun file member => selected file (List.mem_cons_of_mem _ member)
    obtain ⟨lost, same, path⟩ := Emission.fromFileReadable (h.sources file (selected file List.mem_cons_self))
    have here : Less (subject.emitted file) ({ subject with view := view }.emitted file) lost := by
      simpa [Subject.emitted, same] using (Less.refl _).append (.problems lost)
    refine ⟨lost ++ later, here.append less, ?_⟩
    rw [List.map_append, path, paths, List.filter_cons]
    by_cases unchanged :
        view (subject.root.join file.path) = subject.view (subject.root.join file.path) <;>
      simp [unchanged]

theorem items (h : Mended subject tracked view) :
    ∃ lost, Less (subject.items tracked) ({ subject with view := view }.items tracked) lost ∧
      lost.map Diagnostic.path = (subject.changed tracked view).map (some ·.path) := by
  unfold Subject.items
  rw [h.selects]
  exact h.emits fun _ => id

end Mended
end GemSurvey
