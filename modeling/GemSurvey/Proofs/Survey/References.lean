import GemSurvey.Proofs.Reference.Reading
import GemSurvey.Proofs.Source.Selection
import GemSurvey.Proofs.Survey.Run

/-! What files emit. Each reference has the role of its file and the kind and name that some line gives
it. The role of a file is that of its path, so the files of a role give the references of that role, and
in the same order. -/
namespace GemSurvey.Emission

structure ComesFrom (file : SourceFile) (r : Reference) : Prop where
  role : r.role = file.role
  written : ∃ line, Line.match? line = some (r.kind, r.name)

theorem fromLineOrigin {file number line r} (h : .reference r ∈ fromLine file number line) :
    ComesFrom file r := by
  unfold fromLine at h
  split at h
  · rename_i matched
    cases List.mem_singleton.mp h
    exact ⟨rfl, line, matched⟩
  · cases h

theorem fromLinesOrigin {file ending number lines r}
    (h : .reference r ∈ fromLines file ending number lines) : ComesFrom file r := by
  induction lines generalizing number with
  | nil => cases ending <;> simp [fromLines] at h
  | cons line rest ih =>
    rw [fromLines] at h
    split at h
    · rcases List.mem_append.mp h with here | later
      · exact fromLineOrigin here
      · exact ih later
    · simp at h

theorem fromFileOrigin {view root file r} (h : .reference r ∈ fromFile view root file) :
    ComesFrom file r := by
  rw [fromFileLines] at h
  split at h
  · exact fromLinesOrigin h
  · exact fromLinesOrigin h
  · exact fromLinesOrigin h
  all_goals simp at h

end GemSurvey.Emission

namespace GemSurvey
namespace Subject

def ofRole (subject : Subject) (role : Role) (tracked : List Path) : List Path :=
  tracked.filter fun path => Selection.roleOf subject.scan path = role

theorem emittedOrigin {subject : Subject} {file : SourceFile} {r}
    (h : r ∈ (subject.emitted file).filterMap Emitted.reference?) :
    Emission.ComesFrom file r := by
  obtain ⟨e, there, same⟩ := List.mem_filterMap.mp h
  match e, same with
  | .reference _, rfl => exact Emission.fromFileOrigin there

theorem written {subject : Subject} {tracked : List Path} {r}
    (h : r ∈ subject.references tracked) :
    ∃ line, Line.match? line = some (r.kind, r.name) := by
  rw [references, items, List.filterMap_flatMap] at h
  obtain ⟨file, _, there⟩ := List.mem_flatMap.mp h
  exact (emittedOrigin there).written

theorem referencesOfRole (subject : Subject) (role : Role) (tracked : List Path) :
    subject.references (subject.ofRole role tracked) =
      (subject.references tracked).filter fun r => r.role = role := by
  simp only [references, items, ofRole, select, Selection.filesOfRole]
  generalize Selection.files
    (Selection.select subject.scan subject.view subject.root tracked) = files
  induction files with
  | nil => rfl
  | cons file rest ih =>
    simp only [List.flatMap_cons, List.filterMap_append, List.filter_append, ← ih]
    by_cases wanted : file.role = role
    · have all : ((subject.emitted file).filterMap Emitted.reference?).filter
          (fun r => r.role = role) = (subject.emitted file).filterMap Emitted.reference? :=
        List.filter_eq_self.mpr fun r there => by simpa using (emittedOrigin there).role.trans wanted
      simp [wanted, all]
    · have none : ((subject.emitted file).filterMap Emitted.reference?).filter
          (fun r => r.role = role) = [] :=
        List.filter_eq_nil_iff.mpr fun r there => by simpa [(emittedOrigin there).role] using wanted
      simp [wanted, none]

end Subject
end GemSurvey
