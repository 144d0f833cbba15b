import GemSurvey.Source.Selection
import Mathlib.Data.List.Basic

/-! Which files are selected: those of the tracked paths that are judged to be sources, each with
its path and the role that the path gives it. -/
namespace GemSurvey.Selection

variable {scan : ScanSettings} {view : View} {root path : Path} {file : SourceFile}

theorem classifyIff : classify scan view root path = some (.source file) ↔
    ∃ kind, kind? scan view root path = .ok (some kind) ∧
      file = ⟨path, roleOf scan path, kind⟩ := by
  unfold classify
  rcases kind? scan view root path with cause | _ | kind <;> simp [eq_comm]

theorem classifyPath (judged : classify scan view root path = some (.source file)) :
    file.path = path := by
  obtain ⟨_, _, rfl⟩ := classifyIff.mp judged
  rfl

theorem classifyRole (judged : classify scan view root path = some (.source file)) :
    file.role = roleOf scan path := by
  obtain ⟨_, _, rfl⟩ := classifyIff.mp judged
  rfl

theorem memFiles {tracked : List Path} : file ∈ files (select scan view root tracked) ↔
    ∃ path ∈ tracked, classify scan view root path = some (.source file) := by
  unfold files select
  simp only [List.mem_filterMap]
  constructor
  · rintro ⟨selected, ⟨path, listed, judged⟩, source⟩
    match selected, source with
    | .source _, rfl => exact ⟨path, listed, judged⟩
  · rintro ⟨path, listed, judged⟩
    exact ⟨.source file, ⟨path, listed, judged⟩, rfl⟩

theorem filesOfRole (scan : ScanSettings) (view : View) (root : Path) (role : Role)
    (tracked : List Path) :
    files (select scan view root (tracked.filter fun path => roleOf scan path = role)) =
      (files (select scan view root tracked)).filter fun file => file.role = role := by
  simp only [files, select, List.filterMap_filterMap, List.filter_filterMap, List.filterMap_filter]
  refine List.filterMap_congr fun path _ => ?_
  cases judged : classify scan view root path with
  | none => simp
  | some selected => cases selected with
    | refused problem => simp
    | source file =>
      have same : file.role = roleOf scan path := classifyRole judged
      by_cases wanted : roleOf scan path = role <;> simp [same, wanted, Option.filter]

end GemSurvey.Selection
