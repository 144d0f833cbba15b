import GemSurvey.Proofs.Reference.Blanked
import GemSurvey.Proofs.Source.Selection

/-! Selection where lines that require the package's own files are made blank. Such a line opens
no script, nor does a blank one, so that every path is judged as before. -/
namespace GemSurvey

theorem Shebang.unnamed {t : Text} (start : t.head? ≠ some '#') (runtime : Text) :
    names runtime (Text.trimEnd t) = false := by
  obtain ⟨lost, same⟩ := Text.trimEndStarts t
  cases kept : Text.trimEnd t with
  | nil => rfl
  | cons c rest =>
    have other : c ≠ '#' := by
      rintro rfl
      rw [← same, kept] at start
      exact start rfl
    unfold names
    split
    · rename_i begins
      exact absurd (List.cons.inj begins).1 other
    · rfl

namespace Emission
open Text (isBlank)

def OpensNothing (line : Bytes) : Prop := ∃ t, Text.decode? line = some t ∧ t.head? ≠ some '#'

variable {package : Text} {line : Bytes}

theorem ownOpens (own : RequiresOwn package line) : OpensNothing line := by
  obtain ⟨read, required, _⟩ := own
  exact ⟨_, read, Line.requiredBegins (Line.libraryRequired required)⟩

theorem blankOpens (empty : IsBlankLine line) : OpensNothing line := by
  obtain ⟨t, read, blank⟩ := empty
  exact ⟨t, read, fun start =>
    Line.notBlank blank (by decide +kernel) '#' (List.mem_of_mem_head? start) rfl⟩

theorem opensSnoc {last : UInt8} (lower : last.toNat < 0x80) (other : Char.ofNat last.toNat ≠ '#')
    (plain : OpensNothing line) : OpensNothing (line ++ [last]) := by
  obtain ⟨t, read, start⟩ := plain
  refine ⟨_, by rw [Text.decodeSnoc line lower, read, Option.map_some], ?_⟩
  cases t with
  | nil => simpa using other
  | cons c rest => exact start

theorem endedOpens (plain : OpensNothing (unended line)) : OpensNothing (line ++ [10]) := by
  refine opensSnoc (by decide) (by decide) ?_
  rcases Text.dropLastForm (· == 13) line with same | ⟨last, ret, same⟩
  · exact same ▸ plain
  · cases eq_of_beq ret
    rw [same]
    exact opensSnoc (by decide) (by decide) plain

end Emission

namespace Selection
open Emission (Blanked BlankedNode)

variable {scan : ScanSettings} {package : Text} {view view' : View} {root path : Path}
  {content content' : Bytes}

theorem kindPlain (plain : Emission.OpensNothing (firstLine content)) :
    kindOf scan content = .ok none := by
  obtain ⟨t, read, start⟩ := plain
  simp [kindOf, readsAsScript, read, Shebang.unnamed start, Except.map]

theorem kindBlanked (h : Blanked package content content') :
    kindOf scan content = kindOf scan content' := by
  cases h with
  | same => rfl
  | kept unmarked tail =>
    unfold kindOf readsAsScript
    rw [Emission.firstLineLine unmarked, Emission.firstLineLine unmarked]
  | line unmarked unmarked' own empty tail =>
    rw [kindPlain, kindPlain]
    · rw [Emission.firstLineLine unmarked']
      exact Emission.endedOpens (Emission.blankOpens empty)
    · rw [Emission.firstLineLine unmarked]
      exact Emission.endedOpens (Emission.ownOpens own)
  | last unmarked unmarked' own empty =>
    rw [kindPlain, kindPlain]
    · rw [Emission.firstLineLast unmarked']
      exact Emission.blankOpens empty
    · rw [Emission.firstLineLast unmarked]
      exact Emission.ownOpens own

theorem markedBlanked (h : Blanked package content content') :
    content.contains 10 = content'.contains 10 := by
  have none {xs : Bytes} (unmarked : ∀ x ∈ xs, (x == 10) = false) : xs.contains 10 = false := by
    rw [List.contains_eq_any_beq, List.any_eq_false]
    intro x member marked
    rw [beq_iff_eq] at marked
    exact absurd (unmarked x member) (by simp [← marked])
  cases h with
  | same => rfl
  | kept => simp
  | line => simp
  | last unmarked unmarked' => rw [none unmarked, none unmarked']

theorem classifyBlanked (h : BlankedNode package (view (root.join path)) (view' (root.join path))) :
    classify scan view root path = classify scan view' root path := by
  unfold classify kind?
  generalize view (root.join path) = found at h
  generalize view' (root.join path) = found' at h
  cases h with
  | same => rfl
  | file blanked executable => cases executable with
    | false => rfl
    | true => simp only [kindBlanked blanked]
  | broken blanked executable cause => cases executable with
    | false => rfl
    | true => simp only [kindBlanked blanked, markedBlanked blanked]

theorem selectBlanked
    (h : ∀ path, BlankedNode package (view (root.join path)) (view' (root.join path)))
    (tracked : List Path) : select scan view root tracked = select scan view' root tracked :=
  List.filterMap_congr fun path _ => classifyBlanked (h path)

end Selection
end GemSurvey
