import GemSurvey.Proofs.Reference.Reading
import GemSurvey.Proofs.Text.Utf8
import GemSurvey.Source.Selection
import Mathlib.Data.List.TakeWhile

/-! What of a file can be read: its lines before the first that fails. A file with no more than
those emits the same, less the one problem that tells of the failure. -/
namespace GemSurvey.Emission
open Text (isText Lined lined)

def soundPart (content : Bytes) : Bytes :=
  let lines := Text.cutBy (· == 10) content
  if lines.all isText then content else (lines.takeWhile isText).flatMap (· ++ [10])

def readable : Except IoFault Node → Except IoFault Node
  | .ok (.file content executable) => .ok (.file (soundPart content) executable)
  | .ok (.broken content executable _) => .ok (.file (soundPart (ended content)) executable)
  | .ok (.locked executable _) => .ok (.file [] executable)
  | .ok .directory | .ok (.sealed _) | .error _ => .ok (.file [] false)

section Content
variable {xs rest content : Bytes}

theorem soundLast (unmarked : ∀ x ∈ xs, (x == 10) = false) :
    soundPart xs = if isText xs then xs else [] := by
  unfold soundPart
  rw [Text.cutByUnmarked unmarked]
  cases text : isText xs <;> simp [text]

theorem soundLine (unmarked : ∀ x ∈ xs, (x == 10) = false) :
    soundPart (xs ++ 10 :: rest) = if isText xs then xs ++ 10 :: soundPart rest else [] := by
  unfold soundPart
  rw [Text.cutByMarked unmarked rfl]
  cases text : isText xs with
  | false => simp [text]
  | true =>
    simp only [List.all_cons, text, Bool.true_and, if_true, List.takeWhile_cons,
      List.flatMap_cons, List.append_assoc, List.singleton_append]
    split <;> rfl

theorem linesOfSound (content : Bytes) :
    byteLines (soundPart content) = (byteLines content).takeWhile isText := by
  unfold byteLines
  induction lined (· == 10) content with
  | @last xs unmarked =>
    rw [soundLast unmarked, Text.linesByLast unmarked]
    cases text : isText xs with
    | false =>
      cases xs with
      | nil => rfl
      | cons x rest => simp [text, Text.linesBy, Text.cutBy]
    | true => cases xs <;> simp [text, Text.linesByLast unmarked]
  | @line xs rest mark unmarked marked tail ih =>
    cases eq_of_beq marked
    rw [soundLine unmarked, Text.linesByLine unmarked marked, List.takeWhile_cons,
      Text.isTextStripped]
    cases isText xs with
    | false => rfl
    | true => simp only [if_true, Text.linesByLine unmarked marked, ih]

theorem soundWhole (text : (byteLines content).all isText = true) : soundPart content = content := by
  unfold byteLines at text
  induction lined (· == 10) content with
  | @last xs unmarked =>
    rw [Text.linesByLast unmarked] at text
    cases xs with
    | nil => rfl
    | cons x rest => rw [soundLast unmarked, if_pos (by simpa using text)]
  | @line xs rest mark unmarked marked tail ih =>
    cases eq_of_beq marked
    rw [Text.linesByLine unmarked marked, List.all_cons, Text.isTextStripped,
      Bool.and_eq_true] at text
    rw [soundLine unmarked, if_pos text.1, ih text.2]

theorem soundIff (content : Bytes) :
    soundPart content = content ↔ (byteLines content).all isText = true := by
  constructor
  · intro same
    have lines := linesOfSound content
    rw [same] at lines
    rw [lines]
    exact List.all_takeWhile
  · exact soundWhole

theorem firstLineLast (unmarked : ∀ x ∈ xs, (x == 10) = false) : Selection.firstLine xs = xs := by
  have whole : xs.takeWhile (· != 10) = xs :=
    List.takeWhile_eq_self_iff.mpr fun x member => by simp [bne, unmarked x member]
  simp [Selection.firstLine, whole]

theorem firstLineLine (unmarked : ∀ x ∈ xs, (x == 10) = false) :
    Selection.firstLine (xs ++ 10 :: rest) = xs ++ [10] := by
  have line : (xs ++ 10 :: rest).takeWhile (· != 10) = xs := by
    rw [List.takeWhile_append_of_pos fun x member => by simp [bne, unmarked x member]]
    simp
  simp [Selection.firstLine, line]

theorem endedLine (xs rest : Bytes) : ended (xs ++ 10 :: rest) = xs ++ 10 :: ended rest := by
  unfold ended
  rw [List.reverse_append, List.reverse_cons, List.append_assoc, List.dropWhile_append]
  split
  · rename_i none
    simp [List.isEmpty_iff.mp none]
  · simp

theorem firstLineEnded (marked : content.contains 10 = true) :
    Selection.firstLine (ended content) = Selection.firstLine content := by
  cases lined (· == 10) content with
  | last unmarked =>
    exact absurd (unmarked 10 (by simpa using marked)) (by decide)
  | line unmarked mark =>
    cases eq_of_beq mark
    rw [endedLine, firstLineLine unmarked, firstLineLine unmarked]

theorem firstLineSound (text : isText (Selection.firstLine content) = true) :
    Selection.firstLine (soundPart content) = Selection.firstLine content := by
  cases lined (· == 10) content with
  | last unmarked =>
    rw [firstLineLast unmarked] at text
    rw [soundLast unmarked, if_pos text]
  | line unmarked mark =>
    cases eq_of_beq mark
    rw [firstLineLine unmarked, Text.isTextSnoc _ (by decide)] at text
    rw [soundLine unmarked, if_pos text, firstLineLine unmarked, firstLineLine unmarked]

end Content

theorem fromLinesSound (file : SourceFile) (ending : Option IoFault) (number : Nat)
    (lines : List Bytes) :
    ∃ lost : List Diagnostic,
      fromLines file ending number lines =
        fromLines file none number (lines.takeWhile isText) ++ lost.map .problem ∧
      lost.map Diagnostic.path =
        if ending = none ∧ lines.all isText then [] else [some file.path] := by
  induction lines generalizing number with
  | nil => cases ending with
    | none => exact ⟨[], by simp [fromLines], by simp⟩
    | some cause =>
      exact ⟨[.about file.path (atLine number cause.message)], by simp [fromLines], by
        simp [Diagnostic.about]⟩
  | cons line rest ih =>
    cases decoded : Text.decode? line with
    | none =>
      have broken : isText line = false := by simp [isText, decoded]
      exact ⟨[.about file.path (atLine number IoFault.notText.message)], by
        simp [fromLines, decoded, broken], by simp [broken, Diagnostic.about]⟩
    | some t =>
      have text : isText line = true := by simp [isText, decoded]
      obtain ⟨lost, same, paths⟩ := ih (number + 1)
      exact ⟨lost, by simp [fromLines, decoded, text, same], by simpa [text] using paths⟩

theorem fromFileReadable {view view' : View} {root : Path} {file : SourceFile}
    (mended : view' (root.join file.path) = readable (view (root.join file.path))) :
    ∃ lost : List Diagnostic,
      fromFile view root file = fromFile view' root file ++ lost.map .problem ∧
      lost.map Diagnostic.path =
        if view' (root.join file.path) = view (root.join file.path) then []
        else [some file.path] := by
  rw [fromFileLines, fromFileLines, mended]
  match view (root.join file.path) with
  | .ok (.file content executable) =>
    obtain ⟨lost, same, paths⟩ := fromLinesSound file none 1 (byteLines content)
    refine ⟨lost, by simpa only [readable, linesOfSound] using same, ?_⟩
    simpa [readable, soundIff] using paths
  | .ok (.broken content executable cause) =>
    obtain ⟨lost, same, paths⟩ := fromLinesSound file (some cause) 1 (byteLines (ended content))
    exact ⟨lost, by simpa only [readable, linesOfSound] using same, by simpa [readable] using paths⟩
  | .ok .directory =>
    exact fromLinesSound file (some .isDirectory) 1 []
  | .ok (.sealed cause) =>
    exact ⟨[.about file.path cause.message], rfl, rfl⟩
  | .ok (.locked executable cause) =>
    exact ⟨[.about file.path cause.message], rfl, rfl⟩
  | .error cause =>
    exact ⟨[.about file.path cause.message], rfl, rfl⟩

end GemSurvey.Emission
