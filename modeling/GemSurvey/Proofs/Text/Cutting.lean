import GemSurvey.Text.Basic

/-! Where a list is cut: at each marked element and nowhere else. -/
namespace GemSurvey.Text

variable {α : Type} {p ret : α → Bool}

theorem unmarkedIff [BEq α] [LawfulBEq α] {xs : List α} {mark : α} :
    (∀ x ∈ xs, (x == mark) = false) ↔ mark ∉ xs := by
  constructor
  · intro unmarked member
    simpa using unmarked mark member
  · intro unmarked x member
    exact beq_false_of_ne fun same => unmarked (same ▸ member)

theorem joinOne (mark t : Text) : join mark [t] = t := by simp [join]

theorem joinCons (mark first second : Text) (others : List Text) :
    join mark (first :: second :: others) = first ++ (mark ++ join mark (second :: others)) := by
  simp [join, List.intercalate_cons_cons]

theorem joinPart {mark part : Text} {parts : List Text} (more : parts ≠ []) :
    join mark (part :: parts) = part ++ (mark ++ join mark parts) := by
  obtain ⟨next, rest, rfl⟩ := List.exists_cons_of_ne_nil more
  exact joinCons mark part next rest

theorem cutByOther {x : α} (unmarked : p x = false) (xs : List α) :
    cutBy p (x :: xs) = (cutBy p xs).modifyHead (x :: ·) := by
  rw [cutBy, unmarked]
  cases pieces : cutBy p xs with
  | nil => exact absurd pieces (cutByNonempty p xs)
  | cons piece others => rfl

theorem cutByUnmarked {xs : List α} (unmarked : ∀ x ∈ xs, p x = false) : cutBy p xs = [xs] := by
  induction xs with
  | nil => rfl
  | cons x rest ih =>
    have tail := ih fun y member => unmarked y (List.mem_cons_of_mem _ member)
    simp [cutBy, unmarked x List.mem_cons_self, tail]

theorem cutByAppend (xs rest : List α) {mark : α} (marked : p mark = true) :
    cutBy p (xs ++ mark :: rest) = cutBy p xs ++ cutBy p rest := by
  induction xs with
  | nil => simp [cutBy, marked]
  | cons x before ih =>
    simp only [List.cons_append, cutBy, ih]
    cases pieces : cutBy p before with
    | nil => exact absurd pieces (cutByNonempty p before)
    | cons piece others => cases p x <;> rfl

theorem cutByMarked {xs rest : List α} {mark : α} (unmarked : ∀ x ∈ xs, p x = false)
    (marked : p mark = true) : cutBy p (xs ++ mark :: rest) = xs :: cutBy p rest := by
  rw [cutByAppend xs rest marked, cutByUnmarked unmarked]
  rfl

theorem cutByPieces {xs piece : List α} (member : piece ∈ cutBy p xs) :
    ∀ x ∈ piece, p x = false := by
  induction xs generalizing piece with
  | nil => simp_all [cutBy]
  | cons x rest ih =>
    rw [cutBy] at member
    split at member
    · rcases List.mem_cons.mp member with rfl | later
      · simp
      · exact ih later
    · rename_i unmarked
      cases pieces : cutBy p rest with
      | nil => exact absurd pieces (cutByNonempty p rest)
      | cons first others =>
        rw [pieces] at member ih
        rcases List.mem_cons.mp member with rfl | later
        · have tail := ih List.mem_cons_self
          simpa [unmarked] using tail
        · exact ih (List.mem_cons_of_mem _ later)

theorem dropLastForm (ret : α → Bool) (xs : List α) :
    dropLastIf ret xs = xs ∨ ∃ last, ret last = true ∧ xs = dropLastIf ret xs ++ [last] := by
  unfold dropLastIf
  split
  · rename_i ends
    obtain ⟨last, same, dropped⟩ := Option.any_eq_true _ _ |>.mp ends
    obtain ⟨start, rfl⟩ := List.getLast?_eq_some_iff.mp same
    exact .inr ⟨last, dropped, by rw [List.dropLast_concat]⟩
  · exact .inl rfl

inductive Lined (p : α → Bool) : List α → Prop where
  | last {xs} (unmarked : ∀ x ∈ xs, p x = false) : Lined p xs
  | line {xs rest mark} (unmarked : ∀ x ∈ xs, p x = false) (marked : p mark = true)
      (tail : Lined p rest) : Lined p (xs ++ mark :: rest)

theorem linedFrom (before xs : List α) (unmarked : ∀ x ∈ before, p x = false) :
    Lined p (before ++ xs) := by
  induction xs generalizing before with
  | nil => exact .last (by simpa using unmarked)
  | cons x rest ih =>
    cases marked : p x with
    | true => exact .line unmarked marked (ih [] (by simp))
    | false =>
      have longer := ih (before ++ [x]) (by
        simpa [or_imp, forall_and] using And.intro unmarked marked)
      simpa using longer

theorem lined (p : α → Bool) (xs : List α) : Lined p xs := linedFrom [] xs (by simp)

theorem linesByLast {xs : List α} (unmarked : ∀ x ∈ xs, p x = false) :
    linesBy p ret xs = if xs.isEmpty then [] else [xs] := by
  unfold linesBy
  rw [cutByUnmarked unmarked]
  cases xs <;> rfl

theorem linesByLine {xs rest : List α} {mark : α} (unmarked : ∀ x ∈ xs, p x = false)
    (marked : p mark = true) :
    linesBy p ret (xs ++ mark :: rest) = dropLastIf ret xs :: linesBy p ret rest := by
  unfold linesBy
  rw [cutByMarked unmarked marked]
  cases pieces : cutBy p rest with
  | nil => exact absurd pieces (cutByNonempty p rest)
  | cons piece others =>
    simp only [List.dropLast_cons_cons, List.map_cons, List.getLast?_cons_cons]
    split <;> rfl

end GemSurvey.Text
