import GemSurvey.Text.CharClass

/-! What a text begins with: a given start, a run of characters of one class, or what is left of
it when its end is trimmed. -/
namespace GemSurvey.Text

theorem eachOf {p : Char → Prop} [DecidablePred p] {t : Text} (each : (t.all fun c => p c) = true) :
    ∀ c ∈ t, p c :=
  fun c member => of_decide_eq_true (List.all_eq_true.mp each c member)

theorem afterIff {start t rest : Text} : after? start t = some rest ↔ t = start ++ rest := by
  induction start generalizing t with
  | nil => simp [after?]
  | cons x start ih => cases t with
    | nil => simp [after?]
    | cons c t =>
      by_cases same : x = c
      · simp [after?, same, ih]
      · simp [after?, same, Ne.symm same]

theorem afterStart (start rest : Text) : after? start (start ++ rest) = some rest :=
  afterIff.mpr rfl

theorem afterApart {start t : Text} (apart : ¬ start <+: t ∧ ¬ t <+: start) (rest : Text) :
    after? start (t ++ rest) = none := by
  refine Option.eq_none_iff_forall_ne_some.mpr fun left found => ?_
  have begun : start <+: t ++ rest := ⟨left, (afterIff.mp found).symm⟩
  have begun' : t <+: t ++ rest := List.prefix_append t rest
  rcases Nat.le_total start.length t.length with short | long
  · exact apart.1 (List.prefix_of_prefix_length_le begun begun' short)
  · exact apart.2 (List.prefix_of_prefix_length_le begun' begun long)

theorem headStart {p : Char → Bool} {start : Text} (outside : start.head?.map p = some false)
    (rest : Text) : (start ++ rest).head?.any p = false := by
  cases start with
  | nil => cases outside
  | cons c more => simpa using outside

section
variable {α : Type} {p : α → Bool}

theorem runTaken {run rest : List α} (all : ∀ x ∈ run, p x = true)
    (ends : rest.head?.any p = false) :
    (run ++ rest).takeWhile p = run ∧ (run ++ rest).dropWhile p = rest := by
  rw [List.takeWhile_append_of_pos all, List.dropWhile_append_of_pos all]
  cases rest with
  | nil => simp
  | cons x rest =>
    have other : ¬ p x = true := by simpa using ends
    rw [List.takeWhile_cons_of_neg other, List.dropWhile_cons_of_neg other, List.append_nil]
    exact ⟨rfl, rfl⟩

theorem runEnds (p : α → Bool) (xs : List α) : (xs.dropWhile p).head?.any p = false := by
  have head := List.head?_dropWhile_not p xs
  cases found : (xs.dropWhile p).head? with
  | none => rfl
  | some x => simpa [found] using head

theorem runMarked {mark : α} (outside : p mark = false) (xs rest : List α) :
    (xs ++ mark :: rest).takeWhile p = xs.takeWhile p ∧
      (xs ++ mark :: rest).dropWhile p = xs.dropWhile p ++ mark :: rest := by
  induction xs with
  | nil => simp [outside]
  | cons x others ih => cases inside : p x <;> simp [inside, ih]

theorem headMarked {mark : α} (outside : p mark = false) (xs rest : List α) :
    (xs ++ mark :: rest).head?.any p = xs.head?.any p := by
  cases xs with
  | nil => simp [outside]
  | cons x others => rfl

theorem runAll (p : α → Bool) (xs : List α) : ∀ x ∈ xs.takeWhile p, p x = true :=
  fun _ member => List.all_eq_true.mp List.all_takeWhile _ member

end

theorem dividedPast {start rest before t : Text} {c : Char} (same : start ++ c :: rest = before ++ t)
    (longer : start.length < before.length) : ∃ more, before = start ++ c :: more := by
  obtain ⟨more, rfl⟩ := (List.prefix_of_prefix_length_le ⟨c :: rest, same⟩ (List.prefix_append _ _)
    (Nat.le_of_lt longer))
  rw [List.append_assoc] at same
  cases more with
  | nil => simp at longer
  | cons d more =>
    have head := List.append_cancel_left same
    cases (List.cons.inj head).1
    exact ⟨more, rfl⟩

theorem trimEndStarts (t : Text) : trimEnd t <+: t := by
  have kept : t.reverse.dropWhile isBlank <:+ t.reverse := List.dropWhile_suffix isBlank
  have start := List.reverse_prefix.mpr kept
  rwa [List.reverse_reverse] at start

end GemSurvey.Text
