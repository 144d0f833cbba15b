import GemSurvey.Proofs.Text.Cutting
import GemSurvey.Proofs.Text.Trim

/-! The words of a text, the last of them, and its first line. A word is a run of characters between
blanks; the first line is that of the first character that shows, without the blanks on its two
sides. -/
namespace GemSurvey.Text

def Blank (t : Text) : Prop := ∀ c ∈ t, isBlank c = true

section Words

theorem wordsMarked {c : Char} (blank : isBlank c = true) (s t : Text) :
    words (s ++ c :: t) = words s ++ words t := by
  unfold words
  rw [cutByAppend s t blank, List.filter_append]

theorem wordsBlank {t : Text} (blank : Blank t) : words t = [] := by
  induction t with
  | nil => rfl
  | cons c rest ih =>
    have tail := ih fun d member => blank d (List.mem_cons_of_mem _ member)
    rw [show c :: rest = [] ++ c :: rest from rfl, wordsMarked (blank c List.mem_cons_self), tail]
    rfl

theorem wordsShown {word : Text} (shown : ∀ c ∈ word, isBlank c = false) (some : word ≠ []) :
    words word = [word] := by
  unfold words
  rw [cutByUnmarked shown]
  simp [some]

theorem wordsApart {s t : Text}
    (apart : (∀ c ∈ s.getLast?, isBlank c = true) ∨ ∀ c ∈ t.head?, isBlank c = true) :
    words (s ++ t) = words s ++ words t := by
  have none : words [] = [] := rfl
  rcases apart with ends | begins
  · cases s using List.reverseRecOn with
    | nil => rw [List.nil_append, none, List.nil_append]
    | append_singleton start c _ =>
      have blank := ends c List.getLast?_concat
      rw [wordsMarked blank start [], none, List.append_nil, List.append_assoc]
      exact wordsMarked blank start t
  · cases t with
    | nil => rw [List.append_nil, none, List.append_nil]
    | cons c rest =>
      have blank := begins c rfl
      have first : words (c :: rest) = words rest := wordsMarked blank [] rest
      rw [wordsMarked blank, first]

/-- How a text spells words: each is a run of characters that show, and blanks stand before,
after and between them. -/
inductive Spells : List Text → Text → Prop where
  | blank {gap} (blank : Blank gap) : Spells [] gap
  | word {gap word rest others} (blank : Blank gap) (some : word ≠ [])
      (shown : ∀ c ∈ word, isBlank c = false) (next : ∀ c ∈ rest.head?, isBlank c = true)
      (tail : Spells others rest) : Spells (word :: others) (gap ++ (word ++ rest))

theorem Spells.found {spelled : List Text} {t : Text} (spells : Spells spelled t) :
    words t = spelled := by
  induction spells with
  | blank blank => exact wordsBlank blank
  | word blank some shown next tail ih =>
    rw [wordsApart (.inl fun c last => blank c (List.mem_of_getLast? last)), wordsBlank blank,
      List.nil_append, wordsApart (.inr next), wordsShown shown some, ih, List.singleton_append]

theorem Spells.padded {spelled : List Text} {t : Text} {c : Char} (spells : Spells spelled t)
    (first : isBlank c = true) : Spells spelled (c :: t) := by
  cases spells with
  | blank blank => exact .blank (List.forall_mem_cons.mpr ⟨first, blank⟩)
  | word blank some shown next tail =>
    rw [← List.cons_append]
    exact .word (List.forall_mem_cons.mpr ⟨first, blank⟩) some shown next tail

theorem spelledSome (t : Text) : ∃ spelled, Spells spelled t := by
  induction t with
  | nil => exact ⟨[], .blank fun c none => by cases none⟩
  | cons c rest ih =>
    obtain ⟨spelled, spells⟩ := ih
    cases first : isBlank c with
    | true => exact ⟨spelled, spells.padded first⟩
    | false =>
      have begins : Blank [] := fun d none => by cases none
      have alone : ∀ d ∈ [c], isBlank d = false := by simpa using first
      cases spells with
      | blank blank =>
        exact ⟨[[c]], @Spells.word [] [c] rest [] begins (by simp) alone
          (fun d head => blank d (List.mem_of_head? head)) (.blank blank)⟩
      | @word gap word rest others blank some shown next tail =>
        cases gap with
        | nil =>
          exact ⟨(c :: word) :: others, @Spells.word [] (c :: word) rest others begins (by simp)
            (List.forall_mem_cons.mpr ⟨first, shown⟩) next tail⟩
        | cons d gap =>
          exact ⟨[c] :: word :: others, @Spells.word [] [c] _ _ begins (by simp) alone
            (by simpa using blank d List.mem_cons_self) (.word blank some shown next tail)⟩

theorem spellsIff {spelled : List Text} {t : Text} : words t = spelled ↔ Spells spelled t := by
  refine ⟨fun found => ?_, Spells.found⟩
  obtain ⟨other, spells⟩ := spelledSome t
  cases found.symm.trans spells.found
  exact spells

inductive LastWord (word : Text) : Text → Prop where
  | here {before after : Text} (apart : ∀ c ∈ before.getLast?, isBlank c = true)
      (some : word ≠ []) (shown : ∀ c ∈ word, isBlank c = false) (blank : Blank after) :
      LastWord word (before ++ (word ++ after))

theorem LastWord.found {word t : Text} (last : LastWord word t) : lastWord? t = some word := by
  cases last with
  | here apart some shown blank =>
    unfold lastWord?
    rw [wordsApart (.inl apart), wordsApart (.inr fun c head => blank c (List.mem_of_head? head)),
      wordsShown shown some, wordsBlank blank, List.append_nil, List.getLast?_concat]

theorem LastWord.later {word rest : Text} (last : LastWord word rest)
    (next : ∀ c ∈ rest.head?, isBlank c = true) (t : Text) : LastWord word (t ++ rest) := by
  cases last with
  | @here before after apart some shown blank =>
    rw [← List.append_assoc]
    refine .here (fun c last => ?_) some shown blank
    cases before using List.reverseRecOn with
    | nil =>
      obtain ⟨d, more, rfl⟩ := List.exists_cons_of_ne_nil some
      have same := (next d rfl).symm.trans (shown d List.mem_cons_self)
      cases same
    | append_singleton start d _ =>
      rw [← List.append_assoc, List.getLast?_concat] at last
      exact apart c (List.getLast?_concat.trans last)

theorem Spells.last {spelled : List Text} {t word : Text} (spells : Spells spelled t)
    (last : spelled.getLast? = some word) : LastWord word t := by
  induction spells with
  | blank blank => cases last
  | @word gap first rest others blank some shown next tail ih =>
    cases others with
    | nil =>
      cases last
      cases tail with
      | blank after =>
        exact .here (fun c last => blank c (List.mem_of_getLast? last)) some shown after
    | cons second others =>
      rw [List.getLast?_cons_cons] at last
      rw [← List.append_assoc]
      exact (ih last).later next (gap ++ first)

theorem lastWordIff {t word : Text} : lastWord? t = some word ↔ LastWord word t :=
  ⟨(spellsIff.mp rfl).last, LastWord.found⟩

theorem lastWordNone {t : Text} : lastWord? t = none ↔ Blank t := by
  constructor
  · intro none
    cases spellsIff.mp (List.getLast?_eq_none_iff.mp none) with
    | blank blank => exact blank
  · intro blank
    simp [lastWord?, wordsBlank blank]

end Words

section FirstLine

inductive FirstLine (line : Text) : Text → Prop where
  | here {before gap after : Text} (blank : Blank before) (some : line ≠ [])
      (begins : ∀ c ∈ line.head?, isBlank c = false) (ends : ∀ c ∈ line.getLast?, isBlank c = false)
      (around : Blank gap) (one : '\n' ∉ line ++ gap) (next : ∀ c ∈ after.head?, c = '\n') :
      FirstLine line (before ++ (line ++ (gap ++ after)))

theorem blankOrShows (t : Text) : Blank t ∨ Shows t := by
  by_cases shows : Shows t
  · exact .inr shows
  · refine .inl fun c member => ?_
    cases shown : isBlank c with
    | true => rfl
    | false => exact absurd ⟨c, member, shown⟩ shows

theorem trimEndParts (t : Text) : ∃ gap, t = trimEnd t ++ gap ∧ Blank gap ∧
    ∀ c ∈ (trimEnd t).getLast?, isBlank c = false := by
  refine ⟨(t.reverse.takeWhile isBlank).reverse, ?_, ?_, ?_⟩
  · unfold trimEnd
    rw [← List.reverse_append, List.takeWhile_append_dropWhile, List.reverse_reverse]
  · intro c member
    exact runAll isBlank t.reverse c (List.mem_reverse.mp member)
  · intro c last
    have ends := runEnds isBlank t.reverse
    rw [trimEnd, List.getLast?_reverse] at last
    rw [Option.mem_def.mp last] at ends
    simpa using ends

theorem trimEndBlank (t : Text) {gap : Text} (blank : Blank gap) : trimEnd (t ++ gap) = trimEnd t := by
  unfold trimEnd
  rw [List.reverse_append, List.dropWhile_append_of_pos fun c member =>
    blank c (List.mem_reverse.mp member)]

section
variable {line gap after : Text} (some : line ≠ [])
  (begins : ∀ c ∈ line.head?, isBlank c = false) (ends : ∀ c ∈ line.getLast?, isBlank c = false)
include some begins

theorem trimStartShown (rest : Text) : trimStart (line ++ rest) = line ++ rest := by
  cases line with
  | nil => exact absurd rfl some
  | cons c more =>
    have shown : ¬ isBlank c = true := by simp [begins c rfl]
    exact List.dropWhile_cons_of_neg shown

include ends

theorem trimAround (blank : Blank gap) : trim (line ++ gap) = line := by
  rw [trim, trimStartShown some begins, trimEndBlank line blank, trimEndSame.mpr ends]

omit some begins in
theorem returnDropped (blank : Blank gap) :
    ∃ left, dropLastIf (· == '\r') (line ++ gap) = line ++ left ∧ Blank left := by
  rcases dropLastForm (· == '\r') (line ++ gap) with same | ⟨last, ret, same⟩
  · exact ⟨gap, same, blank⟩
  · cases eq_of_beq ret
    cases gap using List.reverseRecOn with
    | nil =>
      rw [List.append_nil] at same
      have shown := ends '\r' (List.getLast?_eq_some_iff.mpr ⟨_, same⟩)
      rw [returnBlank] at shown
      cases shown
    | append_singleton left c _ =>
      rw [← List.append_assoc] at same
      refine ⟨left, ?_, fun d member => blank d (List.mem_append_left _ member)⟩
      rw [← List.append_assoc]
      exact (List.append_inj' same rfl).1.symm

omit some begins in
theorem trimEndLine (around : Blank gap) (one : '\n' ∉ line ++ gap)
    (next : ∀ c ∈ after.head?, c = '\n') :
    ∃ gap' after', trimEnd (line ++ (gap ++ after)) = line ++ (gap' ++ after') ∧
      Blank gap' ∧ '\n' ∉ line ++ gap' ∧ ∀ c ∈ after'.head?, c = '\n' := by
  rcases blankOrShows after with blank | shows
  · refine ⟨[], [], ?_, by simp [Blank], ?_, by simp⟩
    · rw [trimEndBlank line (List.forall_mem_append.mpr ⟨around, blank⟩), trimEndSame.mpr ends]
      simp
    · rw [List.append_nil]
      exact fun newline => one (List.mem_append_left _ newline)
  · refine ⟨gap, trimEnd after, ?_, around, one, fun c head => ?_⟩
    · rw [← List.append_assoc, trimEndAppend shows, List.append_assoc]
    · obtain ⟨lost, same⟩ := trimEndStarts after
      refine next c ?_
      rw [← same, List.head?_append, Option.mem_def.mp head, Option.some_or]
      rfl

theorem firstTrimmed (around : Blank gap) (one : '\n' ∉ line ++ gap)
    (next : ∀ c ∈ after.head?, c = '\n') :
    ∃ first others, lines (line ++ (gap ++ after)) = first :: others ∧ trim first = line := by
  have unmarked := unmarkedIff.mpr one
  rw [← List.append_assoc]
  unfold lines
  cases after with
  | nil =>
    rw [List.append_nil, linesByLast unmarked, if_neg (by simp [some])]
    exact ⟨_, [], rfl, trimAround some begins ends around⟩
  | cons c rest =>
    cases next c rfl
    obtain ⟨left, dropped, blank⟩ := returnDropped ends around
    rw [linesByLine unmarked rfl, dropped]
    exact ⟨_, _, rfl, trimAround some begins ends blank⟩

end

theorem FirstLine.found {line t : Text} (first : FirstLine line t) : firstLine? t = some line := by
  cases first with
  | @here before gap after blank some begins ends around one next =>
    have started : trimStart (before ++ (line ++ (gap ++ after))) = line ++ (gap ++ after) := by
      rw [trimStart, List.dropWhile_append_of_pos blank]
      exact trimStartShown some begins _
    obtain ⟨gap', after', same, around', one', next'⟩ := trimEndLine ends around one next
    obtain ⟨first, others, read, is⟩ := firstTrimmed some begins ends around' one' next'
    unfold firstLine?
    rw [trim, started, same, read]
    simp [is, some]

theorem firstLineOrBlank (t : Text) : Blank t ∨ ∃ line, FirstLine line t := by
  have parts := List.takeWhile_append_dropWhile (p := isBlank) (l := t)
  have blank := runAll isBlank t
  have shows := runEnds isBlank t
  cases left : t.dropWhile isBlank with
  | nil => exact .inl (List.dropWhile_eq_nil_iff.mp left)
  | cons c rest =>
    rw [left] at parts shows
    have shown : isBlank c = false := by simpa using shows
    have other : (c != '\n') = true := by
      refine bne_iff_ne.mpr fun same => ?_
      rw [same, newlineBlank] at shown
      cases shown
    have raw := List.takeWhile_append_dropWhile (p := (· != '\n')) (l := c :: rest)
    have one := runAll (· != '\n') (c :: rest)
    have next := runEnds (· != '\n') (c :: rest)
    have run : (c :: rest).takeWhile (· != '\n') = c :: rest.takeWhile (· != '\n') :=
      List.takeWhile_cons_of_pos other
    rw [run] at raw one
    obtain ⟨gap, line, around, ends⟩ := trimEndParts (c :: rest.takeWhile (· != '\n'))
    obtain ⟨more, begun⟩ := trimEndCons shown (rest.takeWhile (· != '\n'))
    rw [line] at raw one
    rw [begun] at raw one ends
    refine .inr ⟨c :: more, ?_⟩
    rw [← parts, ← raw, List.append_assoc]
    refine .here blank (by simp) (by simpa using shown) ends around ?_ ?_
    · exact fun newline => by simpa using one _ newline
    · intro d head
      rw [Option.mem_def.mp head] at next
      simpa using next

theorem firstLineIff {t line : Text} : firstLine? t = some line ↔ FirstLine line t := by
  refine ⟨fun found => ?_, FirstLine.found⟩
  rcases firstLineOrBlank t with blank | ⟨other, first⟩
  · rw [firstLineNone.mpr blank] at found
    cases found
  · cases found.symm.trans first.found
    exact first

end FirstLine

structure OneLine (t : Text) : Prop where
  some : t ≠ []
  begins : ∀ c ∈ t.head?, isBlank c = false
  ends : ∀ c ∈ t.getLast?, isBlank c = false
  one : '\n' ∉ t

theorem FirstLine.oneLine {line t : Text} (first : FirstLine line t) : OneLine line := by
  cases first with
  | here _ some begins ends _ one _ =>
    exact ⟨some, begins, ends, fun newline => one (List.mem_append_left _ newline)⟩

theorem LastWord.oneLine {word t : Text} (last : LastWord word t) : OneLine word := by
  cases last with
  | here _ some shown _ =>
    refine ⟨some, fun c head => shown c (List.mem_of_head? head),
      fun c last => shown c (List.mem_of_getLast? last), fun newline => ?_⟩
    have blank := shown '\n' newline
    rw [newlineBlank] at blank
    cases blank
end GemSurvey.Text
