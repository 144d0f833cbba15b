import GemSurvey.Proofs.Reference.Token
import GemSurvey.Proofs.Text.Start
import Mathlib.Data.List.TakeWhile

/-! Commands by their markers. The first marker of a line leads to a name, and a backtick that
opens a comment does; what is read is the first name behind it and nothing else. -/
namespace GemSurvey.Line
open Text (isBlank isWord)

inductive Marks (previous : Option Char) (after : Text) : Text → Prop where
  | backtick : Marks previous after ('\x60' :: after)
  | system (apart : previous.any isWord = false) (ends : after.head?.any isWord = false) :
      Marks previous after ("system" ++ after)

def Marked (line before after : Text) : Prop :=
  ∃ t, line = before ++ t ∧ Marks before.getLast? after t

def Open (before : Text) : Prop := ∀ c ∈ before, c ≠ '#' ∧ c ≠ '\x60'

theorem Open.snoc {before : Text} {c : Char} (clear : Open before) (noHash : c ≠ '#')
    (noTick : c ≠ '\x60') : Open (before ++ [c]) := by
  intro d member
  rcases List.mem_append.mp member with old | new
  · exact clear d old
  · cases List.mem_singleton.mp new
    exact ⟨noHash, noTick⟩

structure FirstMarker (line before after : Text) : Prop where
  marked : Marked line before after
  clear : Open before
  first : ∀ earlier later, Marked line earlier later → Open earlier →
    before.length ≤ earlier.length

def Commented (line after : Text) : Prop :=
  ∃ indent gap, line = indent ++ '#' :: (gap ++ '\x60' :: after) ∧
    (∀ c ∈ indent, isBlank c = true) ∧ ∀ c ∈ gap, isBlank c = true

/-- The name that a marker leads to: the whole run of word characters and hyphens from the first
word character on, or a hyphen where there is no word. -/
inductive Names : Text → Text → Prop where
  | word {skipped name rest : Text} (passed : ∀ c ∈ skipped, isWord c = false)
      (begins : name.head?.any isWord = true) (token : ∀ c ∈ name, isTokenChar c = true)
      (ends : rest.head?.any isTokenChar = false) : Names (skipped ++ (name ++ rest)) name
  | hyphen {after : Text} (wordless : ∀ c ∈ after, isWord c = false) (there : '-' ∈ after) :
      Names after ['-']

theorem afterSystemIff {previous : Option Char} {t after : Text} :
    afterSystem? previous t = some after ↔
      t = "system" ++ after ∧ previous.any isWord = false ∧ after.head?.any isWord = false := by
  constructor
  · intro found
    unfold afterSystem? at found
    split at found
    · contradiction
    rename_i apart
    split at found
    · rename_i rest start
      split at found
      · contradiction
      · rename_i ends
        cases Option.some.inj found
        exact ⟨Text.afterIff.mp start, by simpa using apart, by simpa using ends⟩
    · contradiction
  · rintro ⟨form, apart, ends⟩
    unfold afterSystem?
    rw [Text.afterIff.mpr form]
    simp [apart, ends]

theorem marksIff {previous : Option Char} {c : Char} {rest after : Text} :
    Marks previous after (c :: rest) ↔
      afterSystem? previous (c :: rest) = some after ∨ c = '\x60' ∧ rest = after := by
  rw [afterSystemIff]
  constructor
  · generalize same : c :: rest = t
    intro marks
    cases marks with
    | backtick =>
      cases same
      exact .inr ⟨rfl, rfl⟩
    | system apart ends => exact .inl ⟨rfl, apart, ends⟩
  · rintro (⟨same, apart, ends⟩ | ⟨rfl, rfl⟩)
    · rw [same]
      exact .system apart ends
    · exact .backtick

theorem Marks.nonempty {previous : Option Char} {t after : Text} (h : Marks previous after t) :
    t ≠ [] := by
  cases h <;> simp

theorem Marks.unique {previous : Option Char} {t one other : Text} (first : Marks previous one t)
    (second : Marks previous other t) : one = other := by
  cases t with
  | nil => exact absurd rfl first.nonempty
  | cons c rest =>
    rcases marksIff.mp first with left | ⟨tick, rfl⟩
    · rcases marksIff.mp second with right | ⟨tick, _⟩
      · exact Option.some.inj (left.symm.trans right)
      · rw [afterSystemIff, tick] at left
        exact absurd (List.cons.inj left.1).1 (by decide)
    · rcases marksIff.mp second with right | ⟨_, same⟩
      · rw [afterSystemIff, tick] at right
        exact absurd (List.cons.inj right.1).1 (by decide)
      · exact same

theorem invocationMarked {previous : Option Char} {t found : Text}
    (marks : Marks previous found t) : invocation? previous t = some found := by
  cases t with
  | nil => exact absurd rfl marks.nonempty
  | cons c rest =>
    simp only [invocation?]
    cases system : afterSystem? previous (c :: rest) with
    | some tail =>
      have other : Marks previous tail (c :: rest) := marksIff.mpr (.inl system)
      simp [other.unique marks]
    | none =>
      rcases marksIff.mp marks with found | ⟨rfl, rfl⟩
      · rw [system] at found
        cases found
      · simp

theorem invocationUnmarked {previous : Option Char} {c : Char} {rest : Text}
    (unmarked : ∀ found, ¬ Marks previous found (c :: rest)) :
    invocation? previous (c :: rest) = if c = '#' then none else invocation? (some c) rest := by
  have system : afterSystem? previous (c :: rest) = none :=
    Option.eq_none_iff_forall_ne_some.mpr fun found there => unmarked found (marksIff.mpr (.inl there))
  have tick : c ≠ '\x60' := fun same => unmarked rest (marksIff.mpr (.inr ⟨same, rfl⟩))
  simp [invocation?, system, tick]

theorem invocationFrom {start t after : Text} (clear : Open start)
    (unmarked : ∀ earlier later, Marked (start ++ t) earlier later →
      start.length ≤ earlier.length) :
    invocation? start.getLast? t = some after ↔ ∃ before, FirstMarker (start ++ t) before after := by
  -- On what is still to be read: no marker begins in what was passed over.
  induction t generalizing start with
  | nil =>
    constructor
    · intro found
      cases found
    · rintro ⟨before, marker⟩
      obtain ⟨rest, same, marks⟩ := marker.marked
      have length := congrArg List.length same
      have shorter := unmarked _ _ marker.marked
      have some := List.length_pos_iff.mpr marks.nonempty
      simp only [List.append_nil, List.length_append] at length
      omega
  | cons c rest ih =>
    have atStart : ∀ {before after'}, Marked (start ++ c :: rest) before after' →
        ¬ start.length < before.length → before = start ∧ Marks start.getLast? after' (c :: rest) := by
      rintro before after' ⟨t, same, marks⟩ notLonger
      have least := unmarked before after' ⟨t, same, marks⟩
      obtain ⟨rfl, rfl⟩ := List.append_inj same (by omega)
      exact ⟨rfl, marks⟩
    by_cases here : ∃ found, Marks start.getLast? found (c :: rest)
    · obtain ⟨found, marks⟩ := here
      have marked : Marked (start ++ c :: rest) start found := ⟨_, rfl, marks⟩
      rw [invocationMarked marks]
      constructor
      · intro same
        cases Option.some.inj same
        exact ⟨start, marked, clear, fun earlier later there _ => unmarked earlier later there⟩
      · rintro ⟨before, marker⟩
        have least := marker.first start found marked clear
        obtain ⟨rfl, there⟩ := atStart marker.marked (by omega)
        rw [marks.unique there]
    · have none : ∀ found, ¬ Marks start.getLast? found (c :: rest) :=
        fun found marks => here ⟨found, marks⟩
      have past : ∀ earlier later, Marked (start ++ c :: rest) earlier later →
          start.length < earlier.length := by
        intro earlier later marked
        refine Nat.lt_of_not_le fun notLonger => ?_
        exact none _ (atStart marked (by omega)).2
      rw [invocationUnmarked none]
      split
      · rename_i hash
        subst hash
        constructor
        · intro found
          cases found
        · rintro ⟨before, marker⟩
          obtain ⟨t, same, _⟩ := marker.marked
          obtain ⟨more, rfl⟩ := Text.dividedPast same (past _ _ marker.marked)
          exact absurd rfl (marker.clear '#' (by simp)).1
      · rename_i noHash
        have noTick : c ≠ '\x60' := fun same => none rest (marksIff.mpr (.inr ⟨same, rfl⟩))
        have line : start ++ c :: rest = (start ++ [c]) ++ rest := by simp
        have further := @ih (start ++ [c]) (clear.snoc noHash noTick) (by
          rw [← line]
          intro earlier later marked
          have longer := past earlier later marked
          simpa using Nat.succ_le_of_lt longer)
        rw [line, ← further]
        simp

theorem invocationIff {line after : Text} :
    invocation? none line = some after ↔ ∃ before, FirstMarker line before after :=
  @invocationFrom [] line after (by simp [Open]) (by simp)

theorem tokenNames {after name : Text} (found : token? after = some name) : Names after name := by
  have parts := List.takeWhile_append_dropWhile (p := (!isWord ·)) (l := after)
  have passed : ∀ c ∈ after.takeWhile (!isWord ·), isWord c = false := by
    intro c member
    simpa using Text.runAll _ _ c member
  have begins := Text.runEnds (!isWord ·) after
  unfold token? at found
  split at found
  · rename_i c rest dropped
    cases Option.some.inj found
    rw [dropped] at begins parts
    have word : isWord c = true := by simpa using begins
    have run := List.takeWhile_append_dropWhile (p := isTokenChar) (l := c :: rest)
    rw [← parts]
    conv => lhs; rw [← run]
    refine .word passed ?_ ?_ (Text.runEnds _ _)
    · rw [List.takeWhile_cons_of_pos (by simp [isTokenChar, word])]
      exact word
    · exact Text.runAll _ _
  · rename_i dropped
    rw [dropped, List.append_nil] at parts
    split at found
    · rename_i there
      cases Option.some.inj found
      exact .hyphen (parts ▸ passed) (by simpa using there)
    · contradiction

theorem Names.token {after name : Text} (names : Names after name) : token? after = some name := by
  cases names with
  | @word skipped _ rest passed begins token ends => cases name with
    | nil => cases begins
    | cons c more =>
      have dropped : (skipped ++ (c :: more ++ rest)).dropWhile (!isWord ·) = _ :=
        (Text.runTaken (by simpa using passed) (by simpa using begins)).2
      have taken := (Text.runTaken token ends).1
      unfold token?
      rw [dropped]
      exact congrArg some taken
  | hyphen wordless there =>
    have dropped : after.dropWhile (!isWord ·) = [] :=
      List.dropWhile_eq_nil_iff.mpr (by simpa using wordless)
    unfold token?
    rw [dropped]
    simp [there]

theorem tokenIff {after name : Text} : token? after = some name ↔ Names after name :=
  ⟨tokenNames, Names.token⟩

theorem namedIff {after : Text} :
    (∃ name, Names after name) ↔ ∃ c ∈ after, isTokenChar c = true := by
  simp only [← tokenIff]
  constructor
  · rintro ⟨name, found⟩
    cases tokenNames found with
    | @word skipped _ rest _ begins token _ => cases name with
      | nil => cases begins
      | cons c more => exact ⟨c, by simp, token c List.mem_cons_self⟩
    | hyphen _ there => exact ⟨'-', there, by decide +kernel⟩
  · rintro ⟨c, member, token⟩
    unfold token?
    split
    · exact ⟨_, rfl⟩
    · rename_i dropped
      have wordless := List.dropWhile_eq_nil_iff.mp dropped c member
      have hyphen : c = '-' := by
        simpa [isTokenChar, show isWord c = false by simpa using wordless] using token
      subst hyphen
      exact ⟨_, if_pos (by simpa using member)⟩

theorem commentedIff {line after : Text} : commented? line = some after ↔ Commented line after := by
  constructor
  · intro found
    obtain ⟨rest, hash, tick⟩ := Option.bind_eq_some_iff.mp found
    have indented := List.takeWhile_append_dropWhile (p := isBlank) (l := line)
    have spaced := List.takeWhile_append_dropWhile (p := isBlank) (l := rest)
    refine ⟨line.takeWhile isBlank, rest.takeWhile isBlank, ?_, Text.runAll _ _, Text.runAll _ _⟩
    rw [show line.dropWhile isBlank = ['#'] ++ rest from Text.afterIff.mp hash] at indented
    rw [show rest.dropWhile isBlank = ['\x60'] ++ after from Text.afterIff.mp tick] at spaced
    conv => lhs; rw [← indented, ← spaced]
    rfl
  · rintro ⟨indent, gap, rfl, indentBlank, gapBlank⟩
    have hash : isBlank '#' = false := by decide +kernel
    have tick : isBlank '\x60' = false := by decide +kernel
    have first : (indent ++ '#' :: (gap ++ '\x60' :: after)).dropWhile isBlank = _ :=
      (Text.runTaken indentBlank (by simpa using hash)).2
    have second : (gap ++ '\x60' :: after).dropWhile isBlank = _ :=
      (Text.runTaken gapBlank (by simpa using tick)).2
    unfold commented? Text.trimStart
    rw [first]
    simp only [Text.after?, if_true, bind, Option.bind, second]

theorem Marks.head {previous : Option Char} {t after : Text} (h : Marks previous after t) :
    t.head? = some '\x60' ∨ t.head? = some 's' := by
  cases h with
  | backtick => exact .inl rfl
  | system _ _ => exact .inr rfl

theorem Commented.unmarked {line after before later : Text} (commented : Commented line after)
    (marked : Marked line before later) : ¬ Open before := by
  intro clear
  obtain ⟨indent, gap, rfl, blank, _⟩ := commented
  obtain ⟨t, same, marks⟩ := marked
  by_cases longer : indent.length < before.length
  · obtain ⟨more, rfl⟩ := Text.dividedPast same longer
    exact absurd rfl (clear '#' (by simp)).1
  obtain ⟨left, rfl⟩ := List.prefix_of_prefix_length_le ⟨t, same.symm⟩ (List.prefix_append _ _)
    (Nat.le_of_not_lt longer)
  rw [List.append_assoc] at same
  have head := marks.head
  rw [← List.append_cancel_left same] at head
  cases left with
  | nil => simp at head
  | cons c others =>
    have space := blank c (by simp)
    rcases head with tick | letter
    · cases Option.some.inj tick
      exact absurd space (by decide +kernel)
    · cases Option.some.inj letter
      exact absurd space (by decide +kernel)

def Leads (line after : Text) : Prop :=
  (∃ before, FirstMarker line before after) ∨ Commented line after

theorem Commented.noInvocation {line after : Text} (commented : Commented line after) :
    invocation? none line = none := by
  cases found : invocation? none line with
  | none => rfl
  | some later =>
    obtain ⟨before, marker⟩ := invocationIff.mp found
    exact absurd marker.clear (commented.unmarked marker.marked)

theorem commandIff {line name : Text} :
    command? line = some name ↔ ∃ after, Leads line after ∧ Names after name := by
  unfold command?
  constructor
  · intro found
    rcases Option.or_eq_some_iff.mp found with invoked | ⟨_, noted⟩
    · obtain ⟨after, marker, token⟩ := Option.bind_eq_some_iff.mp invoked
      exact ⟨after, .inl (invocationIff.mp marker), tokenIff.mp token⟩
    · obtain ⟨after, comment, token⟩ := Option.bind_eq_some_iff.mp noted
      exact ⟨after, .inr (commentedIff.mp comment), tokenIff.mp token⟩
  · rintro ⟨after, marker | comment, names⟩
    · rw [invocationIff.mpr marker, Option.bind_some, names.token, Option.some_or]
    · rw [comment.noInvocation, commentedIff.mpr comment, Option.bind_none, Option.none_or,
        Option.bind_some, names.token]

def Invokes (line : Text) : Prop :=
  ∃ before after, FirstMarker line before after ∧ ∃ c ∈ after, isTokenChar c = true

def Mentions (line : Text) : Prop :=
  ∃ after, Commented line after ∧ ∃ c ∈ after, isTokenChar c = true

theorem Names.begins {after name : Text} (names : Names after name) :
    name = ['-'] ∨ name.head? ≠ some '-' := by
  cases names with
  | word _ begins _ _ =>
    refine .inr fun same => ?_
    rw [same, Option.any_some, hyphenNoWord] at begins
    cases begins
  | hyphen _ _ => exact .inl rfl

structure Commands (line : Text) : Prop where
  found : (∃ name, command? line = some name) ↔ Invokes line ∨ Mentions line
  apart : ¬ (Invokes line ∧ Mentions line)
  named : ∀ name, command? line = some name ↔ ∃ after, Leads line after ∧ Names after name
  plain : ∀ name, command? line = some name →
    (∀ c ∈ name, isBlank c = false ∧ isQuote c = false) ∧ (name = ['-'] ∨ name.head? ≠ some '-')

theorem commandsRead (line : Text) : Commands line where
  found := by
    simp only [commandIff, Leads, Invokes, Mentions, ← namedIff]
    constructor
    · rintro ⟨name, after, ⟨before, marker⟩ | comment, names⟩
      · exact .inl ⟨before, after, marker, name, names⟩
      · exact .inr ⟨after, comment, name, names⟩
    · rintro (⟨before, after, marker, name, names⟩ | ⟨after, comment, name, names⟩)
      · exact ⟨name, after, .inl ⟨before, marker⟩, names⟩
      · exact ⟨name, after, .inr comment, names⟩
  apart := by
    rintro ⟨⟨before, after, marker, _⟩, comment, noted, _⟩
    exact noted.unmarked marker.marked marker.clear
  named _ := commandIff
  plain name found := by
    obtain ⟨after, _, names⟩ := commandIff.mp found
    exact ⟨fun c member => ⟨tokenNoBlank (commandChars found c member),
      (tokenOrdinary (commandChars found c member)).1⟩, names.begins⟩

end GemSurvey.Line
