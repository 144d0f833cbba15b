import GemSurvey.Proofs.Text.Start
import GemSurvey.Reference.Line

/-! Libraries by their names. A line requires a name if it begins with `require`, white space around it,
and the name in quotes, and then it requires no other. Such a line is read for no command. -/
namespace GemSurvey.Line
open Text (isBlank)

structure Requires (line name : Text) : Prop where
  named : name ≠ []
  unquoted : ∀ c ∈ name, isQuote c = false
  parts : ∃ (indent gap rest : Text) (opening closing : Char),
    line = indent ++ ("require" ++ (gap ++ opening :: (name ++ closing :: rest))) ∧
    (∀ c ∈ indent, isBlank c = true) ∧ (∀ c ∈ gap, isBlank c = true) ∧ gap ≠ [] ∧
    isQuote opening = true ∧ isQuote closing = true

variable {line name t : Text}

theorem quoteNoBlank {c : Char} (quote : isQuote c = true) : isBlank c = false := by
  rw [isQuote, Bool.or_eq_true, beq_iff_eq, beq_iff_eq] at quote
  rcases quote with rfl | rfl <;> decide +kernel

theorem quotedIff : quotedName? t = some name ↔ ∃ rest opening closing,
    t = opening :: (name ++ closing :: rest) ∧ isQuote opening = true ∧ isQuote closing = true ∧
      name ≠ [] ∧ ∀ c ∈ name, isQuote c = false := by
  constructor
  · intro found
    cases t with
    | nil => cases found
    | cons opening body =>
      simp only [quotedName?] at found
      split at found
      · rename_i shape
        cases found
        simp only [Bool.and_eq_true, decide_eq_true_eq] at shape
        obtain ⟨⟨opens, named⟩, short⟩ := shape
        have parts := List.takeWhile_append_dropWhile (p := (!isQuote ·)) (l := body)
        have ends := Text.runEnds (!isQuote ·) body
        have all := Text.runAll (!isQuote ·) body
        cases left : body.dropWhile (!isQuote ·) with
        | nil =>
          rw [left, List.append_nil] at parts
          rw [parts] at short
          exact absurd short (Nat.lt_irrefl _)
        | cons closing rest =>
          rw [left] at parts ends
          exact ⟨rest, opening, closing, by rw [parts], opens, by simpa using ends,
            by simpa using named, by simpa using all⟩
      · cases found
  · intro ⟨rest, opening, closing, form, opens, closes, named, unquoted⟩
    have run : ∀ c ∈ name, (!isQuote c) = true := fun c member => by simp [unquoted c member]
    have taken : (name ++ closing :: rest).takeWhile (!isQuote ·) = name :=
      (Text.runTaken run (by simp [closes])).1
    simp [form, quotedName?, taken, opens, named]

theorem requiredForm (found : required? line = some name) : Requires line name := by
  obtain ⟨rest, keyword, quoted⟩ := Option.bind_eq_some_iff.mp found
  split at quoted
  · rename_i spaced
    obtain ⟨tail, opening, closing, form, opens, closes, named, unquoted⟩ := quotedIff.mp quoted
    have indented := List.takeWhile_append_dropWhile (p := isBlank) (l := line)
    have apart := List.takeWhile_append_dropWhile (p := isBlank) (l := rest)
    rw [show line.dropWhile isBlank = _ from Text.afterIff.mp keyword] at indented
    rw [show rest.dropWhile isBlank = _ from form] at apart
    have gap : rest.takeWhile isBlank ≠ [] := by
      intro empty
      cases rest with
      | nil => cases spaced
      | cons c rest => simp [show isBlank c = true by simpa using spaced] at empty
    refine ⟨named, unquoted, line.takeWhile isBlank, rest.takeWhile isBlank, tail, opening, closing,
      ?_, Text.runAll _ _, Text.runAll _ _, gap, opens, closes⟩
    rw [apart]
    exact indented.symm
  · cases quoted

theorem Requires.read (required : Requires line name) : required? line = some name := by
  obtain ⟨named, unquoted, indent, gap, rest, opening, closing, form, indentBlank, gapBlank, spaced,
    opens, closes⟩ := required
  have begins : ("require" ++ (gap ++ opening :: (name ++ closing :: rest))).head?.any isBlank = false :=
    Text.headStart (by decide +kernel) _
  have keyword : Text.trimStart line = "require" ++ (gap ++ opening :: (name ++ closing :: rest)) := by
    rw [form]
    exact (Text.runTaken indentBlank begins).2
  have blank : (gap ++ opening :: (name ++ closing :: rest)).head?.any isBlank = true := by
    obtain ⟨c, gap, rfl⟩ := List.exists_cons_of_ne_nil spaced
    exact gapBlank c List.mem_cons_self
  have stops : (opening :: (name ++ closing :: rest)).head?.any isBlank = false := quoteNoBlank opens
  have quote : Text.trimStart (gap ++ opening :: (name ++ closing :: rest)) =
      opening :: (name ++ closing :: rest) := (Text.runTaken gapBlank stops).2
  simp only [required?, keyword, Text.afterStart, bind, Option.bind, blank, if_true, quote]
  exact quotedIff.mpr ⟨rest, opening, closing, rfl, opens, closes, named, unquoted⟩

theorem requiredIff : required? line = some name ↔ Requires line name :=
  ⟨requiredForm, Requires.read⟩

theorem requiredNone : required? line = none ↔ ∀ name, ¬ Requires line name := by
  simp only [Option.eq_none_iff_forall_ne_some, ne_eq, requiredIff]

theorem Requires.unique {other : Text} (first : Requires line name) (second : Requires line other) :
    name = other :=
  Option.some.inj (first.read.symm.trans second.read)

structure Matched (line : Text) : Prop where
  required : ∀ name, required? line = some name ↔ Requires line name
  unique : ∀ name other, Requires line name → Requires line other → name = other
  library : ∀ name, match? line = some (.library, name) ↔ Requires line name
  command : ∀ token, match? line = some (.command, token) ↔
    (∀ name, ¬ Requires line name) ∧ command? line = some token
  nothing : match? line = none ↔ (∀ name, ¬ Requires line name) ∧ command? line = none
  both : ∀ name token, Requires line name → command? line = some token →
    match? line = some (.library, name)

theorem matchLibrary : match? line = some (.library, name) ↔ Requires line name := by
  rw [← requiredIff, match?]
  cases required? line <;> simp

theorem linesMatched (line : Text) : Matched line where
  required _ := requiredIff
  unique _ _ first second := first.unique second
  library _ := matchLibrary
  command token := by
    rw [← requiredNone, match?]
    cases required? line <;> simp
  nothing := by
    rw [← requiredNone, match?]
    cases required? line <;> simp
  both _ _ required _ := matchLibrary.mpr required

end GemSurvey.Line
