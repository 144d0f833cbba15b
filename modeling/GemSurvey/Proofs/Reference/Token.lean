import GemSurvey.Proofs.Text.CharClass
import GemSurvey.Reference.Line

/-! Tokens. A command begins with a word character, unless it is a hyphen and nothing else, so
none reads as an option. -/
namespace GemSurvey.Line

theorem tokenNoBlank {c : Char} (token : isTokenChar c = true) : Text.isBlank c = false := by
  cases blank : Text.isBlank c with
  | false => rfl
  | true =>
    have hyphen : c = '-' := by
      simpa [isTokenChar, Text.blankNoWord blank] using token
    rw [hyphen] at blank
    exact absurd blank (by decide)

theorem tokenOrdinary {c : Char} (token : isTokenChar c = true) :
    isQuote c = false ∧ c ≠ '.' ∧ c ≠ '/' := by
  refine ⟨?_, ?_, ?_⟩
  · cases quote : isQuote c with
    | false => rfl
    | true =>
      rcases Bool.or_eq_true _ _ |>.mp quote with single | double
      · rw [eq_of_beq single] at token
        exact absurd token (by decide +kernel)
      · rw [eq_of_beq double] at token
        exact absurd token (by decide +kernel)
  · rintro rfl
    exact absurd token (by decide +kernel)
  · rintro rfl
    exact absurd token (by decide +kernel)

inductive IsToken : Text → Prop where
  | word {c rest} (begins : Text.isWord c = true) : IsToken (c :: rest)
  | hyphen : IsToken ['-']

theorem hyphenNoWord : Text.isWord '-' = false := by decide +kernel

theorem tokenForm {tail name : Text} (h : token? tail = some name) : IsToken name := by
  unfold token? at h
  split at h
  · rename_i c rest found
    have begins : Text.isWord c = true := by
      have head := List.head?_dropWhile_not (!Text.isWord ·) tail
      simpa [found] using head
    cases Option.some.inj h
    rw [List.takeWhile_cons_of_pos (by simp [isTokenChar, begins])]
    exact .word begins
  · split at h
    · cases Option.some.inj h
      exact .hyphen
    · contradiction

theorem commandForm {line name : Text} (h : command? line = some name) : IsToken name := by
  rcases Option.or_eq_some_iff.mp h with first | ⟨_, second⟩
  · obtain ⟨tail, _, token⟩ := Option.bind_eq_some_iff.mp first
    exact tokenForm token
  · obtain ⟨tail, _, token⟩ := Option.bind_eq_some_iff.mp second
    exact tokenForm token

theorem tokenChars {tail name : Text} (h : token? tail = some name) :
    ∀ c ∈ name, isTokenChar c = true := by
  unfold token? at h
  split at h
  · cases Option.some.inj h
    exact fun c member => List.all_eq_true.mp List.all_takeWhile c member
  · split at h
    · cases Option.some.inj h
      simp [isTokenChar]
    · contradiction

theorem commandChars {line name : Text} (h : command? line = some name) :
    ∀ c ∈ name, isTokenChar c = true := by
  rcases Option.or_eq_some_iff.mp h with first | ⟨_, second⟩
  · obtain ⟨tail, _, token⟩ := Option.bind_eq_some_iff.mp first
    exact tokenChars token
  · obtain ⟨tail, _, token⟩ := Option.bind_eq_some_iff.mp second
    exact tokenChars token

theorem matchedCommand {line name : Text} (h : match? line = some (.command, name)) :
    command? line = some name := by
  rcases Option.or_eq_some_iff.mp h with library | ⟨_, command⟩
  · obtain ⟨_, _, same⟩ := Option.map_eq_some_iff.mp library
    cases same
  · obtain ⟨_, found, same⟩ := Option.map_eq_some_iff.mp command
    cases same
    exact found

theorem IsToken.noOption {name : Text} (h : IsToken name) (c : Char) (rest : Text) :
    name ≠ '-' :: c :: rest := by
  rintro rfl
  cases h with
  | word begins => exact absurd begins (by simp [hyphenNoWord])

end GemSurvey.Line
