import GemSurvey.Proofs.Version
import GemSurvey.Release

/-! What a line states: the first three numbers with dots between that stand in it, whole, if it assigns
VERSION. -/
namespace GemSurvey.Release
open Text (isBlank isDigit)

def Assigns (line : Text) : Prop := ∃ before gap after : Text,
  line = before ++ ("VERSION" ++ (gap ++ '=' :: after)) ∧ ∀ c ∈ gap, isBlank c = true

def IsTriple (t : Text) : Prop := ∃ major minor patch,
  t = major ++ '.' :: (minor ++ '.' :: patch) ∧ IsNumber major ∧ IsNumber minor ∧ IsNumber patch

def Numbered (line : Text) : Prop :=
  ∃ before number after, line = before ++ (number ++ after) ∧ IsTriple number

def Leftmost (line number : Text) : Prop := ∃ before after,
  line = before ++ (number ++ after) ∧ IsTriple number ∧ after.head?.any isDigit = false ∧
    ∀ earlier other later, line = earlier ++ (other ++ later) → IsTriple other →
      before.length ≤ earlier.length

variable {line t number rest : Text} {c : Char}

theorem Leftmost.numbered (leftmost : Leftmost line number) : Numbered line := by
  obtain ⟨before, after, form, triple, _⟩ := leftmost
  exact ⟨before, number, after, form, triple⟩

end GemSurvey.Release
