/-! Texts as lists of characters: cutting, joining and searching. A line ends at a
newline and gives up one carriage return before it; what follows the last newline is a
line only if it is not empty. The rules are generic, so that they serve bytes too. -/
namespace GemSurvey

abbrev Text := List Char

instance : Coe String Text := ⟨String.toList⟩

namespace Text

section Cutting
variable {α : Type}

def cutBy (p : α → Bool) : List α → List (List α)
  | [] => [[]]
  | x :: rest =>
      if p x then [] :: cutBy p rest
      else match cutBy p rest with
        | piece :: pieces => (x :: piece) :: pieces
        | [] => [[x]]

theorem cutByNonempty (p : α → Bool) (xs : List α) : cutBy p xs ≠ [] := by
  cases xs with
  | nil => simp [cutBy]
  | cons x rest =>
      simp only [cutBy]
      split
      · simp
      · split <;> simp

def dropLastIf (p : α → Bool) (xs : List α) : List α :=
  if xs.getLast?.any p then xs.dropLast else xs

def linesBy (newline ret : α → Bool) (xs : List α) : List (List α) :=
  let pieces := cutBy newline xs
  let ended := pieces.dropLast.map (dropLastIf ret)
  match pieces.getLast? with
  | some (x :: tail) => ended ++ [x :: tail]
  | _ => ended

end Cutting

def cut (c : Char) (t : Text) : List Text := cutBy (· == c) t

def lines (t : Text) : List Text := linesBy (· == '\n') (· == '\r') t

def join (separator : Text) (parts : List Text) : Text := separator.intercalate parts

def after? : Text → Text → Option Text
  | [], t => some t
  | _ :: _, [] => none
  | x :: start, c :: rest => if x = c then after? start rest else none

def occursIn (needle : Text) : Text → Bool
  | [] => needle.isEmpty
  | c :: rest => needle.isPrefixOf (c :: rest) || occursIn needle rest

end Text
end GemSurvey
