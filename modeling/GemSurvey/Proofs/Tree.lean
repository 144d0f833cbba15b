import GemSurvey.Tree

/-! Writing a file. A place can be written to unless it is a directory or does not open. What is written
is found where it was written to, and nothing else in the tree is touched. -/
namespace GemSurvey

theorem boundOk {ε α β : Type} {first : Except ε α} {next : α → Except ε β} {b : β} :
    first >>= next = .ok b ↔ ∃ a, first = .ok a ∧ next a = .ok b := by
  cases first <;> simp [bind, Except.bind]

namespace Tree

variable {tree changed : Tree} {place next : Place} {content : Bytes}

theorem nodeBeyondRoot (beyond : place ≠ []) :
    tree.node? place = (tree.nodes.find? fun entry => entry.1 = place).map (·.2) := by
  simp [node?, beyond]

theorem directoryThere (directory : tree.holdsDirectory place = true) :
    ∃ node, tree.node? place = some node ∧ node.isDirectory = true :=
  (Option.any_eq_true _ _).mp directory

inductive Entering (tree : Tree) (place : Place) (piece : Text) : Except IoFault Place → Prop where
  | stay (directory : tree.holdsDirectory place = true) (named : piece = [] ∨ piece = ['.']) :
      Entering tree place piece (.ok place)
  | up (directory : tree.holdsDirectory place = true) (named : piece = ['.', '.']) :
      Entering tree place piece (.ok place.dropLast)
  | down (directory : tree.holdsDirectory place = true) (short : (Text.encode piece).length ≤ nameLimit)
      (named : ¬ (piece = [] ∨ piece = ['.']) ∧ piece ≠ ['.', '.'])
      (there : (tree.node? (place ++ [piece])).isSome) :
      Entering tree place piece (.ok (place ++ [piece]))
  | missing (directory : tree.holdsDirectory place = true)
      (short : (Text.encode piece).length ≤ nameLimit)
      (named : ¬ (piece = [] ∨ piece = ['.']) ∧ piece ≠ ['.', '.'])
      (absent : tree.node? (place ++ [piece]) = none) : Entering tree place piece (.error .notFound)
  | refused {fault} (other : fault ≠ .notFound) : Entering tree place piece (.error fault)
  | nowhere (absent : tree.node? place = none) : Entering tree place piece (.error .notFound)

theorem entering (tree : Tree) (place : Place) (piece : Text) :
    Entering tree place piece (tree.enter place piece) := by
  unfold enter
  split
  · rename_i there
    split
    case isFalse => exact .refused (by simp)
    rename_i form
    have directory : tree.holdsDirectory place = true := by rw [holdsDirectory, there]; exact form
    split
    · exact .stay directory (by assumption)
    rename_i named
    split
    · exact .up directory (by assumption)
    rename_i notUp
    split
    · exact .refused (by simp)
    rename_i short
    split
    · rename_i held
      exact .down directory (Nat.le_of_not_lt short) ⟨named, notUp⟩ (by simp [held])
    · exact .missing directory (Nat.le_of_not_lt short) ⟨named, notUp⟩ (by assumption)
  · exact .nowhere (by assumption)

theorem enterIn {piece : Text} (directory : tree.holdsDirectory place = true) :
    tree.enter place piece =
      if piece = [] ∨ piece = ['.'] then .ok place
      else if piece = ['.', '.'] then .ok place.dropLast
      else if nameLimit < (Text.encode piece).length then .error .nameTooLong
      else if (tree.node? (place ++ [piece])).isSome then .ok (place ++ [piece])
      else .error .notFound := by
  obtain ⟨node, there, form⟩ := directoryThere directory
  simp only [enter, there, form, if_true]
  cases tree.node? (place ++ [piece]) <;> rfl

theorem enterDown {piece : Text} (directory : tree.holdsDirectory place = true)
    (short : (Text.encode piece).length ≤ nameLimit)
    (named : ¬ (piece = [] ∨ piece = ['.']) ∧ piece ≠ ['.', '.'])
    (there : (tree.node? (place ++ [piece])).isSome) :
    tree.enter place piece = .ok (place ++ [piece]) := by
  rw [enterIn directory, if_neg named.1, if_neg named.2, if_neg (Nat.not_lt.mpr short), if_pos there]

end Tree
end GemSurvey
