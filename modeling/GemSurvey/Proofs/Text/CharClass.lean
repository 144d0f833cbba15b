import GemSurvey.Text.CharClass
import Mathlib.Data.List.TakeWhile

/-! How the classes of characters lie to one another: digits are word characters, white space holds
none. A text is trimmed to nothing exactly if all of it is blank, and what it is trimmed to begins with
no blank otherwise, so that its first line has something to show. -/
namespace GemSurvey.Text

theorem digitWord {c : Char} (digit : isDigit c = true) : isWord c = true := by
  unfold isWord
  split
  · rename_i ascii
    have plain : isAsciiDigit c = true := by simpa [isDigit, ascii] using digit
    simp [isAsciiWord, plain]
  · simp [digit]

theorem asciiWord {c : Char} (plain : isAsciiWord c = true) : isWord c = true := by
  have ascii : isAscii c = true := by
    simp only [isAsciiWord, isAsciiLetter, isAsciiDigit, Bool.or_eq_true, Bool.and_eq_true,
      decide_eq_true_eq, beq_iff_eq, Char.le_def, UInt32.le_iff_toNat_le] at plain
    rw [isAscii, decide_eq_true_eq]
    rcases plain with ((⟨_, small⟩ | ⟨_, small⟩) | ⟨_, small⟩) | same
    · exact Nat.lt_of_le_of_lt small (by decide)
    · exact Nat.lt_of_le_of_lt small (by decide)
    · exact Nat.lt_of_le_of_lt small (by decide)
    · rw [same]
      decide
  rw [isWord, if_pos ascii, plain]

def blankCodes : List Nat :=
  [9, 10, 11, 12, 13, 0x20, 0x85, 0xA0, 0x1680, 0x2000, 0x2001, 0x2002, 0x2003, 0x2004, 0x2005,
    0x2006, 0x2007, 0x2008, 0x2009, 0x200A, 0x2028, 0x2029, 0x202F, 0x205F, 0x3000]

theorem blankCoded {c : Char} (blank : isBlank c = true) : c.toNat ∈ blankCodes := by
  simp only [isBlank, Bool.or_eq_true, Bool.and_eq_true, decide_eq_true_eq, beq_iff_eq] at blank
  simp only [blankCodes, List.mem_cons, List.not_mem_nil, or_false]
  omega

theorem blankNoWord {c : Char} (blank : isBlank c = true) : isWord c = false := by
  have codes : (blankCodes.all fun code => !isWord (Char.ofNat code)) = true := by decide +kernel
  have found := List.all_eq_true.mp codes c.toNat (blankCoded blank)
  simpa [Char.ofNat_toNat] using found

end GemSurvey.Text

namespace GemSurvey.Text

variable {t : Text} {c : Char}

theorem newlineBlank : isBlank '\n' = true := by decide +kernel

theorem returnBlank : isBlank '\r' = true := by decide +kernel

theorem trimEndCons (shows : isBlank c = false) (rest : Text) :
    ∃ end', trimEnd (c :: rest) = c :: end' := by
  unfold trimEnd
  rw [List.reverse_cons, List.dropWhile_append]
  split
  · exact ⟨[], by simp [shows]⟩
  · exact ⟨_, by rw [List.reverse_append]; rfl⟩

theorem trimBegins (t : Text) : (∀ c ∈ t, isBlank c = true) ∧ trim t = [] ∨
    ∃ c rest, isBlank c = false ∧ c ∈ t ∧ trim t = c :: rest := by
  unfold trim
  cases started : trimStart t with
  | nil => exact .inl ⟨List.dropWhile_eq_nil_iff.mp started, rfl⟩
  | cons c rest =>
    have shows : isBlank c = false := by
      have head := List.head?_dropWhile_not isBlank t
      rw [show t.dropWhile isBlank = c :: rest from started] at head
      simpa using head
    obtain ⟨end', same⟩ := trimEndCons shows rest
    have member : c ∈ t := (List.dropWhile_suffix isBlank).subset
      (by rw [show t.dropWhile isBlank = c :: rest from started]; exact List.mem_cons_self)
    exact .inr ⟨c, end', shows, member, same⟩

theorem linesBegin (shows : isBlank c = false) (rest : Text) :
    ∃ line others, lines (c :: rest) = (c :: line) :: others := by
  have newline : (c == '\n') = false := by
    refine beq_false_of_ne fun same => ?_
    rw [same, newlineBlank] at shows
    cases shows
  have ret : (c == '\r') = false := by
    refine beq_false_of_ne fun same => ?_
    rw [same, returnBlank] at shows
    cases shows
  unfold lines linesBy
  simp only [cutBy, newline, Bool.false_eq_true, if_false]
  cases cut : cutBy (· == '\n') rest with
  | nil => exact absurd cut (cutByNonempty _ _)
  | cons piece pieces =>
    cases pieces with
    | nil => exact ⟨piece, [], rfl⟩
    | cons next others =>
      have first : ∃ line, dropLastIf (· == '\r') (c :: piece) = c :: line := by
        unfold dropLastIf
        split
        · rename_i last
          cases piece with
          | nil => simp [ret] at last
          | cons d more => exact ⟨(d :: more).dropLast, rfl⟩
        · exact ⟨piece, rfl⟩
      obtain ⟨line, first⟩ := first
      simp only [List.dropLast_cons_cons, List.map_cons, first]
      split <;> exact ⟨line, _, rfl⟩

theorem firstLineNone : firstLine? t = none ↔ ∀ c ∈ t, isBlank c = true := by
  rcases trimBegins t with ⟨blank, empty⟩ | ⟨c, rest, shows, member, begins⟩
  · simp only [firstLine?, empty]
    exact ⟨fun _ => blank, fun _ => rfl⟩
  · obtain ⟨line, others, first⟩ := linesBegin shows rest
    have left : trim (c :: line) ≠ [] := by
      rcases trimBegins (c :: line) with ⟨blank, _⟩ | ⟨_, _, _, _, begins⟩
      · simp [blank c List.mem_cons_self] at shows
      · simp [begins]
    simp only [firstLine?, begins, first, List.isEmpty_iff, left, if_false]
    constructor
    · intro none
      cases none
    · intro blank
      simp [blank c member] at shows

end GemSurvey.Text
