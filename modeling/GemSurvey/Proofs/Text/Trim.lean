import GemSurvey.Proofs.Text.CharClass
import GemSurvey.Proofs.Text.Cutting
import GemSurvey.Proofs.Text.Start
import Mathlib.Data.List.DropRight

/-! Trimming a text of several lines. If each of them shows something, the first loses the blanks
at its start, the last those at its end, and no other line changes. -/
namespace GemSurvey.Text

def Shows (t : Text) : Prop := ∃ c ∈ t, isBlank c = false

def unlines (lines : List Text) : Text := lines.flatMap fun line => line ++ ['\n']

def lastTrimmed : List Text → List Text
  | [] => []
  | [line] => [trimEnd line]
  | line :: next :: rest => line :: lastTrimmed (next :: rest)

section
variable {t line : Text} {rest : List Text}

theorem Shows.trimStart (shows : Shows t) : Shows (trimStart t) := by
  obtain ⟨c, member, shows⟩ := shows
  rw [← List.takeWhile_append_dropWhile (p := isBlank) (l := t), List.mem_append] at member
  rcases member with blank | kept
  · rw [runAll isBlank t c blank] at shows
    cases shows
  · exact ⟨c, kept, shows⟩

theorem Shows.trim (shows : Shows t) : trim t ≠ [] := by
  obtain ⟨c, member, shows⟩ := shows
  rcases trimBegins t with ⟨blank, _⟩ | ⟨_, _, _, _, begins⟩
  · rw [blank c member] at shows
    cases shows
  · simp [begins]

theorem showsLines {lines : List Text} (member : line ∈ lines) (shows : Shows line) :
    Shows (unlines lines) := by
  obtain ⟨c, within, shows⟩ := shows
  refine ⟨c, List.mem_flatMap.mpr ⟨line, member, ?_⟩, shows⟩
  exact List.mem_append_left _ within

theorem trimStartAppend (shows : Shows t) (rest : Text) :
    trimStart (t ++ rest) = trimStart t ++ rest := by
  obtain ⟨c, kept, _⟩ := shows.trimStart
  unfold trimStart
  rw [List.dropWhile_append, if_neg]
  rw [List.isEmpty_iff]
  exact List.ne_nil_of_mem kept

theorem trimEndAppend (shows : Shows t) (before : Text) :
    trimEnd (before ++ t) = before ++ trimEnd t := by
  obtain ⟨c, member, shows⟩ := shows
  have turned := trimStartAppend ⟨c, List.mem_reverse.mpr member, shows⟩ before.reverse
  unfold trimStart at turned
  simp only [trimEnd, List.reverse_append, turned, List.reverse_reverse]

theorem trimEndSame : trimEnd t = t ↔ ∀ c ∈ t.getLast?, isBlank c = false := by
  rw [show trimEnd t = t.rdropWhile isBlank from rfl, List.rdropWhile_eq_self_iff]
  cases t with
  | nil => simp
  | cons c rest => simp [List.getLast?_eq_getLast_of_ne_nil]

theorem trimSame : trim t = t ↔
    (∀ c ∈ t.head?, isBlank c = false) ∧ ∀ c ∈ t.getLast?, isBlank c = false := by
  have starts : trimStart t = t ↔ ∀ c ∈ t.head?, isBlank c = false := by
    rw [show trimStart t = t.dropWhile isBlank from rfl, List.dropWhile_eq_self_iff]
    cases t <;> simp
  rw [← starts, ← trimEndSame]
  constructor
  · intro same
    have kept : trimStart t = t := (List.dropWhile_suffix isBlank).eq_of_length_le (by
      have short := (trimEndStarts (trimStart t)).length_le
      rwa [show trimEnd (trimStart t) = t from same] at short)
    exact ⟨kept, by rwa [trim, kept] at same⟩
  · intro same
    rw [trim, same.1, same.2]

theorem trimTrim (t : Text) : trim (trim t) = trim t := by
  refine trimSame.mpr ⟨?_, trimEndSame.mp (List.rdropWhile_idempotent isBlank (trimStart t))⟩
  rcases trimBegins t with ⟨_, empty⟩ | ⟨c, rest, shows, _, begins⟩
  · simp [empty]
  · simp [begins, shows]

theorem trimConcat {c : Char} (blank : isBlank c = true) (t : Text) : trim (t ++ [c]) = trim t := by
  unfold trim trimStart
  rw [List.dropWhile_append]
  split
  · rename_i all
    rw [List.isEmpty_iff.mp all]
    simp [blank]
  · exact List.rdropWhile_concat_pos _ _ _ blank

theorem trimStripped (t : Text) : trim (dropLastIf (· == '\r') t) = trim t := by
  rcases dropLastForm (· == '\r') t with same | ⟨last, ret, same⟩
  · rw [same]
  · cases eq_of_beq ret
    conv => rhs; rw [same]
    exact (trimConcat returnBlank _).symm

theorem trimmedLines {lines : List Text} (unmarked : ∀ line ∈ lines, '\n' ∉ line) :
    (Text.lines (unlines lines)).map trim = lines.map trim := by
  induction lines with
  | nil => rfl
  | cons line rest ih =>
    have first : unlines (line :: rest) = line ++ '\n' :: unlines rest := by simp [unlines]
    have later := ih fun l member => unmarked l (List.mem_cons_of_mem _ member)
    unfold Text.lines at later ⊢
    rw [first, linesByLine (unmarkedIff.mpr (unmarked line List.mem_cons_self)) rfl, List.map_cons,
      trimStripped, later, List.map_cons]

theorem trimEndLines (shows : ∀ l ∈ line :: rest, Shows l) :
    trimEnd (unlines (line :: rest)) ++ ['\n'] = unlines (lastTrimmed (line :: rest)) := by
  induction rest generalizing line with
  | nil =>
    have blank : trimEnd (line ++ ['\n']) = trimEnd line :=
      List.rdropWhile_concat_pos _ _ _ newlineBlank
    simp [unlines, lastTrimmed, blank]
  | cons next rest ih =>
    have later := ih fun l member => shows l (List.mem_cons_of_mem _ member)
    have more : Shows (unlines (next :: rest)) :=
      showsLines List.mem_cons_self (shows next (by simp))
    calc trimEnd (unlines (line :: next :: rest)) ++ ['\n']
        = trimEnd ((line ++ ['\n']) ++ unlines (next :: rest)) ++ ['\n'] := rfl
      _ = (line ++ ['\n']) ++ (trimEnd (unlines (next :: rest)) ++ ['\n']) := by
          rw [trimEndAppend more, List.append_assoc]
      _ = unlines (lastTrimmed (line :: next :: rest)) := by rw [later]; rfl

theorem trimLines (shows : ∀ l ∈ line :: rest, Shows l) :
    trim (unlines (line :: rest)) ++ ['\n'] = unlines (lastTrimmed (trimStart line :: rest)) := by
  have begun : trimStart (unlines (line :: rest)) = unlines (trimStart line :: rest) := by
    have first := trimStartAppend (shows line List.mem_cons_self) (['\n'] ++ unlines rest)
    simpa [unlines] using first
  rw [trim, begun]
  refine trimEndLines fun l member => ?_
  rcases List.mem_cons.mp member with rfl | member
  · exact (shows line List.mem_cons_self).trimStart
  · exact shows l (List.mem_cons_of_mem _ member)

theorem lastTrimmedSame {lines : List Text} : lastTrimmed lines = lines ↔
    ∀ line ∈ lines.getLast?, ∀ c ∈ line.getLast?, isBlank c = false := by
  match lines with
  | [] => simp [lastTrimmed]
  | [line] => simp [lastTrimmed, trimEndSame]
  | line :: next :: rest =>
    rw [lastTrimmed, List.getLast?_cons_cons, ← lastTrimmedSame, List.cons_inj_right]

theorem lastTrimmedFirst (line : Text) (rest : List Text) :
    ∃ first others, lastTrimmed (line :: rest) = first :: others ∧ first <+: line := by
  cases rest with
  | nil => exact ⟨_, [], rfl, trimEndStarts line⟩
  | cons next rest => exact ⟨line, _, rfl, List.prefix_refl line⟩

end
end GemSurvey.Text
