import GemSurvey.Proofs.Readme.Described

/-! A further section at the end of a README. It ends the section before it, and so changes what is
found exactly if that is the description and shows something: a description that nothing follows is
not found. -/
namespace GemSurvey
namespace Readme

def further (line : Text) : Text := '\n' :: (line ++ ['\n'])

def EndsOpen (t body : Text) : Prop :=
  ∃ (before : Text) (h : Heading) (after : Text), t = before ++ '\n' :: (h.text ++ after) ∧
    Untitled before ∧ (∀ line ∈ (Text.cut '\n' after).tail, line.head?.any isMark = false) ∧
    dropColon after = body

variable {t line body : Text}

theorem colonUnended (t : Text) : untilMark? (dropColon t) = none ↔ untilMark? t = none := by
  cases t with
  | nil => rfl
  | cons c t =>
    by_cases colon : c = ':'
    · simp [dropColon, colon, untilMark?]
    · simp [dropColon, colon]

theorem endsOpenIff : EndsOpen t body ↔ opened? t = some body ∧ untilMark? body = none := by
  rw [openedIff]
  constructor
  · rintro ⟨before, h, after, same, untitled, unended, rfl⟩
    exact ⟨⟨before, h, after, same, untitled, rfl⟩, (colonUnended after).mpr (unendedIff.mpr unended)⟩
  · rintro ⟨⟨before, h, after, same, untitled, rfl⟩, unended⟩
    exact ⟨before, h, after, same, untitled, unendedIff.mp ((colonUnended after).mp unended), rfl⟩

theorem unendedSuffix (before : Text) (unended : untilMark? (before ++ t) = none) :
    untilMark? t = none := by
  induction before with
  | nil => exact unended
  | cons c before ih =>
    rw [List.cons_append, untilMark?] at unended
    split at unended
    · cases unended
    · exact ih (Option.map_eq_none_iff.mp unended)

theorem furtherUnended (one : '\n' ∉ line) (found : opened? (further line) = some body) :
    untilMark? body = none := by
  have unended : untilMark? (line ++ ['\n']) = none := by
    have lines : Text.cut '\n' (line ++ ['\n']) = [line, []] :=
      Text.cutByMarked (Text.unmarkedIff.mpr one) rfl
    rw [unendedIff, lines]
    simp
  obtain ⟨before, h, after, same, _, rfl⟩ := openedIff.mp found
  obtain ⟨gone, rest⟩ : ∃ gone, line ++ ['\n'] = gone ++ after := by
    cases before with
    | nil => exact ⟨h.text, (List.cons.inj same).2⟩
    | cons d before =>
      exact ⟨before ++ '\n' :: h.text, (List.cons.inj same).2.trans (by simp)⟩
  rw [rest] at unended
  exact (colonUnended after).mpr (unendedSuffix gone unended)

theorem sectionFurther (mark : line.head?.any isMark = true) (one : '\n' ∉ line) (t : Text) :
    Readme.section? (t ++ further line) =
      (opened? t).map fun body => (untilMark? body).getD body := by
  have marked : (line ++ ['\n']).head?.any isMark = true := by
    cases line with
    | nil => cases mark
    | cons c line => exact mark
  rw [sectionOpened, further, openedMarked marked]
  cases opened : opened? t with
  | some body => simp [untilMarked marked]
  | none =>
    rw [Option.map_none, Option.none_or, Option.map_none]
    cases last : opened? ('\n' :: (line ++ ['\n'])) with
    | none => rfl
    | some body => exact furtherUnended one last

/-- A further section leaves what is found as it was, unless a description that shows something ends
with the text: nothing is found of that before, and all of it after. -/
theorem furtherRead (mark : line.head?.any isMark = true) (one : '\n' ∉ line) (t : Text) :
    (extract? (t ++ further line) = extract? t ↔ ∀ body, EndsOpen t body → Text.Blank body) ∧
    ∀ body, EndsOpen t body →
      extract? t = none ∧ extract? (t ++ further line) = said? (paragraphs body) := by
  have last {body : Text} (opened : opened? t = some body) (unended : untilMark? body = none) :
      extract? t = none ∧ extract? (t ++ further line) = said? (paragraphs body) := by
    rw [extractSaid, extractSaid, sectionFurther mark one, sectionOpened, opened]
    simp [unended]
  constructor
  · cases opened : opened? t with
    | none =>
      have same : extract? (t ++ further line) = extract? t := by
        rw [extractSaid, extractSaid, sectionFurther mark one, sectionOpened, opened]
        rfl
      simp [same, endsOpenIff, opened]
    | some body => cases ended : untilMark? body with
      | some inner =>
        have same : extract? (t ++ further line) = extract? t := by
          rw [extractSaid, extractSaid, sectionFurther mark one, sectionOpened, opened]
          simp [ended]
        simp [same, endsOpenIff, opened, ended]
      | none =>
        obtain ⟨before, after⟩ := last opened ended
        rw [before, after, saidNone, paragraphsNone]
        simp [endsOpenIff, opened, ended]
  · intro body open'
    obtain ⟨opened, unended⟩ := endsOpenIff.mp open'
    exact last opened unended

end Readme

/- A README that ends with its description. -/
namespace Sample

def unfinished : Text := "# own\n\n## DESCRIPTION:\n\nKeeps things\ntidy.\n"

end Sample

namespace Readme

theorem sampleFurther :
    ("# END" : Text).head?.any isMark = true ∧ '\n' ∉ ("# END" : Text) ∧
    EndsOpen Sample.unfinished "\n\nKeeps things\ntidy.\n" ∧
    (extract? (Sample.unfinished ++ further "# END") = extract? Sample.unfinished ↔
      ∀ body, EndsOpen Sample.unfinished body → Text.Blank body) ∧
    ∀ body, EndsOpen Sample.unfinished body → extract? Sample.unfinished = none ∧
      extract? (Sample.unfinished ++ further "# END") = said? (paragraphs body) := by
  have mark : ("# END" : Text).head?.any isMark = true := by decide
  have one : '\n' ∉ ("# END" : Text) := by decide
  exact ⟨mark, one, endsOpenIff.mpr (by decide +kernel), furtherRead mark one Sample.unfinished⟩

theorem lastUnread :
    ¬ ∀ t line : Text, line.head?.any isMark = true → '\n' ∉ line →
        (∀ word, word <:+: line → word.map Text.fold ≠ ("DESCRIPTION" : Text).map Text.fold) →
        extract? (t ++ further line) = extract? t := by
  intro always
  have wordless : ∀ word, word <:+: ("# END" : Text) →
      word.map Text.fold ≠ ("DESCRIPTION" : Text).map Text.fold := by
    intro word within same
    have long := congrArg List.length same
    rw [List.length_map, List.length_map] at long
    exact absurd (long ▸ within.length_le) (by decide)
  have same := always Sample.unfinished "# END" (by decide) (by decide) wordless
  exact absurd same (by decide +kernel)

end Readme
end GemSurvey
