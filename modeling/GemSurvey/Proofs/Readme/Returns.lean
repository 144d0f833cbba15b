import GemSurvey.Proofs.Readme.Heading
import GemSurvey.Proofs.Readme.Paragraphs

/-! Carriage returns. With one before every newline a README has the same section, but no pair of
newlines in it: all that the section shows becomes one paragraph. So as much is found as without
them only of a section that was one paragraph before. -/
namespace GemSurvey.Readme
open Text (trim trimStart trimEnd fold isBlank)

def withReturns (t : Text) : Text := t.flatMap fun c => if c = '\n' then ['\r', '\n'] else [c]

def Extract.withReturns (e : Extract) : Extract :=
  ⟨Readme.withReturns e.description, Readme.withReturns e.summary⟩

variable {t body : Text} {c : Char} {p : Char → Bool}

theorem returnsLine (t : Text) : withReturns ('\n' :: t) = '\r' :: '\n' :: withReturns t := rfl

theorem returnsOther (other : c ≠ '\n') (t : Text) : withReturns (c :: t) = c :: withReturns t := by
  simp [withReturns, other]

theorem returnsAppend (s t : Text) : withReturns (s ++ t) = withReturns s ++ withReturns t :=
  List.flatMap_append

@[elab_as_elim]
theorem lineInduction {motive : Text → Prop} (nil : motive [])
    (line : ∀ t, motive t → motive ('\n' :: t))
    (other : ∀ c t, c ≠ '\n' → motive t → motive (c :: t)) (t : Text) : motive t := by
  induction t with
  | nil => exact nil
  | cons c t ih =>
    by_cases newline : c = '\n'
    · exact newline ▸ line t ih
    · exact other c t newline ih

theorem returnsHead (t : Text) : (withReturns t).head? ≠ some '\n' := by
  cases t using lineInduction with
  | nil => simp [withReturns]
  | line t => simp [returnsLine]
  | other c t newline => simp [returnsOther newline, newline]

theorem unpairedReturns (t : Text) : ¬ Paired (withReturns t) := by
  induction t using lineInduction with
  | nil => exact pairedNil
  | line t ih =>
    rw [returnsLine, pairedCons, pairedCons]
    simp [returnsHead, ih]
  | other c t newline ih =>
    rw [returnsOther newline, pairedCons]
    simp [newline, ih]

theorem returnsInj {s t : Text} (same : withReturns s = withReturns t) : s = t := by
  induction s using lineInduction generalizing t with
  | nil =>
    cases t using lineInduction with
    | nil => rfl
    | line t => cases same
    | other c t newline =>
      rw [returnsOther newline] at same
      cases same
  | line s ih =>
    cases t using lineInduction with
    | nil => cases same
    | line t => rw [ih (List.cons.inj (List.cons.inj same).2).2]
    | other c t newline =>
      rw [returnsLine, returnsOther newline] at same
      exact absurd (congrArg List.head? (List.cons.inj same).2).symm (returnsHead t)
  | other c s newline ih =>
    rw [returnsOther newline] at same
    cases t using lineInduction with
    | nil => cases same
    | line t =>
      rw [returnsLine] at same
      exact absurd (congrArg List.head? (List.cons.inj same).2) (returnsHead s)
    | other d t other =>
      rw [returnsOther other] at same
      rw [(List.cons.inj same).1, ih (List.cons.inj same).2]

section
variable (alike : p '\r' = p '\n')
include alike

theorem headReturns (t : Text) : (withReturns t).head?.any p = t.head?.any p := by
  cases t using lineInduction with
  | nil => rfl
  | line t => simp [returnsLine, alike]
  | other c t newline => simp [returnsOther newline]

theorem dropReturns (t : Text) : (withReturns t).dropWhile p = withReturns (t.dropWhile p) := by
  induction t using lineInduction with
  | nil => rfl
  | line t ih =>
    rw [returnsLine]
    cases inside : p '\n' with
    | true => simp [alike, inside, ih]
    | false => simp [alike, inside, returnsLine]
  | other c t newline ih =>
    rw [returnsOther newline]
    cases inside : p c with
    | true => simp [inside, ih]
    | false => simp [inside, returnsOther newline]

end

theorem blankReturns (blank : Text.Blank t) : Text.Blank (withReturns t) := by
  intro c member
  obtain ⟨d, there, made⟩ := List.mem_flatMap.mp member
  by_cases newline : d = '\n'
  · rw [if_pos newline, List.mem_cons, List.mem_singleton] at made
    rcases made with rfl | rfl
    · exact Text.returnBlank
    · exact Text.newlineBlank
  · rw [if_neg newline, List.mem_singleton] at made
    rw [made]
    exact blank d there

theorem trimReturns (t : Text) : trim (withReturns t) = withReturns (trim t) := by
  have blanks : isBlank '\r' = isBlank '\n' := by decide +kernel
  have ended (t : Text) : trimEnd (withReturns t) = withReturns (trimEnd t) := by
    obtain ⟨gap, parts, blank, ends⟩ := Text.trimEndParts t
    have last : ∀ c ∈ (withReturns (trimEnd t)).getLast?, isBlank c = false := by
      rcases List.eq_nil_or_concat' (trimEnd t) with none | ⟨start, d, some⟩
      · simp [none, withReturns]
      · have shows : isBlank d = false := ends d (by simp [some])
        have newline : d ≠ '\n' := by
          rintro rfl
          rw [Text.newlineBlank] at shows
          cases shows
        rw [some, returnsAppend, returnsOther newline]
        simpa [withReturns] using shows
    conv => lhs; rw [parts, returnsAppend, Text.trimEndBlank _ (blankReturns blank)]
    exact Text.trimEndSame.mpr last
  rw [trim, trimStart, dropReturns blanks]
  exact ended _

theorem foldedReturns {word : Text} (plain : ∀ x ∈ word, fold x ≠ fold '\n' ∧ fold x ≠ fold '\r')
    (t : Text) : afterFolded? word (withReturns t) = (afterFolded? word t).map withReturns := by
  induction word generalizing t with
  | nil => rfl
  | cons x word ih =>
    have first := plain x List.mem_cons_self
    have others := fun y member => plain y (List.mem_cons_of_mem x member)
    cases t using lineInduction with
    | nil => rfl
    | line t => simp [returnsLine, afterFolded?, first]
    | other c t newline =>
      rw [returnsOther newline, afterFolded?, afterFolded?, ih others]
      split <;> rfl

theorem colonReturns (t : Text) : dropColon (withReturns t) = withReturns (dropColon t) := by
  cases t using lineInduction with
  | nil => rfl
  | line t => rfl
  | other c t newline =>
    by_cases colon : c = ':'
    · rw [colon, returnsOther (by decide)]
      rfl
    · simp [returnsOther newline, dropColon, colon]

theorem headingReturns (t : Text) :
    afterHeading? (withReturns t) = (afterHeading? t).map withReturns := by
  have marks : isMark '\r' = isMark '\n' := by decide
  have blanks : isBlank '\r' = isBlank '\n' := by decide +kernel
  unfold afterHeading?
  rw [headReturns marks, dropReturns marks, trimStart, dropReturns blanks, foldedReturns wordNoLine]
  split
  · rw [Option.map_map, Option.map_map]
    exact congrArg (Option.map · _) (funext colonReturns)
  · rfl

theorem openedReturns (t : Text) : opened? (withReturns t) = (opened? t).map withReturns := by
  induction t using lineInduction with
  | nil => rfl
  | line t ih =>
    rw [returnsLine, openedOther (by decide), openedLine, openedLine, ih, headingReturns,
      Option.map_or]
  | other c t newline ih => rw [returnsOther newline, openedOther newline, openedOther newline, ih]

theorem untilReturns (t : Text) :
    untilMark? (withReturns t) = (untilMark? t).map (withReturns · ++ ['\r']) := by
  have marks : isMark '\r' = isMark '\n' := by decide
  induction t using lineInduction with
  | nil => rfl
  | line t ih =>
    rw [returnsLine, untilMark?, untilMark?, untilMark?, headReturns marks, ih]
    cases mark : t.head?.any isMark with
    | true => simp [withReturns]
    | false => simp [returnsLine, Function.comp_def]
  | other c t newline ih =>
    rw [returnsOther newline, untilMark?, untilMark?, ih]
    simp [newline, returnsOther newline, Function.comp_def]

theorem sectionReturns (t : Text) :
    Readme.section? (withReturns t) = (section? t).map (withReturns · ++ ['\r']) := by
  rw [sectionOpened, sectionOpened, openedReturns]
  cases opened? t with
  | none => rfl
  | some body => exact untilReturns body

theorem paragraphsReturns (body : Text) :
    paragraphs (withReturns body ++ ['\r']) = [withReturns (trim body)].filter (!·.isEmpty) := by
  have trimmed : trim (withReturns body ++ ['\r']) = withReturns (trim body) := by
    rw [Text.trimConcat Text.returnBlank, trimReturns]
  rw [paragraphs, trimmed, cutPairsWhole (unpairedReturns _), List.map_singleton, trimReturns,
    Text.trimTrim]

theorem extractReturns (t : Text) : extract? (withReturns t) =
    (section? t).bind fun body => said? ([withReturns (trim body)].filter (!·.isEmpty)) := by
  rw [extractSaid, sectionReturns]
  cases section? t with
  | none => rfl
  | some body =>
    rw [Option.map_some, Option.bind_some, Option.bind_some, paragraphsReturns]

theorem returnsShown (shows : Text.Shows body) :
    said? ([withReturns (trim body)].filter (!·.isEmpty)) =
      some ⟨withReturns (trim body), withReturns (trim body)⟩ := by
  have shown : withReturns (trim body) ≠ [] := fun none => shows.trim (returnsInj none)
  simp [shown, said?, Text.joinOne]

theorem returnsRead (t : Text) :
    (extract? (withReturns t)).isSome = (extract? t).isSome ∧
    (∀ body, section? t = some body → ¬ Text.Blank body → extract? (withReturns t) =
      some ⟨withReturns (trim body), withReturns (trim body)⟩) ∧
    (extract? (withReturns t) = (extract? t).map Extract.withReturns ↔
      ∀ body, section? t = some body → ¬ Paired (trim body)) := by
  rw [extractReturns, extractSaid]
  cases section? t with
  | none => simp
  | some body =>
    simp only [Option.bind_some, Option.some.injEq, forall_eq']
    rcases Text.trimBegins body with ⟨blank, none⟩ | ⟨c, others, visible, member, begins⟩
    · rw [paragraphsNone.mpr blank, none]
      exact ⟨rfl, fun shows => absurd blank shows, by simp [said?, withReturns, pairedNil]⟩
    · have shows : Text.Shows body := ⟨c, member, visible⟩
      rw [returnsShown shows]
      cases found : paragraphs body with
      | nil =>
        rw [paragraphsNone.mp found c member] at visible
        cases visible
      | cons first rest =>
        refine ⟨rfl, fun _ => rfl, ?_⟩
        constructor
        · intro same paired
          have whole : trim body = first := returnsInj (congrArg Extract.summary (Option.some.inj same))
          have block : IsBlock first := paragraphBlock (found ▸ List.mem_cons_self)
          exact (blockIff.mp block).2.2 (whole ▸ paired)
        · intro apart
          rw [paragraphs, cutPairsWhole apart, List.map_singleton, Text.trimTrim,
            List.filter_cons_of_pos (by simp [shows.trim]), List.filter_nil] at found
          cases found
          simp [said?, Text.joinOne, Extract.withReturns]

theorem returnsMerged : ¬ ∀ t : Text, '\r' ∉ t →
    extract? (withReturns t) = (extract? t).map Extract.withReturns := by
  intro always
  have same := always "# own\n\n## DESCRIPTION:\n\nOne.\n\nTwo.\n\nThree.\n\n## END\n" (by decide)
  exact absurd same (by decide +kernel)

end GemSurvey.Readme
