import GemSurvey.Proofs.Text.CharClass
import GemSurvey.Proofs.Text.Word
import GemSurvey.Readme

/-! Where a description begins and ends. A README opens at its first heading, and the section goes
on to the next line with a mark. No heading goes past such a line, so what comes before the first
heading and what comes after the section have no part in it. -/
namespace GemSurvey.Readme
open Text (fold isBlank trimStart)

structure Heading where
  marks : Text
  gap : Text
  word : Text
  marked : marks ≠ [] ∧ ∀ c ∈ marks, isMark c = true
  blank : ∀ c ∈ gap, isBlank c = true
  named : word.map fold = ("DESCRIPTION" : Text).map fold

def Heading.text (h : Heading) : Text := h.marks ++ (h.gap ++ h.word)

def Untitled (t : Text) : Prop :=
  ∀ (h : Heading) (before after : Text), t ≠ before ++ '\n' :: (h.text ++ after)

def opened? : Text → Option Text
  | [] => none
  | c :: rest => if c = '\n' then (afterHeading? rest).or (opened? rest) else opened? rest

variable {t rest later body : Text}

theorem newlineNoMark : isMark '\n' = false := by decide

theorem wordNoLine : ∀ x ∈ ("DESCRIPTION" : Text), fold x ≠ fold '\n' ∧ fold x ≠ fold '\r' :=
  Text.eachOf (by decide +kernel)

theorem markIff {c : Char} : isMark c = true ↔ c = '=' ∨ c = '#' := by
  simp [isMark]

theorem markShows {c : Char} (mark : isMark c = true) : isBlank c = false := by
  rcases markIff.mp mark with rfl | rfl <;> decide +kernel

theorem initialPlain {c : Char} (same : fold c = fold 'D') : isMark c = false ∧ isBlank c = false := by
  constructor
  · refine Bool.eq_false_iff.mpr fun mark => ?_
    rcases markIff.mp mark with rfl | rfl <;> exact absurd same (by decide +kernel)
  · refine Bool.eq_false_iff.mpr fun blank => ?_
    have codes : ∀ code ∈ Text.blankCodes, fold (Char.ofNat code) ≠ fold 'D' := by decide +kernel
    exact codes c.toNat (Text.blankCoded blank) (by rwa [Char.ofNat_toNat])

theorem foldedIff {word : Text} : afterFolded? word t = some rest ↔
    ∃ same, t = same ++ rest ∧ same.map fold = word.map fold := by
  induction word generalizing t with
  | nil => simp [afterFolded?]
  | cons x word ih => cases t with
    | nil => simp [afterFolded?]
    | cons c t =>
      by_cases first : fold x = fold c
      · rw [afterFolded?, if_pos first, ih]
        constructor
        · rintro ⟨same, rfl, named⟩
          exact ⟨c :: same, rfl, by simp [first, named]⟩
        · rintro ⟨same, split, named⟩
          cases same with
          | nil => cases named
          | cons d same =>
            cases (List.cons.inj split).1
            exact ⟨same, (List.cons.inj split).2, (List.cons.inj named).2⟩
      · rw [afterFolded?, if_neg first]
        constructor
        · intro none
          cases none
        · rintro ⟨same, split, named⟩
          cases same with
          | nil => cases named
          | cons d same =>
            cases (List.cons.inj split).1
            exact absurd (List.cons.inj named).1.symm first

namespace Heading
variable (h : Heading)

theorem initial : ∃ c more, h.word = c :: more ∧ isMark c = false ∧ isBlank c = false := by
  cases word : h.word with
  | nil =>
    have named := h.named
    rw [word] at named
    cases named
  | cons c more =>
    have named := h.named
    rw [word] at named
    exact ⟨c, more, rfl, initialPlain (List.cons.inj named).1⟩

theorem headMarked (after : Text) : (h.text ++ after).head?.any isMark = true := by
  obtain ⟨some, marked⟩ := h.marked
  cases marks : h.marks with
  | nil => exact absurd marks some
  | cons c more => simpa [text, marks] using marked c (by simp [marks])

theorem read (after : Text) : afterHeading? (h.text ++ after) = some (dropColon after) := by
  obtain ⟨c, more, word, noMark, shows⟩ := h.initial
  have gap : ((h.gap ++ h.word) ++ after).head?.any isMark = false := by
    cases gap : h.gap with
    | nil => simp [word, noMark]
    | cons d others =>
      have blank := h.blank d (by simp [gap])
      have plain : isMark d = false := by
        refine Bool.eq_false_iff.mpr fun mark => ?_
        rw [markShows mark] at blank
        cases blank
      simp [plain]
  have begun : (h.text ++ after).dropWhile isMark = h.gap ++ (h.word ++ after) := by
    rw [text, List.append_assoc, (Text.runTaken h.marked.2 gap).2, List.append_assoc]
  have past : trimStart (h.gap ++ (h.word ++ after)) = h.word ++ after :=
    (Text.runTaken h.blank (by simp [word, shows])).2
  rw [afterHeading?, if_pos (h.headMarked after), begun, past,
    foldedIff.mpr ⟨h.word, rfl, h.named⟩]
  rfl

end Heading

theorem afterHeadingIff : afterHeading? t = some body ↔
    ∃ (h : Heading) (after : Text), t = h.text ++ after ∧ dropColon after = body := by
  constructor
  · intro found
    unfold afterHeading? at found
    split at found
    · rename_i mark
      obtain ⟨after, folded, rfl⟩ := Option.map_eq_some_iff.mp found
      obtain ⟨word, split, named⟩ := foldedIff.mp folded
      have marks : t.takeWhile isMark ≠ [] := by
        cases t with
        | nil => cases mark
        | cons c others =>
          have first : isMark c = true := by simpa using mark
          simp [first]
      refine ⟨⟨_, _, word, ⟨marks, Text.runAll isMark t⟩,
        Text.runAll isBlank (t.dropWhile isMark), named⟩, after, ?_, rfl⟩
      have gap : t.dropWhile isMark = (t.dropWhile isMark).takeWhile isBlank ++ (word ++ after) := by
        rw [← split]
        exact List.takeWhile_append_dropWhile.symm
      calc t = t.takeWhile isMark ++ t.dropWhile isMark := List.takeWhile_append_dropWhile.symm
        _ = t.takeWhile isMark ++ ((t.dropWhile isMark).takeWhile isBlank ++ (word ++ after)) :=
            congrArg _ gap
        _ = _ := by simp [Heading.text]
    · cases found
  · rintro ⟨h, after, rfl, rfl⟩
    exact h.read after

theorem headingNone : afterHeading? t = none ↔
    ∀ (h : Heading) (after : Text), t ≠ h.text ++ after := by
  rw [Option.eq_none_iff_forall_ne_some]
  constructor
  · intro none h after same
    exact none _ (afterHeadingIff.mpr ⟨h, after, same, rfl⟩)
  · intro none body found
    obtain ⟨h, after, same, _⟩ := afterHeadingIff.mp found
    exact none h after same

theorem untitledCons {c : Char} :
    Untitled (c :: t) ↔ (c = '\n' → afterHeading? t = none) ∧ Untitled t := by
  rw [headingNone]
  constructor
  · intro untitled
    refine ⟨?_, fun h before after same => untitled h (c :: before) after (by rw [same]; rfl)⟩
    rintro rfl h after same
    exact untitled h [] after (by rw [same]; rfl)
  · rintro ⟨first, others⟩ h before after same
    cases before with
    | nil => exact first (List.cons.inj same).1 h after (List.cons.inj same).2
    | cons d before => exact others h before after (List.cons.inj same).2

theorem openedLine (t : Text) : opened? ('\n' :: t) = (afterHeading? t).or (opened? t) := rfl

theorem openedOther {c : Char} (other : c ≠ '\n') (t : Text) : opened? (c :: t) = opened? t :=
  if_neg other

theorem openedNone : opened? t = none ↔ Untitled t := by
  induction t with
  | nil => simp [opened?, Untitled]
  | cons c t ih =>
    rw [untitledCons, opened?, ← ih]
    split <;> simp [*]

theorem sectionOpened (t : Text) : section? t = (opened? t).bind untilMark? := by
  induction t with
  | nil => rfl
  | cons c t ih =>
    rw [section?, opened?]
    by_cases newline : c = '\n'
    · simp only [newline, beq_self_eq_true, if_true]
      cases afterHeading? t with
      | none => simpa using ih
      | some body => rfl
    · simpa [newline] using ih

theorem foldedLine {word : Text} (oneLine : ∀ x ∈ word, fold x ≠ fold '\n') (t later : Text) :
    afterFolded? word (t ++ '\n' :: later) = (afterFolded? word t).map (· ++ '\n' :: later) := by
  induction word generalizing t with
  | nil => rfl
  | cons x word ih => cases t with
    | nil => simp [afterFolded?, oneLine x List.mem_cons_self]
    | cons c t =>
      simp only [List.cons_append, afterFolded?]
      split
      · exact ih (fun y member => oneLine y (List.mem_cons_of_mem _ member)) t
      · rfl

theorem colonLine (t later : Text) :
    dropColon (t ++ '\n' :: later) = dropColon t ++ '\n' :: later := by
  cases t with
  | nil => rfl
  | cons c t => by_cases colon : c = ':' <;> simp [dropColon, colon]

section
variable (mark : later.head?.any isMark = true)
include mark

theorem headingMarked (t : Text) :
    afterHeading? (t ++ '\n' :: later) = (afterHeading? t).map (· ++ '\n' :: later) := by
  obtain ⟨past, same⟩ : ∃ past, past = t.dropWhile isMark := ⟨_, rfl⟩
  have folded : afterFolded? "DESCRIPTION" (trimStart (past ++ '\n' :: later)) =
      (afterFolded? "DESCRIPTION" (trimStart past)).map (· ++ '\n' :: later) := by
    rcases Text.blankOrShows past with blank | shows
    · obtain ⟨c, more, rfl⟩ : ∃ c more, later = c :: more := by
        cases later with
        | nil => cases mark
        | cons c more => exact ⟨c, more, rfl⟩
      have first : isMark c = true := by simpa using mark
      have skipped : trimStart (past ++ '\n' :: c :: more) = c :: more := by
        rw [trimStart, List.dropWhile_append_of_pos blank]
        simp [Text.newlineBlank, markShows first]
      have noLetter : fold 'D' ≠ fold c := fun same => by
        rw [(initialPlain same.symm).1] at first
        cases first
      rw [skipped, trimStart, List.dropWhile_eq_nil_iff.mpr blank]
      exact if_neg noLetter
    · rw [Text.trimStartAppend shows]
      exact foldedLine (fun x member => (wordNoLine x member).1) _ later
  unfold afterHeading?
  rw [Text.headMarked newlineNoMark, (Text.runMarked newlineNoMark t later).2, ← same, folded]
  split
  · rw [Option.map_map, Option.map_map]
    exact congrArg (Option.map · _) (funext fun after => colonLine after later)
  · rfl

theorem openedMarked (t : Text) : opened? (t ++ '\n' :: later) =
    ((opened? t).map (· ++ '\n' :: later)).or (opened? ('\n' :: later)) := by
  induction t with
  | nil => rfl
  | cons c t ih =>
    by_cases newline : c = '\n'
    · rw [newline, List.cons_append, openedLine, ih, headingMarked mark, openedLine t, Option.map_or,
        Option.or_assoc]
    · rw [List.cons_append, openedOther newline, ih, openedOther newline]

theorem untilMarked (t : Text) :
    untilMark? (t ++ '\n' :: later) = some ((untilMark? t).getD t) := by
  induction t with
  | nil => simp [untilMark?, mark]
  | cons c t ih =>
    rw [List.cons_append, untilMark?, untilMark?, Text.headMarked newlineNoMark, ih]
    split
    · rfl
    · cases untilMark? t <;> rfl

end

theorem openedIff : opened? t = some body ↔ ∃ (before : Text) (h : Heading) (after : Text),
    t = before ++ '\n' :: (h.text ++ after) ∧ Untitled before ∧ dropColon after = body := by
  constructor
  · intro found
    induction t with
    | nil => cases found
    | cons c t ih =>
      by_cases newline : c = '\n'
      · rw [newline, openedLine] at found
        cases first : afterHeading? t with
        | some here =>
          rw [first, Option.some_or] at found
          cases Option.some.inj found
          obtain ⟨h, after, rfl, rfl⟩ := afterHeadingIff.mp first
          exact ⟨[], h, after, by rw [newline]; rfl, openedNone.mp rfl, rfl⟩
        | none =>
          rw [first, Option.none_or] at found
          obtain ⟨before, h, after, rfl, untitled, rfl⟩ := ih found
          rw [headingMarked (h.headMarked after), Option.map_eq_none_iff] at first
          exact ⟨c :: before, h, after, rfl, untitledCons.mpr ⟨fun _ => first, untitled⟩, rfl⟩
      · rw [openedOther newline] at found
        obtain ⟨before, h, after, rfl, untitled, rfl⟩ := ih found
        exact ⟨c :: before, h, after, rfl,
          untitledCons.mpr ⟨fun same => absurd same newline, untitled⟩, rfl⟩
  · rintro ⟨before, h, after, rfl, untitled, rfl⟩
    rw [openedMarked (h.headMarked after), openedNone.mpr untitled]
    simp [opened?, h.read]

end GemSurvey.Readme
