import GemSurvey.Proofs.Readme.Heading
import GemSurvey.Proofs.Readme.Paragraphs

/-! What a README says of its gem. No line of a paragraph is blank or looks like a heading. The
paragraphs of a section under a heading are found as they were written, whatever stands before the
heading and after the section; and of any text, a summary is found exactly if a description is, which is
the summary or goes on from it. -/
namespace GemSurvey
namespace Readme
open Text (trim fold)

structure IsParagraph (t : Text) : Prop where
  filled : t ≠ []
  trimmed : trim t = t
  shown : ∀ line ∈ Text.cut '\n' t, Text.Shows line
  unmarked : ∀ line ∈ Text.cut '\n' t, line.head?.any isMark = false

instance (t : Text) : Decidable (Text.Shows t) := List.decidableBEx _ t

instance (t : Text) : Decidable (IsParagraph t) :=
  decidable_of_iff (t ≠ [] ∧ trim t = t ∧ (∀ line ∈ Text.cut '\n' t, Text.Shows line) ∧
      ∀ line ∈ Text.cut '\n' t, line.head?.any isMark = false)
    ⟨fun h => ⟨h.1, h.2.1, h.2.2.1, h.2.2.2⟩,
      fun h => ⟨h.filled, h.trimmed, h.shown, h.unmarked⟩⟩

structure Chapter where
  marks : Text
  word : Text
  paragraphs : List Text
  closing : Text
  marked : marks ≠ [] ∧ ∀ c ∈ marks, isMark c = true
  named : word.map Char.toUpper = ("DESCRIPTION" : Text)
  filled : paragraphs ≠ []
  plain : ∀ p ∈ paragraphs, IsParagraph p
  closed : closing.head?.any isMark = true

def Chapter.text (s : Chapter) : Text :=
  s.marks ++ " " ++ s.word ++ ":\n\n" ++ Text.join ['\n', '\n'] s.paragraphs ++ "\n\n" ++ s.closing

inductive Stated : Option Text → Option Text → Prop where
  | nothing : Stated none none
  | alone {summary} (block : IsBlock summary) : Stated (some summary) (some summary)
  | more {summary next} (block : IsBlock summary) (other : IsBlock next) :
      Stated (some (summary ++ '\n' :: '\n' :: next)) (some summary)

theorem IsParagraph.block {p : Text} (plain : IsParagraph p) : IsBlock p := by
  refine ⟨plain.filled, plain.trimmed, fun empty => ?_⟩
  obtain ⟨c, member, _⟩ := plain.shown [] empty
  cases member

theorem upperFolded {c x : Char} (letter : x ∈ ("DESCRIPTION" : Text)) (same : c.toUpper = x) :
    fold c = fold x := by
  have lower : ∀ x ∈ ("DESCRIPTION" : Text), fold (Char.ofNat (x.toNat + 32)) = fold x :=
    Text.eachOf (by decide +kernel)
  unfold Char.toUpper at same
  split at same
  · rename_i small
    have code : c.toNat = x.toNat + 32 := by
      have least : 97 ≤ c.toNat := small.1
      have value : x.toNat = (c.toNat + 4294967264) % 4294967296 := by
        rw [← same]
        exact UInt32.toNat_add _ _
      have most : c.toNat ≤ 122 := small.2
      omega
    rw [← lower x letter, ← code, Char.ofNat_toNat]
  · rw [same]

theorem firstLineHead {t line : Text} {others : List Text}
    (lines : Text.cut '\n' t = line :: others) : line.head?.any isMark = t.head?.any isMark := by
  cases t with
  | nil =>
    cases lines
    rfl
  | cons c t =>
    by_cases newline : c = '\n'
    · rw [newline, lineEnded] at lines
      cases lines
      simp [newline, newlineNoMark]
    · obtain ⟨first, more, later⟩ := List.exists_cons_of_ne_nil (Text.cutByNonempty (· == '\n') t)
      rw [lineContinued newline, show Text.cut '\n' t = first :: more from later] at lines
      cases lines
      rfl

theorem unendedIff {t : Text} : untilMark? t = none ↔
    ∀ line ∈ (Text.cut '\n' t).tail, line.head?.any isMark = false := by
  induction t with
  | nil => simp [untilMark?, Text.cut, Text.cutBy]
  | cons c t ih =>
    by_cases newline : c = '\n'
    · cases lines : Text.cut '\n' t with
      | nil => exact absurd lines (Text.cutByNonempty _ t)
      | cons line others =>
        rw [lines] at ih
        rw [newline, lineEnded, lines, List.tail_cons, List.forall_mem_cons, firstLineHead lines,
          ← @List.tail_cons _ line others, ← ih, untilMark?]
        cases mark : t.head?.any isMark <;> simp
    · have tail : (Text.cut '\n' (c :: t)).tail = (Text.cut '\n' t).tail := by
        simp [lineContinued newline]
      rw [tail, ← ih, untilMark?]
      simp [newline]

theorem linesOfJoined {ps : List Text} {line : Text}
    (member : line ∈ Text.cut '\n' (Text.join ['\n', '\n'] ps)) :
    line = [] ∨ ∃ p ∈ ps, line ∈ Text.cut '\n' p := by
  induction ps with
  | nil => exact .inl (List.mem_singleton.mp member)
  | cons first others ih =>
    cases others with
    | nil =>
      rw [Text.joinOne] at member
      exact .inr ⟨first, List.mem_cons_self, member⟩
    | cons second others =>
      unfold Text.cut at member ih
      rw [joinCons, Text.cutByAppend first _ rfl, List.mem_append] at member
      rcases member with here | later
      · exact .inr ⟨first, List.mem_cons_self, here⟩
      · rcases List.mem_cons.mp later with rfl | later
        · exact .inl rfl
        · rcases ih later with empty | ⟨p, there, within⟩
          · exact .inl empty
          · exact .inr ⟨p, List.mem_cons_of_mem _ there, within⟩

namespace Chapter
variable (s : Chapter) {before : Text}

def heading : Heading where
  marks := s.marks
  gap := " "
  word := s.word
  marked := s.marked
  blank := Text.eachOf (by decide +kernel)
  named := by
    have folded : s.word.map fold = (s.word.map Char.toUpper).map fold := by
      rw [List.map_map]
      refine List.map_congr_left fun c member => upperFolded ?_ rfl
      rw [← s.named]
      exact List.mem_map_of_mem member
    rw [folded, s.named]

def inner : Text := '\n' :: '\n' :: (Text.join ['\n', '\n'] s.paragraphs ++ ['\n'])

theorem innerUnended : untilMark? s.inner = none := by
  refine unendedIff.mpr fun line member => ?_
  rw [inner, lineEnded, List.tail_cons, lineEnded] at member
  unfold Text.cut at member
  rw [Text.cutByAppend _ [] rfl] at member
  have empty : line = [] → line.head?.any isMark = false := by
    rintro rfl
    rfl
  rcases List.mem_cons.mp member with none | written
  · exact empty none
  rcases List.mem_append.mp written with joined | last
  · rcases linesOfJoined joined with none | ⟨p, there, within⟩
    · exact empty none
    · exact (s.plain p there).unmarked line within
  · exact empty (List.mem_singleton.mp last)

theorem sectionRead (untitled : Untitled before) : section? (before ++ '\n' :: s.text) =
    some s.inner := by
  have written : s.text = s.heading.text ++ (':' :: (s.inner ++ '\n' :: s.closing)) := by
    simp [text, heading, Heading.text, inner]
  rw [sectionOpened, written, openedMarked (s.heading.headMarked _), openedNone.mpr untitled,
    openedLine, s.heading.read]
  exact (untilMarked s.closed s.inner).trans (by rw [s.innerUnended]; rfl)

end Chapter

theorem statedOf (t : Text) :
    Stated ((extract? t).map Extract.description) ((extract? t).map Extract.summary) := by
  rw [extractSaid]
  cases section? t with
  | none => exact .nothing
  | some body =>
    rw [Option.bind_some]
    have blocks : ∀ p ∈ paragraphs body, IsBlock p := fun p member => paragraphBlock member
    cases found : paragraphs body with
    | nil => exact .nothing
    | cons first rest =>
      rw [found] at blocks
      have block := blocks first List.mem_cons_self
      cases rest with
      | nil =>
        rw [said?, List.take_nil, Text.joinOne]
        exact .alone block
      | cons next others =>
        rw [said?, List.take_succ_cons, List.take_zero, joinCons, Text.joinOne]
        exact .more block (blocks next (by simp))

theorem chapterDescribes {before : Text} (untitled : Untitled before) (s : Chapter) :
    extract? (before ++ '\n' :: s.text) =
      some ⟨Text.join ['\n', '\n'] (s.paragraphs.take 2), s.paragraphs.head s.filled⟩ ∧
    ∀ t, Stated ((extract? t).map Extract.description) ((extract? t).map Extract.summary) := by
  refine ⟨?_, statedOf⟩
  have around : Text.Blank ['\n', '\n'] ∧ Text.Blank ['\n'] := by
    constructor <;> simp [Text.Blank, Text.newlineBlank]
  have found : paragraphs s.inner = s.paragraphs :=
    paragraphsJoined s.filled (fun p member => (s.plain p member).block) around.1 around.2
  rw [extractSaid, s.sectionRead untitled, Option.bind_some, found]
  obtain ⟨first, rest, same⟩ := List.exists_cons_of_ne_nil s.filled
  simp only [same, said?, List.take_succ_cons, List.head_cons]

end Readme

/- A README that has the word in its text before the heading. -/
namespace Sample

def preface : Text := "# own\n\nSee\n DESCRIPTION and # Description.\n"

def chapter : Readme.Chapter where
  marks := "=#"
  word := "Description"
  paragraphs := ["Keeps things\n # tidy.", "Quietly.", "And often."]
  closing := "## DESCRIPTION:\n\nAgain.\n\n# END\n"
  marked := ⟨by decide, Text.eachOf (by decide)⟩
  named := by decide
  filled := by decide
  plain := by decide +kernel
  closed := by decide

end Sample

namespace Readme

theorem sampleDescribes :
    Untitled Sample.preface ∧
    extract? (Sample.preface ++ '\n' :: Sample.chapter.text) =
      some ⟨"Keeps things\n # tidy.\n\nQuietly.", "Keeps things\n # tidy."⟩ ∧
    ∀ t, Stated ((extract? t).map Extract.description) ((extract? t).map Extract.summary) := by
  have untitled : Untitled Sample.preface := openedNone.mp (by decide +kernel)
  obtain ⟨found, stated⟩ := chapterDescribes untitled Sample.chapter
  exact ⟨untitled, found, stated⟩

end Readme
end GemSurvey
