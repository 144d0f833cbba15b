import GemSurvey.Proofs.Text.Word
import GemSurvey.Readme

/-! Paragraphs: what is left of a section when it is cut at every pair of newlines and trimmed. They
are blocks, without white space around them and without empty lines within, and blocks with an
empty line between them are read back one by one. -/
namespace GemSurvey.Readme
open Text (trim isBlank)

def said? : List Text → Option Extract
  | first :: rest => some ⟨Text.join ['\n', '\n'] (first :: rest.take 1), first⟩
  | [] => none

theorem extractSaid (t : Text) :
    extract? t = (section? t).bind fun body => said? (paragraphs body) := by
  unfold extract?
  cases section? t with
  | none => rfl
  | some body =>
    rw [Option.map_some, Option.bind_some]
    cases paragraphs body <;> rfl

theorem saidNone {ps : List Text} : said? ps = none ↔ ps = [] := by
  cases ps <;> simp [said?]

def Paired (t : Text) : Prop := ['\n', '\n'] <:+: t

structure IsBlock (t : Text) : Prop where
  filled : t ≠ []
  trimmed : trim t = t
  full : [] ∉ Text.cut '\n' t

variable {t piece body : Text} {c : Char}

theorem pairedNil : ¬ Paired [] := by simp [Paired]

theorem pairedCons : Paired (c :: t) ↔ (c = '\n' ∧ t.head? = some '\n') ∨ Paired t := by
  unfold Paired
  rw [List.infix_cons_iff]
  refine or_congr_left ?_
  cases t with
  | nil => simp
  | cons d t => simp [List.cons_prefix_cons, eq_comm]

theorem pairedConcat : Paired (t ++ [c]) ↔ (c = '\n' ∧ t.getLast? = some '\n') ∨ Paired t := by
  induction t with
  | nil => simp [pairedCons]
  | cons d t ih =>
    rw [List.cons_append, pairedCons, ih, pairedCons]
    cases t with
    | nil => simp [and_comm]
    | cons e t => simp [or_left_comm]

theorem lineEnded (t : Text) : Text.cut '\n' ('\n' :: t) = [] :: Text.cut '\n' t := rfl

theorem lineContinued (other : c ≠ '\n') (t : Text) :
    Text.cut '\n' (c :: t) = (Text.cut '\n' t).modifyHead (c :: ·) :=
  Text.cutByOther (by simpa using other) t

theorem firstLineEmpty (t : Text) :
    (Text.cut '\n' t).head? = some [] ↔ (t ++ ['\n']).head? = some '\n' := by
  cases t with
  | nil => simp [Text.cut, Text.cutBy]
  | cons c t =>
    by_cases newline : c = '\n'
    · simp [newline, lineEnded]
    · simp [lineContinued newline, newline]

theorem emptyOrLater (t : Text) : [] ∈ Text.cut '\n' t ↔
    (t ++ ['\n']).head? = some '\n' ∨ [] ∈ (Text.cut '\n' t).tail := by
  rw [← firstLineEmpty]
  cases pieces : Text.cut '\n' t with
  | nil => exact absurd pieces (Text.cutByNonempty _ t)
  | cons piece others => simp [eq_comm]

theorem laterEmpty (t : Text) : [] ∈ (Text.cut '\n' t).tail ↔ Paired (t ++ ['\n']) := by
  induction t with
  | nil => simp [Text.cut, Text.cutBy, pairedCons, pairedNil]
  | cons c t ih =>
    rw [List.cons_append, pairedCons, ← ih]
    by_cases newline : c = '\n'
    · simp [newline, lineEnded, emptyOrLater]
    · simp [lineContinued newline, newline]

theorem emptyLine : [] ∈ Text.cut '\n' t ↔ Paired ('\n' :: (t ++ ['\n'])) := by
  rw [emptyOrLater, laterEmpty, pairedCons]
  simp

theorem blockIff : IsBlock t ↔ t ≠ [] ∧ trim t = t ∧ ¬ Paired t := by
  have full (filled : t ≠ []) (trimmed : trim t = t) : [] ∉ Text.cut '\n' t ↔ ¬ Paired t := by
    obtain ⟨begins, ends⟩ := Text.trimSame.mp trimmed
    have start : (t ++ ['\n']).head? ≠ some '\n' := by
      rw [List.head?_append_of_ne_nil _ filled]
      intro newline
      exact absurd (begins '\n' newline) (by simp [Text.newlineBlank])
    have last : t.getLast? ≠ some '\n' := by
      intro newline
      exact absurd (ends '\n' newline) (by simp [Text.newlineBlank])
    rw [emptyLine, pairedCons, pairedConcat]
    simp only [start, last, and_false, false_or]
  constructor
  · intro block
    exact ⟨block.filled, block.trimmed, (full block.filled block.trimmed).mp block.full⟩
  · rintro ⟨filled, trimmed, apart⟩
    exact ⟨filled, trimmed, (full filled trimmed).mpr apart⟩

theorem cutPairsNonempty (t : Text) : cutPairs t ≠ [] := by
  fun_cases cutPairs t <;> simp

theorem apartIff : (∀ rest, c = '\n' → t = '\n' :: rest → False) ↔
    ¬ (c = '\n' ∧ t.head? = some '\n') := by
  cases t with
  | nil => simp
  | cons d t => simp

theorem cutPairsCons (apart : ¬ (c = '\n' ∧ t.head? = some '\n')) :
    cutPairs (c :: t) = (cutPairs t).modifyHead (c :: ·) := by
  rw [cutPairs.eq_2 c t (apartIff.mpr apart)]
  cases pieces : cutPairs t with
  | nil => exact absurd pieces (cutPairsNonempty t)
  | cons piece others => rfl

theorem cutPairsBegins {others : List Text} (pieces : cutPairs t = piece :: others) :
    piece <+: t := by
  induction t using cutPairs.induct generalizing piece others with
  | case1 rest ih =>
    cases pieces
    exact List.nil_prefix
  | case2 c rest apart first more later ih =>
    rw [cutPairsCons (apartIff.mp apart), later] at pieces
    cases pieces
    exact List.cons_prefix_cons.mpr ⟨rfl, ih later⟩
  | case3 c rest apart none ih => exact absurd none (cutPairsNonempty rest)
  | case4 =>
    cases pieces
    exact List.nil_prefix

theorem pieceUnpaired (member : piece ∈ cutPairs t) : ¬ Paired piece := by
  induction t using cutPairs.induct generalizing piece with
  | case1 rest ih =>
    rcases List.mem_cons.mp member with rfl | later
    · exact pairedNil
    · exact ih later
  | case2 c rest apart first more pieces ih =>
    rw [cutPairsCons (apartIff.mp apart), pieces] at member
    rw [pieces] at ih
    rcases List.mem_cons.mp member with rfl | later
    · rw [pairedCons, not_or]
      refine ⟨?_, ih List.mem_cons_self⟩
      rintro ⟨newline, begins⟩
      obtain ⟨after, rfl⟩ := List.head?_eq_some_iff.mp begins
      obtain ⟨tail, rfl⟩ := cutPairsBegins pieces
      exact apart _ newline rfl
    · exact ih (List.mem_cons_of_mem _ later)
  | case3 c rest apart none ih => exact absurd none (cutPairsNonempty rest)
  | case4 =>
    rw [List.mem_singleton.mp member]
    exact pairedNil

theorem cutPairsWhole (apart : ¬ Paired t) : cutPairs t = [t] := by
  induction t with
  | nil => rfl
  | cons c t ih =>
    rw [pairedCons, not_or] at apart
    rw [cutPairsCons apart.1, ih apart.2]
    rfl

theorem cutPairsBlock (apart : ¬ Paired (t ++ ['\n'])) (rest : Text) :
    cutPairs (t ++ '\n' :: '\n' :: rest) = t :: cutPairs rest := by
  induction t with
  | nil => rfl
  | cons c t ih =>
    rw [List.cons_append, pairedCons, not_or] at apart
    have here : ¬ (c = '\n' ∧ (t ++ '\n' :: '\n' :: rest).head? = some '\n') := by
      cases t <;> simpa using apart.1
    rw [List.cons_append, cutPairsCons here, ih apart.2]
    rfl

theorem trimWithin (t : Text) : trim t <:+: t :=
  (Text.trimEndStarts _).isInfix.trans (List.dropWhile_suffix isBlank).isInfix

theorem paragraphsNone : paragraphs body = [] ↔ Text.Blank body := by
  rcases Text.trimBegins body with ⟨blank, empty⟩ | ⟨c, rest, shows, member, begins⟩
  · simp only [paragraphs, empty]
    exact ⟨fun _ => blank, fun _ => by decide⟩
  · have other : ¬ (c = '\n' ∧ rest.head? = some '\n') := by
      rintro ⟨rfl, _⟩
      rw [Text.newlineBlank] at shows
      cases shows
    obtain ⟨piece, others, pieces⟩ := List.exists_cons_of_ne_nil (cutPairsNonempty rest)
    have first : Text.trim (c :: piece) ≠ [] :=
      Text.Shows.trim ⟨c, List.mem_cons_self, shows⟩
    constructor
    · intro none
      rw [paragraphs, begins, cutPairsCons other, pieces] at none
      simp [first] at none
    · intro blank
      rw [blank c member] at shows
      cases shows

theorem paragraphBlock {p : Text} (member : p ∈ paragraphs body) : IsBlock p := by
  obtain ⟨cut, filled⟩ := List.mem_filter.mp member
  obtain ⟨piece, there, rfl⟩ := List.mem_map.mp cut
  refine blockIff.mpr ⟨by simpa using filled, Text.trimTrim piece, fun paired => ?_⟩
  exact pieceUnpaired there (paired.trans (trimWithin piece))

theorem joinCons (first second : Text) (others : List Text) :
    Text.join ['\n', '\n'] (first :: second :: others) =
      first ++ '\n' :: '\n' :: Text.join ['\n', '\n'] (second :: others) :=
  Text.joinCons ['\n', '\n'] first second others

theorem IsBlock.apart (block : IsBlock t) : ¬ Paired (t ++ ['\n']) := by
  have none := emptyLine.not.mp block.full
  rw [pairedCons, not_or] at none
  exact none.2

section
variable {ps : List Text} (filled : ps ≠ []) (blocks : ∀ p ∈ ps, IsBlock p)
include filled blocks

theorem cutPairsJoined : cutPairs (Text.join ['\n', '\n'] ps) = ps := by
  induction ps with
  | nil => exact absurd rfl filled
  | cons first others ih =>
    have block := blocks first List.mem_cons_self
    cases others with
    | nil => rw [Text.joinOne, cutPairsWhole (blockIff.mp block).2.2]
    | cons second others =>
      rw [joinCons, cutPairsBlock block.apart, ih (by simp) fun p member =>
        blocks p (List.mem_cons_of_mem _ member)]

theorem trimJoined : Text.join ['\n', '\n'] ps ≠ [] ∧
    trim (Text.join ['\n', '\n'] ps) = Text.join ['\n', '\n'] ps := by
  induction ps with
  | nil => exact absurd rfl filled
  | cons first others ih =>
    have block := blocks first List.mem_cons_self
    cases others with
    | nil =>
      rw [Text.joinOne]
      exact ⟨block.filled, block.trimmed⟩
    | cons second others =>
      obtain ⟨more, trimmed⟩ := ih (by simp) fun p member =>
        blocks p (List.mem_cons_of_mem _ member)
      rw [joinCons]
      refine ⟨by simp, Text.trimSame.mpr ⟨?_, ?_⟩⟩
      · rw [List.head?_append_of_ne_nil _ block.filled]
        exact (Text.trimSame.mp block.trimmed).1
      · rw [List.getLast?_append_of_ne_nil _ (by simp), List.getLast?_cons_cons,
          List.getLast?_cons_of_ne_nil more]
        exact (Text.trimSame.mp trimmed).2

theorem paragraphsJoined {before gap : Text} (opening : Text.Blank before)
    (closing : Text.Blank gap) :
    paragraphs (before ++ (Text.join ['\n', '\n'] ps ++ gap)) = ps := by
  obtain ⟨some, trimmed⟩ := trimJoined filled blocks
  obtain ⟨begins, ends⟩ := Text.trimSame.mp trimmed
  have around : trim (before ++ (Text.join ['\n', '\n'] ps ++ gap)) =
      Text.join ['\n', '\n'] ps := by
    have skipped : Text.trimStart (before ++ (Text.join ['\n', '\n'] ps ++ gap)) =
        Text.trimStart (Text.join ['\n', '\n'] ps ++ gap) :=
      List.dropWhile_append_of_pos opening
    rw [trim, skipped]
    exact Text.trimAround some begins ends closing
  have kept : ps.map trim = ps :=
    (List.map_congr_left fun p member => (blocks p member).trimmed).trans (List.map_id ps)
  rw [paragraphs, around, cutPairsJoined filled blocks, kept, List.filter_eq_self]
  intro p member
  simpa using (blocks p member).filled

end
end GemSurvey.Readme
