import GemSurvey.Path
import GemSurvey.Proofs.Text.Cutting
import GemSurvey.Proofs.Text.Start

/-! Joined paths and their names. A relative path is found below the one that it is joined to. A path's
first component is that of its first piece, whatever is joined to it; its last is the name joined last,
and what follows the last dot of that name is the extension. -/
namespace GemSurvey.Path

variable {p q : Path}

def separated (p q : Path) : Path := ⟨p.text ++ '/' :: q.text⟩

theorem piecesSeparated (before after : Text) :
    (⟨before ++ '/' :: after⟩ : Path).pieces = (⟨before⟩ : Path).pieces ++ (⟨after⟩ : Path).pieces :=
  Text.cutByAppend before after rfl

theorem componentsRepeated (before after : Text) :
    (⟨before ++ '/' :: '/' :: after⟩ : Path).components =
      (⟨before ++ '/' :: after⟩ : Path).components := by
  have doubled : (⟨before ++ '/' :: '/' :: after⟩ : Path).pieces =
      (⟨before⟩ : Path).pieces ++ [] :: (⟨after⟩ : Path).pieces := by
    rw [piecesSeparated]
    exact congrArg _ (piecesSeparated [] after)
  have absolute : (⟨before ++ '/' :: '/' :: after⟩ : Path).isAbsolute =
      (⟨before ++ '/' :: after⟩ : Path).isAbsolute := by
    cases before <;> rfl
  have some : (⟨before⟩ : Path).pieces ≠ [] := Text.cutByNonempty _ before
  have head : ((⟨before⟩ : Path).pieces ++ [] :: (⟨after⟩ : Path).pieces).head? =
      ((⟨before⟩ : Path).pieces ++ (⟨after⟩ : Path).pieces).head? := by
    obtain ⟨first, others, same⟩ := List.exists_cons_of_ne_nil some
    rw [same]
    rfl
  simp only [components, absolute, doubled, piecesSeparated, head, List.filterMap_append,
    List.filterMap_cons, component?, true_or, if_true]

theorem joinBelow (named : p.text ≠ []) (relative : q.isAbsolute = false) :
    (p.join q).same (p.separated q) = true := by
  have same : (p.join q).components = (p.separated q).components := by
    unfold join separated
    rw [if_neg (by simp [named, relative])]
    split
    · rename_i ends
      obtain ⟨before, text⟩ := List.getLast?_eq_some_iff.mp ends
      rw [text, List.append_assoc, List.append_assoc]
      exact (componentsRepeated before q.text).symm
    · rfl
  exact beq_iff_eq.mpr same

end GemSurvey.Path

namespace GemSurvey.Path

structure IsName (t : Text) : Prop where
  some : t ≠ []
  one : '/' ∉ t
  here : t ≠ ['.']
  up : t ≠ ['.', '.']

def EndsIn (p : Path) (suffix : Text) : Prop :=
  '.' ∉ suffix ∧ ∃ stem, stem ≠ [] ∧ p.components.getLast? = some (.name (stem ++ '.' :: suffix))

section
variable {p q : Path} {name suffix : Text} {c : Component}

theorem ofName (plain : IsName name) : component? name = some (.name name) := by
  simp [component?, plain.some, plain.here, plain.up]

theorem componentName {piece : Text} (one : '/' ∉ piece)
    (found : component? piece = some (.name name)) : IsName name := by
  unfold component? at found
  split at found
  · cases found
  · rename_i other
    rw [not_or] at other
    split at found
    · cases found
    · rename_i down
      cases found
      exact ⟨other.1, one, other.2, down⟩

theorem pieceWhole {piece : Text} (member : piece ∈ p.pieces) : '/' ∉ piece :=
  Text.unmarkedIff.mp (Text.cutByPieces member)

theorem memComponents (member : .name name ∈ p.components) : IsName name := by
  have inner : .name name ∈ p.pieces.filterMap component? := by
    unfold components at member
    split at member
    · simpa using member
    · split at member
      · simpa using member
      · exact member
  obtain ⟨piece, there, found⟩ := List.mem_filterMap.mp inner
  exact componentName (pieceWhole there) found

theorem componentsLast (last : (p.pieces.filterMap component?).getLast? = some c) :
    p.components.getLast? = some c := by
  unfold components
  split
  · rw [List.getLast?_cons, last]
    rfl
  · split
    · rw [List.getLast?_cons, last]
      rfl
    · exact last

def opening (p : Path) : Text := p.text.takeWhile (· != '/')

theorem firstPiece (p : Path) : p.pieces.head? = some p.opening := by
  unfold pieces Text.cut opening
  generalize p.text = t
  induction t with
  | nil => rfl
  | cons c rest ih =>
    rw [Text.cutBy]
    split
    · rename_i slash
      simp [bne, slash]
    · rename_i other
      cases cut : Text.cutBy (· == '/') rest with
      | nil => exact absurd cut (Text.cutByNonempty _ _)
      | cons piece others =>
        rw [cut] at ih
        simp only [Bool.not_eq_true] at other
        simp [bne, other, Option.some.inj ih]

theorem openingShown (named : p.text ≠ []) (relative : p.isAbsolute = false) : p.opening ≠ [] := by
  unfold isAbsolute at relative
  unfold opening
  cases text : p.text with
  | nil => exact absurd text named
  | cons c rest =>
    have other : (c != '/') = true := by simpa [text] using relative
    simp [other]

theorem headComponent (named : p.text ≠ []) : p.components.head? =
    if p.isAbsolute then some .root
    else if p.opening = ['.'] then some .here
    else component? p.opening := by
  have first := firstPiece p
  unfold components
  cases absolute : p.isAbsolute with
  | true => rfl
  | false =>
    by_cases here : p.opening = ['.']
    · simp [first, here]
    · have shown := openingShown named absolute
      obtain ⟨others, same⟩ : ∃ others, p.pieces = p.opening :: others := by
        cases pieces : p.pieces with
        | nil => simp [pieces] at first
        | cons piece others =>
          rw [pieces] at first
          exact ⟨others, by rw [Option.some.inj first]⟩
      have found : ∃ c, component? p.opening = some c := by
        unfold component?
        rw [if_neg (not_or.mpr ⟨shown, here⟩)]
        split <;> exact ⟨_, rfl⟩
      obtain ⟨c, found⟩ := found
      simp [same, here, found]

theorem componentsJoined (named : p.text ≠ []) (relative : q.isAbsolute = false) :
    (p.join q).components = (p.separated q).components :=
  beq_iff_eq.mp (joinBelow named relative)

theorem headJoined (named : p.text ≠ []) (relative : q.isAbsolute = false) :
    (p.join q).components.head? = p.components.head? := by
  have longer : (p.separated q).text ≠ [] := by simp [separated]
  have absolute : (p.separated q).isAbsolute = p.isAbsolute := by
    unfold isAbsolute separated
    cases text : p.text with
    | nil => exact absurd text named
    | cons c rest => rfl
  have opens : (p.separated q).opening = p.opening := (Text.runMarked rfl p.text q.text).1
  rw [componentsJoined named relative, headComponent longer, headComponent named, absolute, opens]

theorem relativeOwn (plain : IsName name) : (⟨name⟩ : Path).isAbsolute = false := by
  unfold isAbsolute
  cases text : name with
  | nil => rfl
  | cons c rest =>
    have other : c ≠ '/' := fun same => plain.one (by simp [text, same])
    simpa using other

theorem piecesOwn (plain : IsName name) : (⟨name⟩ : Path).pieces = [name] :=
  Text.cutByUnmarked (Text.unmarkedIff.mpr plain.one)

theorem headOwn (plain : IsName name) :
    (⟨name⟩ : Path).components.head? = some (.name name) := by
  have whole : (⟨name⟩ : Path).opening = name := by
    have first := firstPiece ⟨name⟩
    rw [piecesOwn plain] at first
    exact (Option.some.inj first).symm
  rw [headComponent plain.some, relativeOwn plain, whole, ofName plain, if_neg Bool.false_ne_true,
    if_neg plain.here]

theorem lastJoined (p : Path) (plain : IsName name) :
    (p.join ⟨name⟩).components.getLast? = some (.name name) := by
  by_cases none : p.text = []
  · rw [join, if_pos (.inr none)]
    exact componentsLast (by rw [piecesOwn plain, List.filterMap_cons, ofName plain]; rfl)
  · rw [componentsJoined none (relativeOwn plain)]
    refine componentsLast ?_
    rw [separated, piecesSeparated, piecesOwn plain, List.filterMap_append, List.filterMap_cons,
      ofName plain, List.filterMap_nil, List.getLast?_concat]

theorem divideIff : (divide name).2 = some suffix ↔
    '.' ∉ suffix ∧ ∃ stem, stem ≠ [] ∧ name = stem ++ '.' :: suffix := by
  constructor
  · intro found
    have parts := List.takeWhile_append_dropWhile (p := (· != '.')) (l := name.reverse)
    have run := Text.runAll (· != '.') name.reverse
    have mark := Text.runEnds (· != '.') name.reverse
    unfold divide at found
    split at found
    · rename_i dot first others left
      cases found
      rw [left] at parts mark
      have dot : dot = '.' := by simpa using mark
      refine ⟨fun member => ?_, others.reverse ++ [first], by simp, ?_⟩
      · simpa using run '.' (List.mem_reverse.mp member)
      · conv => lhs; rw [← List.reverse_reverse name, ← parts, dot]
        simp
    · cases found
  · intro ends
    obtain ⟨one, stem, some, rfl⟩ := ends
    have turned : (stem ++ '.' :: suffix).reverse = suffix.reverse ++ '.' :: stem.reverse := by simp
    have run : ∀ c ∈ suffix.reverse, (c != '.') = true := fun c member =>
      bne_iff_ne.mpr fun same => one (same ▸ List.mem_reverse.mp member)
    obtain ⟨taken, dropped⟩ := @Text.runTaken _ _ _ ('.' :: stem.reverse) run rfl
    obtain ⟨last, others, same⟩ := List.exists_cons_of_ne_nil (List.reverse_ne_nil_iff.mpr some)
    unfold divide
    rw [turned, taken, dropped, same]
    simp

theorem extensionIff : p.extension? = some suffix ↔ p.EndsIn suffix := by
  unfold extension? fileName? EndsIn
  match last : p.components.getLast? with
  | none => simp
  | some .root => simp
  | some .here => simp
  | some .up => simp
  | some (.name t) => simp [divideIff]

end
end GemSurvey.Path
