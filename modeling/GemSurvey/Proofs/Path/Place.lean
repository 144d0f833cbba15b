import GemSurvey.Proofs.Path.Name
import GemSurvey.Tree
import Mathlib.Data.List.Infix

/-! The paths of places. A place has one plain spelling, from which its names are read back; names
joined to it lead on from there, and are what is seen of the longer path from it. -/
namespace GemSurvey.Path

def ofNames (names : List Text) : Path := ⟨Text.join ['/'] names⟩

def ofPlace (place : Place) : Path := ⟨'/' :: Text.join ['/'] place⟩

def AreNames (names : List Text) : Prop := ∀ name ∈ names, IsName name

instance (t : Text) : Decidable (IsName t) :=
  decidable_of_iff (t ≠ [] ∧ '/' ∉ t ∧ t ≠ ['.'] ∧ t ≠ ['.', '.'])
    ⟨fun ⟨filled, one, here, up⟩ => ⟨filled, one, here, up⟩,
      fun plain => ⟨plain.some, plain.one, plain.here, plain.up⟩⟩

instance (names : List Text) : Decidable (AreNames names) :=
  inferInstanceAs (Decidable (∀ name ∈ names, IsName name))

variable {names others : List Text} {place other : Place} {name : Text}

theorem joinSlash (first second : Text) (rest : List Text) :
    Text.join ['/'] (first :: second :: rest) = first ++ '/' :: Text.join ['/'] (second :: rest) :=
  Text.joinCons ['/'] first second rest

theorem joinAppend (some : names ≠ []) (more : others ≠ []) :
    Text.join ['/'] (names ++ others) = Text.join ['/'] names ++ '/' :: Text.join ['/'] others := by
  induction names with
  | nil => exact absurd rfl some
  | cons first rest ih =>
    cases rest with
    | nil =>
      obtain ⟨second, rest, rfl⟩ := List.exists_cons_of_ne_nil more
      rw [List.cons_append, List.nil_append, joinSlash, Text.joinOne]
    | cons second rest =>
      rw [List.cons_append, List.cons_append, joinSlash, joinSlash, ← List.cons_append,
        ih (by simp), List.append_assoc]
      rfl

theorem AreNames.tail (all : AreNames (name :: names)) : AreNames names :=
  fun n member => all n (List.mem_cons_of_mem _ member)

theorem areNamesAppend : AreNames (names ++ others) ↔ AreNames names ∧ AreNames others := by
  simp [AreNames, or_imp, forall_and]

section
variable (all : AreNames names)
include all

theorem cutJoined (some : names ≠ []) : Text.cut '/' (Text.join ['/'] names) = names := by
  induction names with
  | nil => exact absurd rfl some
  | cons first rest ih =>
    have whole := Text.unmarkedIff.mpr (all first List.mem_cons_self).one
    cases rest with
    | nil => rw [Text.joinOne]; exact Text.cutByUnmarked whole
    | cons second rest =>
      rw [joinSlash]
      exact (Text.cutByMarked whole rfl).trans (congrArg _ (ih all.tail (by simp)))

theorem componentsNamed : names.filterMap component? = names.map .name := by
  induction names with
  | nil => rfl
  | cons first rest ih =>
    rw [List.filterMap_cons, ofName (all first List.mem_cons_self), ih all.tail]
    rfl

theorem relativeNames : (ofNames names).isAbsolute = false := by
  unfold isAbsolute ofNames
  cases names with
  | nil => rfl
  | cons first rest =>
    have plain := all first List.mem_cons_self
    obtain ⟨c, more, rfl⟩ := List.exists_cons_of_ne_nil plain.some
    have head : (Text.join ['/'] ((c :: more) :: rest)).head? = some c := by
      cases rest with
      | nil => rw [Text.joinOne]; rfl
      | cons second rest => rw [joinSlash]; rfl
    have other : c ≠ '/' := fun same => plain.one (by simp [same])
    simpa [head] using other

theorem componentsOfNames : (ofNames names).components = names.map .name := by
  cases names with
  | nil => rfl
  | cons first rest =>
    have pieces : (ofNames (first :: rest)).pieces = first :: rest := cutJoined all (by simp)
    have plain := all first List.mem_cons_self
    unfold components
    rw [relativeNames all, pieces]
    simp [plain.here, componentsNamed all]

end

theorem piecesOfPlace (all : AreNames place) (some : place ≠ []) :
    (ofPlace place).pieces = [] :: place :=
  congrArg _ (cutJoined all some)

theorem componentsOfPlace (all : AreNames place) :
    (ofPlace place).components = .root :: place.map .name := by
  have inner : (ofPlace place).pieces.filterMap component? = place.map .name := by
    cases place with
    | nil => rfl
    | cons first rest =>
      rw [piecesOfPlace all (by simp), ← componentsNamed all]
      rfl
  exact congrArg _ inner

theorem namesInj (all : AreNames names) (all' : AreNames others)
    (same : (ofNames names).components = (ofNames others).components) : names = others := by
  rw [componentsOfNames all, componentsOfNames all'] at same
  exact List.map_injective_iff.mpr (fun _ _ => Component.name.inj) same

theorem lastJoinedChar (all : AreNames names) :
    (Text.join ['/'] names).getLast? ≠ some '/' := by
  rcases List.eq_nil_or_concat' names with rfl | ⟨front, last, rfl⟩
  · simp [Text.join]
  · have plain := all last (by simp)
    have ends : last.getLast? ≠ some '/' := fun slash => plain.one (List.mem_of_getLast? slash)
    cases front with
    | nil => rwa [List.nil_append, Text.joinOne]
    | cons first rest =>
      rw [joinAppend (by simp) (by simp), Text.joinOne, List.getLast?_append_of_ne_nil _ (by simp),
        List.getLast?_cons_of_ne_nil plain.some]
      exact ends

theorem joinPlace (all : AreNames place) (all' : AreNames names) (some : names ≠ []) :
    (ofPlace place).join (ofNames names) = ofPlace (place ++ names) := by
  unfold join
  rw [relativeNames all']
  cases place with
  | nil => rfl
  | cons first rest =>
    have filled : Text.join ['/'] (first :: rest) ≠ [] := by
      intro empty
      have pieces := cutJoined all (by simp)
      rw [empty] at pieces
      exact (all first List.mem_cons_self).some (List.cons.inj pieces).1.symm
    have ends : (ofPlace (first :: rest)).text.getLast? ≠ Option.some '/' := by
      rw [ofPlace, List.getLast?_cons_of_ne_nil filled]
      exact lastJoinedChar all
    rw [if_neg (by simp [ofPlace]), if_neg ends, ofPlace, ofNames, ofPlace,
      joinAppend (by simp) some, List.cons_append]

theorem ofComponentsNames (names : List Text) :
    ofComponents (names.map .name) = ofNames names := by
  have texts : (names.map Component.name).map componentText = names := by
    rw [List.map_map]
    exact List.map_id names
  cases names with
  | nil => rfl
  | cons first rest => exact congrArg (fun texts => Path.mk (Text.join ['/'] texts)) texts

theorem droppedIff {rest : List Text} :
    place.dropPrefix? names = some rest ↔ place = names ++ rest := by
  simp [List.dropPrefix?_eq_some_iff]

theorem belowPlace (all : AreNames place) (all' : AreNames other) :
    (ofPlace place).below? (ofPlace other) = (other.dropPrefix? place).map ofNames := by
  unfold below?
  rw [componentsOfPlace all, componentsOfPlace all']
  cases dropped : other.dropPrefix? place with
  | some rest =>
    cases droppedIff.mp dropped
    have begins : (Component.root :: place.map .name).isPrefixOf
        (Component.root :: (place ++ rest).map .name) = true :=
      List.isPrefixOf_iff_prefix.mpr ⟨rest.map .name, by simp⟩
    rw [if_pos begins, List.length_cons, List.drop_succ_cons, List.map_append, List.drop_left,
      ofComponentsNames]
    rfl
  | none =>
    rw [if_neg]
    · rfl
    intro begins
    obtain ⟨_, begins⟩ := List.cons_prefix_cons.mp (List.isPrefixOf_iff_prefix.mp begins)
    obtain ⟨rest, rfl⟩ := (List.prefix_map_iff_of_injective fun _ _ => Component.name.inj).mp begins
    rw [droppedIff.mpr rfl] at dropped
    cases dropped

end GemSurvey.Path
