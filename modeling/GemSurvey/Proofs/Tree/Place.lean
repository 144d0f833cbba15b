import GemSurvey.Proofs.Path.Place
import GemSurvey.Proofs.Text.Encoded
import GemSurvey.Proofs.Tree
import Mathlib.Data.List.Nodup

/-! What is found by the path of a place. In a sound tree, with each place there once, in a directory,
under names of a length that can be opened, that is the node of the place and nothing else; and the
names in a directory are those that lead on to a node. -/
namespace GemSurvey.Tree
open Path (ofPlace AreNames)

structure Sound (tree : Tree) : Prop where
  named : ∀ entry ∈ tree.nodes, AreNames entry.1
  sized : ∀ entry ∈ tree.nodes, ∀ name ∈ entry.1, (Text.encode name).length ≤ nameLimit
  opens : ∀ entry ∈ tree.nodes, '\x00' ∉ (ofPlace entry.1).text ∧
    (Text.encode (ofPlace entry.1).text).length ≤ pathLimit
  within : ∀ entry ∈ tree.nodes, tree.holdsDirectory entry.1.dropLast = true
  once : (tree.nodes.map Prod.fst).Nodup

instance (tree : Tree) : Decidable tree.Sound :=
  decidable_of_iff
    ((∀ entry ∈ tree.nodes, AreNames entry.1) ∧
      (∀ entry ∈ tree.nodes, ∀ name ∈ entry.1, (Text.encode name).length ≤ nameLimit) ∧
      (∀ entry ∈ tree.nodes, '\x00' ∉ (ofPlace entry.1).text ∧
        (Text.encode (ofPlace entry.1).text).length ≤ pathLimit) ∧
      (∀ entry ∈ tree.nodes, tree.holdsDirectory entry.1.dropLast = true) ∧
      (tree.nodes.map Prod.fst).Nodup)
    ⟨fun ⟨named, sized, opens, within, once⟩ => ⟨named, sized, opens, within, once⟩,
      fun sound => ⟨sound.named, sound.sized, sound.opens, sound.within, sound.once⟩⟩

structure SameBelow (tree : Tree) (root : Place) (other : Tree) (place : Place) : Prop where
  nodes : ∀ names ≠ [], tree.node? (root ++ names) = other.node? (place ++ names)
  atRoot : tree.isSealed root = other.isSealed place

def below (tree : Tree) (root : Place) : List (Place × Node) :=
  tree.nodes.filterMap fun entry => (entry.1.dropPrefix? root).map fun rest => (rest, entry.2)

variable {tree : Tree} {place other root : Place} {names : List Text} {name : Text} {node : Node}

theorem nodeListed (held : tree.node? place = some node) : place = [] ∨ (place, node) ∈ tree.nodes := by
  by_cases root : place = []
  · exact .inl root
  · rw [nodeBeyondRoot root] at held
    obtain ⟨entry, found, rfl⟩ := Option.map_eq_some_iff.mp held
    have key : entry.1 = place := by simpa using List.find?_some found
    exact .inr (key ▸ List.mem_of_find?_eq_some found)

theorem nodeBelow (some : names ≠ []) : tree.node? (root ++ names) =
    ((tree.below root).find? fun entry => entry.1 = names).map (·.2) := by
  have same (entry : Place × Node) : (((entry.1.dropPrefix? root).map fun rest =>
      (rest, entry.2)).any fun entry => decide (entry.1 = names)) =
      decide (entry.1 = root ++ names) := by
    rw [Option.any_map, Bool.eq_iff_iff, Option.any_eq_true]
    simp [Path.droppedIff]
  rw [nodeBeyondRoot (by simp [some]), below, List.find?_filterMap]
  simp only [same]
  cases found : tree.nodes.find? fun entry => decide (entry.1 = root ++ names) with
  | none => rfl
  | some entry =>
    have there : entry.1 = root ++ names := by simpa using List.find?_some found
    simp [Path.droppedIff.mpr there]

theorem sameBelow {tree' : Tree} (same : tree.below root = tree'.below place)
    (atRoot : tree.isSealed root = tree'.isSealed place) : tree.SameBelow root tree' place :=
  ⟨fun names some => by rw [nodeBelow some, nodeBelow some, same], atRoot⟩

theorem SameBelow.sealed {tree' : Tree} (same : tree.SameBelow root tree' place)
    (names : List Text) : tree.isSealed (root ++ names) = tree'.isSealed (place ++ names) := by
  by_cases some : names = []
  · rw [some, List.append_nil, List.append_nil, same.atRoot]
  · rw [isSealed, isSealed, same.nodes names some]

theorem enterName (plain : Path.IsName name) (entered : tree.enter place name = .ok other) :
    other = place ++ [name] := by
  have course := entering tree place name
  rw [entered] at course
  cases course with
  | stay directory empty => exact absurd empty (by simp [plain.some, plain.here])
  | up directory up => exact absurd up plain.up
  | down => rfl

theorem walkNames (plain : AreNames names) (walked : tree.walk place names = .ok other) :
    other = place ++ names := by
  induction names generalizing place with
  | nil =>
    cases walked
    rw [List.append_nil]
  | cons name rest ih =>
    rw [walk, boundOk] at walked
    obtain ⟨next, entered, walked⟩ := walked
    rw [ih plain.tail walked, enterName (plain name List.mem_cons_self) entered,
      List.append_assoc, List.singleton_append]

theorem routeOk {p : Path} {way : Place × List Text} (absolute : p.isAbsolute = true)
    (ok : tree.route p = .ok way) : way = ([], p.pieces.drop 1) := by
  unfold route at ok
  split at ok
  · cases ok
  split at ok
  · cases ok
  split at ok
  · cases ok
  exact (Except.ok.inj ok).symm

theorem findParts {p : Path} (found : tree.find p = .ok (place, node)) : ∃ start pieces,
    tree.route p = .ok (start, pieces) ∧ tree.walk start pieces = .ok place ∧
      tree.node? place = some node := by
  rw [find, boundOk] at found
  obtain ⟨⟨start, pieces⟩, way, found⟩ := found
  obtain ⟨reached, walked, found⟩ := boundOk.mp found
  cases held : tree.node? reached with
  | none => simp [held] at found
  | some there =>
    simp only [held] at found
    cases found
    exact ⟨start, pieces, way, walked, held⟩

theorem findRoot (tree : Tree) : tree.find (ofPlace []) = .ok ([], .directory) := by
  have route : tree.route (ofPlace []) = .ok ([], [[]]) := by
    have short : ¬ pathLimit < (Text.encode (ofPlace []).text).length := by decide
    rw [Tree.route, if_neg (by decide), if_neg (by decide), if_neg short, if_pos (by decide)]
    rfl
  simp [Tree.find, route, Tree.walk, enter, node?, Node.isDirectory, bind, Except.bind]

namespace Sound
variable (sound : tree.Sound)
include sound

theorem areNames (held : tree.node? place = some node) : AreNames place := by
  rcases nodeListed held with rfl | listed
  · exact fun name none => absurd none List.not_mem_nil
  · exact sound.named _ listed

theorem parent (held : tree.node? (place ++ [name]) = some node) :
    tree.holdsDirectory place = true := by
  rcases nodeListed held with empty | listed
  · simp at empty
  · simpa using sound.within _ listed

theorem above (held : (tree.node? (place ++ names)).isSome) : (tree.node? place).isSome := by
  induction names using List.reverseRecOn with
  | nil => simpa using held
  | append_singleton names name ih =>
    rw [← List.append_assoc] at held
    obtain ⟨node, held⟩ := Option.isSome_iff_exists.mp held
    obtain ⟨_, there, _⟩ := directoryThere (sound.parent held)
    exact ih (by simp [there])

theorem enter (held : (tree.node? (place ++ [name])).isSome) :
    tree.enter place name = .ok (place ++ [name]) := by
  obtain ⟨node, found⟩ := Option.isSome_iff_exists.mp held
  have plain : Path.IsName name := sound.areNames found name (by simp)
  rcases nodeListed found with empty | listed
  · simp at empty
  · exact enterDown (sound.parent found) (sound.sized _ listed name (by simp))
      ⟨by simp [plain.some, plain.here], plain.up⟩ held

theorem walk (held : (tree.node? (place ++ names)).isSome) :
    tree.walk place names = .ok (place ++ names) := by
  induction names generalizing place with
  | nil => simp [Tree.walk]
  | cons name rest ih =>
    rw [List.append_cons] at held ⊢
    have entered := sound.enter (sound.above held)
    simp only [Tree.walk, entered, bind, Except.bind]
    exact ih held

theorem route (held : tree.node? place = some node) (some : place ≠ []) :
    tree.route (ofPlace place) = .ok ([], place) := by
  rcases nodeListed held with empty | listed
  · exact absurd empty some
  · obtain ⟨plain, short⟩ := sound.opens _ listed
    rw [Tree.route, if_neg (by simpa using plain), if_neg (by simp [ofPlace]),
      if_neg (Nat.not_lt.mpr short), if_pos (by rfl),
      Path.piecesOfPlace (sound.areNames held) some]
    rfl

theorem find (plain : AreNames place) : tree.find (ofPlace place) = .ok (other, node) ↔
    other = place ∧ tree.node? place = some node := by
  by_cases root : place = []
  · rw [root, findRoot]
    simp [node?, eq_comm]
  constructor
  · intro found
    obtain ⟨start, pieces, way, walked, held⟩ := findParts found
    have from' : (start, pieces) = ([], place) := by
      rw [routeOk rfl way, Path.piecesOfPlace plain root]
      rfl
    cases from'
    cases walkNames plain walked
    exact ⟨rfl, held⟩
  · rintro ⟨there, held⟩
    have walked : tree.walk [] place = .ok place :=
      sound.walk (by rw [List.nil_append, held]; rfl)
    simp only [Tree.find, bind, Except.bind, sound.route held root, walked, held, there]

theorem view (plain : AreNames place) :
    tree.view (ofPlace place) = .ok node ↔ tree.node? place = some node := by
  unfold Tree.view
  cases found : tree.find (ofPlace place) with
  | error fault =>
    refine iff_of_false (by simp [Except.map]) fun held => ?_
    rw [(sound.find plain).mpr ⟨rfl, held⟩] at found
    cases found
  | ok here =>
    obtain ⟨_, held⟩ := (sound.find plain).mp found
    simp [Except.map, held]

theorem viewCases (plain : AreNames place) :
    (∃ node, tree.view (ofPlace place) = .ok node ∧ tree.node? place = some node) ∨
      ∃ fault, tree.view (ofPlace place) = .error fault ∧ tree.node? place = none := by
  cases seen : tree.view (ofPlace place) with
  | ok node => exact .inl ⟨node, rfl, (sound.view plain).mp seen⟩
  | error fault =>
    refine .inr ⟨fault, rfl, Option.eq_none_iff_forall_ne_some.mpr fun node held => ?_⟩
    rw [(sound.view plain).mpr held] at seen
    cases seen

theorem existsAt (plain : AreNames place) :
    tree.existsAt (ofPlace place) = (tree.node? place).isSome := by
  unfold Tree.existsAt
  rcases sound.viewCases plain with ⟨node, seen, held⟩ | ⟨fault, seen, none⟩
  · rw [seen, held]
    rfl
  · rw [seen, none]
    rfl

theorem isFile (plain : AreNames place) : tree.isFile (ofPlace place) = tree.holdsFile place := by
  unfold Tree.isFile holdsFile
  rcases sound.viewCases plain with ⟨node, seen, held⟩ | ⟨fault, seen, none⟩
  · rw [seen, held]
    rfl
  · rw [seen, none]
    rfl

theorem readBytes {content : Bytes} (plain : AreNames place) :
    tree.readBytes (ofPlace place) = .ok content ↔
      ∃ executable, tree.node? place = some (.file content executable) := by
  unfold Tree.readBytes
  obtain ⟨node, seen, held⟩ | ⟨fault, seen, none⟩ := sound.viewCases plain
  · rw [seen, held]
    cases node <;> simp
  · rw [seen, none]
    simp

theorem readText {t : Text} (plain : AreNames place) :
    tree.readText (ofPlace place) = .ok t ↔ ∃ content executable,
      tree.node? place = some (.file content executable) ∧ Text.decode? content = some t := by
  rw [Tree.readText, boundOk]
  constructor
  · intro ⟨content, bytes, read⟩
    obtain ⟨executable, held⟩ := (sound.readBytes plain).mp bytes
    refine ⟨content, executable, held, ?_⟩
    cases decoded : Text.decode? content with
    | none => simp [decoded] at read
    | some found => simpa [decoded] using read
  · intro ⟨content, executable, held, decoded⟩
    exact ⟨content, (sound.readBytes plain).mpr ⟨executable, held⟩, by rw [decoded]⟩

end Sound

theorem leafIff {p : Place} :
    (if p ≠ [] ∧ p.dropLast = place then p.getLast? else none) = some name ↔ p = place ++ [name] := by
  rcases List.eq_nil_or_concat' p with rfl | ⟨front, last, rfl⟩
  · simp
  · by_cases here : front = place <;> simp [here]

theorem memChildren : name ∈ tree.children place ↔ (tree.node? (place ++ [name])).isSome := by
  rw [nodeBeyondRoot (by simp), Option.isSome_map, List.find?_isSome, children, List.mem_filterMap]
  simp only [leafIff, decide_eq_true_eq]

theorem listedText : (tree.listing place).filterMap Text.decode? = tree.children place := by
  have raw : ((tree.raw.filter (·.1 = place)).map (·.2.bytes)).filterMap Text.decode? = [] := by
    rw [List.filterMap_map]
    exact List.filterMap_eq_nil_iff.mpr fun entry _ => entry.2.noText
  rw [listing, List.filterMap_append, raw, List.append_nil, List.filterMap_map]
  exact (List.filterMap_congr fun name _ => Text.encodedText name).trans List.filterMap_some

theorem Sound.nodupChildren (sound : tree.Sound) (place : Place) : (tree.children place).Nodup := by
  have places : tree.children place = (tree.nodes.map Prod.fst).filterMap fun p =>
      if p ≠ [] ∧ p.dropLast = place then p.getLast? else none := by
    rw [List.filterMap_map]
    rfl
  rw [places]
  refine sound.once.filterMap fun p q name left right => ?_
  rw [leafIff.mp left, leafIff.mp right]

end GemSurvey.Tree
