import GemSurvey.Proofs.Glob.Reach
import GemSurvey.Proofs.Path.Order

/-! The files found under a root, in the order of their names, one after another. Its own names are read
as patterns too: only where they lead to the root itself is anything found, and then what is found does
not depend on them. -/
namespace GemSurvey.Glob
open Path (ofNames ofPlace AreNames)

def filesBelow (tree : Tree) (above : List (List Token)) (root : Place)
    (patterns : List (List Token)) : List (List Text) :=
  ((reach tree (above ++ patterns) []).filter tree.holdsFile).filterMap (·.dropPrefix? root)

structure Rooted (tree : Tree) (root : Place) : Prop where
  sound : tree.Sound
  named : AreNames root
  legible : ∀ name ∈ root, Legible name

structure Reached (tree : Tree) (root : Place) : Prop where
  self : ∀ name ∈ root, Faithful name
  searched : Searchable tree [] root

structure Asked (names : List Text) : Prop where
  some : names ≠ []
  named : AreNames names
  legible : ∀ name ∈ names, Legible name

theorem reachedPlain {tree : Tree} {root : Place} (named : AreNames root)
    (plain : ∀ name ∈ root, Plain name) : Reached tree root where
  self name member := faithfulPlain (plain name member) (named name member)
  searched := searchablePlain plain

variable {tree other : Tree} {root place : Place} {names : List Text}
  {above above' patterns : List (List Token)}

theorem readSegmentsNames (all : AreNames names) (some : names ≠ []) :
    readSegments (Text.join ['/'] names) = names.mapM Segment.read := by
  have whole : names.getLast? ≠ Option.some [] := fun empty =>
    (all [] (List.mem_of_getLast? empty)).some rfl
  rw [readSegments, Path.cutJoined all some, if_neg whole]

theorem pathsPlace (all : AreNames place) (some : place ≠ []) : paths tree (ofPlace place) =
    (place.mapM Segment.read).map fun segments => expand tree segments (ofPlace []) := by
  rw [← readSegmentsNames all some]
  rfl

theorem placeFound (held : tree.holdsFile place = true) : ∃ node, tree.node? place = some node := by
  unfold Tree.holdsFile at held
  cases there : tree.node? place with
  | none => simp [there] at held
  | some node => exact ⟨node, rfl⟩

theorem filesRefused (all : AreNames root) {name : Text} {fault : Fault} (member : name ∈ root)
    (refused : Segment.read name = .error fault) :
    ∃ fault, ∀ names, Asked names →
      filesUnder tree (ofPlace root) (ofNames names) = .error fault := by
  obtain ⟨fault, inner⟩ := segmentsRefused member refused
  refine ⟨fault, fun names asked => ?_⟩
  have every : AreNames (root ++ names) := Path.areNamesAppend.mpr ⟨all, asked.named⟩
  rw [filesUnder, Path.joinPlace all asked.named asked.some, pathsPlace every (by simp [asked.some]),
    List.mapM_append, inner]
  rfl

section
variable (sound : tree.Sound) (each : List.Forall₂ Reads root above)
include sound each

theorem memFiles : names ∈ filesBelow tree above root patterns ↔
    Reached tree root ∧ Leads tree root patterns names ∧ tree.holdsFile (root ++ names) = true := by
  have long : above.length = root.length := each.length_eq.symm
  have itself : Leads tree [] above root ↔ Reached tree root :=
    (leadsSelf each).trans ⟨fun ⟨self, searched⟩ => ⟨self, searched⟩,
      fun ⟨self, searched⟩ => ⟨self, searched⟩⟩
  unfold filesBelow
  simp only [List.mem_filterMap, List.mem_filter, Path.droppedIff, memReachRoot sound]
  constructor
  · rintro ⟨_, ⟨⟨matched, _⟩, held⟩, rfl⟩
    obtain ⟨first, second⟩ := (leadsAppend long).mp matched
    exact ⟨itself.mp first, second, held⟩
  · rintro ⟨first, second, held⟩
    obtain ⟨node, there⟩ := placeFound held
    exact ⟨_, ⟨⟨(leadsAppend long).mpr ⟨itself.mpr first, second⟩, by simp [there]⟩, held⟩, rfl⟩

theorem namesFound (found : names ∈ filesBelow tree above root patterns) :
    AreNames names ∧ ∃ node, tree.node? (root ++ names) = some node := by
  obtain ⟨_, _, held⟩ := (memFiles sound each).mp found
  obtain ⟨node, there⟩ := placeFound held
  exact ⟨(Path.areNamesAppend.mp (sound.areNames there)).2, node, there⟩

theorem filesUnderPlace (named : AreNames root) (asked : Asked names)
    (each' : List.Forall₂ Reads names patterns) : filesUnder tree (ofPlace root) (ofNames names) =
      .ok (Path.sorted ((filesBelow tree above root patterns).map ofNames)) := by
  have plain : AreNames (root ++ names) := Path.areNamesAppend.mpr ⟨named, asked.named⟩
  have every : List.Forall₂ Reads (root ++ names) (above ++ patterns) := List.rel_append each each'
  have found : ((reach tree (above ++ patterns) []).map ofPlace).filter tree.isFile =
      ((reach tree (above ++ patterns) []).filter tree.holdsFile).map ofPlace := by
    rw [List.filter_map]
    refine congrArg _ (List.filter_congr fun place reached => ?_)
    obtain ⟨_, there⟩ := (memReachRoot sound).mp reached
    obtain ⟨node, there⟩ := Option.isSome_iff_exists.mp there
    exact sound.isFile (sound.areNames there)
  have seen : (((reach tree (above ++ patterns) []).filter tree.holdsFile).map ofPlace).filterMap
      (ofPlace root).below? = (filesBelow tree above root patterns).map ofNames := by
    rw [List.filterMap_map, filesBelow, List.map_filterMap]
    refine List.filterMap_congr fun place kept => ?_
    obtain ⟨node, there⟩ := placeFound (List.of_mem_filter kept)
    exact Path.belowPlace named (sound.areNames there)
  rw [filesUnder, Path.joinPlace named asked.named asked.some,
    pathsPlace plain (by simp [asked.some]), segmentsRead every]
  simp only [Except.map, expandReach sound every plain (fun _ none => absurd none List.not_mem_nil),
    List.nil_append]
  rw [found, seen]

end

theorem nodupFiles (sound : tree.Sound) : (filesBelow tree above root patterns).Nodup := by
  refine ((nodupReach sound).filter _).filterMap fun p q rest left right => ?_
  rw [Path.droppedIff.mp left, Path.droppedIff.mp right]

theorem filesFound (rooted : Rooted tree root) (reached : Reached tree root)
    (asked : Asked names) (each' : List.Forall₂ Reads names patterns) {found : List Path}
    (files : filesUnder tree (ofPlace root) (ofNames names) = .ok found) {file : Path} :
    file ∈ found ↔ ∃ names, file = ofNames names ∧ Leads tree root patterns names ∧
      tree.holdsFile (root ++ names) = true := by
  obtain ⟨sound, named, legible⟩ := rooted
  obtain ⟨above, each⟩ := legibleRead legible
  rw [filesUnderPlace sound each named asked each'] at files
  cases files
  rw [Path.sorted, List.mem_mergeSort, List.mem_map]
  simp only [memFiles sound each]
  constructor
  · rintro ⟨names, ⟨_, matched, held⟩, rfl⟩
    exact ⟨names, rfl, matched, held⟩
  · rintro ⟨names, rfl, matched, held⟩
    exact ⟨names, ⟨reached, matched, held⟩, rfl⟩

theorem filesNone (rooted : Rooted tree root) (lost : ¬ Reached tree root)
    (asked : Asked names) : filesUnder tree (ofPlace root) (ofNames names) = .ok [] := by
  obtain ⟨sound, named, legible⟩ := rooted
  obtain ⟨above, each⟩ := legibleRead legible
  obtain ⟨patterns, each'⟩ := legibleRead asked.legible
  have none : filesBelow tree above root patterns = [] :=
    List.eq_nil_iff_forall_not_mem.mpr fun names found => lost ((memFiles sound each).mp found).1
  rw [filesUnderPlace sound each named asked each', none, List.map_nil, Path.sorted,
    List.mergeSort_nil]

theorem filesAlike (rooted : Rooted tree root) (rooted' : Rooted other place)
    (reached : Reached tree root) (reached' : Reached other place)
    (same : tree.SameBelow root other place) (asked : Asked names) :
    ∃ found, filesUnder tree (ofPlace root) (ofNames names) = .ok found ∧
      filesUnder other (ofPlace place) (ofNames names) = .ok found ∧
      ∀ file ∈ found, tree.view ((ofPlace root).join file) = other.view ((ofPlace place).join file) := by
  obtain ⟨sound, named, legible⟩ := rooted
  obtain ⟨sound', named', legible'⟩ := rooted'
  obtain ⟨above, each⟩ := legibleRead legible
  obtain ⟨above', each'⟩ := legibleRead legible'
  obtain ⟨patterns, given⟩ := legibleRead asked.legible
  have lengthy {found : List Text} (leads : Leads tree root patterns found) : found ≠ [] := by
    have long := leads.length.symm.trans given.length_eq.symm
    exact fun empty => asked.some (List.length_eq_zero_iff.mp (by rw [← long, empty]; rfl))
  have members (found : List Text) : found ∈ filesBelow tree above root patterns ↔
      found ∈ filesBelow other above' place patterns := by
    rw [memFiles sound each, memFiles sound' each', ← leadsAlike same.sealed]
    refine and_congr (iff_of_true reached reached') (and_congr_right fun leads => ?_)
    rw [Tree.holdsFile, Tree.holdsFile, same.nodes found (lengthy leads)]
  have perm : (filesBelow tree above root patterns).Perm (filesBelow other above' place patterns) :=
    (List.perm_ext_iff_of_nodup (nodupFiles sound) (nodupFiles sound')).mpr members
  -- The trees may list their names in different orders, which sorting undoes.
  refine ⟨_, filesUnderPlace sound each named asked given, ?_, fun file found => ?_⟩
  · rw [filesUnderPlace sound' each' named' asked given, Path.sortedSame (perm.map ofNames)]
    intro p listed q listed' together
    obtain ⟨names, left, rfl⟩ := List.mem_map.mp listed
    obtain ⟨names', right, rfl⟩ := List.mem_map.mp listed'
    rw [Path.namesInj (namesFound sound each left).1 (namesFound sound each right).1 together]
  · obtain ⟨names, inner, rfl⟩ := List.mem_map.mp (List.mem_mergeSort.mp found)
    obtain ⟨plain, node, there⟩ := namesFound sound each inner
    have some := lengthy ((memFiles sound each).mp inner).2.1
    have there' := (same.nodes names some).symm.trans there
    rw [Path.joinPlace named plain some, Path.joinPlace named' plain some,
      (sound.view (sound.areNames there)).mpr there,
      (sound'.view (sound'.areNames there')).mpr there']

end GemSurvey.Glob
