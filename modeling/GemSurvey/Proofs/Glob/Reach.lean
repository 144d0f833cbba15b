import GemSurvey.Glob.Expansion
import GemSurvey.Proofs.Glob.Matching
import GemSurvey.Proofs.Tree.Place

/-! What a pattern finds. A directory is asked for its names where wildcards are to match them, and a
sealed one tells none. Each place that names lead to one by one is found once, and nothing else is. -/
namespace GemSurvey.Glob
open Path (ofNames ofPlace AreNames)

def Passes (tree : Tree) (place : Place) (tokens : List Token) : Prop :=
  literal? tokens = none → tree.isSealed place = false

instance (tree : Tree) (place : Place) (tokens : List Token) : Decidable (Passes tree place tokens) :=
  inferInstanceAs (Decidable (_ → _))

def taken (tree : Tree) (place : Place) (tokens : List Token) : List Text :=
  if Passes tree place tokens then (tree.children place).filter (matchesName tokens) else []

def reach (tree : Tree) : List (List Token) → Place → List (List Text)
  | [], _ => [[]]
  | tokens :: rest, place => (taken tree place tokens).flatMap fun name =>
      (reach tree rest (place ++ [name])).map (name :: ·)

inductive Leads (tree : Tree) : Place → List (List Token) → List Text → Prop
  | here {place : Place} : Leads tree place [] []
  | on {place : Place} {tokens : List Token} {patterns : List (List Token)} {name : Text}
      {names : List Text} (passes : Passes tree place tokens)
      (matched : matchesName tokens name = true)
      (rest : Leads tree (place ++ [name]) patterns names) :
      Leads tree place (tokens :: patterns) (name :: names)

def Searchable (tree : Tree) : Place → List Text → Prop
  | _, [] => True
  | place, name :: rest =>
      (Plain name ∨ tree.isSealed place = false) ∧ Searchable tree (place ++ [name]) rest

variable {tree : Tree} {place : Place} {name : Text} {names others : List Text}
  {tokens : List Token} {patterns more : List (List Token)}

theorem leadsCons : Leads tree place (tokens :: patterns) names ↔ ∃ name rest,
    names = name :: rest ∧ Passes tree place tokens ∧ matchesName tokens name = true ∧
      Leads tree (place ++ [name]) patterns rest := by
  constructor
  · intro leads
    cases leads with
    | on passes matched rest => exact ⟨_, _, rfl, passes, matched, rest⟩
  · rintro ⟨name, rest, rfl, passes, matched, leads⟩
    exact .on passes matched leads

theorem leadsNil : Leads tree place [] names ↔ names = [] := by
  constructor
  · intro leads
    cases leads
    rfl
  · rintro rfl
    exact .here

theorem leadsAppend (long : patterns.length = names.length) :
    Leads tree place (patterns ++ more) (names ++ others) ↔
      Leads tree place patterns names ∧ Leads tree (place ++ names) more others := by
  induction patterns generalizing place names with
  | nil =>
    cases List.length_eq_zero_iff.mp long.symm
    simp [leadsNil]
  | cons tokens patterns ih =>
    obtain ⟨name, names, rfl⟩ := List.exists_cons_of_length_eq_add_one long.symm
    simp [leadsCons, ih (Nat.succ.inj long), and_assoc]

theorem Leads.length (leads : Leads tree place patterns names) : patterns.length = names.length := by
  induction leads with
  | here => rfl
  | on _ _ _ ih => exact congrArg Nat.succ ih

theorem passesIff (reads : Reads name tokens) :
    Passes tree place tokens ↔ Plain name ∨ tree.isSealed place = false := by
  rw [Passes, reads.literalNone, ← Classical.or_iff_not_imp_left]

theorem passesLiteral (literal : literal? tokens = some name) : Passes tree place tokens := by
  simp [Passes, literal]

theorem passesMarked (marked : literal? tokens = none) :
    Passes tree place tokens ↔ tree.isSealed place = false :=
  ⟨fun passes => passes marked, fun unsealed _ => unsealed⟩

theorem leadsLiteral (literal : literal? tokens = some name) :
    Leads tree place (tokens :: patterns) names ↔
      ∃ rest, names = name :: rest ∧ Leads tree (place ++ [name]) patterns rest := by
  simp only [leadsCons, passesLiteral literal, literalMatches literal, true_and]
  constructor
  · intro first
    obtain ⟨_, rest, form, rfl, leads⟩ := first
    exact ⟨rest, form, leads⟩
  · intro ⟨rest, form, leads⟩
    exact ⟨name, rest, form, rfl, leads⟩

theorem leadsEnding {ending : Text} (literal : literal? tokens = some ending) :
    Leads tree place ((.anyText :: tokens) :: patterns) names ↔ tree.isSealed place = false ∧
      ∃ stem rest, names = (stem ++ ending) :: rest ∧
        Leads tree (place ++ [stem ++ ending]) patterns rest := by
  have marked : literal? (.anyText :: tokens) = none := rfl
  simp only [leadsCons, passesMarked marked, endingMatches literal]
  constructor
  · intro first
    obtain ⟨_, rest, form, unsealed, ⟨stem, rfl⟩, leads⟩ := first
    exact ⟨unsealed, stem, rest, form, leads⟩
  · intro ⟨unsealed, stem, rest, form, leads⟩
    exact ⟨_, rest, form, unsealed, ⟨stem, rfl⟩, leads⟩

theorem leadsAny : Leads tree place ([.anyText] :: patterns) names ↔ tree.isSealed place = false ∧
    ∃ name rest, names = name :: rest ∧ Leads tree (place ++ [name]) patterns rest := by
  have none : literal? [] = some [] := rfl
  simpa only [List.append_nil] using leadsEnding none

theorem leadsSelf (each : List.Forall₂ Reads names patterns) : Leads tree place patterns names ↔
    (∀ name ∈ names, Faithful name) ∧ Searchable tree place names := by
  induction each generalizing place with
  | nil => simp [leadsNil, Searchable]
  | @cons name tokens names patterns reads _ ih =>
    simp only [leadsCons, List.cons.injEq, Searchable, List.forall_mem_cons, reads.faithful]
    constructor
    · rintro ⟨_, _, ⟨rfl, rfl⟩, passes, matched, leads⟩
      obtain ⟨self, searched⟩ := ih.mp leads
      exact ⟨⟨matched, self⟩, (passesIff reads).mp passes, searched⟩
    · rintro ⟨⟨matched, self⟩, passes, searched⟩
      exact ⟨_, _, ⟨rfl, rfl⟩, (passesIff reads).mpr passes, matched, ih.mpr ⟨self, searched⟩⟩

theorem leadsAlike {tree' : Tree} {place' : Place}
    (same : ∀ names, tree.isSealed (place ++ names) = tree'.isSealed (place' ++ names)) :
    Leads tree place patterns names ↔ Leads tree' place' patterns names := by
  induction patterns generalizing place place' names with
  | nil => rw [leadsNil, leadsNil]
  | cons tokens patterns ih =>
    have here : tree.isSealed place = tree'.isSealed place' := by simpa using same []
    have below (name : Text) := @ih (place ++ [name]) names.tail (place' ++ [name]) fun names => by
      rw [List.append_assoc, List.append_assoc, same]
    rw [leadsCons, leadsCons]
    refine exists_congr fun name => exists_congr fun rest => and_congr_right fun form => ?_
    rw [form, List.tail_cons] at below
    rw [Passes, Passes, here, below]

theorem searchablePlain (plain : ∀ name ∈ names, Plain name) : Searchable tree place names := by
  induction names generalizing place with
  | nil => trivial
  | cons name rest ih =>
    obtain ⟨here, later⟩ := List.forall_mem_cons.mp plain
    exact ⟨.inl here, ih later⟩

theorem keptOnward (f : Path → List Found) (found : List Found) :
    kept (found.flatMap (onward f)) = (kept found).flatMap fun path => kept (f path) := by
  induction found with
  | nil => rfl
  | cons first rest ih =>
    rw [List.flatMap_cons, kept, List.filterMap_append, ← kept, ← kept, ih]
    cases first <;> rfl

theorem keptOk (found : List Path) : kept (found.map .ok) = found := by
  rw [kept, List.filterMap_map]
  exact List.filterMap_some

theorem memTaken : name ∈ taken tree place tokens ↔
    Passes tree place tokens ∧ name ∈ tree.children place ∧ matchesName tokens name = true := by
  unfold taken
  split <;> rename_i passes <;> simp [passes]

theorem stepPlace (plain : AreNames place) (one : Path.IsName name) :
    step (ofPlace place) name = ofPlace (place ++ [name]) := by
  have single : ofNames [name] = ⟨name⟩ := by rw [ofNames, Text.joinOne]
  rw [step, if_neg (by simp [ofPlace]), ← single]
  exact Path.joinPlace plain (by simpa [AreNames] using one) (by simp)

section
variable (sound : tree.Sound)
include sound

theorem nameOfChild (child : name ∈ tree.children place) : Path.IsName name := by
  obtain ⟨node, held⟩ := Option.isSome_iff_exists.mp (Tree.memChildren.mp child)
  exact sound.areNames held name (by simp)

theorem childless (empty : tree.holdsDirectory place = false) : tree.children place = [] := by
  refine List.eq_nil_iff_forall_not_mem.mpr fun name child => ?_
  obtain ⟨node, held⟩ := Option.isSome_iff_exists.mp (Tree.memChildren.mp child)
  rw [sound.parent held] at empty
  cases empty

theorem namesInPlace (plain : AreNames place) :
    (tree.isSealed place = true ∧ ∃ cause, namesIn tree (ofPlace place) = .error cause) ∨
      (tree.isSealed place = false ∧ namesIn tree (ofPlace place) = .ok (tree.children place)) := by
  unfold namesIn
  cases held : tree.node? place with
  | none =>
    refine .inr ⟨by simp [Tree.isSealed, held], ?_⟩
    rw [childless sound (by simp [Tree.holdsDirectory, held])]
    split
    · rename_i found
      rw [((sound.find plain).mp found).2] at held
      cases held
    · rename_i found
      rw [((sound.find plain).mp found).2] at held
      cases held
    · rfl
  | some node =>
    rw [(sound.find plain).mpr ⟨rfl, held⟩]
    cases node with
    | sealed cause => exact .inl ⟨by simp [Tree.isSealed, held], cause, rfl⟩
    | directory => exact .inr ⟨by simp [Tree.isSealed, held], congrArg _ Tree.listedText⟩
    | _ =>
      refine .inr ⟨by simp [Tree.isSealed, held], ?_⟩
      rw [childless sound (by simp [Tree.holdsDirectory, held, Node.isDirectory])]

theorem literalPlace (plain : AreNames place) (one : Path.IsName name)
    (literal : literal? tokens = some name) : kept (literalStep tree (ofPlace place) name) =
      (taken tree place tokens).map fun name => ofPlace (place ++ [name]) := by
  have matched : matchesName tokens = fun other => decide (other = name) :=
    funext fun other => Bool.eq_iff_iff.mpr (by simp [literalMatches literal])
  have more : AreNames (place ++ [name]) :=
    Path.areNamesAppend.mpr ⟨plain, by simpa [AreNames] using one⟩
  rw [taken, if_pos (passesLiteral literal), matched, List.filter_eq, (sound.nodupChildren place).count]
  simp only [literalStep, one.here, one.up, or_self, if_false, stepPlace plain one,
    sound.existsAt more]
  by_cases held : (tree.node? (place ++ [name])).isSome
  · rw [if_pos held, if_pos (Tree.memChildren.mpr held)]
    rfl
  · rw [if_neg held, if_neg (Tree.memChildren.not.mpr held)]
    rfl

theorem wildPlace (plain : AreNames place) (reads : Reads name tokens)
    (marked : literal? tokens = none) : kept (wildStep tree (ofPlace place) tokens) =
      (taken tree place tokens).map fun name => ofPlace (place ++ [name]) := by
  unfold wildStep taken
  rw [if_congr (passesMarked marked) rfl rfl]
  obtain ⟨sealed, cause, failed⟩ | ⟨unsealed, told⟩ := namesInPlace sound plain
  · rw [failed, if_neg (by simp [sealed])]
    rfl
  · have silent : dots tree (ofPlace place) tokens = [] := by
      unfold dots
      split
      · rename_i dotted
        simp [reads.beyond dotted.1]
      · rfl
    rw [told, if_pos unsealed]
    dsimp only
    rw [keptOk, silent, List.map_nil, List.append_nil]
    exact List.map_congr_left fun name kept =>
      stepPlace plain (nameOfChild sound (List.mem_of_mem_filter kept))

theorem expandReach (each : List.Forall₂ Reads names patterns) (all : AreNames names)
    (plain : AreNames place) : kept (expand tree (patterns.map .tokens) (ofPlace place)) =
      (reach tree patterns place).map fun names => ofPlace (place ++ names) := by
  induction each generalizing place with
  | nil => simp [expand, reach, kept, Except.toOption]
  | @cons name tokens names patterns reads _ ih =>
    have found : kept (expand tree (.tokens tokens :: patterns.map .tokens) (ofPlace place)) =
        ((taken tree place tokens).map fun name => ofPlace (place ++ [name])).flatMap
          fun path => kept (expand tree (patterns.map .tokens) path) := by
      rw [expand, keptOnward]
      refine congrArg (List.flatMap _) ?_
      cases literal : literal? tokens with
      | some t =>
        cases (reads.literal literal).1
        exact literalPlace sound plain (all _ List.mem_cons_self) literal
      | none => exact wildPlace sound plain reads literal
    rw [List.map_cons, found, reach, List.flatMap_map, List.map_flatMap]
    refine List.flatMap_congr fun name kept => ?_
    have child := (memTaken.mp kept).2.1
    have more : AreNames (place ++ [name]) := Path.areNamesAppend.mpr
      ⟨plain, by simpa [AreNames] using nameOfChild sound child⟩
    simp [ih all.tail more]

theorem memReach (there : (tree.node? place).isSome) : names ∈ reach tree patterns place ↔
    Leads tree place patterns names ∧ (tree.node? (place ++ names)).isSome := by
  induction patterns generalizing place names with
  | nil =>
    rw [reach, List.mem_singleton, leadsNil]
    constructor
    · rintro rfl
      simpa using there
    · exact And.left
  | cons tokens patterns ih =>
    simp only [reach, List.mem_flatMap, memTaken, List.mem_map, leadsCons]
    constructor
    · rintro ⟨name, ⟨passes, child, matched⟩, rest, inner, rfl⟩
      obtain ⟨leads, held⟩ := (ih (Tree.memChildren.mp child)).mp inner
      rw [List.append_cons]
      exact ⟨⟨name, rest, rfl, passes, matched, leads⟩, held⟩
    · rintro ⟨⟨name, rest, rfl, passes, matched, leads⟩, held⟩
      rw [List.append_cons] at held
      have child := sound.above held
      exact ⟨name, ⟨passes, Tree.memChildren.mpr child, matched⟩, rest,
        (ih child).mpr ⟨leads, held⟩, rfl⟩

theorem memReachRoot :
    names ∈ reach tree patterns [] ↔ Leads tree [] patterns names ∧ (tree.node? names).isSome :=
  @memReach tree [] names patterns sound rfl

theorem nodupTaken : (taken tree place tokens).Nodup := by
  unfold taken
  split
  · exact (sound.nodupChildren place).filter _
  · exact .nil

theorem nodupReach : (reach tree patterns place).Nodup := by
  induction patterns generalizing place with
  | nil => simp [reach]
  | cons tokens patterns ih =>
    refine List.nodup_flatMap.mpr ⟨fun name _ => ih.map fun _ _ same => (List.cons.inj same).2, ?_⟩
    refine (nodupTaken sound).imp fun apart => ?_
    intro names left right
    obtain ⟨_, _, rfl⟩ := List.mem_map.mp left
    obtain ⟨_, _, same⟩ := List.mem_map.mp right
    exact apart (List.cons.inj same).1.symm

end

end GemSurvey.Glob
