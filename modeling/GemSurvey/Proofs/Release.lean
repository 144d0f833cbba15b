import GemSurvey.Proofs.Glob.Under
import GemSurvey.Release

/-! The version found under a root. Sources are searched one after the other, and a file found in one
of them is read by its place under the root. -/
namespace GemSurvey.Release
open Path (ofNames ofPlace AreNames)
open Glob (Asked Legible Reached Rooted)

def AreAsked (wanted : List Path) : Prop :=
  ∀ source ∈ wanted, ∃ names, source = ofNames names ∧ Asked names

variable {tree other : Tree} {root place : Place} {wanted : List Path}

theorem AreAsked.tail {source : Path} (asked : AreAsked (source :: wanted)) : AreAsked wanted :=
  fun later member => asked later (List.mem_cons_of_mem _ member)

theorem sourcesAsked : AreAsked sources := by
  have lib : Legible "lib" := (Glob.faithfulPlain (Text.eachOf (by decide)) (by decide)).legible
  have bin : Legible "bin" := (Glob.faithfulPlain (Text.eachOf (by decide)) (by decide)).legible
  have version : Legible "version.rb" := (Glob.faithfulPlain (Text.eachOf (by decide)) (by decide)).legible
  have any : Legible "*" := ⟨[.anyText], rfl, nofun⟩
  have ruby : Legible "*.rb" := ⟨.anyText :: ".rb".toList.map .char, rfl, nofun⟩
  simp only [AreAsked, sources, List.forall_mem_cons]
  refine ⟨⟨["lib", "*", "version.rb"], rfl, by decide, by decide, ?_⟩,
    ⟨["lib", "*.rb"], rfl, by decide, by decide, ?_⟩,
    ⟨["bin", "*"], rfl, by decide, by decide, ?_⟩, nofun⟩ <;> simp only [List.forall_mem_cons]
  · exact ⟨lib, any, version, nofun⟩
  · exact ⟨lib, ruby, nofun⟩
  · exact ⟨bin, any, nofun⟩

theorem ofFileSeen {p q : Path} (same : tree.view p = other.view q) :
    ofFile? tree p = ofFile? other q := by
  unfold ofFile? Tree.readText Tree.readBytes
  rw [same]

theorem findAlike (rooted : Rooted tree root) (rooted' : Rooted other place)
    (reached : Reached tree root) (reached' : Reached other place)
    (same : tree.SameBelow root other place) (asked : AreAsked wanted) :
    ∃ version, find tree (ofPlace root) wanted = .ok version ∧
      find other (ofPlace place) wanted = .ok version := by
  induction wanted with
  | nil => exact ⟨none, rfl, rfl⟩
  | cons source rest ih =>
    obtain ⟨names, rfl, first⟩ := asked source List.mem_cons_self
    obtain ⟨found, files, files', seen⟩ := Glob.filesAlike rooted rooted' reached reached' same first
    have told : (found.findSome? fun file => ofFile? tree ((ofPlace root).join file)) =
        found.findSome? fun file => ofFile? other ((ofPlace place).join file) := by
      rw [← List.head?_filterMap, ← List.head?_filterMap]
      exact congrArg _ (List.filterMap_congr fun file member => ofFileSeen (seen file member))
    simp only [find, files, files', bind, Except.bind, told]
    split
    · rename_i version _
      exact ⟨some version, rfl, rfl⟩
    · exact ih asked.tail

theorem findNone (rooted : Rooted tree root) (lost : ¬ Reached tree root)
    (asked : AreAsked wanted) : find tree (ofPlace root) wanted = .ok none := by
  induction wanted with
  | nil => rfl
  | cons source rest ih =>
    obtain ⟨names, rfl, first⟩ := asked source List.mem_cons_self
    simp only [find, Glob.filesNone rooted lost first, bind, Except.bind]
    exact ih asked.tail

theorem findRefused {fault : Glob.Fault} (given : wanted ≠ []) (asked : AreAsked wanted)
    (refused : ∀ names, Asked names →
      Glob.filesUnder tree (ofPlace root) (ofNames names) = .error fault) :
    find tree (ofPlace root) wanted = .error fault := by
  obtain ⟨source, rest, rfl⟩ := List.exists_cons_of_ne_nil given
  obtain ⟨names, rfl, first⟩ := asked source List.mem_cons_self
  simp only [find, refused names first, bind, Except.bind]

end GemSurvey.Release
