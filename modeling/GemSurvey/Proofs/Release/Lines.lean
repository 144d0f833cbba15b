import GemSurvey.Proofs.Glob.Under
import GemSurvey.Proofs.Release

/-! The lines that are searched for a version, in order: by the source of their file, then by its place
under the root, then as they stand in the file. A file that cannot be read has none, and neither has a
directory that does not tell its names; a version file is looked up by name in its library. -/
namespace GemSurvey.Release
open Path (ofNames ofPlace AreNames)
open Glob (Leads Reached Reads Rooted)

structure Candidate where
  source : Nat
  place : Place
  number : Nat
  line : Text

def Candidate.file (c : Candidate) : Nat ×ₗ Place := toLex (c.source, c.place)

def Candidate.key (c : Candidate) : (Nat ×ₗ Place) ×ₗ Nat := toLex (c.file, c.number)

inductive InSource : Nat → Place → Prop
  | versionFile (library : Text) : InSource 0 ["lib", library, "version.rb"]
  | library (stem : Text) : InSource 1 ["lib", stem ++ ".rb"]
  | executable (name : Text) : InSource 2 ["bin", name]

def Stands (tree : Tree) (root : Place) (c : Candidate) : Prop := ∃ content executable t,
  tree.node? (root ++ c.place) = some (.file content executable) ∧ Text.decode? content = some t ∧
    (Text.lines t)[c.number]? = some c.line

/-- The directory that is searched for the file, `lib` or `bin`, tells its names. -/
def Unsealed (tree : Tree) (root place : Place) : Prop := tree.isSealed (root ++ place.take 1) = false

instance (tree : Tree) (root place : Place) : Decidable (Unsealed tree root place) :=
  inferInstanceAs (Decidable (_ = _))

structure IsLine (tree : Tree) (root : Place) (c : Candidate) : Prop where
  placed : InSource c.source c.place
  unsealed : Unsealed tree root c.place
  stands : Stands tree root c

variable {tree : Tree} {root place : Place} {places : List Place} {wanted : List Path}
  {names : List Text} {patterns : List (List Glob.Token)} {source : Nat} {c d : Candidate} {t : Text}

theorem InSource.some (placed : InSource source place) : place ≠ [] := by
  cases placed <;> exact List.cons_ne_nil _ _

theorem InSource.lt (placed : InSource source place) : source < sources.length := by
  cases placed <;> decide

def literal (name : Text) : List Glob.Token := name.map .char

theorem literalRead (name : Text) : Glob.literal? (literal name) = some name :=
  Glob.literalPlain name

theorem libraries : Leads tree root [literal "lib", .anyText :: literal ".rb"] place ↔
    InSource 1 place ∧ Unsealed tree root place := by
  simp only [Glob.leadsLiteral (literalRead _), Glob.leadsEnding (literalRead _), Glob.leadsNil]
  constructor
  · intro leads
    obtain ⟨_, rfl, unsealed, stem, _, rfl, rfl⟩ := leads
    exact ⟨.library stem, unsealed⟩
  · intro ⟨placed, unsealed⟩
    cases placed with
    | library stem => exact ⟨_, rfl, unsealed, stem, _, rfl, rfl⟩

theorem executables : Leads tree root [literal "bin", [.anyText]] place ↔
    InSource 2 place ∧ Unsealed tree root place := by
  simp only [Glob.leadsLiteral (literalRead _), Glob.leadsAny, Glob.leadsNil]
  constructor
  · intro leads
    obtain ⟨_, rfl, unsealed, name, _, rfl, rfl⟩ := leads
    exact ⟨.executable name, unsealed⟩
  · intro ⟨placed, unsealed⟩
    cases placed with
    | executable name => exact ⟨_, rfl, unsealed, name, _, rfl, rfl⟩

end GemSurvey.Release
