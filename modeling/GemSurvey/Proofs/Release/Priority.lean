import GemSurvey.Proofs.Release.Lines
import GemSurvey.Proofs.Release.Statement

/-! Which line states the version: the first that assigns VERSION and has a number in it. Nothing that
comes after it has a say. From a relative root nothing is found, and nothing in a sealed directory. -/
namespace GemSurvey.Release
open Path (ofPlace AreNames)
open Glob (Plain Reached Rooted)

structure Qualifies (tree : Tree) (root : Place) (c : Candidate) : Prop where
  isLine : IsLine tree root c
  assigns : Assigns c.line
  numbered : Numbered c.line

structure First (tree : Tree) (root : Place) (c : Candidate) : Prop where
  qualifies : Qualifies tree root c
  least : ∀ other, Qualifies tree root other → c.key ≤ other.key

def SameUpTo (tree other : Tree) (root : Place) (c : Candidate) : Prop :=
  ∀ d : Candidate, d.key ≤ c.key → (IsLine tree root d ↔ IsLine other root d)

def SameFilesUpTo (tree other : Tree) (root : Place) (c : Candidate) : Prop :=
  ∀ source place, InSource source place → toLex (source, place) ≤ c.file →
    tree.node? (root ++ place) = other.node? (root ++ place) ∧
      tree.isSealed (root ++ place.take 1) = other.isSealed (root ++ place.take 1)

variable {tree other : Tree} {root : Place} {c : Candidate} {number : Text}

section
variable (rooted : Rooted tree root) (reached : Reached tree root)
include rooted reached

end

theorem First.moved (first : First tree root c) (same : SameUpTo tree other root c) :
    First other root c := by
  obtain ⟨⟨isLine, assigns, numbered⟩, least⟩ := first
  refine ⟨⟨(same c le_rfl).mp isLine, assigns, numbered⟩, fun d qualifies => ?_⟩
  by_contra earlier
  have before := le_of_not_ge earlier
  exact earlier (least d ⟨(same d before).mpr qualifies.isLine, qualifies.assigns, qualifies.numbered⟩)

theorem SameFilesUpTo.lines (same : SameFilesUpTo tree other root c) : SameUpTo tree other root c := by
  intro d before
  have upTo : d.file ≤ c.file := Prod.Lex.monotone_fst _ _ before
  have both (placed : InSource d.source d.place) : (Unsealed tree root d.place ∧ Stands tree root d) ↔
      Unsealed other root d.place ∧ Stands other root d := by
    obtain ⟨node, shut⟩ := same d.source d.place placed upTo
    rw [Unsealed, Unsealed, Stands, Stands, node, shut]
  constructor
  · intro ⟨placed, unsealed, stands⟩
    obtain ⟨unsealed, stands⟩ := (both placed).mp ⟨unsealed, stands⟩
    exact ⟨placed, unsealed, stands⟩
  · intro ⟨placed, unsealed, stands⟩
    obtain ⟨unsealed, stands⟩ := (both placed).mpr ⟨unsealed, stands⟩
    exact ⟨placed, unsealed, stands⟩

namespace Sample

def home : Place := ["srv", "own"]

def library : Place := ["lib"]

def contents : List (Place × Node) :=
  [(["bin"], .directory), (["lib"], .directory), (["lib", "own"], .directory),
    (["lib", "own", "version.rb"], .file (Text.encode "VERSION = File.read('VERSION')\n") false),
    (["lib", "own.rb"], .file (Text.encode "# 0.9.0\nVERSION = '1.2.3'\n") false)]

def files : Tree where
  nodes := (["srv"], .directory) :: (home, .directory) ::
    contents.map fun entry => (home ++ entry.1, entry.2)
  current := home
  raw := [(home ++ library, ⟨[0xff, 0x2e, 0x72, 0x62], by decide +kernel⟩)]

def closed : Tree := { files with
  nodes := files.nodes.map fun entry =>
    if entry.1 = home ++ library then (entry.1, .sealed .denied) else entry }

def script : Place := ["bin", "own"]

end Sample

end GemSurvey.Release
