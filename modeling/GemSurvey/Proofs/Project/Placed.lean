import GemSurvey.Project
import GemSurvey.Proofs.Release

/-! Where a project lies. The names of its root are read as patterns. As long as they lead to the root
itself, what the project says from its files is the same wherever it lies; a root that they do not
lead to hides all of them, and one that is no pattern at all is refused. -/
namespace GemSurvey.Project
open Path (ofNames ofPlace AreNames)
open Glob (Asked Faithful Leads Legible Reached Reads Rooted Segment)

structure Told (tree : Tree) (root : Path) (version : Option Text) (gems packaged : List Path) :
    Prop where
  found : Release.version? tree root = .ok version
  built : builtGems tree root "*.gem" = .ok gems
  packed : builtGems tree root "pkg/*.gem" = .ok packaged
  loaded : ∀ w today, w.root = root → ∃ project, load w tree today = .ok project ∧
    project.version = version ∧ project.gems = gems ∧ project.packaged = packaged

structure Barred (tree : Tree) (root : Path) (fault : Fault) : Prop where
  found : Release.version? tree root = .error fault
  built : builtGems tree root "*.gem" = .error fault
  packed : builtGems tree root "pkg/*.gem" = .error fault
  loaded : ∀ w today, w.root = root → load w tree today = .error fault

def AreGems (tree : Tree) (root directory : Place) (gems : List Path) : Prop :=
  ∀ file, file ∈ gems ↔ tree.isSealed (root ++ directory) = false ∧
    ∃ stem : Text, file = ofNames (directory ++ [stem ++ ".gem"]) ∧
      tree.holdsFile (root ++ (directory ++ [stem ++ ".gem"])) = true

variable {tree other : Tree} {root place directory : Place} {names : List Text} {p : Path}
  {gems : List Path}

def gemTokens : List Glob.Token := .anyText :: ".gem".toList.map .char

def gemsIn (directory : Place) : List (List Glob.Token) :=
  directory.map (fun name => name.map .char) ++ [gemTokens]

theorem gemReads : Reads "*.gem" gemTokens := ⟨rfl, nofun⟩

theorem pkgReads : Reads "pkg" ("pkg".toList.map .char) := ⟨rfl, nofun⟩

theorem gemsAsked : Asked ["*.gem"] :=
  ⟨by decide, by decide, List.forall_mem_cons.mpr ⟨⟨_, gemReads⟩, nofun⟩⟩

theorem packagedAsked : Asked ["pkg", "*.gem"] :=
  ⟨by decide, by decide, List.forall_mem_cons.mpr ⟨⟨_, pkgReads⟩, gemsAsked.legible⟩⟩

theorem leadsGems : Leads tree root (gemsIn directory) names ↔
    tree.isSealed (root ++ directory) = false ∧
      ∃ stem : Text, names = directory ++ [stem ++ ".gem"] := by
  induction directory generalizing root names with
  | nil =>
    rw [gemsIn, List.map_nil, List.nil_append, gemTokens, Glob.leadsEnding (Glob.literalPlain _),
      List.append_nil]
    simp [Glob.leadsNil]
  | cons name rest ih =>
    rw [gemsIn, List.map_cons, List.cons_append, Glob.leadsLiteral (Glob.literalPlain _), ← gemsIn,
      List.append_cons root name rest]
    simp only [ih]
    constructor
    · intro leads
      obtain ⟨_, rfl, unsealed, stem, rfl⟩ := leads
      exact ⟨unsealed, stem, rfl⟩
    · intro ⟨unsealed, stem, form⟩
      exact ⟨_, form, unsealed, stem, rfl⟩

theorem gemsFound (rooted : Rooted tree root) (reached : Reached tree root)
    (asked : Asked names) (reads : List.Forall₂ Reads names (gemsIn directory))
    (files : Glob.filesUnder tree (ofPlace root) (ofNames names) = .ok gems) :
    AreGems tree root directory gems := by
  intro file
  rw [Glob.filesFound rooted reached asked reads files]
  simp only [leadsGems]
  constructor
  · rintro ⟨_, there, ⟨unsealed, stem, rfl⟩, held⟩
    exact ⟨unsealed, stem, there, held⟩
  · rintro ⟨unsealed, stem, there, held⟩
    exact ⟨_, there, ⟨unsealed, stem, rfl⟩, held⟩

theorem gemsPattern : ("*.gem" : Path) = ofNames ["*.gem"] := rfl

theorem packagedPattern : ("pkg/*.gem" : Path) = ofNames ["pkg", "*.gem"] := rfl

theorem tell {version : Option Text} {packaged : List Path}
    (found : Release.find tree p Release.sources = .ok version)
    (built : Glob.filesUnder tree p (ofNames ["*.gem"]) = .ok gems)
    (packed : Glob.filesUnder tree p (ofNames ["pkg", "*.gem"]) = .ok packaged) :
    Told tree p version gems packaged := by
  have version : Release.version? tree p = .ok version := by rw [Release.version?, found]
  have gems : builtGems tree p "*.gem" = .ok gems := by rw [builtGems, gemsPattern, built]
  have packaged : builtGems tree p "pkg/*.gem" = .ok packaged := by
    rw [builtGems, packagedPattern, packed]
  refine ⟨version, gems, packaged, fun w today at' => ?_⟩
  simp only [load, at', version, gems, packaged, bind, Except.bind]
  exact ⟨_, rfl, rfl, rfl, rfl⟩

theorem bar {fault : Glob.Fault} (refused : ∀ names, Asked names →
    Glob.filesUnder tree p (ofNames names) = .error fault)
    (found : Release.find tree p Release.sources = .error fault) :
    Barred tree p (.rejected .glob fault.message) := by
  have version : Release.version? tree p = .error (.rejected .glob fault.message) := by
    rw [Release.version?, found]
  refine ⟨version, ?_, ?_, fun w today at' => ?_⟩
  · rw [builtGems, gemsPattern, refused _ gemsAsked]
  · rw [builtGems, packagedPattern, refused _ packagedAsked]
  · simp only [load, at', version, bind, Except.bind]

theorem placeTold (sound : tree.Sound) (sound' : other.Sound) (named : AreNames root)
    (named' : AreNames place) (same : tree.SameBelow root other place) :
    (Reached tree root → Reached other place → ∃ version gems packaged,
      Told tree (ofPlace root) version gems packaged ∧
      Told other (ofPlace place) version gems packaged ∧
      AreGems tree root [] gems ∧ AreGems tree root ["pkg"] packaged) ∧
    ((∀ name ∈ root, Legible name) → ¬ Reached tree root →
      Told tree (ofPlace root) none [] []) ∧
    ((∃ name ∈ root, ∃ fault, Segment.read name = .error fault) →
      ∃ fault, Barred tree (ofPlace root) fault) := by
  refine ⟨fun reached reached' => ?_, fun legible lost => ?_,
    fun ⟨name, member, fault, refused⟩ => ?_⟩
  · have rooted : Rooted tree root :=
      ⟨sound, named, fun name member => (reached.self name member).legible⟩
    have rooted' : Rooted other place :=
      ⟨sound', named', fun name member => (reached'.self name member).legible⟩
    obtain ⟨version, found, found'⟩ :=
      Release.findAlike rooted rooted' reached reached' same Release.sourcesAsked
    obtain ⟨gems, built, built', _⟩ := Glob.filesAlike rooted rooted' reached reached' same gemsAsked
    obtain ⟨packaged, packed, packed', _⟩ :=
      Glob.filesAlike rooted rooted' reached reached' same packagedAsked
    exact ⟨version, gems, packaged, tell found built packed, tell found' built' packed',
      gemsFound rooted reached gemsAsked (.cons gemReads .nil) built,
      gemsFound rooted reached packagedAsked (.cons pkgReads (.cons gemReads .nil)) packed⟩
  · have rooted : Rooted tree root := ⟨sound, named, legible⟩
    exact tell (Release.findNone rooted lost Release.sourcesAsked)
      (Glob.filesNone rooted lost gemsAsked) (Glob.filesNone rooted lost packagedAsked)
  · obtain ⟨fault, everywhere⟩ := Glob.filesRefused named member refused
    exact ⟨_, bar everywhere (Release.findRefused (by decide) Release.sourcesAsked everywhere)⟩

namespace Sample

def contents : List (Place × Node) :=
  [(["lib"], .directory), (["lib", "own"], .directory),
    (["lib", "own", "version.rb"], .file (Text.encode "VERSION = '1.2.3'\n") false),
    (["own-1.2.3.gem"], .file [] false), (["pkg"], .directory),
    (["pkg", "own-1.2.2.gem"], .file [] false)]

def placedAt (root : Place) : Tree where
  nodes := (List.range root.length).map (fun depth => (root.take (depth + 1), .directory)) ++
    contents.map fun entry => (root ++ entry.1, entry.2)
  current := root

def plain : Place := ["srv", "a]"]

def wild : Place := ["home", "q?", "m*"]

end Sample

theorem samplePlaced :
    (∃ version gems packaged,
      Told (Sample.placedAt Sample.plain) (ofPlace Sample.plain) version gems packaged ∧
      Told (Sample.placedAt Sample.wild) (ofPlace Sample.wild) version gems packaged ∧
      AreGems (Sample.placedAt Sample.plain) Sample.plain [] gems ∧
      AreGems (Sample.placedAt Sample.plain) Sample.plain ["pkg"] packaged) ∧
    Told (Sample.placedAt ["own[1]"]) (ofPlace ["own[1]"]) none [] [] ∧
    ∃ fault, Barred (Sample.placedAt ["own["]) (ofPlace ["own["]) fault := by
  have alike {root : Place} (below : (Sample.placedAt root).below root =
      (Sample.placedAt Sample.wild).below Sample.wild)
      (open' : (Sample.placedAt root).isSealed root = false) :=
    Tree.sameBelow below (open'.trans (by decide +kernel))
  have sound : (Sample.placedAt Sample.wild).Sound := by decide +kernel
  have set : Reads "own[1]" ("own".toList.map .char ++ [.within [('1', '1')]]) := ⟨rfl, nofun⟩
  refine ⟨(placeTold (by decide +kernel) sound (by decide) (by decide)
    (alike (by decide +kernel) (by decide +kernel))).1 ?_ ?_,
    (placeTold (by decide +kernel) sound (by decide) (by decide)
      (alike (by decide +kernel) (by decide +kernel))).2.1 ?_ ?_,
    (placeTold (by decide +kernel) sound (by decide) (by decide)
      (alike (by decide +kernel) (by decide +kernel))).2.2 ?_⟩
  · refine Glob.reachedPlain (by decide) ?_
    simp only [Sample.plain, List.forall_mem_cons]
    exact ⟨Text.eachOf (by decide), Text.eachOf (by decide), nofun⟩
  · refine ⟨?_, .inl (Text.eachOf (by decide)), .inr (by decide +kernel), .inr (by decide +kernel),
      trivial⟩
    simp only [Sample.wild, List.forall_mem_cons]
    exact ⟨Glob.faithfulPlain (Text.eachOf (by decide)) (by decide),
      ⟨[.char 'q', .anyChar], ⟨rfl, nofun⟩, rfl⟩, ⟨[.char 'm', .anyText], ⟨rfl, nofun⟩, rfl⟩, nofun⟩
  · simp only [List.forall_mem_singleton]
    exact ⟨_, set⟩
  · intro reached
    obtain ⟨tokens, reads, matched⟩ := reached.self "own[1]" (by simp)
    cases set.unique reads
    exact absurd matched (by decide)
  · exact ⟨"own[".toList, by simp, .unclosedSet, rfl⟩

theorem placeMarked : ¬ ∀ (tree other : Tree) (root place : Place), tree.Sound → other.Sound →
    tree.node? root = some .directory → other.node? place = some .directory →
    tree.SameBelow root other place →
    Release.version? tree (ofPlace root) = Release.version? other (ofPlace place) := by
  intro always
  have same := always (Sample.placedAt ["own[1]"]) (Sample.placedAt Sample.plain) ["own[1]"]
    Sample.plain (by decide +kernel) (by decide +kernel) (by decide +kernel) (by decide +kernel)
    (Tree.sameBelow (by decide +kernel) (by decide +kernel))
  exact absurd same (by decide +kernel)

end GemSurvey.Project
