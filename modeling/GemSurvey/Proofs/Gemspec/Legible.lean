import GemSurvey.Proofs.Gemspec.Literals
import GemSurvey.Proofs.Resolution.Probing
import GemSurvey.Proofs.Text.Start

/-! Reading a declaration from its line. A name ends where no token goes on, the release of a gem
at the next quote, and a version where the line does, whatever is in it. As no version is empty,
none is told from an absent one. -/
namespace GemSurvey
namespace Declaration
open Text (after? afterStart afterApart)

def opening (development : Bool) : String :=
  if development then "s.add_development_dependency '" else "s.add_runtime_dependency '"

def closed? (t : Text) : Option Text := if t.getLast? = some '\x27' then some t.dropLast else none

def readDependency? (development : Bool) (t : Text) : Option Declaration := do
  let rest ← after? "', '~> " (t.dropWhile Line.isTokenChar)
  let rest' ← after? "', '>= " (rest.dropWhile (· != '\x27'))
  let minimum ← closed? rest'
  some (.dependency development (t.takeWhile Line.isTokenChar) (rest.takeWhile (· != '\x27'))
    minimum)

def readRequirement? (t : Text) : Option Declaration := do
  let rest := t.dropWhile Line.isTokenChar
  let auxiliary := after? " in development" rest
  let rest ← after? ": " (auxiliary.getD rest)
  let version ← closed? rest
  some (.requirement (t.takeWhile Line.isTokenChar) (if version = [] then none else some version)
    auxiliary.isSome)

def read? (line : Text) : Option Declaration :=
  ((after? (opening false) line).bind (readDependency? false)).or
    (((after? (opening true) line).bind (readDependency? true)).or
      ((after? "s.requirements << '" line).bind readRequirement?))

inductive Legible : Declaration → Prop where
  | dependency {development name compatible minimum}
      (named : ∀ c ∈ name, Line.isTokenChar c = true) (release : '\x27' ∉ compatible) :
      Legible (.dependency development name compatible minimum)
  | requirement {name version development} (named : ∀ c ∈ name, Line.isTokenChar c = true)
      (some : version ≠ Option.some []) : Legible (.requirement name version development)

def Produced (d : Declaration) : Prop :=
  ∃ subject tools which tracked report,
    (Survey.run subject tools which (.ok tracked)).result = .ok report ∧ d ∈ report.declarations

structure Decodes (d : Declaration) : Prop where
  legible : Legible d
  read : read? d.shown = some d
  apart : ∀ other, Legible other → other.shown = d.shown → other = d

section
variable {development : Bool} {name compatible minimum : Text} {d : Declaration}

theorem closedShown (t : Text) : closed? (t ++ "'") = some t := by
  have quote : ("'" : Text) = ['\x27'] := by decide +kernel
  simp [closed?, quote]

theorem dependencyRead (named : ∀ c ∈ name, Line.isTokenChar c = true)
    (release : '\x27' ∉ compatible) :
    readDependency? development
        (name ++ ("', '~> " ++ (compatible ++ ("', '>= " ++ (minimum ++ "'"))))) =
      some (.dependency development name compatible minimum) := by
  have first := Text.runTaken named (@Text.headStart _ "', '~> " (by decide +kernel)
    (compatible ++ ("', '>= " ++ (minimum ++ "'"))))
  have second := @Text.runTaken _ (· != '\x27') compatible ("', '>= " ++ (minimum ++ "'"))
    (fun c member => bne_iff_ne.mpr fun same => release (same ▸ member)) rfl
  simp only [readDependency?, first, second, afterStart, closedShown, Option.bind_eq_bind,
    Option.bind_some]

theorem requirementRead {version : Option Text} (named : ∀ c ∈ name, Line.isTokenChar c = true)
    (given : version ≠ some []) :
    readRequirement? (name ++ ((if development then " in development" else "").toList ++
      (": " ++ (version.getD [] ++ "'")))) = some (.requirement name version development) := by
  have shown : (if version.getD [] = [] then none else some (version.getD [])) = version := by
    cases version with
    | none => rfl
    | some v => simpa using given
  cases development with
  | true =>
    have first := Text.runTaken named (@Text.headStart _ " in development" (by decide +kernel)
      (": " ++ (version.getD [] ++ "'")))
    simp only [readRequirement?, if_true, first, afterStart, closedShown, Option.getD_some,
      Option.bind_eq_bind, Option.bind_some, shown, Option.isSome_some]
  | false =>
    have first := Text.runTaken named (@Text.headStart _ ": " (by decide +kernel)
      (version.getD [] ++ "'"))
    have other := @afterApart " in development" ": " (by decide +kernel) (version.getD [] ++ "'")
    have empty : ("" : Text) = [] := by decide +kernel
    simp only [readRequirement?, Bool.false_eq_true, if_false, empty, List.nil_append, first, other,
      afterStart, closedShown, Option.getD_none, Option.bind_eq_bind, Option.bind_some, shown,
      Option.isSome_none]

theorem readOpening (development : Bool) (rest : Text) :
    read? (opening development ++ rest) = readDependency? development rest := by
  have own := afterStart (opening development) rest
  have other := @afterApart (opening !development) (opening development)
    (by cases development <;> decide +kernel) rest
  have requirement := @afterApart "s.requirements << '" (opening development)
    (by cases development <;> decide +kernel) rest
  unfold read?
  cases development with
  | false =>
    rw [own, show after? (opening true) _ = none from other, requirement]
    exact Option.or_none
  | true =>
    rw [show after? (opening false) _ = none from other, own, requirement]
    exact Option.or_none

theorem readRequirements (rest : Text) :
    read? ("s.requirements << '" ++ rest) = readRequirement? rest := by
  have runtime := @afterApart (opening false) "s.requirements << '" (by decide +kernel) rest
  have development := @afterApart (opening true) "s.requirements << '" (by decide +kernel) rest
  rw [read?, runtime, development, afterStart]
  rfl

theorem Legible.read (legible : d.Legible) : read? d.shown = some d := by
  cases legible with
  | @dependency development name compatible minimum named release =>
    have parts : (Declaration.dependency development name compatible minimum).shown =
        opening development ++
          (name ++ ("', '~> " ++ (compatible ++ ("', '>= " ++ (minimum ++ "'"))))) := by
      change opening development ++ name ++ "', '~> " ++ compatible ++ "', '>= " ++ minimum ++ "'" = _
      simp only [List.append_assoc]
    rw [parts, readOpening, dependencyRead named release]
  | @requirement name version development named given =>
    have parts : (Declaration.requirement name version development).shown =
        "s.requirements << '" ++ (name ++ ((if development then " in development" else "").toList ++
          (": " ++ (version.getD [] ++ "'")))) := by
      change "s.requirements << '" ++ name ++
        (if development then " in development" else "").toList ++ ": " ++ version.getD [] ++ "'" = _
      simp only [List.append_assoc]
    rw [parts, readRequirements, requirementRead named given]

theorem versionShows {package : Text} {tools : Tools} {which : Text} {scan : ScanSettings}
    {as : List Answered} {s : Session} {version : Option Text} {provenance : Provenance}
    (accounts : Survey.Accounts package tools which scan.requirement? as s)
    (member : ⟨⟨.command, name⟩, version, provenance⟩ ∈ s.versions.records) :
    version ≠ some [] := by
  rcases accounts.commandRecord member rfl with ⟨_, seed⟩ | ⟨_, past, probed⟩
  · have same : version = scan.requirement? := congrArg Record.version seed
    rw [same, ScanSettings.requirement?]
    split
    · simp
    · rename_i shows
      exact fun blank => shows (by simp [Option.some.inj blank])
  · have same : version = Requirement.versionAt? tools which name past :=
      congrArg Record.version probed
    intro empty
    rw [same, Requirement.versionAtIff] at empty
    exact empty.2.oneLine.some rfl

theorem Produced.legible (produced : d.Produced) : d.Legible := by
  obtain ⟨subject, tools, which, tracked, report, ok, there⟩ := produced
  have named := Survey.declaredNames ok d there
  obtain ⟨final, rfl, accounts, _⟩ := Survey.reported ok
  have declares := accounts.declares (subject.select tracked)
  cases d with
  | dependency development name compatible minimum =>
    have form := (declares.gemVersions _ _ _ _ there).2.2
    have bare := (Literal.bareVersion form).2
    exact .dependency named fun quote => (bare _ quote).1 rfl
  | requirement name version development =>
    obtain ⟨provenance, member⟩ := (declares.commandVersions _ _ _ there).1
    exact .requirement named (versionShows accounts.session member)

theorem producedDecodes (produced : d.Produced) : Decodes d where
  legible := produced.legible
  read := produced.legible.read
  apart other legible same := by
    have read := legible.read
    rw [same, produced.legible.read] at read
    exact (Option.some.inj read).symm

theorem sampleDecodes : Produced (.requirement "git" (some "git version 2.43.0") false) ∧
    Decodes (.requirement "git" (some "git version 2.43.0") false) := by
  have produced : Produced (.requirement "git" (some "git version 2.43.0") false) :=
    ⟨_, _, _, _, _, Sample.reported, by decide⟩
  exact ⟨produced, producedDecodes produced⟩

end
end Declaration
end GemSurvey
