import GemSurvey.Gemspec
import GemSurvey.Proofs.Survey.Declared
import GemSurvey.Proofs.Text.Literal

/-! The literals of a description. Each is read back as the value that it was written from exactly
if that value is plain. The names and versions of gems always are; what a command says of its
version need not be. -/
namespace GemSurvey
namespace Literal

def Bare (t : Text) : Prop := ∀ c ∈ t, c ≠ '\x27' ∧ c ≠ '\\'

theorem bareAll {t : Text} (checked : (t.all fun c => c != '\x27' && c != '\\') = true) :
    Bare t := by
  intro c member
  simpa using List.all_eq_true.mp checked c member

theorem Bare.append {s t : Text} (first : Bare s) (second : Bare t) : Bare (s ++ t) := by
  intro c member
  rcases List.mem_append.mp member with left | right
  · exact first c left
  · exact second c right

theorem Bare.before {s : Text} (bare : Bare s) (value : Text) :
    Plain (s ++ value) ↔ Plain value := by
  induction s with
  | nil => rfl
  | cons c rest ih =>
    have head := bare c List.mem_cons_self
    have tail := ih fun d member => bare d (List.mem_cons_of_mem _ member)
    rw [List.cons_append, plainCons, tail]
    simp [head.1, head.2]

theorem Bare.plain {t : Text} (bare : Bare t) : Plain t := by
  have whole := (bare.before []).mpr plainNil
  rwa [List.append_nil] at whole

theorem bareToken {t : Text} (token : ∀ c ∈ t, Line.isTokenChar c = true) : Bare t := by
  intro c member
  have char := token c member
  constructor <;> rintro rfl
  · exact absurd char (by decide +kernel)
  · exact absurd char (by decide +kernel)

theorem bareNumber {t : Text} (number : IsNumber t) : Bare t := by
  intro c member
  have digit := number.2 c member
  constructor <;> rintro rfl
  · exact absurd digit (by decide +kernel)
  · exact absurd digit (by decide +kernel)

theorem bareDot : Bare ['.'] := by simp [Bare]

theorem bareVersion {version release : Text} (form : IsVersion version release) :
    Bare version ∧ Bare release := by
  cases form with
  | two first second =>
    have both := (bareNumber first).append (bareDot.append (bareNumber second))
    exact ⟨both, both⟩
  | three first second third =>
    have both := (bareNumber first).append (bareDot.append (bareNumber second))
    exact ⟨both.append (bareDot.append (bareNumber third)), both⟩

end Literal

namespace Gemspec

inductive Part where
  | fixed (text : Text)
  | line (literals : Literal.Line)

def Part.shown : Part → Text
  | .fixed text => text
  | .line literals => literals.text

def assignment (label value : Text) : Literal.Line := ⟨[("  s." ++ label ++ "= ", value)], "\n"⟩

def licensed (license : Text) : Literal.Line := ⟨[("  s.licenses = [", license)], "]\n"⟩

def executable (name : Text) : Literal.Line := ⟨[("  s.executables << ", name)], "\n"⟩

def declared : Declaration → Literal.Line
  | .dependency development name compatible minimum =>
      ⟨[((if development then "  s.add_development_dependency " else "  s.add_runtime_dependency "),
          name), (", ", "~> " ++ compatible), (", ", ">= " ++ minimum)], "\n"⟩
  | .requirement name version development =>
      ⟨[("  s.requirements << ", name ++ (if development then " in development" else "") ++ ": " ++
          version.getD [])], "\n"⟩

def headingParts (p : Project) : List Part := [
  .fixed "Gem::Specification.new do |s|\n\n",
  .line (assignment "name     " p.name), .line (assignment "version  " (p.version.getD [])),
  .fixed "\n", .line (assignment "homepage " (homepage p)),
  .fixed "\n", .line (assignment "author   " (p.author.getD [])),
  .line (assignment "email    " (p.email.getD [])),
  .fixed "\n", .line (assignment "date     " p.date),
  .line (licensed p.license), .fixed "\n"]

def executableParts (p : Project) (files : List Path) : List Part :=
  if files.any (Path.same (("bin" : Path).join ⟨p.name⟩)) then [.line (executable p.name)] else []

def parts (p : Project) (files : List Path) (declarations : List Declaration) : List Part :=
  headingParts p ++ .fixed (texts p ++ fileBlock files) ::
    executableParts p files ++ declarations.map (.line ∘ declared) ++ [.fixed "end\n"]

def quote : Text := ['\x27']

theorem writtenPart (ending fixed value : Text) (more : List (Text × Text)) :
    Literal.Line.written ending ((fixed, value) :: more) =
      fixed ++ (quote ++ (value ++ (quote ++ Literal.Line.written ending more))) := rfl

theorem closed : ("'\n" : Text) = quote ++ ("\n" : Text) := by decide +kernel

theorem assignedLine (label value : Text) :
    assigned label value = (assignment label value).text := by
  have opening : ("= '" : Text) = "= " ++ quote := by decide +kernel
  change "  s." ++ label ++ "= '" ++ value ++ "'\n" =
    Literal.Line.written "\n" [("  s." ++ label ++ "= ", value)]
  simp only [writtenPart, opening, closed, List.append_assoc]
  rfl

theorem declarationShown (d : Declaration) : declarationLine d = (declared d).text := by
  cases d with
  | dependency development name compatible minimum =>
    have opening : "  " ++ (if development then "s.add_development_dependency '"
          else "s.add_runtime_dependency '").toList =
        (if development then "  s.add_development_dependency "
          else "  s.add_runtime_dependency " : Text) ++ quote := by
      cases development <;> decide +kernel
    have release : ("', '~> " : Text) = quote ++ (", " ++ (quote ++ ("~> " : Text))) := by
      decide +kernel
    have version : ("', '>= " : Text) = quote ++ (", " ++ (quote ++ (">= " : Text))) := by
      decide +kernel
    change "  " ++ ((if development then "s.add_development_dependency '"
          else "s.add_runtime_dependency '").toList ++ name ++ "', '~> " ++ compatible ++
        "', '>= " ++ minimum ++ "'") ++ "\n" =
      Literal.Line.written "\n" [((if development then "  s.add_development_dependency "
        else "  s.add_runtime_dependency "), name), (", ", "~> " ++ compatible),
        (", ", ">= " ++ minimum)]
    simp only [writtenPart, release, version, List.append_assoc]
    rw [← List.append_assoc, opening, List.append_assoc]
    rfl
  | requirement name version development =>
    have opening : "  " ++ ("s.requirements << '" : Text) =
        "  s.requirements << " ++ quote := by
      decide +kernel
    change "  " ++ ("s.requirements << '" ++ name ++
        (if development then " in development" else "").toList ++ ": " ++ version.getD [] ++ "'") ++
        "\n" =
      Literal.Line.written "\n" [("  s.requirements << ", name ++
        (if development then " in development" else "").toList ++ ": " ++ version.getD [])]
    simp only [writtenPart, List.append_assoc]
    rw [← List.append_assoc, opening, List.append_assoc]
    rfl

theorem licenseLine (license : Text) :
    "  s.licenses = ['" ++ license ++ "']\n\n" = (licensed license).text ++ "\n" := by
  have opening : ("  s.licenses = ['" : Text) = "  s.licenses = [" ++ quote := by decide +kernel
  have closing : ("']\n\n" : Text) = quote ++ ("]\n" ++ ("\n" : Text)) := by decide +kernel
  change _ = Literal.Line.written "]\n" [("  s.licenses = [", license)] ++ "\n"
  simp only [writtenPart, opening, closing, List.append_assoc]
  rfl

theorem headingShown (p : Project) : heading p = (headingParts p).flatMap Part.shown := by
  have license := licenseLine p.license
  rw [List.append_assoc] at license
  change "Gem::Specification.new do |s|\n\n" ++
    assigned "name     " p.name ++ assigned "version  " (p.version.getD []) ++ "\n" ++
    assigned "homepage " (homepage p) ++ "\n" ++
    assigned "author   " (p.author.getD []) ++ assigned "email    " (p.email.getD []) ++ "\n" ++
    assigned "date     " p.date ++ "  s.licenses = ['" ++ p.license ++ "']\n\n" = _
  simp only [headingParts, assignedLine, license, List.flatMap_cons, List.flatMap_nil, Part.shown,
    List.append_assoc, List.append_nil]

theorem executableShown (p : Project) (files : List Path) :
    executableLine p files = (executableParts p files).flatMap Part.shown := by
  have opening : ("  s.executables << '" : Text) = "  s.executables << " ++ quote := by
    decide +kernel
  unfold executableLine executableParts
  split
  · simp only [opening, closed, List.flatMap_cons, List.flatMap_nil, Part.shown, List.append_assoc,
      List.append_nil]
    rfl
  · rfl

theorem bodyShown (p : Project) (files : List Path) (declarations : List Declaration) :
    body p files declarations = (parts p files declarations).flatMap Part.shown := by
  have lines : declarations.flatMap declarationLine =
      (declarations.map (.line ∘ declared)).flatMap Part.shown := by
    rw [List.flatMap_map]
    exact congrArg (declarations.flatMap ·) (funext declarationShown)
  simp only [body, parts, headingShown, executableShown, lines, List.flatMap_append,
    List.flatMap_cons, List.flatMap_nil, Part.shown, List.append_assoc, List.append_nil]

theorem renderComplete {p : Project} (complete : lacking p = []) (files : List Path)
    (declarations : List Declaration) :
    render p files declarations = .ok (body p files declarations) := by
  simp [render, complete]

structure ReadsBack (p : Project) (files : List Path) (declarations : List Declaration)
    (text : Text) : Prop where
  parts : text = (parts p files declarations).flatMap Part.shown
  lines : ∀ before line after, Gemspec.parts p files declarations = before ++ .line line :: after →
    (line.read? (line.text ++ after.flatMap Part.shown) =
        some (line.values, after.flatMap Part.shown) ↔
      ∀ value ∈ line.values, Literal.Plain value)
  dependencies : ∀ development name compatible minimum,
    .dependency development name compatible minimum ∈ declarations →
      ∀ value ∈ (declared (.dependency development name compatible minimum)).values,
        Literal.Plain value
  requirements : ∀ name version development,
    .requirement name version development ∈ declarations →
      ((∀ value ∈ (declared (.requirement name version development)).values,
        Literal.Plain value) ↔ Literal.Plain (version.getD []))

section
variable {subject : Subject} {tools : Tools} {which : Text} {tracked : List Path} {report : Report}

theorem dependencyPlain
    (ok : (Survey.run subject tools which (.ok tracked)).result = .ok report)
    {development name compatible minimum}
    (there : .dependency development name compatible minimum ∈ report.declarations) :
    ∀ value ∈ (declared (.dependency development name compatible minimum)).values,
      Literal.Plain value := by
  have token := Survey.declaredNames ok _ there
  obtain ⟨final, rfl, accounts, _⟩ := Survey.reported ok
  have declares := accounts.declares (subject.select tracked)
  have form := (declares.gemVersions _ _ _ _ there).2.2
  obtain ⟨version, release⟩ := Literal.bareVersion form
  have tilde : Literal.Bare "~> " := Literal.bareAll rfl
  have above : Literal.Bare ">= " := Literal.bareAll rfl
  intro value member
  simp only [declared, Literal.Line.values, List.map_cons, List.map_nil, List.mem_cons,
    List.not_mem_nil, or_false] at member
  rcases member with rfl | rfl | rfl
  · exact (Literal.bareToken token).plain
  · exact (tilde.append release).plain
  · exact (above.append version).plain

theorem requirementPlain
    (ok : (Survey.run subject tools which (.ok tracked)).result = .ok report)
    {name version development}
    (there : .requirement name version development ∈ report.declarations) :
    (∀ value ∈ (declared (.requirement name version development)).values, Literal.Plain value) ↔
      Literal.Plain (version.getD []) := by
  have token := Survey.declaredNames ok _ there
  have scope : Literal.Bare (if development then " in development" else "").toList := by
    cases development <;> exact Literal.bareAll rfl
  have colon : Literal.Bare ": " := Literal.bareAll rfl
  have before := ((Literal.bareToken token).append scope).append colon
  change (∀ value ∈ [_], Literal.Plain value) ↔ _
  rw [List.forall_mem_singleton]
  exact before.before _

/-- A complete project is described, and a literal reads back exactly if its value is plain, as
all that is said of a gem is; of a requirement it depends on the version alone. -/
theorem literalsReadBack
    (ok : (Survey.run subject tools which (.ok tracked)).result = .ok report)
    {p : Project} (complete : lacking p = []) (files : List Path) :
    ∃ text, render p files report.declarations = .ok text ∧
      ReadsBack p files report.declarations text :=
  ⟨_, renderComplete complete files report.declarations, {
    parts := bodyShown p files report.declarations
    lines := fun _ line after _ => line.readIff (after.flatMap Part.shown)
    dependencies := fun _ _ _ _ => dependencyPlain ok
    requirements := fun _ _ _ => requirementPlain ok }⟩

end
end Gemspec

/- A complete project, whoever its author is. -/
namespace Sample

def project (author : Text) : Project where
  workTree := "/w"
  readme := "README.md"
  description := some "Keeps things tidy."
  summary := some "Keeps things tidy."
  name := "own"
  gemspec := "own.gemspec"
  version := some "1.2.3"
  date := "2026-01-02"
  author := some author
  email := some "author@example.com"
  gems := []
  packaged := []
  homepage := none
  license := "MIT"

end Sample

namespace Gemspec

theorem sampleReadBack :
    (Survey.run Sample.subject (.steady (Sample.locate "7.2") Sample.ask) "which"
      (.ok Sample.tracked)).result = .ok Sample.report ∧
    lacking (Sample.project "Ada Lovelace") = [] ∧
    ∃ text, render (Sample.project "Ada Lovelace") Sample.tracked Sample.report.declarations =
        .ok text ∧
      ReadsBack (Sample.project "Ada Lovelace") Sample.tracked Sample.report.declarations text :=
  ⟨Sample.reported, rfl, literalsReadBack Sample.reported rfl Sample.tracked⟩

theorem literalsCut :
    ¬ ∀ (subject : Subject) (tools : Tools) (which : Text) (tracked : List Path) (report : Report)
        (p : Project) (files : List Path),
      (Survey.run subject tools which (.ok tracked)).result = .ok report → lacking p = [] →
      ∀ before line after, parts p files report.declarations = before ++ .line line :: after →
        line.read? (line.text ++ after.flatMap Part.shown) =
          some (line.values, after.flatMap Part.shown) := by
  intro always
  have read := always Sample.subject (.steady (Sample.locate "7.2") Sample.ask) "which"
    Sample.tracked Sample.report (Sample.project "Pat O'Brien") [] Sample.reported rfl
    ((headingParts (Sample.project "Pat O'Brien")).take 6) (assignment "author   " "Pat O'Brien") _
    rfl
  have plain := (Literal.Line.readIff _ _).mp read _ List.mem_cons_self
  exact plain.1 (by decide)

end Gemspec
end GemSurvey
