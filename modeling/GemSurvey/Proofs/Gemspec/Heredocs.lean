import GemSurvey.Proofs.Gemspec.Literals

/-! The texts of a description. A heredoc ends at the first line that is its word, so what a README
says of its gem is read back unless one of its lines is that word. -/
namespace GemSurvey
namespace Heredoc

def readLines (word : Text) : List Text → Option (List Text × List Text)
  | [] => none
  | line :: rest =>
      if line = word then some ([], rest)
      else (readLines word rest).map fun found => (line :: found.1, found.2)

def read? (word t : Text) : Option (List Text × List Text) := readLines word (Text.cut '\n' t)

def written (word value after : Text) : Text := value ++ '\n' :: (word ++ '\n' :: after)

def Ends (word value after : Text) : Prop :=
  read? word (written word value after) = some (Text.cut '\n' value, Text.cut '\n' after)

theorem readLinesIff {word : Text} {lines after : List Text} :
    readLines word (lines ++ word :: after) = some (lines, after) ↔ word ∉ lines := by
  induction lines with
  | nil => simp [readLines]
  | cons line lines ih =>
    rw [List.cons_append, readLines]
    by_cases same : line = word
    · simp [same]
    · rw [if_neg same, List.mem_cons, not_or, ← ih]
      constructor
      · intro found
        obtain ⟨⟨more, left⟩, tail, split⟩ := Option.map_eq_some_iff.mp found
        cases split
        exact ⟨Ne.symm same, tail⟩
      · rintro ⟨_, tail⟩
        rw [tail]
        rfl

theorem endsIff {word : Text} (line : '\n' ∉ word) (value after : Text) :
    Ends word value after ↔ word ∉ Text.cut '\n' value := by
  have unmarked : ∀ c ∈ word, (c == '\n') = false := by
    intro c member
    exact beq_false_of_ne fun same => line (same ▸ member)
  have lines : Text.cut '\n' (written word value after) =
      Text.cut '\n' value ++ word :: Text.cut '\n' after := by
    unfold Text.cut written
    rw [Text.cutByAppend value _ rfl, Text.cutByMarked unmarked rfl]
  rw [Ends, read?, lines]
  exact readLinesIff

end Heredoc

namespace Readme

theorem extracted {t : Text} {e : Extract} (found : extract? t = some e) :
    ∃ first rest, (section? t).map paragraphs = some (first :: rest) ∧
      e = ⟨Text.join ['\n', '\n'] (first :: rest.take 1), first⟩ := by
  unfold extract? at found
  split at found
  · rename_i first rest split
    exact ⟨first, rest, split, (Option.some.inj found).symm⟩
  · contradiction

theorem linesJoined {word : Text} (named : word ≠ []) (first : Text) (rest : List Text) :
    word ∈ Text.cut '\n' (Text.join ['\n', '\n'] (first :: rest.take 1)) ↔
      ∃ paragraph ∈ (first :: rest).take 2, word ∈ Text.cut '\n' paragraph := by
  cases rest with
  | nil => simp [Text.join, List.intercalate]
  | cons second others =>
    have joined : Text.join ['\n', '\n'] (first :: (second :: others).take 1) =
        first ++ '\n' :: ([] ++ '\n' :: second) := by
      simp [Text.join, List.intercalate]
    rw [joined]
    unfold Text.cut
    rw [Text.cutByAppend first _ rfl, Text.cutByAppend [] _ rfl]
    simp [Text.cutBy, named]

end Readme

namespace Gemspec

def beforeDescription (p : Project) : Text := heading p ++ "  s.description = <<DESCRIPTION\n"

def beforeSummary : Text := "\n  s.summary = <<SUMMARY\n"

def afterSummary (p : Project) (files : List Path) (declarations : List Declaration) : Text :=
  "\n" ++ fileBlock files ++ executableLine p files ++ declarations.flatMap declarationLine ++
    "end\n"

def afterDescription (p : Project) (files : List Path) (declarations : List Declaration) : Text :=
  beforeSummary ++ Heredoc.written "SUMMARY" (p.summary.getD []) (afterSummary p files declarations)

theorem heredocWritten (label word value after : Text) :
    heredoc label word value ++ after =
      ("  s." ++ label ++ " = <<" ++ word ++ "\n") ++ Heredoc.written word value after := by
  change "  s." ++ label ++ " = <<" ++ word ++ "\n" ++ value ++ "\n" ++ word ++ "\n" ++ after = _
  simp only [List.append_assoc]
  rfl

theorem bodyHeredocs (p : Project) (files : List Path) (declarations : List Declaration) :
    body p files declarations = beforeDescription p ++
      Heredoc.written "DESCRIPTION" (p.description.getD [])
        (afterDescription p files declarations) := by
  have description : "  s." ++ "description" ++ " = <<" ++ "DESCRIPTION" ++ ("\n" : Text) =
      "  s.description = <<DESCRIPTION\n" := by
    decide +kernel
  have summary : "\n" ++ ("  s." ++ "summary" ++ " = <<" ++ "SUMMARY" ++ ("\n" : Text)) =
      beforeSummary := by
    decide +kernel
  calc body p files declarations
      = heading p ++ (heredoc "description" "DESCRIPTION" (p.description.getD []) ++ ("\n" ++
          (heredoc "summary" "SUMMARY" (p.summary.getD []) ++
            afterSummary p files declarations))) := by
        simp only [body, texts, afterSummary, List.append_assoc]
    _ = heading p ++ ("  s.description = <<DESCRIPTION\n" ++
          Heredoc.written "DESCRIPTION" (p.description.getD []) (beforeSummary ++
            Heredoc.written "SUMMARY" (p.summary.getD [])
              (afterSummary p files declarations))) := by
        rw [heredocWritten, heredocWritten, description, ← List.append_assoc "\n".toList, summary]
    _ = _ := (List.append_assoc _ _ _).symm

structure Delimited (paragraphs : List Text) (e : Readme.Extract) (p : Project)
    (files : List Path) (declarations : List Declaration) (text : Text) : Prop where
  parts : text = beforeDescription p ++
    Heredoc.written "DESCRIPTION" e.description (afterDescription p files declarations)
  between : afterDescription p files declarations = beforeSummary ++
    Heredoc.written "SUMMARY" e.summary (afterSummary p files declarations)
  description :
    Heredoc.Ends "DESCRIPTION" e.description (afterDescription p files declarations) ↔
      ∀ paragraph ∈ paragraphs.take 2, ("DESCRIPTION" : Text) ∉ Text.cut '\n' paragraph
  summary : Heredoc.Ends "SUMMARY" e.summary (afterSummary p files declarations) ↔
    ∀ paragraph ∈ paragraphs.take 1, ("SUMMARY" : Text) ∉ Text.cut '\n' paragraph

theorem heredocsReadBack {readme : Text} {e : Readme.Extract}
    (found : Readme.extract? readme = some e) {p : Project} (complete : lacking p = [])
    (described : p.description = some e.description) (summed : p.summary = some e.summary)
    (files : List Path) (declarations : List Declaration) :
    ∃ paragraphs text, (Readme.section? readme).map Readme.paragraphs = some paragraphs ∧
      render p files declarations = .ok text ∧
      Delimited paragraphs e p files declarations text := by
  obtain ⟨first, rest, paragraphs, rfl⟩ := Readme.extracted found
  have lines : ("DESCRIPTION" : Text) ∉ Text.cut '\n' (Text.join ['\n', '\n']
      (first :: rest.take 1)) ↔
      ∀ paragraph ∈ (first :: rest).take 2, ("DESCRIPTION" : Text) ∉ Text.cut '\n' paragraph := by
    rw [Readme.linesJoined (by decide)]
    exact not_exists.trans (forall_congr' fun _ => not_and)
  refine ⟨first :: rest, _, paragraphs, renderComplete complete files declarations, ?_⟩
  rw [bodyHeredocs, described]
  exact {
    parts := rfl
    between := by rw [afterDescription, summed]; rfl
    description := (Heredoc.endsIff (by decide) _ _).trans lines
    summary := by
      rw [Heredoc.endsIff (by decide)]
      simp }

end Gemspec

/- A README that quotes a line. -/
namespace Sample

def quoting (line : String) : Text := "The tags are\n" ++ line ++ "\nand SUMMARY."

def readme (line : String) : Text :=
  "# own\n\n## DESCRIPTION:\n\n" ++ quoting line ++ "\n\n## USE\n"

def quotingProject (line : String) : Project :=
  { project "Ada Lovelace" with description := some (quoting line), summary := some (quoting line) }

end Sample

namespace Gemspec

theorem sampleDelimited :
    Readme.extract? (Sample.readme " DESCRIPTION") =
      some ⟨Sample.quoting " DESCRIPTION", Sample.quoting " DESCRIPTION"⟩ ∧
    lacking (Sample.quotingProject " DESCRIPTION") = [] ∧
    ∃ paragraphs text,
      (Readme.section? (Sample.readme " DESCRIPTION")).map Readme.paragraphs = some paragraphs ∧
      render (Sample.quotingProject " DESCRIPTION") Sample.tracked [] = .ok text ∧
      Delimited paragraphs ⟨Sample.quoting " DESCRIPTION", Sample.quoting " DESCRIPTION"⟩
        (Sample.quotingProject " DESCRIPTION") Sample.tracked [] text := by
  have found : Readme.extract? (Sample.readme " DESCRIPTION") =
      some ⟨Sample.quoting " DESCRIPTION", Sample.quoting " DESCRIPTION"⟩ := by
    decide +kernel
  exact ⟨found, rfl, heredocsReadBack found rfl rfl rfl Sample.tracked []⟩

theorem heredocsCut :
    ¬ ∀ (readme : Text) (e : Readme.Extract) (p : Project) (files : List Path)
        (declarations : List Declaration),
      Readme.extract? readme = some e → lacking p = [] → p.description = some e.description →
      p.summary = some e.summary →
      Heredoc.Ends "DESCRIPTION" e.description (afterDescription p files declarations) := by
  intro always
  have found : Readme.extract? (Sample.readme "DESCRIPTION") =
      some ⟨Sample.quoting "DESCRIPTION", Sample.quoting "DESCRIPTION"⟩ := by
    decide +kernel
  have ends := always _ _ (Sample.quotingProject "DESCRIPTION") [] [] found rfl rfl rfl
  exact (Heredoc.endsIff (by decide) _ _).mp ends (by decide +kernel)

end Gemspec
end GemSurvey
