import GemSurvey.Proofs.Text.Word
import GemSurvey.Tools

/-! Both streams of a program read as one text. No word of the one runs into a word of the other,
so that what is read of both is read of stdout first and then of stderr. -/
namespace GemSurvey.Output

theorem combinedForm (o : Output) : o.combined = o.stdout ++ '\n' :: o.stderr ∨
    o.combined = o.stdout ++ o.stderr ∧
      (o.stderr = [] ∨ ∀ c ∈ o.stdout.getLast?, c = '\n') := by
  unfold combined
  simp only
  split
  · left
    rw [List.append_assoc]
    rfl
  · rename_i joined
    refine .inr ⟨by rw [List.append_nil], ?_⟩
    by_cases quiet : o.stderr = []
    · exact .inl quiet
    · refine .inr fun c last => ?_
      have shows : o.stdout ≠ [] := List.ne_nil_of_mem (List.mem_of_getLast? last)
      by_contra other
      exact joined (by simp [shows, Option.mem_def.mp last, other, quiet])

theorem combinedWords (o : Output) :
    Text.words o.combined = Text.words o.stdout ++ Text.words o.stderr := by
  rcases o.combinedForm with apart | ⟨joined, quiet | ended⟩
  · rw [apart]
    exact Text.wordsMarked Text.newlineBlank o.stdout o.stderr
  · rw [joined]
    exact Text.wordsApart (.inr (by simp [quiet]))
  · rw [joined]
    exact Text.wordsApart (.inl fun c last => by rw [ended c last, Text.newlineBlank])

theorem combinedLast (o : Output) :
    Text.lastWord? o.combined = (Text.lastWord? o.stderr).or (Text.lastWord? o.stdout) := by
  unfold Text.lastWord?
  rw [o.combinedWords, List.getLast?_append]

theorem combinedSpells {o : Output} {spelled : List Text} : Text.Spells spelled o.combined ↔
    ∃ told complained, spelled = told ++ complained ∧
      Text.Spells told o.stdout ∧ Text.Spells complained o.stderr := by
  simp only [← Text.spellsIff, o.combinedWords]
  constructor
  · rintro rfl
    exact ⟨_, _, rfl, rfl, rfl⟩
  · rintro ⟨told, complained, rfl, rfl, rfl⟩
    rfl

theorem combinedEnds {o : Output} {word : Text} : Text.LastWord word o.combined ↔
    Text.LastWord word o.stderr ∨ Text.Blank o.stderr ∧ Text.LastWord word o.stdout := by
  simp only [← Text.lastWordIff, ← Text.lastWordNone, o.combinedLast, Option.or_eq_some_iff]

theorem streamsApart (o : Output) :
    (Text.words o.combined = Text.words o.stdout ++ Text.words o.stderr ∧
      ∀ spelled, Text.Spells spelled o.combined ↔
        ∃ told complained, spelled = told ++ complained ∧
          Text.Spells told o.stdout ∧ Text.Spells complained o.stderr) ∧
    (Text.lastWord? o.combined = (Text.lastWord? o.stderr).or (Text.lastWord? o.stdout) ∧
      ∀ word, Text.LastWord word o.combined ↔
        Text.LastWord word o.stderr ∨ Text.Blank o.stderr ∧ Text.LastWord word o.stdout) :=
  ⟨⟨o.combinedWords, fun _ => combinedSpells⟩, ⟨o.combinedLast, fun _ => combinedEnds⟩⟩

end GemSurvey.Output
