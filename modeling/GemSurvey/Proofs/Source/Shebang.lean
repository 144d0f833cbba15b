import GemSurvey.Proofs.Text.CharClass
import GemSurvey.Proofs.Text.Start
import GemSurvey.Source.Basic

/-! Lines that open a script. The interpreter's name must stand on the line as a whole word, at
any place after the marker. -/
namespace GemSurvey.Shebang
open Text (isWord)

def IsRuntime (runtime : Text) : Prop := runtime ≠ [] ∧ ∀ c ∈ runtime, isWord c = true

def Whole (name line : Text) : Prop :=
  ∃ before after, line = before ++ (name ++ after) ∧
    before.getLast?.any isWord = false ∧ after.head?.any isWord = false

structure Opens (runtime line : Text) : Prop where
  marked : ['#', '!'] <+: line
  whole : Whole runtime line

theorem lastOr (c : Char) (start : Text) (before : Option Char) :
    (c :: start).getLast?.or before = start.getLast?.or (some c) := by
  rw [List.getLast?_cons]
  cases start.getLast? <;> rfl

section
variable {runtime : Text} (named : IsRuntime runtime)
include named

theorem standsIff {before : Option Char} {t : Text} : standsAt runtime before t = true ↔
    ∃ rest, t = runtime ++ rest ∧ before.any isWord = false ∧ rest.head?.any isWord = false := by
  obtain ⟨some, words⟩ := named
  obtain ⟨first, others, same⟩ := List.exists_cons_of_ne_nil some
  have begins : isWord first = true := words first (by simp [same])
  obtain ⟨last, ends⟩ : ∃ last, runtime.getLast? = Option.some last :=
    ⟨_, List.getLast?_eq_some_getLast some⟩
  have ended : isWord last = true := words last (List.mem_of_getLast? ends)
  unfold standsAt
  cases found : Text.after? runtime t with
  | none =>
    have other (rest : Text) : t ≠ runtime ++ rest := by
      intro same
      rw [Text.afterIff.mpr same] at found
      cases found
    simp [other]
  | some rest =>
    have text := Text.afterIff.mp found
    have head : t.head? = Option.some first := by rw [text, same]; rfl
    have only (more : Text) : t = runtime ++ more ↔ rest = more := by
      rw [text, List.append_cancel_left_eq]
    simp [isWordEdge, head, begins, ends, ended, only]

theorem namesFromIff {before : Option Char} {t : Text} (one : '\n' ∉ t) :
    namesFrom runtime before t = true ↔ ∃ start after, t = start ++ (runtime ++ after) ∧
      (start.getLast?.or before).any isWord = false ∧ after.head?.any isWord = false := by
  induction t generalizing before with
  | nil =>
    have some := named.1
    simp [namesFrom, standsIff named, some]
  | cons c rest ih =>
    rw [List.mem_cons, not_or] at one
    rw [namesFrom, Bool.or_eq_true, Bool.and_eq_true, standsIff named, ih one.2]
    constructor
    · intro found
      rcases found with ⟨after, same, apart, ends⟩ | ⟨_, start, after, same, apart, ends⟩
      · exact ⟨[], after, same, apart, ends⟩
      · exact ⟨c :: start, after, by rw [same]; rfl, by rw [lastOr]; exact apart, ends⟩
    · intro found
      obtain ⟨start, after, same, apart, ends⟩ := found
      cases start with
      | nil => exact .inl ⟨after, same, apart, ends⟩
      | cons d start =>
        obtain ⟨head, tail⟩ := List.cons.inj same
        rw [lastOr, ← head] at apart
        exact .inr ⟨bne_iff_ne.mpr (Ne.symm one.1), start, after, tail, apart, ends⟩

theorem namesIff {line : Text} (one : '\n' ∉ line) :
    names runtime line = true ↔ Opens runtime line := by
  constructor
  · intro read
    unfold names at read
    split at read
    · rename_i rest
      obtain ⟨start, after, same, apart, ends⟩ := (namesFromIff named (by simpa using one)).mp read
      refine ⟨⟨rest, rfl⟩, '#' :: '!' :: start, after, by rw [same]; rfl, ?_, ends⟩
      rwa [← Option.or_none (o := List.getLast? _), lastOr, lastOr]
    · cases read
  · intro opens
    obtain ⟨⟨rest, rfl⟩, before, after, same, apart, ends⟩ := opens
    obtain ⟨first, others, begins⟩ := List.exists_cons_of_ne_nil named.1
    have word : isWord first = true := named.2 first (by simp [begins])
    match before with
    | [] =>
      rw [begins] at same
      rw [← (List.cons.inj same).1] at word
      exact absurd word (by decide +kernel)
    | [_] =>
      rw [begins] at same
      rw [← (List.cons.inj (List.cons.inj same).2).1] at word
      exact absurd word (by decide +kernel)
    | _ :: _ :: start =>
      obtain ⟨_, tail⟩ := List.cons.inj same
      obtain ⟨mark, tail⟩ := List.cons.inj tail
      rw [← Option.or_none (o := List.getLast? _), lastOr, lastOr, ← mark] at apart
      exact (namesFromIff named (by simpa using one)).mpr ⟨start, after, tail, apart, ends⟩

end
end GemSurvey.Shebang
