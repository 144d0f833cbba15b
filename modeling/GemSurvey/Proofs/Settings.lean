import GemSurvey.Proofs.Source.Shebang
import GemSurvey.Proofs.Text.Word
import GemSurvey.Settings.Basic

/-! Settings that are accepted. Some root and some suffix show something, no suffix begins with a
dot, and the interpreter is one word; no more is asked of a root or a suffix. -/
namespace GemSurvey.ScanSettings
open Text (Blank)

structure Accepted (scan : ScanSettings) : Prop where
  root : ∃ root ∈ scan.distributedRoots, ¬ Blank root
  suffix : ∃ suffix ∈ scan.sourceSuffixes, ¬ Blank suffix
  undotted : ∀ suffix ∈ scan.sourceSuffixes, suffix.head? ≠ some '.'
  runtime : scan.shebangRuntime ≠ [] ∧ ∀ c ∈ scan.shebangRuntime, Text.isAsciiWord c = true

variable {scan : ScanSettings}

theorem blankTrimmed (t : Text) : (Text.trim t).isEmpty = true ↔ Blank t := by
  rcases Text.trimBegins t with ⟨blank, empty⟩ | ⟨c, rest, shows, member, begins⟩
  · exact iff_of_true (by rw [empty]; rfl) blank
  · refine iff_of_false (by simp [begins]) fun blank => ?_
    rw [blank c member] at shows
    cases shows

theorem someShows (entries : List Text) :
    ¬ (entries.all fun entry => (Text.trim entry).isEmpty) = true ↔
      ∃ entry ∈ entries, ¬ Blank entry := by
  simp only [List.all_eq_true, blankTrimmed, not_forall, exists_prop]

theorem isNamed (runtime : Text) : ¬ (runtime.isEmpty || !runtime.all isRuntimeChar) = true ↔
    runtime ≠ [] ∧ ∀ c ∈ runtime, Text.isAsciiWord c = true := by
  simp only [Bool.or_eq_true, List.isEmpty_iff, Bool.not_eq_true', not_or, Bool.not_eq_false,
    List.all_eq_true, isRuntimeChar]

theorem validateIff : scan.validate = .ok () ↔ scan.Accepted := by
  constructor
  · intro valid
    unfold validate at valid
    split at valid
    · cases valid
    rename_i root
    split at valid
    · cases valid
    rename_i suffix
    split at valid
    · cases valid
    rename_i undotted
    split at valid
    · cases valid
    rename_i runtime
    rw [List.find?_eq_none] at undotted
    exact ⟨(someShows _).mp root, (someShows _).mp suffix,
      fun entry member => by simpa using undotted entry member, (isNamed _).mp runtime⟩
  · intro accepted
    have undotted : scan.sourceSuffixes.find? (fun suffix => suffix.head? = some '.') = none :=
      List.find?_eq_none.mpr fun entry member => by simpa using accepted.undotted entry member
    unfold validate
    rw [if_neg ((someShows _).mpr accepted.root), if_neg ((someShows _).mpr accepted.suffix),
      undotted]
    exact if_neg ((isNamed _).mpr accepted.runtime)

theorem Accepted.isRuntime (accepted : scan.Accepted) : Shebang.IsRuntime scan.shebangRuntime :=
  ⟨accepted.runtime.1, fun c member => Text.asciiWord (accepted.runtime.2 c member)⟩

end GemSurvey.ScanSettings
