import GemSurvey.Git
import GemSurvey.Proofs.Text.Encoded
import GemSurvey.Proofs.Text.Trim
import GemSurvey.Proofs.Text.Utf8

/-! Tracked names, of which git prints one a line. A name that is text with no blank at either end
is given as it is, unless it is ignored. Of any other name it is what is left without those blanks
that is given, and that the ignore pattern is asked about. -/
namespace GemSurvey.Git
open Text (isBlank trim encode decodeLenient unlines)

/-- A name that git prints as it is, when it need not quote what is not ASCII. -/
def Verbatim (name : Bytes) : Prop :=
  name ≠ [] ∧ ∀ byte ∈ name, 0x20 ≤ byte ∧ byte ≠ 0x7F ∧ byte ≠ 0x22 ∧ byte ≠ 0x5C

instance (name : Bytes) : Decidable (Verbatim name) := inferInstanceAs (Decidable (_ ∧ _))

def printedNames (names : List Bytes) : Bytes := names.flatMap fun name => name ++ [10]

def left (name : Bytes) : Text := trim (decodeLenient name)

def kept (git : Git) (name : Bytes) : Bool := !git.isIgnored (decodeLenient name)

def given? (git : Git) (name : Bytes) : Option Text :=
  Option.guard (fun line => !line.isEmpty && !git.isIgnored line) (left name)

inductive Settled (git : Git) (name : Bytes) : Prop where
  | bare {t : Text} (text : name = encode t) (begins : ∀ c ∈ t.head?, isBlank c = false)
      (ends : ∀ c ∈ t.getLast?, isBlank c = false)
  | ignored (whole : git.isIgnored (decodeLenient name) = true)
      (trimmed : left name = [] ∨ git.isIgnored (left name) = true)

structure Tracks (git : Git) (names : List Bytes) : Prop where
  given : git.tracked = .ok ((names.filterMap git.given?).map Path.mk)
  unchanged : git.tracked.map (·.map fun path => encode path.text) = .ok (names.filter git.kept) ↔
    ∀ name ∈ names, git.Settled name

section
variable {git : Git} {name other : Bytes} {names : List Bytes} {line : Text}

theorem Verbatim.unmarked (verbatim : Verbatim name) : 10 ∉ name :=
  fun member => absurd (verbatim.2 10 member).1 (by decide)

theorem decodedNames (names : List Bytes) :
    decodeLenient (printedNames names) = unlines (names.map decodeLenient) := by
  induction names with
  | nil => rfl
  | cons name rest ih =>
    have first : printedNames (name :: rest) = name ++ 10 :: printedNames rest := by simp [printedNames]
    rw [first, Text.lenientCut name (printedNames rest) (by decide), ih]
    simp [unlines]

theorem givenSome : git.given? name = some line ↔
    left name = line ∧ line ≠ [] ∧ git.isIgnored line = false := by
  simp only [given?, Option.guard_eq_some_iff, Bool.and_eq_true, Bool.not_eq_true',
    List.isEmpty_eq_false_iff]
  exact and_congr_right fun same => by rw [same]

theorem givenNone :
    git.given? name = none ↔ left name = [] ∨ git.isIgnored (left name) = true := by
  simp [given?, Option.guard_eq_none_iff, or_iff_not_imp_left]

theorem pathsListed (unmarked : ∀ name ∈ names, 10 ∉ name) :
    git.paths (decodeLenient (printedNames names)) = (names.filterMap git.given?).map Path.mk := by
  have clear : ∀ line ∈ names.map decodeLenient, '\n' ∉ line := by
    intro line member
    obtain ⟨name, there, same⟩ := List.mem_map.mp member
    exact same ▸ Text.newlineLenient (unmarked name there)
  rw [paths, decodedNames, Text.trimmedLines clear, List.map_map, ← List.filterMap_eq_filter,
    List.filterMap_map]
  rfl

theorem leftEncoded (t : Text) : left (encode t) = trim t := by
  rw [left, Text.decodeEncoded]

theorem settledIff (some : name ≠ []) :
    (git.given? name).map encode = (if git.kept name then Option.some name else none) ↔
      git.Settled name := by
  constructor
  · intro sent
    cases keeps : git.kept name with
    | true =>
      rw [keeps, if_pos rfl, Option.map_eq_some_iff] at sent
      obtain ⟨line, given, text⟩ := sent
      have trimmed := (givenSome.mp given).1
      rw [← text, leftEncoded] at trimmed
      exact .bare text.symm (Text.trimSame.mp trimmed).1 (Text.trimSame.mp trimmed).2
    | false =>
      rw [keeps, if_neg (by decide), Option.map_eq_none_iff] at sent
      exact .ignored (by simpa [kept] using keeps) (givenNone.mp sent)
  · intro settled
    cases settled with
    | @bare t text begins ends =>
      have whole : left name = t := by
        rw [text, leftEncoded, Text.trimSame.mpr ⟨begins, ends⟩]
      have shown : t ≠ [] := by
        intro none
        exact some (by rw [text, none]; rfl)
      have decoded : decodeLenient name = t := by rw [text, Text.decodeEncoded]
      rw [kept, decoded]
      cases ignored : git.isIgnored t with
      | false =>
        rw [givenSome.mpr ⟨whole, shown, ignored⟩, Option.map_some, ← text]
        rfl
      | true => simp [givenNone.mpr (.inr (whole ▸ ignored))]
    | ignored whole trimmed => simp [kept, whole, givenNone.mpr trimmed]

theorem givenAgain (given : (git.given? name).map encode = some other) :
    (git.given? other).map encode = some other := by
  obtain ⟨line, first, text⟩ := Option.map_eq_some_iff.mp given
  obtain ⟨same, shows, passes⟩ := givenSome.mp first
  have again : left other = line := by
    rw [← text, leftEncoded, ← same]
    exact Text.trimTrim _
  rw [givenSome.mpr ⟨again, shows, passes⟩, Option.map_some, text]

theorem sentSame {sent : Bytes → Option Bytes} {keep : Bytes → Bool}
    (held : ∀ name ∈ names, keep name = true → sent name = some name)
    (same : names.filterMap sent = names.filter keep) :
    ∀ name ∈ names, sent name = if keep name then some name else none := by
  induction names with
  | nil => simp
  | cons name rest ih =>
    have later := fun other member => held other (List.mem_cons_of_mem _ member)
    cases keeps : keep name with
    | true =>
      have first := held name List.mem_cons_self keeps
      rw [List.filterMap_cons_some first, List.filter_cons_of_pos keeps, List.cons_inj_right] at same
      exact List.forall_mem_cons.mpr ⟨by rw [first, keeps]; rfl, ih later same⟩
    | false =>
      rw [List.filter_cons_of_neg (by simp [keeps])] at same
      cases sends : sent name with
      | none =>
        rw [List.filterMap_cons_none sends] at same
        exact List.forall_mem_cons.mpr ⟨by rw [sends, keeps]; rfl, ih later same⟩
      | some other =>
        have fewer : (rest.filter keep).length ≤ (rest.filterMap sent).length := by
          rw [← List.countP_eq_length_filter, List.length_filterMap_eq_countP]
          exact List.countP_mono_left fun y member keeps => by simp [later y member keeps]
        rw [← same, List.filterMap_cons_some sends, List.length_cons] at fewer
        omega

theorem sentKept (some : ∀ name ∈ names, name ≠ []) :
    names.filterMap (fun name => (git.given? name).map encode) = names.filter git.kept ↔
      ∀ name ∈ names, git.Settled name := by
  constructor
  · intro same name member
    refine (settledIff (some name member)).mp (sentSame ?_ same name member)
    intro name member keeps
    have sent := List.mem_filter.mpr ⟨member, keeps⟩
    rw [← same] at sent
    obtain ⟨first, _, given⟩ := List.mem_filterMap.mp sent
    exact givenAgain given
  · intro settled
    rw [← List.filterMap_eq_filter]
    refine List.filterMap_congr fun name member => ?_
    rw [(settledIff (some name member)).mpr (settled name member)]
    rfl

theorem namesTracked {printed : Printed} (answer : git.atRoot ["ls-files"] = .ok printed.output)
    (success : printed.success = true) (verbatim : ∀ name ∈ names, Verbatim name)
    (listed : printed.stdout = printedNames names) : git.Tracks names := by
  have given : git.tracked = .ok ((names.filterMap git.given?).map Path.mk) := by
    have out : printed.output.stdout = decodeLenient (printedNames names) := by rw [← listed]; rfl
    rw [tracked, query, answer]
    simp only [show printed.output.success = true from success, if_true, Except.map, out]
    rw [pathsListed fun name member => (verbatim name member).unmarked]
  have sent : git.tracked.map (·.map fun path => encode path.text) =
      .ok (names.filterMap fun name => (git.given? name).map encode) := by
    rw [given]
    simp [Except.map, List.map_filterMap, Function.comp_def]
  refine ⟨given, ?_⟩
  rw [sent, Except.ok.injEq, sentKept fun name member => (verbatim name member).1]

end
end GemSurvey.Git

namespace GemSurvey.Sample

def ownNames : List Bytes := [Text.encode " lib/own.rb".toList, Text.encode "bin/own".toList]

def tracking : Git where
  run := runBy fun _ _ => .ok ⟨Git.printedNames ownNames, [], true⟩
  workTree := "/w"

end GemSurvey.Sample

namespace GemSurvey.Git

theorem sampleTracks :
    Sample.tracking.atRoot ["ls-files"] =
      .ok (Printed.output ⟨printedNames Sample.ownNames, [], true⟩) ∧
    (∀ name ∈ Sample.ownNames, Verbatim name) ∧ Sample.tracking.Tracks Sample.ownNames := by
  have answer : Sample.tracking.atRoot ["ls-files"] =
      .ok (Printed.output ⟨printedNames Sample.ownNames, [], true⟩) := rfl
  have verbatim : ∀ name ∈ Sample.ownNames, Verbatim name := by decide +kernel
  exact ⟨answer, verbatim, namesTracked answer rfl verbatim rfl⟩

theorem nameTrimmed :
    ¬ ∀ (git : Git) (printed : Printed) (names : List Bytes),
      git.atRoot ["ls-files"] = .ok printed.output → printed.success = true →
      (∀ name ∈ names, Verbatim name) → printed.stdout = printedNames names →
      git.tracked.map (·.map fun path => Text.encode path.text) = .ok (names.filter git.kept) := by
  intro always
  have same := always Sample.tracking ⟨printedNames Sample.ownNames, [], true⟩ Sample.ownNames rfl rfl
    (by decide +kernel) rfl
  exact absurd (congrArg Except.toOption same) (by decide +kernel)

end GemSurvey.Git
