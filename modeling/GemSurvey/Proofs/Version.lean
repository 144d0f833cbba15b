import GemSurvey.Declaration
import GemSurvey.Proofs.Text.CharClass
import GemSurvey.Proofs.Text.Cutting
import GemSurvey.Proofs.Text.Start
import GemSurvey.Resolution.Library

/-! Versions of located gems: two numbers or three with dots between, of which the first two
are the compatible release. -/
namespace GemSurvey

def IsNumber (t : Text) : Prop := t ≠ [] ∧ ∀ c ∈ t, Text.isDigit c = true

instance (t : Text) : Decidable (IsNumber t) :=
  decidable_of_iff (t ≠ [] ∧ t.all Text.isDigit = true) (by rw [List.all_eq_true, IsNumber])

inductive IsVersion : Text → Text → Prop where
  | two {major minor} (first : IsNumber major) (second : IsNumber minor) :
      IsVersion (major ++ '.' :: minor) (major ++ '.' :: minor)
  | three {major minor patch} (first : IsNumber major) (second : IsNumber minor)
      (third : IsNumber patch) :
      IsVersion (major ++ '.' :: minor ++ '.' :: patch) (major ++ '.' :: minor)

theorem IsNumber.noDot {t} (number : IsNumber t) : ∀ c ∈ t, (c == '.') = false := by
  intro c member
  cases dot : c == '.' with
  | false => rfl
  | true =>
    have digit := number.2 c member
    rw [eq_of_beq dot] at digit
    exact absurd digit (by decide)

theorem takenNumber {t : Text} (some : t.takeWhile Text.isDigit ≠ []) :
    IsNumber (t.takeWhile Text.isDigit) :=
  ⟨some, fun _ member => List.all_eq_true.mp List.all_takeWhile _ member⟩

theorem IsVersion.nonempty {version release} (h : IsVersion version release) : version ≠ [] := by
  cases h <;> simp

theorem IsVersion.compatible {version release} (h : IsVersion version release) :
    Declaration.compatible version = release := by
  unfold Declaration.compatible Text.cut
  cases h with
  | two first second =>
    rw [Text.cutByMarked first.noDot rfl, Text.cutByUnmarked second.noDot]
    simp [Text.join, List.intercalate]
  | three first second third =>
    rw [List.append_assoc, List.cons_append, Text.cutByMarked first.noDot rfl,
      Text.cutByMarked second.noDot rfl, Text.cutByUnmarked third.noDot]
    simp [Text.join, List.intercalate]

theorem IsNumber.token {t : Text} (number : IsNumber t) : ∀ c ∈ t, Line.isTokenChar c = true := by
  intro c member
  simp [Line.isTokenChar, Text.digitWord (number.2 c member)]

theorem IsNumber.noHyphen {t : Text} (number : IsNumber t) : '-' ∉ t := by
  intro member
  exact absurd (number.2 _ member) (by decide)

theorem IsNumber.ends {t : Text} (number : IsNumber t) (before : Text) :
    (before ++ t).getLast?.any Text.isWord = true := by
  rw [List.getLast?_append, List.getLast?_eq_some_getLast number.1, Option.some_or]
  exact Text.digitWord (number.2 _ (List.getLast_mem number.1))

inductive Minor : Text → Prop where
  | last {minor} (number : IsNumber minor) : Minor minor
  | patched {minor patch} (number : IsNumber minor) (third : IsNumber patch) :
      Minor (minor ++ '.' :: patch)

theorem IsVersion.parts {version release : Text} (form : IsVersion version release) :
    ∃ major more, version = major ++ '.' :: more ∧ IsNumber major ∧ Minor more := by
  cases form with
  | two first second => exact ⟨_, _, rfl, first, .last second⟩
  | three first second third => exact ⟨_, _, by simp, first, .patched second third⟩

theorem IsVersion.ends {version release : Text} (form : IsVersion version release) :
    version.getLast?.any Text.isWord = true := by
  cases form with
  | @two major minor _ second =>
    have same : major ++ '.' :: minor = (major ++ ['.']) ++ minor := by simp
    rw [same]
    exact second.ends _
  | @three major minor patch _ _ third =>
    have same : major ++ '.' :: minor ++ '.' :: patch = (major ++ '.' :: minor ++ ['.']) ++ patch := by
      simp
    rw [same]
    exact third.ends _

namespace Located

theorem versionForm {major after version : Text} (h : version? major after = some version) :
    ∃ release, IsVersion version release := by
  match after with
  | [] => simp [version?] at h
  | c :: t =>
    by_cases dot : c = '.'
    · subst dot
      simp only [version?] at h
      split at h
      · contradiction
      rename_i numbers
      simp only [Bool.or_eq_true, List.isEmpty_iff, Bool.not_eq_true', not_or] at numbers
      obtain ⟨⟨majorSome, majorDigits⟩, minorSome⟩ := numbers
      have first : IsNumber major :=
        ⟨majorSome, by simpa using majorDigits⟩
      have second := takenNumber minorSome
      split at h
      · rename_i third
        cases Option.some.inj h
        exact ⟨_, by simpa using IsVersion.three first second (takenNumber third.2.1)⟩
      · split at h
        · contradiction
        · cases Option.some.inj h
          exact ⟨_, .two first second⟩
    · rw [version?] at h
      · contradiction
      · exact fun _ same => dot (List.cons.inj same).1

theorem wordlessNoDigit {t : Text} (wordless : t.head?.any Text.isWord = false) :
    t.head?.any Text.isDigit = false := by
  cases t with
  | nil => rfl
  | cons c rest =>
    cases digit : Text.isDigit c with
    | false => simpa using digit
    | true => simp [Text.digitWord digit] at wordless

theorem dotEnds (t : Text) : ('.' :: t).head?.any Text.isDigit = false := by
  simp only [List.head?_cons, Option.any_some]
  decide

/-- The version read is the whole of any that could be. -/
theorem versionWhole {major more rest : Text} (first : IsNumber major) (minor : Minor more)
    (ends : rest.head?.any Text.isWord = false) :
    ∃ version, version? major ('.' :: (more ++ rest)) = some version ∧
      major ++ '.' :: more <+: version := by
  have digits : major.all Text.isDigit = true := by simpa using first.2
  cases minor with
  | last number =>
    obtain ⟨taken, dropped⟩ := Text.runTaken number.2 (wordlessNoDigit ends)
    have numbered : (major.isEmpty || !major.all Text.isDigit || more.isEmpty) = false := by
      simp [first.1, digits, number.1]
    simp only [version?, taken, dropped, numbered, ends, Bool.false_eq_true, if_false]
    split
    · exact ⟨_, rfl, by simp⟩
    · exact ⟨_, rfl, List.prefix_rfl⟩
  | @patched minor patch number third =>
    rw [List.append_assoc, List.cons_append]
    obtain ⟨taken, dropped⟩ := Text.runTaken number.2 (dotEnds (patch ++ rest))
    obtain ⟨patchTaken, patchDropped⟩ := Text.runTaken third.2 (wordlessNoDigit ends)
    have numbered : (major.isEmpty || !major.all Text.isDigit || minor.isEmpty) = false := by
      simp [first.1, digits, number.1]
    simp only [version?, taken, dropped, numbered, List.drop_one, List.tail_cons, patchTaken,
      patchDropped, ends, Bool.false_eq_true, if_false]
    exact ⟨_, if_pos ⟨rfl, third.1, rfl⟩, by simp⟩

theorem versionBegins {major after version : Text} (found : version? major after = some version) :
    ∃ rest, major ++ after = version ++ rest ∧ rest.head?.any Text.isWord = false := by
  match after with
  | [] => simp [version?] at found
  | c :: t =>
    by_cases dot : c = '.'
    · subst dot
      have minor := List.takeWhile_append_dropWhile (p := Text.isDigit) (l := t)
      simp only [version?] at found
      split at found
      · contradiction
      split at found
      · rename_i third
        obtain ⟨dot, _, ends⟩ := third
        cases Option.some.inj found
        cases left : t.dropWhile Text.isDigit with
        | nil => simp [left] at dot
        | cons d tail =>
          rw [left] at dot minor
          cases Option.some.inj dot
          have patch := List.takeWhile_append_dropWhile (p := Text.isDigit) (l := tail)
          refine ⟨tail.dropWhile Text.isDigit, ?_, by simpa [left] using ends⟩
          simp only [List.append_assoc, List.cons_append, List.drop_one, List.tail_cons, patch, minor]
      · split at found
        · contradiction
        · rename_i ends
          cases Option.some.inj found
          exact ⟨t.dropWhile Text.isDigit, by simp [minor], by simpa using ends⟩
    · rw [version?] at found
      · contradiction
      · exact fun _ same => dot (List.cons.inj same).1

theorem atRunForm {run after name version : Text} (h : atRun? run after = some (name, version)) :
    ∃ release, IsVersion version release := by
  simp only [atRun?] at h
  split at h
  · contradiction
  · obtain ⟨found, ok, same⟩ := Option.map_eq_some_iff.mp h
    cases same
    exact versionForm ok

theorem atRunName {run after name version : Text} (h : atRun? run after = some (name, version)) :
    ∀ c ∈ name, c ∈ run := by
  simp only [atRun?] at h
  split at h
  · contradiction
  · obtain ⟨found, _, same⟩ := Option.map_eq_some_iff.mp h
    cases same
    exact fun c member => (List.take_subset _ _) ((List.dropWhile_suffix _).subset member)

theorem parseRun {t : Text} {found : Text × Text} (h : parse? t = some found) :
    ∃ run after, (∀ c ∈ run, Line.isTokenChar c = true) ∧ atRun? run after = some found := by
  unfold parse? at h
  generalize false = inRun at h
  fun_induction parseFrom inRun t with
  | case1 => contradiction
  | case2 _ _ _ _ ih => exact ih h
  | case3 _ _ _ ih => exact ih h
  | case4 _ c rest _ _ t _ there =>
    exact ⟨_, _, fun _ member => List.all_eq_true.mp List.all_takeWhile _ member, h ▸ there⟩
  | case5 _ _ _ _ _ _ _ ih => exact ih h

theorem parseForm {t name version : Text} (h : parse? t = some (name, version)) :
    ∃ release, IsVersion version release := by
  obtain ⟨run, after, _, found⟩ := parseRun h
  exact atRunForm found

theorem parseName {t name version : Text} (h : parse? t = some (name, version)) :
    ∀ c ∈ name, Line.isTokenChar c = true := by
  obtain ⟨run, after, tokens, found⟩ := parseRun h
  exact fun c member => tokens c (atRunName found c member)

end Located
end GemSurvey
