import GemSurvey.Proofs.Reference.Token
import GemSurvey.Proofs.Version
import Mathlib.Data.List.TakeWhile

/-! Where a located text names a gem. A name and a version stand at many places of a text that
overlap; what is read is the first of them, with all that belongs to it. -/
namespace GemSurvey
open Text (isWord)

def Boundary (before after : Text) : Prop := before.getLast?.any isWord ≠ after.head?.any isWord

namespace Located
open Line (isTokenChar)

structure Stands (t before name version after : Text) : Prop where
  text : t = before ++ (name ++ '-' :: (version ++ after))
  named : name ≠ []
  token : ∀ c ∈ name, isTokenChar c = true
  starts : Boundary before name
  versioned : ∃ release, IsVersion version release
  ends : Boundary version after

/-- None stands earlier, none here has a longer name, and of each version that could be read here
the one read is the whole. -/
structure Foremost (t before name version after : Text) : Prop extends
    Stands t before name version after where
  earliest : ∀ start other number rest, Stands t start other number rest →
    before.length ≤ start.length
  longest : ∀ other number rest, Stands t before other number rest → other.length ≤ name.length
  whole : ∀ number rest, Stands t before name number rest → number <+: version

theorem Stands.wordless {t before name version after : Text}
    (h : Stands t before name version after) : after.head?.any isWord = false := by
  obtain ⟨release, form⟩ := h.versioned
  have differ := h.ends
  rw [Boundary, form.ends] at differ
  simpa using differ.symm

theorem runDivided (run : Text) :
    '-' ∉ run ∨ ∃ start major, run = start ++ '-' :: major ∧ '-' ∉ major := by
  induction run with
  | nil => exact .inl (by simp)
  | cons c rest ih =>
    rcases ih with whole | ⟨start, major, rfl, last⟩
    · by_cases hyphen : c = '-'
      · exact .inr ⟨[], rest, by simp [hyphen], whole⟩
      · exact .inl (by simp [whole, Ne.symm hyphen])
    · exact .inr ⟨c :: start, major, rfl, last⟩

theorem majorTaken {start major : Text} (last : '-' ∉ major) :
    ((start ++ '-' :: major).reverse.takeWhile (· != '-')).reverse = major := by
  have all : ∀ c ∈ major.reverse, (c != '-') = true := by
    intro c member
    have other : c ≠ '-' := fun same => last (same ▸ List.mem_reverse.mp member)
    simpa using other
  have taken := (Text.runTaken all (show (('-' :: start.reverse).head?.any (· != '-')) = false by simp)).1
  have reversed : (start ++ '-' :: major).reverse = major.reverse ++ '-' :: start.reverse := by simp
  rw [reversed, taken, List.reverse_reverse]

theorem atRunUnhyphened {run after : Text} (whole : '-' ∉ run) : atRun? run after = none := by
  have all : ∀ c ∈ run.reverse, (c != '-') = true := by
    intro c member
    have other : c ≠ '-' := fun same => whole (same ▸ List.mem_reverse.mp member)
    simpa using other
  have taken := List.takeWhile_eq_self_iff.mpr all
  simp [atRun?, taken]

theorem atRunDivided {start major after : Text} (last : '-' ∉ major) :
    atRun? (start ++ '-' :: major) after =
      if (start.dropWhile (· == '-')).isEmpty then none
      else (version? major after).map fun version => (start.dropWhile (· == '-'), version) := by
  have kept : (start ++ '-' :: major).take
      ((start ++ '-' :: major).length - major.length - 1) = start := by
    have length : (start ++ '-' :: major).length - major.length - 1 = start.length := by
      simp only [List.length_append, List.length_cons]
      omega
    rw [length, List.take_left']
    rfl
  simp only [atRun?, majorTaken last, kept]

theorem dotNoToken (t : Text) : ('.' :: t).head?.any isTokenChar = false := by
  simp only [List.head?_cons, Option.any_some]
  decide +kernel

theorem Stands.inRun {start run after before name version rest : Text}
    (stands : Stands (start ++ (run ++ after)) before name version rest)
    (token : ∀ c ∈ run, isTokenChar c = true) (ends : after.head?.any isTokenChar = false)
    (behind : start.length ≤ before.length) (within : before.length < start.length + run.length) :
    ∃ skipped major more, before = start ++ skipped ∧ run = skipped ++ (name ++ '-' :: major) ∧
      IsNumber major ∧ Minor more ∧ version = major ++ '.' :: more ∧
      after = '.' :: (more ++ rest) := by
  obtain ⟨release, form⟩ := stands.versioned
  obtain ⟨major, more, rfl, number, minor⟩ := form.parts
  have text := stands.text
  obtain ⟨skipped, rfl⟩ := List.prefix_of_prefix_length_le (List.prefix_append _ _)
    ⟨_, text.symm⟩ behind
  rw [List.append_assoc] at text
  have same := List.append_cancel_left text
  obtain ⟨left, rfl⟩ := List.prefix_of_prefix_length_le ⟨_, same.symm⟩ (List.prefix_append _ _)
    (by simp only [List.length_append] at within; omega)
  rw [List.append_assoc] at same
  have parts : left ++ after = (name ++ '-' :: major) ++ '.' :: (more ++ rest) := by
    simpa using List.append_cancel_left same
  have one := Text.runTaken (fun c member => token c (List.mem_append_right _ member)) ends
  have all : ∀ c ∈ name ++ '-' :: major, isTokenChar c = true := by
    intro c member
    rcases List.mem_append.mp member with inName | inMajor
    · exact stands.token c inName
    · rcases List.mem_cons.mp inMajor with rfl | digit
      · decide +kernel
      · exact number.token c digit
  have other := Text.runTaken all (dotNoToken (more ++ rest))
  refine ⟨skipped, major, more, rfl, ?_, number, minor, rfl, ?_⟩
  · rw [← one.1, parts, other.1]
  · rw [← one.2, parts, other.2]

theorem hyphensWordless {start skipped : Text} (apart : start.getLast?.any isTokenChar = false)
    (hyphens : ∀ c ∈ skipped, c = '-') : (start ++ skipped).getLast?.any isWord = false := by
  rw [List.getLast?_append]
  cases last : skipped.getLast? with
  | some c =>
    cases hyphens c (List.mem_of_getLast? last)
    exact Line.hyphenNoWord
  | none => cases before : start.getLast? with
    | none => rfl
    | some c =>
      have other : isTokenChar c = false := by simpa [before] using apart
      have wordless := (Bool.or_eq_false_iff.mp other).1
      simpa using wordless

theorem hyphensUnbounded {start skipped name : Text}
    (apart : start.getLast?.any isTokenChar = false) (hyphens : ∀ c ∈ skipped, c = '-')
    (first : name.head? = some '-') : ¬ Boundary (start ++ skipped) name := by
  intro boundary
  rw [Boundary, hyphensWordless apart hyphens, first, Option.any_some, Line.hyphenNoWord] at boundary
  exact boundary rfl

theorem lastHyphen {one other left right : Text} (same : one ++ '-' :: left = other ++ '-' :: right)
    (noLeft : '-' ∉ left) (noRight : '-' ∉ right) : one = other ∧ left = right := by
  have majors : left = right := by
    rw [← @majorTaken one left noLeft, same, majorTaken noRight]
  subst majors
  exact ⟨List.append_cancel_right same, rfl⟩

theorem namedByWord {t : Text} (token : ∀ c ∈ t, isTokenChar c = true)
    (some : t.dropWhile (· == '-') ≠ []) : (t.dropWhile (· == '-')).head?.any isWord = true := by
  have first := Text.runEnds (· == '-') t
  cases left : t.dropWhile (· == '-') with
  | nil => exact absurd left some
  | cons c rest =>
    have member : c ∈ t := (List.dropWhile_suffix _).subset (left ▸ List.mem_cons_self)
    have other : (c == '-') = false := by simpa [left] using first
    have char := token c member
    simpa [isTokenChar, other] using char

theorem hyphensOnly {t : Text} (skipped : t.dropWhile (· == '-') = []) : ∀ c ∈ t, c = '-' := by
  intro c member
  simpa using List.dropWhile_eq_nil_iff.mp skipped c member

section
variable {start run after : Text} (token : ∀ c ∈ run, isTokenChar c = true)
  (ends : after.head?.any isTokenChar = false) (apart : start.getLast?.any isTokenChar = false)
  (unread : ∀ before name version rest, Stands (start ++ (run ++ after)) before name version rest →
    start.length ≤ before.length)
include token ends apart unread

theorem runUnread (unfound : atRun? run after = none) {before name version rest : Text}
    (stands : Stands (start ++ (run ++ after)) before name version rest) :
    start.length + run.length ≤ before.length := by
  refine Nat.le_of_not_lt fun within => ?_
  obtain ⟨skipped, major, more, rfl, rfl, number, minor, rfl, rfl⟩ :=
    stands.inRun token ends (unread _ _ _ _ stands) within
  rw [← List.append_assoc, atRunDivided number.noHyphen] at unfound
  split at unfound
  · rename_i empty
    have hyphens := hyphensOnly (List.isEmpty_iff.mp empty)
    cases name with
    | nil => exact stands.named rfl
    | cons c others =>
      cases hyphens c (by simp)
      exact hyphensUnbounded apart (fun d member => hyphens d (List.mem_append_left _ member)) rfl
        stands.starts
  · obtain ⟨found, read, _⟩ := versionWhole number minor stands.wordless
    rw [read] at unfound
    cases unfound

theorem runRead {name version : Text} (found : atRun? run after = some (name, version)) :
    ∃ before rest, Foremost (start ++ (run ++ after)) before name version rest := by
  rcases runDivided run with whole | ⟨head, major, rfl, last⟩
  · rw [atRunUnhyphened whole] at found
    cases found
  rw [atRunDivided last] at found
  split at found
  · contradiction
  rename_i nonempty
  obtain ⟨_, read, same⟩ := Option.map_eq_some_iff.mp found
  cases same
  obtain ⟨rest, divided, wordless⟩ := versionBegins read
  obtain ⟨release, form⟩ := versionForm read
  have named : head.dropWhile (· == '-') ≠ [] := by simpa using nonempty
  have parts := List.takeWhile_append_dropWhile (p := (· == '-')) (l := head)
  have hyphens : ∀ c ∈ head.takeWhile (· == '-'), c = '-' := by
    intro c member
    simpa using Text.runAll _ _ c member
  have tokens : ∀ c ∈ head, isTokenChar c = true := fun c member => token c (List.mem_append_left _ member)
  have begins := namedByWord tokens named
  generalize head.takeWhile (· == '-') = skipped at parts hyphens
  generalize head.dropWhile (· == '-') = name at parts named begins
  subst parts
  have here {other number rest' : Text} (stands : Stands (start ++ ((skipped ++ name ++ '-' :: major) ++ after))
      (start ++ skipped) other number rest') : other = name ∧ number <+: version := by
    obtain ⟨skipped', major', more, same, run, number', minor, rfl, rfl⟩ :=
      stands.inRun token ends (by simp) (by simp only [List.length_append, List.length_cons]; omega)
    cases List.append_cancel_left same
    rw [List.append_assoc] at run
    obtain ⟨rfl, rfl⟩ := lastHyphen (List.append_cancel_left run) last (number'.noHyphen)
    obtain ⟨whole, again, starts⟩ := versionWhole number' minor stands.wordless
    cases Option.some.inj (again.symm.trans read)
    exact ⟨rfl, starts⟩
  refine ⟨start ++ skipped, rest, ⟨?_, named, ?_, ?_, ⟨release, form⟩, ?_⟩, ?_, ?_, ?_⟩
  · simp [divided]
  · exact fun c member => tokens c (List.mem_append_right _ member)
  · rw [Boundary, hyphensWordless apart hyphens, begins]
    decide
  · rw [Boundary, form.ends, wordless]
    decide
  · intro before other number rest' stands
    refine Nat.le_of_not_lt fun earlier => ?_
    simp only [List.length_append] at earlier
    obtain ⟨skipped', major', more, rfl, run, _⟩ :=
      stands.inRun token ends (unread _ _ _ _ stands) (by simp only [List.length_append]; omega)
    cases other with
    | nil => exact stands.named rfl
    | cons c others =>
      rw [List.append_assoc, List.cons_append] at run
      obtain ⟨between, rfl⟩ := Text.dividedPast run.symm (by simpa using earlier)
      cases hyphens c (by simp)
      exact hyphensUnbounded apart (fun d member => hyphens d (List.mem_append_left _ member)) rfl
        stands.starts
  · intro other number rest' stands
    rw [(here stands).1]
  · intro number rest' stands
    exact (here stands).2

end

theorem Stands.headToken {start rest before name version after : Text} {c : Char}
    (stands : Stands (start ++ c :: rest) before name version after)
    (here : before.length = start.length) : isTokenChar c = true := by
  obtain ⟨rfl, same⟩ := List.append_inj stands.text here.symm
  cases name with
  | nil => exact absurd rfl stands.named
  | cons d others =>
    cases (List.cons.inj same).1
    exact stands.token c List.mem_cons_self

def Reads (t : Text) : Option (Text × Text) → Prop
  | none => ∀ before name version after, ¬ Stands t before name version after
  | some (name, version) => ∃ before after, Foremost t before name version after

theorem parseFromReads {start t : Text} {inRun : Bool}
    (began : inRun = start.getLast?.any isTokenChar)
    (unread : ∀ before name version after, Stands (start ++ t) before name version after →
      start.length + (if inRun then t.takeWhile isTokenChar else []).length ≤ before.length) :
    Reads (start ++ t) (parseFrom inRun t) := by
  induction t generalizing start inRun with
  | nil =>
    intro before name version after stands
    have behind := unread _ _ _ _ stands
    have lengths := congrArg List.length stands.text
    simp only [List.length_append, List.length_cons, List.length_nil] at lengths
    omega
  | cons c rest ih =>
    have line : start ++ c :: rest = (start ++ [c]) ++ rest := by simp
    cases token : isTokenChar c with
    | false =>
      have step : parseFrom inRun (c :: rest) = parseFrom false rest := by
        simp [parseFrom, token]
      rw [step, line]
      refine ih (by simp [token]) ?_
      rw [← line]
      intro before name version after stands
      have behind := Nat.le_trans (Nat.le_add_right _ _) (unread _ _ _ _ stands)
      refine Nat.le_of_not_lt fun within => ?_
      simp only [List.length_append, List.length_singleton, Bool.false_eq_true, if_false,
        List.length_nil] at within
      have char := stands.headToken (by omega)
      rw [token] at char
      cases char
    | true =>
      have run : (c :: rest).takeWhile isTokenChar = c :: rest.takeWhile isTokenChar :=
        List.takeWhile_cons_of_pos token
      cases inRun with
      | true =>
        have step : parseFrom true (c :: rest) = parseFrom true rest := by
          simp [parseFrom, token]
        rw [step, line]
        refine ih (by simp [token]) ?_
        rw [← line]
        intro before name version after stands
        have beyond := unread _ _ _ _ stands
        simp only [if_true, run, List.length_cons] at beyond
        simp only [if_true, List.length_append, List.length_singleton]
        omega
      | false =>
        have parts := List.takeWhile_append_dropWhile (p := isTokenChar) (l := c :: rest)
        have tokens := Text.runAll isTokenChar (c :: rest)
        have ends := Text.runEnds isTokenChar (c :: rest)
        have behind : ∀ before name version after, Stands (start ++
            ((c :: rest).takeWhile isTokenChar ++ (c :: rest).dropWhile isTokenChar))
            before name version after → start.length ≤ before.length := by
          rw [parts]
          exact unread
        cases read : atRun? ((c :: rest).takeWhile isTokenChar)
            ((c :: rest).dropWhile isTokenChar) with
        | some found =>
          have step : parseFrom false (c :: rest) = some found := by
            simp only [parseFrom, token, read, Bool.not_true, Bool.false_eq_true, if_false]
          rw [step]
          have foremost := runRead tokens ends began.symm behind read
          rwa [parts] at foremost
        | none =>
          have step : parseFrom false (c :: rest) = parseFrom true rest := by
            simp only [parseFrom, token, read, Bool.not_true, Bool.false_eq_true, if_false]
          rw [step, line]
          refine ih (by simp [token]) ?_
          rw [← line]
          intro before name version after stands
          rw [← parts] at stands
          have beyond := runUnread tokens ends began.symm behind read stands
          rw [run] at beyond
          simp only [List.length_cons] at beyond
          simp only [if_true, List.length_append, List.length_singleton]
          omega

theorem parseReads (t : Text) : Reads t (parse? t) :=
  @parseFromReads [] t false rfl (by simp)

theorem Foremost.unique {t before other name name' version version' after after' : Text}
    (one : Foremost t before name version after) (two : Foremost t other name' version' after') :
    name = name' ∧ version = version' := by
  have starts := Nat.le_antisymm (one.earliest _ _ _ _ two.toStands)
    (two.earliest _ _ _ _ one.toStands)
  obtain ⟨rfl, same⟩ := List.append_inj (one.text.symm.trans two.text) starts
  have names := Nat.le_antisymm (two.longest _ _ _ one.toStands) (one.longest _ _ _ two.toStands)
  obtain ⟨rfl, _⟩ := List.append_inj same names
  have shorter := two.whole _ _ one.toStands
  have longer := one.whole _ _ two.toStands
  exact ⟨rfl, shorter.eq_of_length (Nat.le_antisymm shorter.length_le longer.length_le)⟩

theorem atRunBegins {run after name version : Text} (token : ∀ c ∈ run, isTokenChar c = true)
    (found : atRun? run after = some (name, version)) : name.head?.any isWord = true := by
  rcases runDivided run with whole | ⟨head, major, rfl, last⟩
  · rw [atRunUnhyphened whole] at found
    cases found
  rw [atRunDivided last] at found
  split at found
  · contradiction
  · rename_i named
    obtain ⟨_, _, same⟩ := Option.map_eq_some_iff.mp found
    cases same
    exact namedByWord (fun c member => token c (List.mem_append_left _ member)) (by simpa using named)

structure Parsed (t : Text) : Prop where
  none : parse? t = none ↔ ∀ before name version after, ¬ Stands t before name version after
  found : ∀ name version, parse? t = some (name, version) ↔
    ∃ before after, Foremost t before name version after
  name : ∀ name version, parse? t = some (name, version) → name.head?.any isWord = true ∧
    ∀ c ∈ name, c ≠ '.' ∧ c ≠ '/' ∧ Text.isBlank c = false ∧ Line.isQuote c = false
  version : ∀ name version, parse? t = some (name, version) →
    IsVersion version (Declaration.compatible version)

theorem parsedForemost (t : Text) : Parsed t where
  none := by
    have reads := parseReads t
    cases read : parse? t with
    | none => simpa [read, Reads] using reads
    | some found =>
      rw [read] at reads
      obtain ⟨before, after, foremost⟩ := reads
      simp only [reduceCtorEq, false_iff]
      exact fun absent => absent _ _ _ _ foremost.toStands
  found name version := by
    have reads := parseReads t
    cases read : parse? t with
    | none =>
      rw [read] at reads
      simp only [reduceCtorEq, false_iff]
      exact fun ⟨before, after, foremost⟩ => reads _ _ _ _ foremost.toStands
    | some found =>
      rw [read] at reads
      constructor
      · intro same
        cases Option.some.inj same
        exact reads
      · rintro ⟨before, after, foremost⟩
        obtain ⟨_, _, first⟩ := reads
        obtain ⟨rfl, rfl⟩ := first.unique foremost
        rfl
  name name version found := by
    obtain ⟨run, after, token, read⟩ := parseRun found
    refine ⟨atRunBegins token read, fun c member => ?_⟩
    have char := parseName found c member
    obtain ⟨quote, dot, slash⟩ := Line.tokenOrdinary char
    exact ⟨dot, slash, Line.tokenNoBlank char, quote⟩
  version name version found := by
    obtain ⟨release, form⟩ := parseForm found
    rwa [form.compatible]

end Located
end GemSurvey
