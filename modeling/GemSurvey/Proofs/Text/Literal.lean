import GemSurvey.Proofs.Text.Start

/-! Quoted literals, as the reader of a description takes them. A literal ends at the first quote
that no backslash precedes; a backslash stands for itself unless a quote or a backslash follows. -/
namespace GemSurvey.Literal

def read? : Text → Option (Text × Text)
  | [] => none
  | '\x27' :: rest => some ([], rest)
  | '\\' :: c :: rest =>
      if c = '\x27' ∨ c = '\\' then (read? rest).map fun found => (c :: found.1, found.2)
      else (read? (c :: rest)).map fun found => ('\\' :: found.1, found.2)
  | c :: rest => (read? rest).map fun found => (c :: found.1, found.2)

def Plain (value : Text) : Prop :=
  '\x27' ∉ value ∧
    ∀ before after, value = before ++ '\\' :: after → ∃ c rest, after = c :: rest ∧ c ≠ '\\'

theorem plainNil : Plain [] := by simp [Plain]

theorem plainCons {c : Char} {value : Text} : Plain (c :: value) ↔
    c ≠ '\x27' ∧ (c = '\\' → ∃ d rest, value = d :: rest ∧ d ≠ '\\') ∧ Plain value := by
  constructor
  · rintro ⟨noQuote, escapes⟩
    rw [List.mem_cons, not_or] at noQuote
    refine ⟨Ne.symm noQuote.1, fun same => ?_, noQuote.2, fun before after split => ?_⟩
    · exact escapes [] value (by rw [same]; rfl)
    · exact escapes (c :: before) after (by rw [split]; rfl)
  · rintro ⟨noQuote, first, rest, escapes⟩
    refine ⟨by simp [Ne.symm noQuote, rest], fun before after split => ?_⟩
    cases before with
    | nil =>
      obtain ⟨same, tail⟩ := List.cons.inj split
      exact tail ▸ first same
    | cons x before => exact escapes before after (List.cons.inj split).2

theorem readPlain {value : Text} (plain : Plain value) (after : Text) :
    read? (value ++ '\x27' :: after) = some (value, after) := by
  induction value with
  | nil => rfl
  | cons c value ih =>
    obtain ⟨noQuote, first, rest⟩ := plainCons.mp plain
    have tail := ih rest
    by_cases slash : c = '\\'
    · obtain ⟨d, more, rfl, other⟩ := first slash
      have noQuoteNext := (plainCons.mp rest).1
      subst slash
      simp only [List.cons_append] at tail ⊢
      simp [read?, noQuoteNext, other, tail]
    · simp only [List.cons_append]
      rw [read?]
      · simp [tail]
      · exact noQuote
      · exact fun _ _ same => absurd same slash

/-- A literal is never longer than what it says and its closing quote, and as long only if it
says its own text. -/
theorem readWithin {t value after : Text} (found : read? t = some (value, after)) :
    value.length + 1 + after.length ≤ t.length ∧
      (value.length + 1 + after.length = t.length → t = value ++ '\x27' :: after ∧ Plain value) := by
  induction t using read?.induct generalizing value after with
  | case1 => simp [read?] at found
  | case2 rest =>
    cases Option.some.inj found
    exact ⟨by simp; omega, fun _ => ⟨rfl, plainNil⟩⟩
  | case3 c rest escapes ih =>
    rw [read?, if_pos escapes] at found
    obtain ⟨⟨more, left⟩, tail, same⟩ := Option.map_eq_some_iff.mp found
    cases same
    have shorter := (ih tail).1
    simp only [List.length_cons] at shorter ⊢
    exact ⟨by omega, fun exact' => by omega⟩
  | case4 c rest ordinary ih =>
    rw [read?, if_neg ordinary] at found
    obtain ⟨⟨more, left⟩, tail, same⟩ := Option.map_eq_some_iff.mp found
    cases same
    obtain ⟨bound, exactly⟩ := ih tail
    simp only [List.length_cons] at bound ⊢
    refine ⟨by omega, fun exact' => ?_⟩
    obtain ⟨split, plain⟩ := exactly (by simp only [List.length_cons]; omega)
    rw [not_or] at ordinary
    refine ⟨by rw [split]; rfl, plainCons.mpr ⟨by decide, fun _ => ?_, plain⟩⟩
    cases more with
    | nil => exact absurd (List.cons.inj split).1 ordinary.1
    | cons d others => exact ⟨d, others, rfl, (List.cons.inj split).1 ▸ ordinary.2⟩
  | case5 c rest noQuote noEscape ih =>
    rw [read?] at found
    · obtain ⟨⟨more, left⟩, tail, same⟩ := Option.map_eq_some_iff.mp found
      cases same
      obtain ⟨bound, exactly⟩ := ih tail
      simp only [List.length_cons] at bound ⊢
      refine ⟨by omega, fun exact' => ?_⟩
      obtain ⟨split, plain⟩ := exactly (by omega)
      refine ⟨by rw [split]; rfl, plainCons.mpr ⟨noQuote, fun slash => ?_, plain⟩⟩
      cases rest with
      | nil => simp [read?] at tail
      | cons d others => exact absurd rfl (noEscape d others slash)
    · exact noQuote
    · exact noEscape

structure Line where
  parts : List (Text × Text)
  ending : Text
  deriving DecidableEq, Repr

namespace Line

def fixed (line : Line) : List Text := line.parts.map (·.1)

def values (line : Line) : List Text := line.parts.map (·.2)

def written (ending : Text) : List (Text × Text) → Text
  | [] => ending
  | (fixed, value) :: more => fixed ++ '\x27' :: (value ++ '\x27' :: written ending more)

def text (line : Line) : Text := written line.ending line.parts

def readAlong (ending : Text) : List Text → Text → Option (List Text × Text)
  | [], t => (Text.after? ending t).map fun after => ([], after)
  | fixed :: more, t => do
      let t ← Text.after? (fixed ++ ['\x27']) t
      let (value, t) ← Literal.read? t
      let (values, after) ← readAlong ending more t
      some (value :: values, after)

def read? (line : Line) (t : Text) : Option (List Text × Text) :=
  readAlong line.ending line.fixed t

theorem readAlongParts {ending fixed t after : Text} {more values : List Text}
    (found : readAlong ending (fixed :: more) t = some (values, after)) :
    ∃ value others opened rest, t = fixed ++ '\x27' :: opened ∧
      Literal.read? opened = some (value, rest) ∧
      readAlong ending more rest = some (others, after) ∧ values = value :: others := by
  simp only [readAlong, bind, Option.bind_eq_some_iff] at found
  obtain ⟨opened, start, ⟨value, rest⟩, literal, ⟨others, left⟩, tail, same⟩ := found
  cases same
  exact ⟨value, others, opened, rest, by simpa using Text.afterIff.mp start, literal, tail, rfl⟩

theorem readAlongWithin {ending t after : Text} {fixed values : List Text}
    (found : readAlong ending fixed t = some (values, after)) :
    (written ending (fixed.zip values)).length + after.length ≤ t.length := by
  induction fixed generalizing t values with
  | nil =>
    obtain ⟨left, start, same⟩ := Option.map_eq_some_iff.mp found
    cases same
    rw [Text.afterIff.mp start]
    simp [written]
  | cons fixed more ih =>
    obtain ⟨value, others, opened, rest, rfl, literal, tail, rfl⟩ := readAlongParts found
    have inside := (readWithin literal).1
    have later := ih tail
    simp only [List.zip_cons_cons, written, List.length_append, List.length_cons] at later ⊢
    omega

theorem readAlongPlain (ending after : Text) {parts : List (Text × Text)}
    (plain : ∀ part ∈ parts, Plain part.2) :
    readAlong ending (parts.map (·.1)) (written ending parts ++ after) =
      some (parts.map (·.2), after) := by
  induction parts with
  | nil => simp [readAlong, written, Text.afterIff.mpr rfl]
  | cons part more ih =>
    have tail := ih fun other member => plain other (List.mem_cons_of_mem _ member)
    have start : Text.after? (part.1 ++ ['\x27']) (written ending (part :: more) ++ after) =
        some (part.2 ++ '\x27' :: (written ending more ++ after)) :=
      Text.afterIff.mpr (by simp [written])
    simp only [List.map_cons, readAlong, bind, start, Option.bind_some,
      readPlain (plain part List.mem_cons_self), tail]

theorem plainReadAlong {ending after : Text} {parts : List (Text × Text)}
    (found : readAlong ending (parts.map (·.1)) (written ending parts ++ after) =
      some (parts.map (·.2), after)) : ∀ part ∈ parts, Plain part.2 := by
  induction parts with
  | nil => simp
  | cons part more ih =>
    obtain ⟨value, others, opened, rest, split, literal, tail, same⟩ := readAlongParts found
    obtain ⟨rfl, rfl⟩ := List.cons.inj same
    have inside : opened = part.2 ++ '\x27' :: (written ending more ++ after) := by
      simp only [written, List.append_assoc, List.cons_append] at split
      exact (List.cons.inj (List.append_cancel_left split)).2.symm
    have left := readAlongWithin tail
    obtain ⟨bound, exactly⟩ := readWithin literal
    have zipped : (more.map (·.1)).zip (more.map (·.2)) = more := by
      rw [List.zip_map', List.map_id'']
      simp
    rw [zipped] at left
    rw [inside] at bound exactly
    simp only [List.length_append, List.length_cons] at bound exactly
    obtain ⟨text, plain⟩ := exactly (by omega)
    have same : rest = written ending more ++ after :=
      (List.cons.inj (List.append_cancel_left text)).2.symm
    intro other member
    rcases List.mem_cons.mp member with rfl | later
    · exact plain
    · exact ih (same ▸ tail) other later

theorem readIff (line : Line) (after : Text) :
    line.read? (line.text ++ after) = some (line.values, after) ↔
      ∀ value ∈ line.values, Plain value := by
  rw [values, List.forall_mem_map]
  exact ⟨plainReadAlong, readAlongPlain line.ending after⟩

end Line
end GemSurvey.Literal
