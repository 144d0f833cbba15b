import GemSurvey.Glob.Pattern
import GemSurvey.Proofs.Path.Name
import GemSurvey.Proofs.Tree
import Mathlib.Data.List.Forall2

/-! A name as part of a pattern. Without wildcards it stands for itself alone; with them it may stand
for other names, and need not stand for itself. -/
namespace GemSurvey.Glob

/-- What is matched in place of the name. A set of names that begin with a dot leaves out the
directory itself and the one above. -/
structure Reads (name : Text) (tokens : List Token) : Prop where
  read : Segment.read name = .ok (.tokens tokens)
  beyond : tokens.head? = some (.char '.') →
    matchesName tokens ['.'] = false ∧ matchesName tokens ['.', '.'] = false

def Legible (name : Text) : Prop := ∃ tokens, Reads name tokens

def Faithful (name : Text) : Prop :=
  ∃ tokens, Reads name tokens ∧ matchesName tokens name = true

theorem Faithful.legible {name : Text} (self : Faithful name) : Legible name :=
  self.imp fun _ => And.left

def Plain (name : Text) : Prop := ∀ c ∈ name, c ≠ '*' ∧ c ≠ '?' ∧ c ≠ '['

variable {c : Char} {name t : Text} {tokens : List Token} {names : List Text}
  {patterns : List (List Token)} {fuel : Nat}

theorem literalMatches (literal : literal? tokens = some t) :
    matchesName tokens name = true ↔ name = t := by
  induction tokens generalizing t name with
  | nil =>
    cases literal
    simp [matchesName]
  | cons token rest ih => cases token with
    | char c =>
      obtain ⟨inner, found, rfl⟩ := Option.map_eq_some_iff.mp literal
      cases name with
      | nil => simp [matchesName]
      | cons d name =>
        rw [matchesName, Token.takes, Bool.and_eq_true, ih found, beq_iff_eq, List.cons_eq_cons,
          eq_comm]
        · exact nofun
    | _ => cases literal

theorem someTailIff {p : Text → Bool} :
    someTail p name = true ↔ ∃ stem rest, name = stem ++ rest ∧ p rest = true := by
  induction name with
  | nil => simp [someTail]
  | cons c t ih =>
    rw [someTail, Bool.or_eq_true, ih]
    constructor
    · rintro (here | ⟨stem, rest, rfl, later⟩)
      · exact ⟨[], c :: t, rfl, here⟩
      · exact ⟨c :: stem, rest, rfl, later⟩
    · rintro ⟨stem, rest, parts, taken⟩
      cases stem with
      | nil => exact .inl (parts ▸ taken)
      | cons _ stem =>
        obtain ⟨rfl, rfl⟩ := List.cons.inj parts
        exact .inr ⟨stem, rest, rfl, taken⟩

theorem endingMatches (literal : literal? tokens = some t) :
    matchesName (.anyText :: tokens) name = true ↔ ∃ stem, name = stem ++ t := by
  rw [matchesName, someTailIff]
  simp only [literalMatches literal, exists_eq_right]

theorem prependedOk {token : Token} {inner : Except Fault (List Token)}
    (ok : (inner >>= fun more => .ok (token :: more)) = .ok tokens) :
    ∃ more, inner = .ok more ∧ tokens = token :: more := by
  obtain ⟨more, rest, same⟩ := boundOk.mp ok
  exact ⟨more, rest, (Except.ok.inj same).symm⟩

theorem readFirst (read : readTokens (fuel + 1) (c :: t) = .ok tokens) : literal? tokens = none ∨
    (c ≠ '*' ∧ c ≠ '?' ∧ c ≠ '[') ∧
      ∃ more, readTokens fuel t = .ok more ∧ tokens = .char c :: more := by
  simp only [readTokens] at read
  split at read
  · obtain ⟨more, _, rfl⟩ := prependedOk read
    exact .inl rfl
  · split at read
    · cases read
    · cases read
    · obtain ⟨more, _, rfl⟩ := prependedOk read
      exact .inl rfl
  · split at read
    · obtain ⟨more, _, rfl⟩ := prependedOk read
      refine .inl ?_
      split <;> split <;> rfl
    · cases read
  · rename_i question star bracket
    exact .inr ⟨⟨star, question, bracket⟩, prependedOk read⟩

theorem literalRead (enough : name.length ≤ fuel) (read : readTokens fuel name = .ok tokens)
    (literal : literal? tokens = some t) : t = name ∧ Plain name := by
  induction name generalizing fuel tokens t with
  | nil => cases fuel <;> cases read <;> cases literal <;> exact ⟨rfl, nofun⟩
  | cons c rest ih => cases fuel with
    | zero => simp at enough
    | succ fuel =>
      rcases readFirst read with none | ⟨here, more, inner, rfl⟩
      · simp [none] at literal
      · obtain ⟨t, found, rfl⟩ := Option.map_eq_some_iff.mp literal
        obtain ⟨same, plain⟩ := ih (Nat.le_of_succ_le_succ enough) inner found
        exact ⟨congrArg _ same, List.forall_mem_cons.mpr ⟨here, plain⟩⟩

theorem tokensRead (read : Segment.read name = .ok (.tokens tokens)) :
    readTokens name.length name = .ok tokens := by
  unfold Segment.read at read
  split at read
  · cases read
  · obtain ⟨ts, inner, same⟩ := boundOk.mp read
    cases same
    exact inner

theorem Reads.literal (reads : Reads name tokens) (literal : literal? tokens = some t) :
    t = name ∧ Plain name := literalRead (Nat.le_refl _) (tokensRead reads.read) literal

theorem literalPlain (name : Text) : literal? (name.map .char) = some name := by
  induction name with
  | nil => rfl
  | cons c rest ih => simp [literal?, ih]

section
variable (plain : Plain name)
include plain

theorem readPlain (enough : name.length ≤ fuel) :
    readTokens fuel name = .ok (name.map .char) := by
  induction name generalizing fuel with
  | nil => cases fuel <;> rfl
  | cons c rest ih => cases fuel with
    | zero => simp at enough
    | succ fuel =>
      obtain ⟨star, question, bracket⟩ := plain c List.mem_cons_self
      rw [readTokens, ih (fun c member => plain c (List.mem_cons_of_mem _ member))
        (Nat.le_of_succ_le_succ enough)]
      · rfl
      exacts [question, star, bracket]

theorem faithfulPlain (one : Path.IsName name) : Faithful name := by
  have literal := literalPlain name
  have other : name ≠ ['*', '*'] := fun same => (plain '*' (by simp [same])).1 rfl
  refine ⟨name.map .char, ⟨?_, fun _ => ?_⟩, (literalMatches literal).mpr rfl⟩
  · rw [Segment.read, if_neg other, readPlain plain (Nat.le_refl _)]
    rfl
  · simp only [Bool.eq_false_iff, ne_eq, literalMatches literal]
    exact ⟨one.here.symm, one.up.symm⟩

end

theorem Reads.literalNone (reads : Reads name tokens) : literal? tokens = none ↔ ¬ Plain name := by
  constructor
  · intro none plain
    have read := (readPlain plain (Nat.le_refl _)).symm.trans (tokensRead reads.read)
    rw [← Except.ok.inj read, literalPlain] at none
    cases none
  · exact fun marked => Option.eq_none_iff_forall_ne_some.mpr fun t literal =>
      marked (reads.literal literal).2

theorem Reads.unique {other : List Token} (reads : Reads name tokens) (reads' : Reads name other) :
    tokens = other :=
  Segment.tokens.inj (Except.ok.inj (reads.read.symm.trans reads'.read))

theorem Reads.faithful (reads : Reads name tokens) :
    Faithful name ↔ matchesName tokens name = true := by
  constructor
  · rintro ⟨other, reads', matched⟩
    exact reads.unique reads' ▸ matched
  · exact fun matched => ⟨tokens, reads, matched⟩

theorem legibleRead (each : ∀ name ∈ names, Legible name) :
    ∃ patterns, List.Forall₂ Reads names patterns := by
  induction names with
  | nil => exact ⟨[], .nil⟩
  | cons name rest ih =>
    obtain ⟨tokens, reads⟩ := each name List.mem_cons_self
    obtain ⟨patterns, more⟩ := ih fun name member => each name (List.mem_cons_of_mem _ member)
    exact ⟨tokens :: patterns, .cons reads more⟩

theorem segmentsRead (each : List.Forall₂ Reads names patterns) :
    names.mapM Segment.read = .ok (patterns.map .tokens) := by
  induction each with
  | nil => rfl
  | cons reads _ ih => simp [reads.read, ih, bind, Except.bind, pure, Except.pure]

theorem segmentsRefused {fault : Fault} (member : name ∈ names)
    (refused : Segment.read name = .error fault) :
    ∃ fault, names.mapM Segment.read = .error fault := by
  induction names with
  | nil => cases member
  | cons first rest ih =>
    rw [List.mapM_cons]
    cases read : Segment.read first with
    | error fault => exact ⟨fault, rfl⟩
    | ok segment =>
      have later : name ∈ rest := (List.mem_cons.mp member).resolve_left fun same => by
        rw [same, read] at refused
        cases refused
      obtain ⟨fault, inner⟩ := ih later
      exact ⟨fault, by simp [inner, bind, Except.bind]⟩

end GemSurvey.Glob
