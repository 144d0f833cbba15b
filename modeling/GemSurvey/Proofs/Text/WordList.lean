import GemSurvey.Proofs.Text.Cutting
import Mathlib.Data.List.Basic

/-! Lists of words in parentheses, as the reader of a description takes them. White space stands
between words, a backslash lets the next character stand for itself, and the list ends at the
parenthesis that closes it. -/
namespace GemSurvey.WordList

def isSpace (c : Char) : Bool := (9 ≤ c.toNat && c.toNat ≤ 13) || c.toNat == 32

def ended (word : Text) : List Text := [word].filter (!·.isEmpty)

def pieces (t : Text) : List Text := (Text.cutBy isSpace t).filter (!·.isEmpty)

def level (depth : Nat) (c : Char) : Nat :=
  if c = '(' then depth + 1 else if c = ')' then depth - 1 else depth

def readFrom (depth : Nat) (word : Text) : Text → Option (List Text × Text)
  | [] => none
  | '\\' :: c :: rest => readFrom depth (word ++ [c]) rest
  | c :: rest =>
      if isSpace c then
        (readFrom depth [] rest).map fun found => (ended word ++ found.1, found.2)
      else if c = ')' ∧ depth = 0 then some (ended word, rest)
      else readFrom (level depth c) (word ++ [c]) rest

def read? (t : Text) : Option (List Text × Text) := readFrom 0 [] t

def balance : Nat → Text → Option Nat
  | depth, [] => some depth
  | depth, c :: rest => if c = ')' ∧ depth = 0 then none else balance (level depth c) rest

inductive Reads : Nat → Text → Text → List Text → Prop where
  | closes (word) : Reads 0 word [] (ended word)
  | escaped {depth word inside words} (c : Char)
      (tail : Reads depth (word ++ [c]) inside words) :
      Reads depth word ('\\' :: c :: inside) words
  | space {depth word inside words c} (blank : isSpace c = true)
      (tail : Reads depth [] inside words) :
      Reads depth word (c :: inside) (ended word ++ words)
  | letter {depth word inside words c} (shows : isSpace c = false) (noEscape : c ≠ '\\')
      (noEnd : ¬(c = ')' ∧ depth = 0)) (tail : Reads (level depth c) (word ++ [c]) inside words) :
      Reads depth word (c :: inside) words

theorem readsOf {depth : Nat} {word t after : Text} {words : List Text}
    (found : readFrom depth word t = some (words, after)) :
    ∃ inside, t = inside ++ ')' :: after ∧ Reads depth word inside words := by
  fun_induction readFrom depth word t generalizing words with
  | case1 => contradiction
  | case2 depth word c rest ih =>
    obtain ⟨inside, rfl, reads⟩ := ih found
    exact ⟨'\\' :: c :: inside, rfl, .escaped c reads⟩
  | case3 depth word c rest _ blank ih =>
    obtain ⟨⟨more, left⟩, tail, same⟩ := Option.map_eq_some_iff.mp found
    cases same
    obtain ⟨inside, rfl, reads⟩ := ih tail
    exact ⟨c :: inside, rfl, .space blank reads⟩
  | case4 depth word c rest _ _ closes =>
    obtain ⟨rfl, rfl⟩ := closes
    cases found
    exact ⟨[], rfl, .closes word⟩
  | case5 depth word c rest noEscape shows noEnd ih =>
    obtain ⟨inside, rfl, reads⟩ := ih found
    have ordinary : c ≠ '\\' := by
      rintro rfl
      cases inside <;> exact noEscape _ _ rfl rfl
    exact ⟨c :: inside, rfl, .letter (by simpa using shows) ordinary noEnd reads⟩

theorem Reads.found {depth : Nat} {word inside : Text} {words : List Text}
    (reads : Reads depth word inside words) (after : Text) :
    readFrom depth word (inside ++ ')' :: after) = some (words, after) := by
  induction reads with
  | closes word => rfl
  | escaped c tail ih => exact ih
  | @space depth word inside words c blank tail ih =>
    have noEscape : c ≠ '\\' := by
      rintro rfl
      exact absurd blank (by decide)
    rw [List.cons_append, readFrom]
    · simp [blank, ih]
    · exact fun _ _ same => absurd same noEscape
  | letter shows noEscape noEnd tail ih =>
    rw [List.cons_append, readFrom, if_neg (by simp [shows]), if_neg noEnd]
    · exact ih
    · exact fun _ _ same => absurd same noEscape

theorem readIff {t after : Text} {words : List Text} :
    read? t = some (words, after) ↔
      ∃ inside, t = inside ++ ')' :: after ∧ Reads 0 [] inside words := by
  constructor
  · exact readsOf
  · rintro ⟨inside, rfl, reads⟩
    exact reads.found after

def solid (t : Text) : Nat := t.countP (!isSpace ·)

theorem solidAppend (s t : Text) : solid (s ++ t) = solid s + solid t := List.countP_append

theorem solidEnded (word : Text) : solid (ended word).flatten = solid word := by
  cases word <;> simp [ended]

theorem Reads.kept {depth : Nat} {word inside : Text} {words : List Text}
    (reads : Reads depth word inside words) :
    solid words.flatten ≤ solid word + solid inside ∧
      (solid words.flatten = solid word + solid inside → '\\' ∉ inside) := by
  induction reads with
  | closes word => simp [solidEnded]
  | @escaped depth word inside words c tail ih =>
    have bound := ih.1
    have slash : solid ('\\' :: c :: inside) = solid [c] + solid inside + 1 := by
      rw [solid, List.countP_cons_of_pos (by decide)]
      exact congrArg (· + 1) (solidAppend [c] inside)
    have longer := solidAppend word [c]
    exact ⟨by omega, fun same => by omega⟩
  | @space depth word inside words c blank tail ih =>
    have blank' : solid (c :: inside) = solid inside := by simp [solid, blank]
    have split : solid (ended word ++ words).flatten = solid word + solid words.flatten := by
      rw [List.flatten_append, solidAppend, solidEnded]
    have none : solid [] = 0 := rfl
    have noEscape : '\\' ≠ c := by
      rintro rfl
      exact absurd blank (by decide)
    exact ⟨by omega, fun same => by simp [noEscape, ih.2 (by omega)]⟩
  | @letter depth word inside words c shows noEscape noEnd tail ih =>
    have one : solid (c :: inside) = solid [c] + solid inside := solidAppend [c] inside
    have longer := solidAppend word [c]
    exact ⟨by omega, fun same => by simp [noEscape.symm, ih.2 (by omega)]⟩

theorem levelSpace {c : Char} (blank : isSpace c = true) (depth : Nat) :
    level depth c = depth ∧ c ≠ ')' := by
  constructor
  · unfold level
    rw [if_neg, if_neg] <;> rintro rfl <;> exact absurd blank (by decide)
  · rintro rfl
    exact absurd blank (by decide)

theorem balanceSpace {c : Char} (blank : isSpace c = true) (depth : Nat) (rest : Text) :
    balance depth (c :: rest) = balance depth rest := by
  obtain ⟨same, other⟩ := levelSpace blank depth
  rw [balance, if_neg (fun closes => other closes.1), same]

theorem balanceAppend (depth : Nat) (s t : Text) :
    balance depth (s ++ t) = (balance depth s).bind (balance · t) := by
  induction s generalizing depth with
  | nil => rfl
  | cons c s ih =>
    rw [List.cons_append, balance, balance]
    split
    · rfl
    · exact ih _

theorem piecesUnspaced {t piece : Text} (member : piece ∈ pieces t) :
    ∀ c ∈ piece, isSpace c = false :=
  Text.cutByPieces (List.mem_filter.mp member).1

section
variable {word : Text} (unspaced : ∀ c ∈ word, isSpace c = false)
include unspaced

theorem piecesWord : pieces word = ended word := by
  rw [pieces, Text.cutByUnmarked unspaced, ended]

theorem piecesSpace {c : Char} (blank : isSpace c = true) (rest : Text) :
    pieces (word ++ c :: rest) = ended word ++ pieces rest := by
  rw [pieces, Text.cutByMarked unspaced blank, ← List.singleton_append, List.filter_append]
  rfl

end

theorem readsPieces {depth : Nat} {word inside : Text} (noEscape : '\\' ∉ inside)
    (unspaced : ∀ c ∈ word, isSpace c = false) (balanced : balance depth inside = some 0) :
    Reads depth word inside (pieces (word ++ inside)) := by
  induction inside generalizing depth word with
  | nil =>
    cases Option.some.inj balanced
    rw [List.append_nil, piecesWord unspaced]
    exact .closes word
  | cons c inside ih =>
    obtain ⟨other, noMore⟩ := not_or.mp (mt List.mem_cons.mpr noEscape)
    cases blank : isSpace c with
    | true =>
      rw [balanceSpace blank] at balanced
      rw [piecesSpace unspaced blank]
      exact .space blank (ih noMore (by simp) balanced)
    | false =>
      rw [balance] at balanced
      split at balanced
      · contradiction
      rename_i noEnd
      have longer : ∀ d ∈ word ++ [c], isSpace d = false := by
        simpa [or_imp, forall_and] using And.intro unspaced blank
      have tail := ih noMore longer balanced
      rw [List.append_assoc, List.singleton_append] at tail
      exact .letter blank (Ne.symm other) noEnd tail

theorem Reads.balanced {depth : Nat} {word inside : Text} {words : List Text}
    (reads : Reads depth word inside words) (noEscape : '\\' ∉ inside) :
    balance depth inside = some 0 := by
  induction reads with
  | closes word => rfl
  | escaped c tail ih => exact absurd List.mem_cons_self noEscape
  | space blank tail ih =>
    rw [balanceSpace blank]
    exact ih fun later => noEscape (List.mem_cons_of_mem _ later)
  | letter shows other noEnd tail ih =>
    rw [balance, if_neg noEnd]
    exact ih fun later => noEscape (List.mem_cons_of_mem _ later)

theorem readsIff {inside : Text} (noEscape : '\\' ∉ inside) {words : List Text} :
    Reads 0 [] inside words ↔ balance 0 inside = some 0 ∧ words = pieces inside := by
  constructor
  · intro reads
    have balanced := reads.balanced noEscape
    have other : Reads 0 [] inside (pieces inside) := readsPieces noEscape (by simp) balanced
    have both := (reads.found []).symm.trans (other.found [])
    exact ⟨balanced, (Prod.mk.inj (Option.some.inj both)).1⟩
  · rintro ⟨balanced, rfl⟩
    exact readsPieces noEscape (by simp) balanced

end GemSurvey.WordList
