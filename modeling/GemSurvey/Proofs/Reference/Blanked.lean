import GemSurvey.Proofs.Reference.Readable
import GemSurvey.Proofs.Resolution.Library
import GemSurvey.Proofs.Text.CharClass
import GemSurvey.Survey

/-! Files with blank lines in place of lines that require the package's own files. They are judged
alike, and they emit the same but for references to the package itself. -/
namespace GemSurvey

namespace Line
open Text (isBlank)

theorem notBlank {t : Text} (blank : ∀ c ∈ t, isBlank c = true) {mark : Char}
    (shows : isBlank mark = false) : ∀ c ∈ t, c ≠ mark := by
  intro c member same
  rw [← same, blank c member] at shows
  cases shows

theorem invocationBlank {t : Text} (blank : ∀ c ∈ t, isBlank c = true) (before : Option Char) :
    invocation? before t = none := by
  induction t generalizing before with
  | nil => rfl
  | cons c rest ih =>
    have noWord : c ≠ 's' := notBlank blank (by decide +kernel) c List.mem_cons_self
    have noTick : c ≠ '\x60' := notBlank blank (by decide +kernel) c List.mem_cons_self
    have later := ih (fun d member => blank d (List.mem_cons_of_mem _ member)) (some c)
    have noSystem : afterSystem? before (c :: rest) = none := by
      have absent : Text.after? "system" (c :: rest) = none := if_neg noWord.symm
      unfold afterSystem?
      rw [absent]
      split <;> rfl
    simp [invocation?, noSystem, noTick, later]

theorem matchBlank {t : Text} (blank : ∀ c ∈ t, isBlank c = true) : match? t = none := by
  have trimmed : Text.trimStart t = [] := List.dropWhile_eq_nil_iff.mpr blank
  have required : required? t = none := by
    unfold required?
    rw [trimmed]
    rfl
  have commented : commented? t = none := by
    unfold commented?
    rw [trimmed]
    rfl
  simp [match?, command?, required, commented, invocationBlank blank]

theorem requiredBegins {t name : Text} (h : required? t = some name) : t.head? ≠ some '#' := by
  obtain ⟨rest, after, _⟩ := Option.bind_eq_some_iff.mp h
  have start : Text.trimStart t = "require" ++ rest := Text.afterIff.mp after
  cases t with
  | nil => cases start
  | cons c tail =>
    intro same
    cases Option.some.inj same
    have kept : Text.trimStart ('#' :: tail) = '#' :: tail :=
      List.dropWhile_cons_of_neg (by decide +kernel)
    rw [kept] at start
    exact absurd (List.cons.inj start).1 (by decide)

theorem libraryRequired {t name : Text} (h : match? t = some (.library, name)) :
    required? t = some name := by
  unfold match? at h
  cases required : required? t with
  | none => cases command : command? t <;> simp [required, command] at h
  | some found => simpa [required] using h

end Line

namespace Emission
open Text (isBlank)

inductive RequiresOwn (package : Text) (line : Bytes) : Prop where
  | intro {t name : Text} (read : Text.decode? line = some t)
      (required : Line.match? t = some (.library, name)) (own : Library.IsOwn package name)

def IsBlankLine (line : Bytes) : Prop :=
  ∃ t, Text.decode? line = some t ∧ ∀ c ∈ t, isBlank c = true

def unended (line : Bytes) : Bytes := Text.dropLastIf (· == 13) line

inductive Blanked (package : Text) : Bytes → Bytes → Prop where
  | same (content : Bytes) : Blanked package content content
  | kept {line rest rest' : Bytes} (unmarked : ∀ x ∈ line, (x == 10) = false)
      (tail : Blanked package rest rest') : Blanked package (line ++ 10 :: rest) (line ++ 10 :: rest')
  | line {line blank rest rest' : Bytes} (unmarked : ∀ x ∈ line, (x == 10) = false)
      (unmarked' : ∀ x ∈ blank, (x == 10) = false) (own : RequiresOwn package (unended line))
      (empty : IsBlankLine (unended blank)) (tail : Blanked package rest rest') :
      Blanked package (line ++ 10 :: rest) (blank ++ 10 :: rest')
  | last {line blank : Bytes} (unmarked : ∀ x ∈ line, (x == 10) = false)
      (unmarked' : ∀ x ∈ blank, (x == 10) = false) (own : RequiresOwn package line)
      (empty : IsBlankLine blank) : Blanked package line blank

inductive BlankedNode (package : Text) : Except IoFault Node → Except IoFault Node → Prop where
  | same (found : Except IoFault Node) : BlankedNode package found found
  | file {content content' : Bytes} (blanked : Blanked package content content')
      (executable : Bool) :
      BlankedNode package (.ok (.file content executable)) (.ok (.file content' executable))
  | broken {content content' : Bytes} (blanked : Blanked package content content')
      (executable : Bool) (cause : IoFault) :
      BlankedNode package (.ok (.broken content executable cause))
        (.ok (.broken content' executable cause))

end Emission

def Emitted.isOwn (package : Text) : Emitted → Bool
  | .reference r => r.kind = .library && Library.isSelf package r.name
  | .problem _ => false

def Emitted.foreign (package : Text) (items : List Emitted) : List Emitted :=
  items.filter fun e => !e.isOwn package

namespace Emission
open Emitted (foreign)

variable {package : Text} {line blank content content' : Bytes} {lines lines' : List Bytes}
  (file : SourceFile) (ending : Option IoFault) (number : Nat)

theorem foreignAppend (xs ys : List Emitted) :
    foreign package (xs ++ ys) = foreign package xs ++ foreign package ys := List.filter_append xs ys

theorem emptyBlank : IsBlankLine [] := ⟨[], rfl, by simp⟩

theorem ownNonempty (own : RequiresOwn package line) : line ≠ [] := by
  rintro rfl
  obtain ⟨read, required, _⟩ := own
  cases read
  cases required

theorem ownEmits (own : RequiresOwn package line) :
    foreign package (fromLines file ending number (line :: lines)) =
      foreign package (fromLines file ending (number + 1) lines) := by
  obtain ⟨read, required, own⟩ := own
  have self := Library.isSelfIff.mpr own
  simp [fromLines, read, fromLine, required, foreign, Emitted.isOwn, self]

theorem blankEmits (empty : IsBlankLine blank) :
    fromLines file ending number (blank :: lines) = fromLines file ending (number + 1) lines := by
  obtain ⟨t, read, blank⟩ := empty
  simp [fromLines, read, fromLine, Line.matchBlank blank]

theorem keptEmits (line : Bytes) (later : ∀ number, foreign package
      (fromLines file ending number lines) = foreign package (fromLines file ending number lines')) :
    foreign package (fromLines file ending number (line :: lines)) =
      foreign package (fromLines file ending number (line :: lines')) := by
  unfold fromLines
  cases Text.decode? line with
  | none => rfl
  | some t => simp only [foreignAppend, later]

theorem replacedEmits (own : RequiresOwn package line) (empty : IsBlankLine blank)
    (later : ∀ number, foreign package (fromLines file ending number lines) =
      foreign package (fromLines file ending number lines')) :
    foreign package (fromLines file ending number (line :: lines)) =
      foreign package (fromLines file ending number (blank :: lines')) := by
  rw [ownEmits file ending number own, blankEmits file ending number empty, later]

theorem byteLinesLine (unmarked : ∀ x ∈ line, (x == 10) = false) (rest : Bytes) :
    byteLines (line ++ 10 :: rest) = unended line :: byteLines rest :=
  Text.linesByLine unmarked rfl

theorem blankedLines (h : Blanked package content content') :
    foreign package (fromLines file none number (byteLines content)) =
      foreign package (fromLines file none number (byteLines content')) := by
  induction h generalizing number with
  | same => rfl
  | kept unmarked _ ih =>
    rw [byteLinesLine unmarked, byteLinesLine unmarked]
    exact keptEmits file none number _ ih
  | line unmarked unmarked' own empty _ ih =>
    rw [byteLinesLine unmarked, byteLinesLine unmarked']
    exact replacedEmits file none number own empty ih
  | @last line blank unmarked unmarked' own empty =>
    unfold byteLines
    rw [Text.linesByLast unmarked, Text.linesByLast unmarked', if_neg (by simpa using ownNonempty own),
      ownEmits file none number own]
    cases blank with
    | nil => rfl
    | cons x rest => exact congrArg _ (blankEmits file none number empty).symm

theorem blankedAll (package : Text) (content : Bytes) :
    ∃ content', Blanked package content content' ∧
      ∀ line ∈ byteLines content', ¬ RequiresOwn package line := by
  induction Text.lined (· == 10) content with
  | @last line unmarked =>
    by_cases own : RequiresOwn package line
    · exact ⟨[], .last unmarked (by simp) own emptyBlank, fun _ none => by cases none⟩
    · refine ⟨line, .same line, ?_⟩
      unfold byteLines
      rw [Text.linesByLast unmarked]
      split
      · simp
      · simpa using own
  | @line line rest mark unmarked marked tail ih =>
    obtain ⟨rest', blanked, others⟩ := ih
    cases eq_of_beq marked
    by_cases own : RequiresOwn package (unended line)
    · refine ⟨[] ++ 10 :: rest', .line unmarked (by simp) own emptyBlank blanked, ?_⟩
      rw [byteLinesLine (by simp)]
      exact List.forall_mem_cons.mpr ⟨fun own => ownNonempty own rfl, others⟩
    · refine ⟨line ++ 10 :: rest', .kept unmarked blanked, ?_⟩
      rw [byteLinesLine unmarked]
      exact List.forall_mem_cons.mpr ⟨own, others⟩

theorem endedLast (unmarked : ∀ x ∈ line, (x == 10) = false) : ended line = [] := by
  have none : line.reverse.dropWhile (· != 10) = [] :=
    List.dropWhile_eq_nil_iff.mpr fun x member => by
      simp [bne, unmarked x (List.mem_reverse.mp member)]
  rw [ended, none, List.reverse_nil]

theorem blankedEndedLines (h : Blanked package content content') :
    foreign package (fromLines file ending number (byteLines (ended content))) =
      foreign package (fromLines file ending number (byteLines (ended content'))) := by
  induction h generalizing number with
  | same => rfl
  | kept unmarked _ ih =>
    rw [endedLine, endedLine, byteLinesLine unmarked, byteLinesLine unmarked]
    exact keptEmits file ending number _ ih
  | line unmarked unmarked' own empty _ ih =>
    rw [endedLine, endedLine, byteLinesLine unmarked, byteLinesLine unmarked']
    exact replacedEmits file ending number own empty ih
  | last unmarked unmarked' => rw [endedLast unmarked, endedLast unmarked']

theorem fromFileBlanked {view view' : View} {root : Path}
    (h : BlankedNode package (view (root.join file.path)) (view' (root.join file.path))) :
    foreign package (fromFile view root file) = foreign package (fromFile view' root file) := by
  rw [fromFileLines, fromFileLines]
  generalize view (root.join file.path) = found at h
  generalize view' (root.join file.path) = found' at h
  cases h with
  | same => rfl
  | file blanked executable => exact blankedLines file 1 blanked
  | broken blanked executable cause => exact blankedEndedLines file (some cause) 1 blanked

end Emission
end GemSurvey
