import GemSurvey.Pattern.ClassReader

/-! Reading a pattern. Flags set inside a group hold until the group ends, over all its alternatives. A
directive that only sets flags is no operand of a repetition. What is joined is nested one level deeper
than its deepest part, unless there is but one. A count may have white space around it and fits in 32
bits. A lazy repetition reaches the same ends as a greedy one. Each step uses up a character at least,
so that the length of the text bounds the steps. -/
namespace GemSurvey.Pattern

structure Part where
  pattern : Pattern
  depth : Nat

inductive Item where
  | operand (part : Part)
  | directive

def Item.depth : Item → Nat
  | operand part => part.depth
  | directive => 0

def sequencePattern : List Item → Pattern
  | [] => .empty
  | .operand part :: rest => .seq part.pattern (sequencePattern rest)
  | .directive :: rest => sequencePattern rest

def joinedDepth : List Nat → Nat
  | [] => 0
  | [depth] => depth
  | depths => 1 + depths.foldl max 0

def sequence (items : List Item) : Part :=
  ⟨sequencePattern items, joinedDepth (items.map Item.depth)⟩

structure GroupFrame where
  flags : Flags
  branches : List Part
  items : List Item

structure Progress where
  flags : Flags := {}
  frames : List GroupFrame := []
  branches : List Part := []
  items : List Item := []
  names : List Text := []

namespace Progress

def alternatives (s : Progress) : Part :=
  let last := sequence s.items.reverse
  ⟨s.branches.foldl (fun rest branch => .alt branch.pattern rest) last.pattern,
    joinedDepth (last.depth :: s.branches.map Part.depth)⟩

def push (s : Progress) (p : Pattern) (depth : Nat) : Progress :=
  { s with items := .operand ⟨p, depth⟩ :: s.items }

def openGroup (s : Progress) (inner : Flags) : Progress :=
  { s with flags := inner, branches := [], items := []
           frames := ⟨s.flags, s.branches, s.items⟩ :: s.frames }

def closeGroup (s : Progress) : Except Fault Progress :=
  match s.frames with
  | [] => .error .unopenedGroup
  | frame :: frames =>
      let inner := s.alternatives
      .ok { s with flags := frame.flags, branches := frame.branches, frames := frames
                   items := .operand ⟨inner.pattern, inner.depth + 1⟩ :: frame.items }

def repeatLast (s : Progress) (least : Nat) (most : Option Nat) : Except Fault Progress :=
  match s.items with
  | .operand part :: items =>
      .ok { s with items := .operand ⟨part.pattern.repeated least most, part.depth + 1⟩ :: items }
  | _ => .error .nothingToRepeat

end Progress

def readFlags (f : Flags) (seen : List Char) (negating dangling : Bool) :
    Text → Except Fault ((Flags × Bool × Bool) × Text)
  | [] => .error .unclosedGroup
  | c :: rest =>
      if c == ')' || c == ':' then
        if dangling then .error .badFlag
        else .ok ((f, c == ')', !seen.isEmpty), rest)
      else if seen.contains c then .error .badFlag
      else if c == '-' then readFlags f (c :: seen) true true rest
      else match f.set? c (!negating) with
        | some f => readFlags f (c :: seen) negating false rest
        | none => .error .badFlag

def isNameChar (first : Bool) (c : Char) : Bool :=
  c == '_' || Text.isAlphabetic c ||
    (!first && (c == '.' || c == '[' || c == ']' || Text.inCategories Text.Category.numbers c))

def readName (first : Bool) : Text → Except Fault (Text × Text)
  | [] => .error .badGroupName
  | c :: rest =>
      if c == '>' then .ok ([], rest)
      else if isNameChar first c then do
        let (name, rest) ← readName false rest
        .ok (c :: name, rest)
      else .error .badGroupName

def openNamed (s : Progress) (t : Text) : Except Fault (Progress × Text) := do
  let (name, rest) ← readName true t
  if name.isEmpty || s.names.contains name then .error .badGroupName
  else .ok ({ s.openGroup s.flags with names := name :: s.names }, rest)

def readGroup (s : Progress) (t : Text) : Except Fault (Progress × Text) :=
  match skip s.flags t with
  | '?' :: '=' :: _ | '?' :: '!' :: _ | '?' :: '<' :: '=' :: _ | '?' :: '<' :: '!' :: _ =>
      .error .lookAround
  | '?' :: 'P' :: '<' :: rest => openNamed s rest
  | '?' :: '<' :: rest => openNamed s rest
  | '?' :: rest => do
      let ((flags, closed, any), rest) ← readFlags s.flags [] false false rest
      if !closed then .ok (s.openGroup flags, rest)
      else if any then .ok ({ s with flags := flags, items := .directive :: s.items }, rest)
      else .error .nothingToRepeat
  | t => .ok (s.openGroup s.flags, t)

def readDigits (f : Flags) : Nat → Text → Text × Text
  | 0, t => ([], t)
  | fuel + 1, c :: rest =>
      if Text.isAsciiDigit c then
        let (digits, rest) := readDigits f fuel (skip f rest)
        (c :: digits, rest)
      else ([], c :: rest)
  | _, [] => ([], [])

def countLimit : Nat := 4294967295

def readCount (f : Flags) (t : Text) : Except Fault (Option Nat × Text) :=
  let t := t.dropWhile Text.isBlank
  let (digits, rest) := readDigits f t.length t
  let rest := rest.dropWhile Text.isBlank
  let value := digits.foldl (fun n c => n * 10 + (c.toNat - '0'.toNat)) 0
  if digits.isEmpty then .ok (none, rest)
  else if value ≤ countLimit then .ok (some value, rest)
  else .error .badCount

def dropLazy : Text → Text
  | '?' :: rest => rest
  | t => t

def readBounds (f : Flags) (t : Text) : Except Fault ((Nat × Option Nat) × Text) := do
  let (least, rest) ← readCount f (skip f t)
  let (bounds, rest) ← match rest with
    | ',' :: rest =>
        match skip f rest, least with
        | '}' :: rest, some least => .ok ((least, none), '}' :: rest)
        | '}' :: _, none => .error .badCount
        | rest, some least => do
            let (most, rest) ← readCount f rest
            match most with
            | some most => if least ≤ most then .ok ((least, some most), rest) else .error .badCount
            | none => .error .badCount
        | _, none => .error .badCount
    | rest => match least with
        | some least => .ok ((least, some least), rest)
        | none => .error .badCount
  match rest with
  | '}' :: rest => .ok (bounds, dropLazy (skip f rest))
  | _ => .error .badCount

def elementPattern (f : Flags) : Element → Except Fault Pattern
  | .literal c => .ok (.one (f.cased (.single c)))
  | .set s => .ok (.one s)
  | .anchor a => .ok (.anchor a)

def dotSet (f : Flags) : CharSet := fun c =>
  f.dotAll || (c != '\n' && !(f.returns && c == '\r'))

def startAnchor (f : Flags) : Anchor :=
  if !f.multiLine then .textStart else if f.returns then .returnLineStart else .lineStart

def endAnchor (f : Flags) : Anchor :=
  if !f.multiLine then .textEnd else if f.returns then .returnLineEnd else .lineEnd

def step (s : Progress) : Text → Except Fault (Progress × Text)
  | [] => .ok (s, [])
  | '(' :: rest => readGroup s rest
  | ')' :: rest => do .ok (← s.closeGroup, rest)
  | '|' :: rest =>
      .ok ({ s with branches := sequence s.items.reverse :: s.branches, items := [] }, rest)
  | '[' :: rest => do
      let (set, rest) ← readClass s.flags ('[' :: rest)
      .ok (s.push (.one set) 1, rest)
  | '?' :: rest => do .ok (← s.repeatLast 0 (some 1), dropLazy rest)
  | '*' :: rest => do .ok (← s.repeatLast 0 none, dropLazy rest)
  | '+' :: rest => do .ok (← s.repeatLast 1 none, dropLazy rest)
  | '{' :: rest => do
      let _ ← s.repeatLast 0 none
      let ((least, most), rest) ← readBounds s.flags rest
      .ok (← s.repeatLast least most, rest)
  | '\\' :: rest => do
      let (e, rest) ← readEscape s.flags rest
      .ok (s.push (← elementPattern s.flags e) 0, rest)
  | '.' :: rest =>
      if s.flags.unicode then .ok (s.push (.one (dotSet s.flags)) 0, rest) else .error .beyondAscii
  | '^' :: rest => .ok (s.push (.anchor (startAnchor s.flags)) 0, rest)
  | '$' :: rest => .ok (s.push (.anchor (endAnchor s.flags)) 0, rest)
  | c :: rest => .ok (s.push (.one (s.flags.cased (.single c))) 0, rest)

def readAll : Nat → Progress → Text → Except Fault Part
  | 0, _, _ => .error .tooLarge
  | fuel + 1, s, t =>
      match skip s.flags t with
      | [] => if s.frames.isEmpty then .ok s.alternatives else .error .unclosedGroup
      | t => do
          let (s, rest) ← step s t
          readAll fuel s rest

def depthLimit : Nat := 250

def weightLimit : Nat := 300000

def read (t : Text) : Except Fault Pattern := do
  let part ← readAll (t.length + 1) {} t
  if depthLimit < part.depth then .error .tooDeep
  else if weightLimit < part.pattern.weight then .error .tooLarge
  else .ok part.pattern

end GemSurvey.Pattern
