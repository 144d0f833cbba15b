import GemSurvey.Pattern.Escape

/-! Bracketed classes. Items unite; `&&`, `--` and `~~` join what stands before and after them, from
left to right; a class may stand inside another. Leading hyphens are literal, and so is a bracket that
comes first; a later hyphen makes a range unless the class ends or another hyphen follows. `[:name:]`
and `[:^name:]` are classes of ASCII characters. Fuel bounds the number of items. -/
namespace GemSurvey.Pattern

inductive SetOperation where
  | inter | diff | symmDiff
  deriving DecidableEq, Repr

def SetOperation.apply (op : SetOperation) (a b : CharSet) : CharSet :=
  match op with
  | inter => a.inter b
  | diff => a.diff b
  | symmDiff => a.symmDiff b

inductive ClassFrame where
  | opened (outer : CharSet) (negated : Bool)
  | waiting (op : SetOperation) (left : CharSet)

def closeOperation (f : Flags) (stack : List ClassFrame) (right : CharSet) :
    List ClassFrame × CharSet :=
  match stack with
  | .waiting op left :: stack => (stack, op.apply (f.cased left) (f.cased right))
  | _ => (stack, right)

def awaitRight (f : Flags) (op : SetOperation) (stack : List ClassFrame) (items : CharSet) :
    List ClassFrame :=
  let (stack, left) := closeOperation f stack items
  .waiting op left :: stack

def readLeading (f : Flags) : Nat → Bool → CharSet → Text → Except Fault (CharSet × Text)
  | 0, _, _, _ => .error .unclosedClass
  | fuel + 1, first, items, t =>
      match skip f t with
      | [] => .error .unclosedClass
      | '-' :: rest => readLeading f fuel false (items.union (.single '-')) rest
      | ']' :: rest =>
          if first then
            match skip f rest with
            | [] => .error .unclosedClass
            | rest => .ok (items.union (.single ']'), rest)
          else .ok (items, ']' :: rest)
      | rest => .ok (items, rest)

def openClass (f : Flags) (t : Text) : Except Fault ((Bool × CharSet) × Text) := do
  let (negated, t) ← match skip f t with
    | '^' :: rest => .ok (true, rest)
    | [] => .error .unclosedClass
    | rest => .ok (false, rest)
  let (items, rest) ← readLeading f (t.length + 1) true .none t
  .ok ((negated, items), rest)

def asciiClassItem? (f : Flags) (t : Text) : Option (Except Fault CharSet × Text) :=
  match t with
  | ':' :: rest =>
      let (negated, rest) := match rest with
        | '^' :: rest => (true, rest)
        | _ => (false, rest)
      let name := rest.takeWhile (· != ':')
      match rest.dropWhile (· != ':'), asciiClass? name with
      | ':' :: ']' :: rest, some set =>
          let set := f.cased set
          let set := if negated then set.compl else set
          some (if f.admits set then .ok set else .error .beyondAscii, rest)
      | _, _ => none
  | _ => none

def readClassElement (f : Flags) : Text → Except Fault (Element × Text)
  | '\\' :: rest => readEscape f rest
  | c :: rest => .ok (.literal c, rest)
  | [] => .error .unclosedClass

def literalOf (f : Flags) : Element → Except Fault Char
  | .literal c => if f.unicode || Text.isAscii c then .ok c else .error .beyondAscii
  | _ => .error .badRange

def setOf (f : Flags) (e : Element) : Except Fault CharSet :=
  match e with
  | .set s => .ok s
  | .anchor _ => .error .badEscape
  | e => (literalOf f e).map CharSet.single

def readClassItem (f : Flags) (t : Text) : Except Fault (CharSet × Text) := do
  let (start, rest) ← readClassElement f t
  match skip f rest with
  | [] => .error .unclosedClass
  | '-' :: after =>
      match skip f after with
      | [] => .error .unclosedClass
      | c :: after =>
          if c == ']' || c == '-' then .ok (← setOf f start, skip f rest)
          else do
            let (stop, rest) ← readClassElement f (c :: after)
            let first ← literalOf f start
            let last ← literalOf f stop
            if first ≤ last then .ok (.between first last, rest) else .error .badRange
  | rest => .ok (← setOf f start, rest)

def classDepthLimit : Nat := 250

def readClassItems (f : Flags) :
    Nat → List ClassFrame → CharSet → Text → Except Fault (CharSet × Text)
  | 0, _, _, _ => .error .unclosedClass
  | fuel + 1, stack, items, t =>
      match skip f t with
      | [] => .error .unclosedClass
      | '[' :: rest =>
          match if stack.isEmpty then none else asciiClassItem? f rest with
          | some (set, rest) => do readClassItems f fuel stack (items.union (← set)) rest
          | none =>
              if classDepthLimit ≤ stack.length then .error .tooDeep
              else do
                let ((negated, leading), rest) ← openClass f rest
                readClassItems f fuel (.opened items negated :: stack) leading rest
      | ']' :: rest =>
          let (stack, set) := closeOperation f stack items
          match stack with
          | .opened outer negated :: stack =>
              let set := f.cased set
              let set := if negated then set.compl else set
              if !f.admits set then .error .beyondAscii
              else if stack.isEmpty then .ok (set, rest)
              else readClassItems f fuel stack (outer.union set) rest
          | _ => .error .unclosedClass
      | '&' :: '&' :: rest => readClassItems f fuel (awaitRight f .inter stack items) .none rest
      | '-' :: '-' :: rest => readClassItems f fuel (awaitRight f .diff stack items) .none rest
      | '~' :: '~' :: rest => readClassItems f fuel (awaitRight f .symmDiff stack items) .none rest
      | t => do
          let (set, rest) ← readClassItem f t
          readClassItems f fuel stack (items.union set) rest

def readClass (f : Flags) (t : Text) : Except Fault (CharSet × Text) :=
  readClassItems f (t.length + 1) [] .none t

end GemSurvey.Pattern
