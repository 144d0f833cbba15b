import GemSurvey.Text.Basic

/-! Wildcards within one name: `?` is a character, `*` any text, `[ab-d]` and `[!ab-d]` a character that
a set holds or lacks. A set holds at least one character, which may be a closing bracket. The name `**`
alone stands for directories at any depth. Segments stand between separators, and one at the end closes
the last of them. Where fuel is given it bounds the number of tokens. -/
namespace GemSurvey.Glob

inductive Fault where
  | tooManyStars | starsBesideText | unclosedSet
  deriving DecidableEq, Repr

def Fault.message : Fault → Text
  | tooManyStars => "more than two stars in a row"
  | starsBesideText => "two stars must stand alone between separators"
  | unclosedSet => "unclosed or empty set"

inductive Token where
  | char (c : Char)
  | anyChar
  | anyText
  | within (ranges : List (Char × Char))
  | outside (ranges : List (Char × Char))
  deriving DecidableEq, Repr

inductive Segment where
  | anyDepth
  | tokens (ts : List Token)
  deriving DecidableEq, Repr

def ranges : Text → List (Char × Char)
  | first :: '-' :: last :: rest => (first, last) :: ranges rest
  | c :: rest => (c, c) :: ranges rest
  | [] => []

def cutSet : Text → Option (Text × Text)
  | first :: rest =>
      match rest.dropWhile (· != ']') with
      | _ :: after => some (first :: rest.takeWhile (· != ']'), after)
      | [] => none
  | [] => none

def readTokens : Nat → Text → Except Fault (List Token)
  | 0, _ => .ok []
  | _ + 1, [] => .ok []
  | fuel + 1, c :: rest =>
      match c with
      | '?' => do .ok (.anyChar :: (← readTokens fuel rest))
      | '*' =>
          match rest with
          | '*' :: '*' :: _ => .error .tooManyStars
          | '*' :: _ => .error .starsBesideText
          | _ => do .ok (.anyText :: (← readTokens fuel rest))
      | '[' =>
          let (negated, body) := match rest with
            | '!' :: body => (true, body)
            | body => (false, body)
          match cutSet body with
          | some (set, after) => do
              let token := if negated then .outside (ranges set) else .within (ranges set)
              .ok (token :: (← readTokens fuel after))
          | none => .error .unclosedSet
      | c => do .ok (.char c :: (← readTokens fuel rest))

def Segment.read (t : Text) : Except Fault Segment :=
  if t = ['*', '*'] then .ok .anyDepth
  else do .ok (.tokens (← readTokens t.length t))

def readSegments (t : Text) : Except Fault (List Segment) :=
  let pieces := Text.cut '/' t
  (if pieces.getLast? = some [] then pieces.dropLast else pieces).mapM Segment.read

def holds (ranges : List (Char × Char)) (c : Char) : Bool :=
  ranges.any fun r => r.1 ≤ c && c ≤ r.2

def someTail (p : Text → Bool) : Text → Bool
  | [] => p []
  | c :: rest => p (c :: rest) || someTail p rest

def Token.takes : Token → Char → Bool
  | .char x, c => x == c
  | .anyChar, _ => true
  | .anyText, _ => false
  | .within set, c => holds set c
  | .outside set, c => !holds set c

def matchesName : List Token → Text → Bool
  | [], name => name.isEmpty
  | .anyText :: rest, name => someTail (matchesName rest) name
  | token :: rest, c :: name => token.takes c && matchesName rest name
  | _ :: _, [] => false

def literal? : List Token → Option Text
  | [] => some []
  | .char c :: rest => (literal? rest).map (c :: ·)
  | _ :: _ => none

end GemSurvey.Glob
