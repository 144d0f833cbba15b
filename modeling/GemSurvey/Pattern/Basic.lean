import GemSurvey.Text.Casing

/-! Patterns as they match: sets of characters, conditions on a position, sequence, choice and
repetition. A position is judged by the characters before and after it. A set of positions in a text is
one mark per position, the end included; a pattern carries a set of positions to the set of those where
a match from it can end. As many steps as there are positions exhaust an open repetition. What matches
nothing but the empty text is no different repeated than once. A pattern weighs as many states as it has
with every repetition written out, and a set that comes and goes through the scripts weighs more than
others. -/
namespace GemSurvey

abbrev CharSet := Char → Bool

namespace CharSet

def none : CharSet := fun _ => false

def single (c : Char) : CharSet := (· == c)

def between (first last : Char) : CharSet := fun c => first ≤ c && c ≤ last

def union (a b : CharSet) : CharSet := fun c => a c || b c

def inter (a b : CharSet) : CharSet := fun c => a c && b c

def diff (a b : CharSet) : CharSet := fun c => a c && !b c

def symmDiff (a b : CharSet) : CharSet := fun c => a c != b c

def compl (a : CharSet) : CharSet := fun c => !a c

def swapAsciiCase (c : Char) : Char := if c.isLower then c.toUpper else c.toLower

def ignoringCase (unicode : Bool) (a : CharSet) : CharSet := fun c =>
  if unicode then a c || (Text.foldMates c).any a else a c || a (swapAsciiCase c)

end CharSet

inductive Anchor where
  | textStart | textEnd
  | lineStart | lineEnd
  | returnLineStart | returnLineEnd
  | wordEdge (word : CharSet) | noWordEdge (word : CharSet)
  | wordStart (word : CharSet) | wordEnd (word : CharSet)
  | noWordBefore (word : CharSet) | noWordAfter (word : CharSet)

namespace Anchor

def holds (before after : Option Char) : Anchor → Bool
  | textStart => before.isNone
  | textEnd => after.isNone
  | lineStart => before.all (· == '\n')
  | lineEnd => after.all (· == '\n')
  | returnLineStart => before.all fun c => c == '\n' || (c == '\r' && after != some '\n')
  | returnLineEnd => after.all fun c => c == '\r' || (c == '\n' && before != some '\r')
  | wordEdge word => before.any word != after.any word
  | noWordEdge word => before.any word == after.any word
  | wordStart word => !before.any word && after.any word
  | wordEnd word => before.any word && !after.any word
  | noWordBefore word => !before.any word
  | noWordAfter word => !after.any word

end Anchor

inductive Pattern where
  | empty
  | one (set : CharSet)
  | anchor (a : Anchor)
  | seq (p q : Pattern)
  | alt (p q : Pattern)
  | times (p : Pattern) (least : Nat) (most : Option Nat)

namespace Pattern

def isVoid : Pattern → Bool
  | empty => true
  | one _ => false
  | anchor _ => true
  | seq p q => p.isVoid && q.isVoid
  | alt p q => p.isVoid && q.isVoid
  | times p _ most => p.isVoid || most == some 0

def repeated (p : Pattern) (least : Nat) (most : Option Nat) : Pattern :=
  if p.isVoid then times p (min least 1) (some (min (most.getD 1) 1)) else times p least most

def probes : List Char :=
  [0x80, 0xAA, 0xD7, 0xE9, 0x2028, 0x4E2D, 0xE000, 0x20000, 0x10FFFF].map Char.ofNat

def changes (set : CharSet) : Nat :=
  (List.zipWith (fun a b => set a != set b) probes (probes.drop 1)).count true

def setWeight (set : CharSet) : Nat := if 6 ≤ changes set then 1800 else 1

def weight : Pattern → Nat
  | empty => 0
  | one set => setWeight set
  | anchor _ => 1
  | seq p q => p.weight + q.weight
  | alt p q => p.weight + q.weight + 1
  | times p least most => p.weight * max (most.getD least) 1 + 1

end Pattern
end GemSurvey

namespace GemSurvey.Pattern

abbrev Positions := List Bool

def contexts (before : Option Char) : Text → List (Option Char × Option Char)
  | [] => [(before, none)]
  | c :: rest => (before, some c) :: contexts (some c) rest

def both (a b : Positions) : Positions := List.zipWith (· || ·) a b

def advance (set : CharSet) (t : Text) (marks : Positions) : Positions :=
  false :: List.zipWith (fun mark c => mark && set c) marks t

def keep (a : Anchor) (t : Text) (marks : Positions) : Positions :=
  List.zipWith (fun mark around => mark && a.holds around.1 around.2) marks (contexts none t)

def repeatExactly (step : Positions → Positions) : Nat → Positions → Positions
  | 0, marks => marks
  | n + 1, marks => if marks.any id then repeatExactly step n (step marks) else marks

def repeatUpTo (step : Positions → Positions) : Nat → Positions → Positions
  | 0, marks => marks
  | n + 1, marks =>
      let more := both marks (step marks)
      if more = marks then marks else repeatUpTo step n more

def ends (t : Text) : Pattern → Positions → Positions
  | empty => id
  | one set => advance set t
  | anchor a => keep a t
  | seq p q => fun marks => ends t q (ends t p marks)
  | alt p q => fun marks => both (ends t p marks) (ends t q marks)
  | times p least most => fun marks =>
      repeatUpTo (ends t p) ((most.map (· - least)).getD (t.length + 1))
        (repeatExactly (ends t p) least marks)

def occursIn (p : Pattern) (t : Text) : Bool :=
  (ends t p (List.replicate (t.length + 1) true)).any id

end GemSurvey.Pattern
