/-! Spans of code points, every `step`-th one counted, and shifts, which map the code points of a span
in order onto those from a target on, at equal distances. -/
namespace GemSurvey.Text

structure Span where
  first : Nat
  last : Nat
  step : Nat
  deriving DecidableEq, Repr

namespace Span

def contains (s : Span) (code : Nat) : Bool :=
  s.first ≤ code && code ≤ s.last && (code - s.first) % s.step == 0

end Span

def inSpans (spans : List Span) (c : Char) : Bool := spans.any (·.contains c.toNat)

structure Shift where
  source : Span
  target : Nat
  deriving DecidableEq, Repr

namespace Shift

def image? (s : Shift) (code : Nat) : Option Nat :=
  if s.source.contains code then some (s.target + (code - s.source.first)) else none

def preimage? (s : Shift) (code : Nat) : Option Nat :=
  if s.target ≤ code && s.source.contains (s.source.first + (code - s.target)) then
    some (s.source.first + (code - s.target))
  else none

end Shift

def shifted (shifts : List Shift) (c : Char) : Char :=
  match shifts.findSome? (·.image? c.toNat) with
  | some code => Char.ofNat code
  | none => c

end GemSurvey.Text
