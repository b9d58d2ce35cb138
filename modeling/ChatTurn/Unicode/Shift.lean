import ChatTurn.Unicode.CharSet

namespace ChatTurn.Unicode

/-- How far every `step`-th code point of a span moves. -/
structure Shift where
  span : Span
  step : Nat
  down : Bool
  distance : Nat

namespace Shift

/-- Reads `low-high/step+distance`, or with `!` for a shift down. -/
def ofText (cs : List Char) : Shift :=
  let (span, cs) := Span.ofText cs
  let (step, cs) := match cs with
    | '/' :: cs => (Span.hexNat (cs.takeWhile Span.isHex), cs.dropWhile Span.isHex)
    | cs => (1, cs)
  ⟨span, step, cs.head? == some '!', Span.hexNat (cs.drop 1)⟩

def has (s : Shift) (n : Nat) : Bool := s.span.has n && (n - s.span.low) % s.step == 0

def target (s : Shift) (n : Nat) : Nat := if s.down then n - s.distance else n + s.distance

end Shift

end ChatTurn.Unicode
