import ChatTurn.Double.Shortest
import ChatTurn.Double.Decimal

namespace ChatTurn.Json

structure Literal where
  negative : Bool
  whole : List Char
  fraction : Option (List Char) := none
  exponent : Option (Bool × List Char) := none

inductive Number
  | integer (i : Int)
  | double (x : Double)
  deriving DecidableEq

/-- Adds digits to a significand while it fits 64 bits; the digits left over come second. -/
def accumulate : Nat → List Char → Nat × List Char
  | n, [] => (n, [])
  | n, c :: cs =>
    let next := 10 * n + (c.toNat - 48)
    if next < UInt64.size then accumulate next cs else (n, c :: cs)

def powerOfTen (k : Nat) : Double := Double.ofNat (Nat.pow 10 k)

/-- `x · 10 ^ e` by one step of at most 308 powers at a time; none when it overflows. -/
def scale (x : Double) (e : Int) : Option Double :=
  if e < -308 then
    if x.mantissa = 0 then some x else scale (x.div (powerOfTen 308)) (e + 308)
  else if e < 0 then some (x.div (powerOfTen (-e).toNat))
  else if e ≤ 308 then
    let y := x.mul (powerOfTen e.toNat)
    if y.isFinite then some y else none
  else if x.mantissa = 0 then some x
  else none
termination_by e.natAbs

def Literal.double? (l : Literal) (significand : Nat) (dropped : Nat) : Option Double :=
  let fraction := l.fraction.getD []
  let (significand, rest) := accumulate significand fraction
  let start : Int := (dropped : Int) - ((fraction.length - rest.length : Nat) : Int)
  match l.exponent with
  | none => scale (Double.ofNat significand) start
  | some (negative, ds) =>
    let e := Double.digitsValue ds
    if e < 1 <<< 31 then
      scale (Double.ofNat significand) (if negative then start - e else start + e)
    else if significand = 0 || negative then some Double.zero
    else none

/-- The number of a literal, if it is not too large. Minus zero is a double. -/
def Literal.number? (l : Literal) : Option Number :=
  let (significand, rest) := accumulate 0 l.whole
  if rest.isEmpty && l.fraction.isNone && l.exponent.isNone then
    if !l.negative then some (.integer significand)
    else if 0 < significand && significand ≤ 1 <<< 63 then some (.integer (-significand))
    else some (.double (Double.ofNat significand).neg)
  else do
    let x ← l.double? significand rest.length
    some (.double (if l.negative then x.neg else x))

/-- Positional from `1e-5` to below `1e16`, where an integer keeps `.0`. -/
def doubleLayout : Layout := ⟨.toEven, fun p => decide (-5 < p ∧ p ≤ 16), ['.', '0']⟩

def Number.text : Number → List Char
  | .integer i => (if i < 0 then ['-'] else []) ++ Decimal.text i.natAbs
  | .double x => x.write doubleLayout

end ChatTurn.Json
