namespace ChatTurn

structure Double where
  bits : UInt64
  deriving DecidableEq

namespace Double

def negative (x : Double) : Bool := decide (1 <<< 63 ≤ x.bits.toNat)

/-- The bits without the sign, which order the numbers of one sign. -/
def magnitude (x : Double) : Nat := x.bits.toNat % (1 <<< 63)

def infinity : Nat := 2047 <<< 52

def isFinite (x : Double) : Bool := decide (x.magnitude < infinity)

def isNaN (x : Double) : Bool := decide (infinity < x.magnitude)

def ofMagnitude (negative : Bool) (n : Nat) : Double :=
  ⟨UInt64.ofNat (if negative then (1 <<< 63) + n else n)⟩

def notANumber : Double := ofMagnitude false (infinity + (1 <<< 51))

def zero : Double := ofMagnitude false 0

def neg (x : Double) : Double := ofMagnitude (!x.negative) x.magnitude

def mantissa (x : Double) : Nat :=
  if x.magnitude < 1 <<< 52 then x.magnitude else x.magnitude % (1 <<< 52) + (1 <<< 52)

def exponent (x : Double) : Int := ((max (x.magnitude >>> 52) 1 : Nat) : Int) - 1075

/-- `num / den` rounded to an integer, a half to the even neighbour. -/
def divNearest (num den : Nat) : Nat :=
  let q := num / den
  let r := num % den
  if 2 * r < den then q
  else if den < 2 * r then q + 1
  else if q % 2 = 0 then q else q + 1

def scaled (num den : Nat) (q : Int) : Nat × Nat :=
  (num <<< (-q).toNat, den <<< q.toNat)

/-- The magnitude of the double nearest to `num / den`. Where the mantissa rounds up to `2 ^ 53`
the sum carries into the next exponent, which is the number meant. -/
def nearest (num den : Nat) : Nat :=
  if num = 0 then 0
  else
    let guess : Int := max ((num.log2 : Int) - den.log2 - 52) (-1074)
    let (n, d) := scaled num den guess
    let q := if n / d < 1 <<< 52 ∧ -1074 < guess then guess - 1 else guess
    let (n, d) := scaled num den q
    min (divNearest n d + ((q + 1074).toNat <<< 52)) infinity

def ofRatio (negative : Bool) (num den : Nat) : Double := ofMagnitude negative (nearest num den)

def ofNat (n : Nat) : Double := ofRatio false n 1

def ofInt (i : Int) : Double := ofRatio (decide (i < 0)) i.natAbs 1

def mul (x y : Double) : Double :=
  let (n, d) := scaled (x.mantissa * y.mantissa) 1 (-(x.exponent + y.exponent))
  ofRatio (x.negative != y.negative) n d

def div (x y : Double) : Double :=
  let (n, d) := scaled x.mantissa y.mantissa (y.exponent - x.exponent)
  ofRatio (x.negative != y.negative) n d

/-- The place of a number on the line; both zeros stand at 0. -/
def rank (x : Double) : Int := if x.negative then -(x.magnitude : Int) else x.magnitude

/-- Numerical equality: the zeros are equal, and not-a-number equals nothing. -/
def same (x y : Double) : Bool := !x.isNaN && !y.isNaN && x.rank == y.rank

def le (x y : Double) : Bool := !x.isNaN && !y.isNaN && decide (x.rank ≤ y.rank)

def lt (x y : Double) : Bool := !x.isNaN && !y.isNaN && decide (x.rank < y.rank)

end Double

end ChatTurn
