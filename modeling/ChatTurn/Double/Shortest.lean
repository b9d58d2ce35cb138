import ChatTurn.Double.Basic

namespace ChatTurn

inductive HalfWay
  | toEven
  | upward

structure Decimal where
  digits : Nat
  exponent : Int

namespace Double

/-- The reals that round to a double, in units of `2 ^ (exponent - 2)`: a quarter of the gap to the
next double. Below a power of two the gap is half as wide. The ends belong to an even mantissa. -/
structure Interval where
  low : Nat
  value : Nat
  high : Nat
  closed : Bool

def interval (x : Double) : Interval :=
  let m := x.mantissa
  let narrow := m = 1 <<< 52 ∧ 1 <<< 53 ≤ x.magnitude
  ⟨4 * m - (if narrow then 1 else 2), 4 * m, 4 * m + 2, m % 2 = 0⟩

def Interval.holds (i : Interval) (a b : Nat) : Bool :=
  if i.closed then decide (i.low * b ≤ a ∧ a ≤ i.high * b)
  else decide (i.low * b < a ∧ a < i.high * b)

/-- The nearest of a double's two neighbours on the grid of multiples of `10 ^ e` that rounds to
it. A grid point `d` is `d · a / b` in the interval's unit. -/
def onGrid (half : HalfWay) (x : Double) (e : Int) : Option Decimal :=
  let i := x.interval
  let q := x.exponent - 2
  let a := Nat.pow 10 e.toNat <<< (-q).toNat
  let b := Nat.pow 10 (-e).toNat <<< q.toNat
  let d := i.value * b / a
  let below := i.value * b - d * a
  let above := (d + 1) * a - i.value * b
  let lower := i.holds (d * a) b
  let upper := i.holds ((d + 1) * a) b
  let up := match half with
    | .toEven => below > above || (below = above && d % 2 = 1)
    | .upward => below ≥ above
  if upper && (!lower || up) then some ⟨d + 1, e⟩
  else if lower then some ⟨d, e⟩
  else none

/-- The number of digits of the integer part, or less the zeros that follow the point: `p` with
`10 ^ (p - 1) ≤ |x| < 10 ^ p`. -/
def decimalPoint (x : Double) : Int :=
  let guess : Int := ((x.mantissa.log2 + x.exponent) * 30103) / 100000
  let reaches (p : Int) : Bool :=
    Nat.pow 10 p.toNat <<< (-x.exponent).toNat ≤
      (x.mantissa <<< x.exponent.toNat) * Nat.pow 10 (-p).toNat
  if reaches (guess + 1) then guess + 2 else if reaches guess then guess + 1 else guess

def onGrids (half : HalfWay) (x : Double) (p : Int) : Nat → Nat → Option Decimal
  | 0, _ => none
  | k + 1, n => (onGrid half x (p - n)).orElse fun _ => onGrids half x p k (n + 1)

/-- Seventeen digits always suffice for a finite number. -/
def shortest (half : HalfWay) (x : Double) : Decimal :=
  if x.mantissa = 0 then ⟨0, 0⟩
  else (onGrids half x x.decimalPoint 17 1).getD ⟨0, 0⟩

end Double

namespace Decimal

def text (n : Nat) : List Char := (Nat.repr n).toList

def reduce : Nat → Decimal → Decimal
  | 0, d => d
  | fuel + 1, d =>
    if d.digits ≠ 0 ∧ d.digits % 10 = 0 then reduce fuel ⟨d.digits / 10, d.exponent + 1⟩ else d

def positional (whole : List Char) (d : Decimal) : List Char :=
  let ds := text d.digits
  if 0 ≤ d.exponent then ds ++ List.replicate d.exponent.toNat '0' ++ whole
  else
    let places := (-d.exponent).toNat
    if places < ds.length then
      ds.take (ds.length - places) ++ '.' :: ds.drop (ds.length - places)
    else '0' :: '.' :: (List.replicate (places - ds.length) '0' ++ ds)

def scientific (d : Decimal) : List Char :=
  let ds := text d.digits
  let e : Int := d.exponent + ds.length - 1
  let fraction := if ds.length ≤ 1 then [] else '.' :: ds.drop 1
  ds.take 1 ++ fraction ++ 'e' :: (if e < 0 then '-' else '+') :: text e.natAbs

end Decimal

structure Layout where
  half : HalfWay
  isPositional : Int → Bool
  whole : List Char

def Double.write (layout : Layout) (x : Double) : List Char :=
  let d := Decimal.reduce 17 (x.shortest layout.half)
  let body :=
    if x.mantissa = 0 || layout.isPositional (d.exponent + (Decimal.text d.digits).length) then
      d.positional layout.whole
    else d.scientific
  if x.negative then '-' :: body else body

def Layout.plain : Layout := ⟨.upward, fun _ => true, []⟩

def Double.plain (x : Double) : String :=
  if x.isNaN then "NaN"
  else if x.isFinite then String.ofList (x.write .plain)
  else if x.negative then "-inf" else "inf"

end ChatTurn
