import ChatTurn.Double.Basic

namespace ChatTurn

namespace Double

def isDigit (c : Char) : Bool := decide ('0' ≤ c ∧ c ≤ '9')

def digitsValue (ds : List Char) : Nat := ds.foldl (fun n c => 10 * n + (c.toNat - 48)) 0

/-- `digits · 10 ^ exponent`, rounded once. Beyond these exponents every number is infinite or
rounds to zero. -/
def ofDecimal (negative : Bool) (digits : Nat) (exponent : Int) : Double :=
  let size : Int := (Nat.repr digits).length
  if digits = 0 || exponent + size < -400 then ofMagnitude negative 0
  else if 400 < exponent + size then ofMagnitude negative infinity
  else ofRatio negative (digits * Nat.pow 10 exponent.toNat) (Nat.pow 10 (-exponent).toNat)

def takeSign : List Char → Bool × List Char
  | '-' :: cs => (true, cs)
  | '+' :: cs => (false, cs)
  | cs => (false, cs)

def exponentOf? : List Char → Option Int
  | [] => some 0
  | e :: cs =>
    if e = 'e' || e = 'E' then
      let (negative, ds) := takeSign cs
      if ds.isEmpty || !ds.all isDigit then none
      else some (if negative then -(digitsValue ds : Int) else digitsValue ds)
    else none

def ofDigits? (negative : Bool) (cs : List Char) : Option Double :=
  let whole := cs.takeWhile isDigit
  let rest := cs.dropWhile isDigit
  let (fraction, rest) := match rest with
    | '.' :: rest => (rest.takeWhile isDigit, rest.dropWhile isDigit)
    | rest => ([], rest)
  if whole.isEmpty && fraction.isEmpty then none
  else do
    let e ← exponentOf? rest
    some (ofDecimal negative (digitsValue (whole ++ fraction)) (e - fraction.length))

def parse? (cs : List Char) : Option Double :=
  let (negative, body) := takeSign cs
  let name := body.map Char.toLower
  if name = "inf".toList || name = "infinity".toList then some (ofMagnitude negative infinity)
  else if name = "nan".toList then some (if negative then notANumber.neg else notANumber)
  else ofDigits? negative body

end Double

def integer? (cs : List Char) : Option Int :=
  let (negative, ds) := Double.takeSign cs
  if ds.isEmpty || !ds.all Double.isDigit then none
  else some (if negative then -(Double.digitsValue ds : Int) else Double.digitsValue ds)

end ChatTurn
