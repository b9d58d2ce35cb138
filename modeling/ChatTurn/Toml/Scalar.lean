import ChatTurn.Double.Decimal
import ChatTurn.Json.Parser
import ChatTurn.Text.Search
import ChatTurn.Toml.Value

namespace ChatTurn.Toml.Scalar

open Double (isDigit digitsValue takeSign)

def digits? (isDigit : Char → Bool) : List Char → Option (List Char)
  | [] => none
  | [c] => if isDigit c then some [c] else none
  | c :: '_' :: cs => if isDigit c then (digits? isDigit cs).map (c :: ·) else none
  | c :: cs => if isDigit c then (digits? isDigit cs).map (c :: ·) else none

def valueIn (base : Nat) (ds : List Char) : Int :=
  ds.foldl (fun n c => base * n + ((Json.Parser.hexDigit? c).getD 0 : Nat)) 0

def isHexDigit (c : Char) : Bool := (Json.Parser.hexDigit? c).isSome

def whole? (cs : List Char) : Option (List Char) := do
  let ds ← digits? isDigit cs
  if ds.head? = some '0' ∧ ds ≠ ['0'] then none else some ds

def integer? (cs : List Char) : Option Int :=
  match cs with
  | '0' :: 'x' :: cs => (digits? isHexDigit cs).map (valueIn 16)
  | '0' :: 'o' :: cs => (digits? (fun c => '0' ≤ c ∧ c ≤ '7') cs).map (valueIn 8)
  | '0' :: 'b' :: cs => (digits? (fun c => c = '0' ∨ c = '1') cs).map (valueIn 2)
  | cs =>
    let (negative, cs) := takeSign cs
    (whole? cs).map fun ds => if negative then -valueIn 10 ds else valueIn 10 ds

def isExponentMark (c : Char) : Bool := c == 'e' || c == 'E'

def exponent? : List Char → Option Int
  | [] => some 0
  | _ :: cs => do
    let (negative, cs) := takeSign cs
    let ds ← digits? isDigit cs
    some (if negative then -(digitsValue ds : Int) else digitsValue ds)

def fraction? : List Char → Option (List Char)
  | [] => some []
  | _ :: cs => digits? isDigit cs

def float? (cs : List Char) : Option Double := do
  let (negative, cs) := takeSign cs
  if cs = "inf".toList then some (.ofMagnitude negative Double.infinity)
  else if cs = "nan".toList then some (.ofMagnitude negative Double.notANumber.magnitude)
  else
    let front := cs.takeWhile (!isExponentMark ·)
    let e ← exponent? (cs.dropWhile (!isExponentMark ·))
    let whole ← whole? (front.takeWhile (· ≠ '.'))
    let fraction ← fraction? (front.dropWhile (· ≠ '.'))
    some (.ofDecimal negative (digitsValue (whole ++ fraction)) (e - fraction.length))

def field? (n : Nat) (cs : List Char) : Option (Nat × List Char × List Char) :=
  let ds := cs.take n
  if ds.length = n ∧ ds.all isDigit then some (digitsValue ds, ds, cs.drop n) else none

def pair? (bound : Nat) (cs : List Char) : Option (List Char × List Char) := do
  let (n, ds, rest) ← field? 2 cs
  if n ≤ bound then some (ds, rest) else none

def isLeap (year : Nat) : Bool := year % 4 == 0 && (year % 100 != 0 || year % 400 == 0)

def daysIn (year month : Nat) : Nat :=
  if month = 2 then (if isLeap year then 29 else 28)
  else if month = 4 ∨ month = 6 ∨ month = 9 ∨ month = 11 then 30
  else 31

def date? (cs : List Char) : Option (List Char × List Char) := do
  let (year, ys, cs) ← field? 4 cs
  let (month, ms, cs) ← field? 2 (← Text.stripStart? ['-'] cs)
  let (day, ds, cs) ← field? 2 (← Text.stripStart? ['-'] cs)
  if 1 ≤ month ∧ month ≤ 12 ∧ 1 ≤ day ∧ day ≤ daysIn year month then
    some (ys ++ '-' :: ms ++ '-' :: ds, cs)
  else none

def fractionText (ds : List Char) : List Char :=
  match (ds.take 9).reverse.dropWhile (· = '0') with
  | [] => ['0']
  | rest => rest.reverse

/-- A time of day, whose seconds may be left out and may be a leap second. -/
def time? (cs : List Char) : Option (List Char × List Char) := do
  let (hour, cs) ← pair? 23 cs
  let (minute, cs) ← pair? 59 (← Text.stripStart? [':'] cs)
  let text := hour ++ ':' :: minute
  match cs with
  | ':' :: cs => do
    let (second, cs) ← pair? 60 cs
    let text := text ++ ':' :: second
    match cs with
    | '.' :: cs =>
      let ds := cs.takeWhile isDigit
      if ds.isEmpty then none else some (text ++ '.' :: fractionText ds, cs.dropWhile isDigit)
    | cs => some (text, cs)
  | cs => some (text, cs)

def offset? : List Char → Option (List Char)
  | [] => some []
  | ['z'] | ['Z'] => some ['Z']
  | sign :: cs => do
    if sign ≠ '+' ∧ sign ≠ '-' then none
    let (hours, cs) ← pair? 23 cs
    let (minutes, cs) ← pair? 59 (← Text.stripStart? [':'] cs)
    if !cs.isEmpty then none
    let text := hours ++ ':' :: minutes
    some ((if text = "00:00".toList then '+' else sign) :: text)

def isTimeMark (c : Char) : Bool := c == 'T' || c == 't' || c == ' '

/-- A date, a time of day, or both, in the plainest form. -/
def moment? (cs : List Char) : Option (List Char) :=
  match date? cs with
  | none => do
    let (time, rest) ← time? cs
    if rest.isEmpty then some time else none
  | some (date, []) => some date
  | some (date, c :: cs) => do
    if !isTimeMark c then none
    let (time, rest) ← time? cs
    some (date ++ 'T' :: time ++ (← offset? rest))

def isPart (c : Char) : Bool := c.isAlphanum || "_-+.:".toList.contains c

/-- The characters of a scalar. A blank belongs to it between a date and the digit of a time. -/
def span (cs : List Char) : List Char × List Char :=
  let text := cs.takeWhile isPart
  match (date? text).map (·.2), cs.dropWhile isPart with
  | some [], ' ' :: c :: cs =>
    if isDigit c then (text ++ ' ' :: (c :: cs).takeWhile isPart, (c :: cs).dropWhile isPart)
    else (text, ' ' :: c :: cs)
  | _, rest => (text, rest)

def item? (text : List Char) : Option Item :=
  if text = "true".toList then some (.bool true)
  else if text = "false".toList then some (.bool false)
  else (integer? text).map .integer
    <|> (float? text).map .float
    <|> (moment? text).map fun text => .moment (String.ofList text)

def read? (cs : List Char) : Option (Item × List Char) :=
  let (text, rest) := span cs
  (item? text).map fun i => (i, rest)

end ChatTurn.Toml.Scalar
