import ChatTurn.Text.Utf8

namespace ChatTurn.Utf16

open Utf8 (replacement)

def units (littleEndian : Bool) : List UInt8 → List Nat × Bool
  | [] => ([], false)
  | [_] => ([], true)
  | a :: b :: bytes =>
    let unit := if littleEndian then a.toNat + 256 * b.toNat else 256 * a.toNat + b.toNat
    let (rest, odd) := units littleEndian bytes
    (unit :: rest, odd)

def isHigh (u : Nat) : Bool := 0xD800 ≤ u && u < 0xDC00

def isLow (u : Nat) : Bool := 0xDC00 ≤ u && u < 0xE000

/-- A high unit awaits a low one; together they are one character. Either alone is replaced, and so
is a byte left over, together with a unit that still waits. -/
def text (odd : Bool) (waiting : Option Nat) : List Nat → List Char
  | [] => if odd || waiting.isSome then [replacement] else []
  | u :: us =>
    match waiting with
    | some high =>
      if isLow u then
        Char.ofNat (0x10000 + 1024 * (high - 0xD800) + (u - 0xDC00)) :: text odd none us
      else if isHigh u then replacement :: text odd (some u) us
      else replacement :: Char.ofNat u :: text odd none us
    | none =>
      if isHigh u then text odd (some u) us
      else if isLow u then replacement :: text odd none us
      else Char.ofNat u :: text odd none us

def lossy (littleEndian : Bool) (bytes : List UInt8) : List Char :=
  let (us, odd) := units littleEndian bytes
  text odd none us

/-- The text of some bytes by the mark at their front; without one they are UTF-8. -/
def ofMarked : List UInt8 → List Char
  | 0xEF :: 0xBB :: 0xBF :: bytes => Utf8.lossy bytes
  | 0xFF :: 0xFE :: bytes => lossy true bytes
  | 0xFE :: 0xFF :: bytes => lossy false bytes
  | bytes => Utf8.lossy bytes

end ChatTurn.Utf16
