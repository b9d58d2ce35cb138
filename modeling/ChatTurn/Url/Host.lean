import ChatTurn.Double.Decimal
import ChatTurn.Json.Parser
import ChatTurn.Url.Domain.Basic

namespace ChatTurn.Url

open Text (splitOn joinWith)

def hexUpper (n : Nat) : Char := Char.ofNat (if n < 10 then 48 + n else 55 + n)

def percent (b : UInt8) : List Char := ['%', hexUpper (b.toNat / 16), hexUpper (b.toNat % 16)]

/-- Writes the bytes of the characters in a set in percent form, and always those beyond ASCII. -/
def encode (escaped : Char → Bool) (cs : List Char) : List Char :=
  cs.flatMap fun c =>
    if 128 ≤ c.toNat || c.toNat < 0x20 || c.toNat = 0x7F || escaped c then
      (String.utf8EncodeChar c).flatMap percent
    else [c]

def decodeBytes : List Char → List UInt8
  | [] => []
  | '%' :: a :: b :: cs =>
    match Json.Parser.hexDigit? a, Json.Parser.hexDigit? b with
    | some h, some l => UInt8.ofNat (16 * h + l) :: decodeBytes cs
    | _, _ => '%'.toUInt8 :: decodeBytes (a :: b :: cs)
  | c :: cs => String.utf8EncodeChar c ++ decodeBytes cs

def decode? (cs : List Char) : Option (List Char) :=
  (String.fromUTF8? ⟨(decodeBytes cs).toArray⟩).map String.toList

def isHex (c : Char) : Bool := (Json.Parser.hexDigit? c).isSome

def valueIn (base : Nat) (cs : List Char) : Nat :=
  cs.foldl (fun n c => base * n + (Json.Parser.hexDigit? c).getD 0) 0

/-- A part of an IPv4 address: decimal, octal after `0`, or hexadecimal after `0x`. -/
def ipv4Number? (cs : List Char) : Option Nat :=
  match cs with
  | [] => none
  | '0' :: 'x' :: ds | '0' :: 'X' :: ds => if ds.all isHex then some (valueIn 16 ds) else none
  | '0' :: d :: ds =>
    if (d :: ds).all fun c => '0' ≤ c ∧ c ≤ '7' then some (valueIn 8 (d :: ds)) else none
  | ds => if ds.all Double.isDigit then some (valueIn 10 ds) else none

def dropLastEmpty (parts : List (List Char)) : List (List Char) :=
  if 1 < parts.length ∧ parts.getLast? = some [] then parts.dropLast else parts

def endsInNumber (domain : List Char) : Bool :=
  match (dropLastEmpty (splitOn '.' domain)).getLast? with
  | some (c :: cs) => (c :: cs).all Double.isDigit || (ipv4Number? (c :: cs)).isSome
  | _ => false

/-- The last part fills all bytes that the parts before it leave. -/
def ipv4? (domain : List Char) : Option Nat := do
  let numbers ← (dropLastEmpty (splitOn '.' domain)).mapM ipv4Number?
  let last ← numbers.getLast?
  let front := numbers.dropLast
  if 4 < numbers.length || front.any (255 < ·) || 1 <<< (8 * (4 - front.length)) ≤ last then none
  else some (front.zipIdx.foldr (fun (n, i) sum => (n <<< (8 * (3 - i))) + sum) last)

def ipv4Text (n : Nat) : List Char :=
  joinWith '.' ([n >>> 24, (n >>> 16) % 256, (n >>> 8) % 256, n % 256].map fun k =>
    (Nat.repr k).toList)

def byte? (cs : List Char) : Option Nat :=
  let n := valueIn 10 cs
  if cs.isEmpty || !cs.all Double.isDigit || 255 < n || (cs.head? = some '0' && cs ≠ ['0']) then none
  else some n

def groups? : List (List Char) → Option (List Nat)
  | [] => some []
  | [last] =>
    if '.' ∈ last then do
      match ← (splitOn '.' last).mapM byte? with
      | [a, b, c, d] => some [256 * a + b, 256 * c + d]
      | _ => none
    else if last.isEmpty || 4 < last.length || !last.all isHex then none
    else some [valueIn 16 last]
  | g :: gs =>
    if g.isEmpty || 4 < g.length || !g.all isHex then none
    else (groups? gs).map (valueIn 16 g :: ·)

def groupsOf? (cs : List Char) : Option (List Nat) :=
  if cs.isEmpty then some [] else groups? (splitOn ':' cs)

/-- The eight groups of an address. Two colons stand for as many zeros as are missing. -/
def ipv6? (cs : List Char) : Option (List Nat) :=
  match Text.cut? [':', ':'] cs with
  | none => do
    let gs ← groupsOf? cs
    if gs.length = 8 then some gs else none
  | some (before, after) => do
    let front ← if '.' ∈ before then none else groupsOf? before
    let back ← groupsOf? after
    let n := front.length + back.length
    if 8 ≤ n then none else some (front ++ List.replicate (8 - n) 0 ++ back)

def zerosAt (gs : List Nat) (i : Nat) : Nat := ((gs.drop i).takeWhile (· == 0)).length

def longestZeros (gs : List Nat) : Option (Nat × Nat) :=
  (List.range gs.length).foldl (fun best i =>
    let n := zerosAt gs i
    if n < 2 then best
    else match best with
      | some (_, m) => if m < n then some (i, n) else best
      | none => some (i, n)) none

def groupText (n : Nat) : List Char := Nat.toDigits 16 n

def ipv6Text (gs : List Nat) : List Char :=
  let write (gs : List Nat) := joinWith ':' (gs.map groupText)
  match longestZeros gs with
  | none => write gs
  | some (i, n) => write (gs.take i) ++ [':', ':'] ++ write (gs.drop (i + n))

def host? (cs : List Char) : Option (List Char) := do
  match cs with
  | '[' :: rest =>
    let gs ← (Text.stripEnd? [']'] rest).bind ipv6?
    some ('[' :: (ipv6Text gs ++ [']']))
  | cs =>
    let domain ← Domain.ascii? (← decode? cs)
    if endsInNumber domain then (ipv4? domain).map ipv4Text else some domain

def opaqueHost? (cs : List Char) : Option (List Char) :=
  match cs with
  | '[' :: rest => do
    let gs ← (Text.stripEnd? [']'] rest).bind ipv6?
    some ('[' :: (ipv6Text gs ++ [']']))
  | cs =>
    if cs.any fun c => c.toNat = 0 || c = ' ' || "#/:<>?@[\\]^|".toList.contains c then none
    else some (encode (fun _ => false) cs)

end ChatTurn.Url
