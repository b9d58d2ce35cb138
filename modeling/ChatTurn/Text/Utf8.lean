namespace ChatTurn.Utf8

/-- The rest of a character of which `n` more bytes are due, each with six bits of it. The next one
lies between `low` and `high`. -/
def continued (n low high : Nat) (value : Nat) (bytes : List UInt8) : Option Char × List UInt8 :=
  match n, bytes with
  | 0, bytes => (some (Char.ofNat value), bytes)
  | _ + 1, [] => (none, [])
  | n + 1, b :: bytes =>
    if low ≤ b.toNat ∧ b.toNat ≤ high then
      continued n 0x80 0xBF (64 * value + b.toNat % 64) bytes
    else (none, b :: bytes)

/-- A character by its first byte, or none where the bytes are not one; and what follows. The
bounds on the second byte keep out long forms, surrogates and what lies beyond Unicode. -/
def next (b : UInt8) (bytes : List UInt8) : Option Char × List UInt8 :=
  let n := b.toNat
  if n < 0x80 then (some (Char.ofNat n), bytes)
  else if n < 0xC2 then (none, bytes)
  else if n < 0xE0 then continued 1 0x80 0xBF (n - 0xC0) bytes
  else if n < 0xF0 then
    continued 2 (if n = 0xE0 then 0xA0 else 0x80) (if n = 0xED then 0x9F else 0xBF) (n - 0xE0) bytes
  else if n < 0xF5 then
    continued 3 (if n = 0xF0 then 0x90 else 0x80) (if n = 0xF4 then 0x8F else 0xBF) (n - 0xF0) bytes
  else (none, bytes)

theorem length_continued (n low high value : Nat) (bytes : List UInt8) :
    (continued n low high value bytes).2.length ≤ bytes.length := by
  fun_induction continued n low high value bytes with
  | case1 | case2 => simp
  | case3 low high value n b bytes h ih =>
      simp only [List.length_cons]
      omega
  | case4 => simp

theorem length_next (b : UInt8) (bytes : List UInt8) :
    (next b bytes).2.length ≤ bytes.length := by
  unfold next
  grind [length_continued]

def decode : List UInt8 → List (Option Char)
  | [] => []
  | b :: bytes => (next b bytes).1 :: decode (next b bytes).2
termination_by bytes => bytes.length
decreasing_by
  have := length_next b bytes
  simp only [List.length_cons]
  omega

def valid (bytes : List UInt8) : List Char := ((decode bytes).takeWhile Option.isSome).filterMap id

def isValid (bytes : List UInt8) : Bool := (decode bytes).all Option.isSome

def replacement : Char := '\uFFFD'

def lossy (bytes : List UInt8) : List Char := (decode bytes).map (·.getD replacement)

end ChatTurn.Utf8
