namespace ChatTurn.Url.Punycode

def digit (n : Nat) : Char := Char.ofNat (if n < 26 then 97 + n else 22 + n)

def digitValue? (c : Char) : Option Nat :=
  if 'a' ≤ c ∧ c ≤ 'z' then some (c.toNat - 97)
  else if '0' ≤ c ∧ c ≤ '9' then some (c.toNat - 22)
  else none

/-- Below the threshold of its place a digit is the last of its number. -/
def threshold (bias place : Nat) : Nat :=
  if place ≤ bias then 1 else if bias + 26 ≤ place then 26 else place - bias

theorem threshold_pos (bias place : Nat) : 0 < threshold bias place := by
  unfold threshold
  split
  · omega
  · split <;> omega

def biasOf (delta place : Nat) : Nat :=
  if 455 < delta then biasOf (delta / 35) (place + 36) else place + 36 * delta / (delta + 38)
termination_by delta
decreasing_by exact Nat.div_lt_self (by omega) (by omega)

/-- The bias after a number. The first number says less about those that follow. -/
def adapt (delta count : Nat) (first : Bool) : Nat :=
  let delta := if first then delta / 700 else delta / 2
  biasOf (delta + delta / count) 0

def digits (bias place n : Nat) : List Char :=
  let t := threshold bias place
  if n < t then [digit n]
  else digit (t + (n - t) % (36 - t)) :: digits bias (place + 36) ((n - t) / (36 - t))
termination_by n
decreasing_by
  have h := threshold_pos bias place
  exact Nat.lt_of_le_of_lt (Nat.div_le_self _ _) (by omega)

/-- How far a text is written: the distance since the last number, the bias for the next one, and
the count of the characters written. -/
structure Progress where
  delta : Nat := 0
  bias : Nat := 72
  count : Nat
  out : List Char := []

def Progress.pass (basic n : Nat) (p : Progress) (c : Nat) : Progress :=
  if c < n then { p with delta := p.delta + 1 }
  else if c = n then
    { delta := 0
      bias := adapt p.delta (p.count + 1) (p.count == basic)
      count := p.count + 1
      out := p.out ++ digits p.bias 36 p.delta }
  else p

def Progress.write (basic : Nat) (text : List Nat) (p : Progress) (least n : Nat) : Progress :=
  let p := { p with delta := p.delta + (n - least) * (p.count + 1) }
  let p := text.foldl (Progress.pass basic n) p
  { p with delta := p.delta + 1 }

def Progress.writeAll (basic : Nat) (text : List Nat) : Progress → Nat → List Nat → Progress
  | p, _, [] => p
  | p, least, n :: ns => writeAll basic text (p.write basic text least n) (n + 1) ns

def beyond (text : List Nat) : List Nat :=
  ((text.filter (128 ≤ ·)).mergeSort (· ≤ ·)).eraseReps

def encode (text : List Nat) : List Char :=
  let basic := (text.filter (· < 128)).map Char.ofNat
  let p := Progress.writeAll basic.length text { count := basic.length } 128 (beyond text)
  basic ++ (if basic.isEmpty then [] else ['-']) ++ p.out

/-- Adds a number to `n`, from the digit at a place on. Numbers beyond 32 bits are refused. -/
def number? (bias : Nat) : Nat → Nat → Nat → List Char → Option (Nat × List Char)
  | _, _, _, [] => none
  | place, weight, n, c :: cs => do
    let d ← digitValue? c
    let t := threshold bias place
    let n := n + d * weight
    if UInt32.size ≤ n ∨ UInt32.size ≤ weight then none
    else if d < t then some (n, cs)
    else number? bias (place + 36) (weight * (36 - t)) n cs

theorem length_of_number? {bias place weight n m : Nat} {cs rest : List Char}
    (h : number? bias place weight n cs = some (m, rest)) : rest.length < cs.length := by
  induction cs generalizing place weight n with
  | nil => simp [number?] at h
  | cons c cs ih =>
      rw [number?] at h
      cases hd : digitValue? c with
      | none => simp [hd] at h
      | some d =>
          simp only [hd, Option.bind_eq_bind, Option.bind_some] at h
          split at h
          · simp at h
          · split at h
            · simp only [Option.some.injEq, Prod.mk.injEq] at h
              simp [h.2]
            · exact Nat.lt_succ_of_lt (ih h)

/-- Reads the numbers and puts the characters in their places, `text` being what is read so far
and `n` and `i` the last code point and the place after it. -/
def insertAll (bias n i : Nat) (text : List Nat) (cs : List Char) : Option (List Nat) :=
  if cs.isEmpty then some text
  else match _h : number? bias 36 1 i cs with
    | none => none
    | some (j, rest) =>
      let count := text.length + 1
      let n := n + j / count
      if n.isValidChar then
        insertAll (adapt (j - i) count (i == 0)) n (j % count + 1) (text.insertIdx (j % count) n) rest
      else none
termination_by cs.length
decreasing_by exact length_of_number? _h

/-- The text that ASCII characters stand for. The last hyphen ends what stands for itself, and
comes only after some of it. -/
def decode? (cs : List Char) : Option (List Nat) :=
  if '-' ∈ cs then
    let rest := (cs.reverse.takeWhile (· ≠ '-')).reverse
    let basic := cs.take (cs.length - rest.length - 1)
    if basic.isEmpty then none else insertAll 72 128 0 (basic.map Char.toNat) rest
  else insertAll 72 128 0 [] cs

end ChatTurn.Url.Punycode
