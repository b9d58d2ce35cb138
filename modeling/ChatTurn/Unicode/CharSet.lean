namespace ChatTurn.Unicode

/-- The code points from `low` to `high`. -/
structure Span where
  low : Nat
  high : Nat
  deriving DecidableEq

namespace Span

def has (s : Span) (n : Nat) : Bool := s.low ≤ n && n ≤ s.high

def between (m n : Nat) : Span := ⟨Nat.min m n, Nat.max m n⟩

def inter? (s t : Span) : Option Span :=
  let low := Nat.max s.low t.low
  let high := Nat.min s.high t.high
  if low ≤ high then some ⟨low, high⟩ else none

/-- The code point of the next character; no characters lie between U+D7FF and U+E000. -/
def above (n : Nat) : Nat := if n = 0xD7FF then 0xE000 else n + 1

def below (n : Nat) : Nat := if n = 0xE000 then 0xD7FF else n - 1

def minus (s t : Span) : List Span :=
  if (s.inter? t).isNone then [s]
  else (if s.low < t.low then [⟨s.low, below t.low⟩] else []) ++
    (if t.high < s.high then [⟨above t.high, s.high⟩] else [])

def join : Span → List Span → List Span
  | s, [] => [s]
  | s, t :: rest =>
    if t.low ≤ s.high + 1 then join ⟨s.low, Nat.max s.high t.high⟩ rest
    else s :: join t rest

/-- What lies between a span and each that follows, and behind the last up to `top`. -/
def gaps (top : Nat) : Span → List Span → List Span
  | s, [] => if s.high < top then [⟨above s.high, top⟩] else []
  | s, t :: rest => between (above s.high) (below t.low) :: gaps top t rest

def width (n : Nat) : Nat :=
  if n < 0x80 then 1 else if n < 0x800 then 2 else if n < 0x10000 then 3 else 4

def hexNat (cs : List Char) : Nat :=
  cs.foldl (fun n c => 16 * n + (if c ≤ '9' then c.toNat - 48 else c.toNat - 55)) 0

def isHex (c : Char) : Bool := decide ('0' ≤ c ∧ c ≤ '9') || decide ('A' ≤ c ∧ c ≤ 'F')

/-- Reads `low-high`; a lone code point stands for itself. What follows comes second. -/
def ofText (cs : List Char) : Span × List Char :=
  let low := hexNat (cs.takeWhile isHex)
  match cs.dropWhile isHex with
  | '-' :: cs => (⟨low, hexNat (cs.takeWhile isHex)⟩, cs.dropWhile isHex)
  | cs => (⟨low, low⟩, cs)

def every (s : Span) (step : Nat) : List Nat :=
  (List.range ((s.high - s.low) / step + 1)).map (s.low + step * ·)

def words (lines : List String) : List (List Char) :=
  lines.flatMap fun s =>
    (s.toList.splitBy fun a b => (a == ' ') == (b == ' ')).filter (·.head? != some ' ')

def ofWord (cs : List Char) : List Span :=
  match ofText cs with
  | (s, '/' :: cs) => (s.every (hexNat cs)).map fun n => ⟨n, n⟩
  | (s, _) => [s]

end Span

structure CharSet where
  spans : Array Span
  deriving DecidableEq

namespace CharSet

def toList (a : CharSet) : List Span := a.spans.toList

def isEmpty (a : CharSet) : Bool := a.spans.isEmpty

def ofSpans (ss : List Span) : CharSet :=
  match ss.mergeSort (fun s t => s.low ≤ t.low) with
  | [] => ⟨#[]⟩
  | s :: rest => ⟨(s.join rest).toArray⟩

def ofLines (lines : List String) : CharSet := ofSpans ((Span.words lines).flatMap Span.ofWord)

def search (spans : Array Span) (n : Nat) : Nat → Nat → Nat → Bool
  | 0, _, _ => false
  | fuel + 1, lo, hi =>
    if hi ≤ lo then false
    else
      let mid := (lo + hi) / 2
      match spans[mid]? with
      | none => false
      | some s =>
        if n < s.low then search spans n fuel lo mid
        else if s.high < n then search spans n fuel (mid + 1) hi
        else true

/-- The search halves the spans at each step. -/
def has (a : CharSet) (n : Nat) : Bool := search a.spans n (a.spans.size.log2 + 2) 0 a.spans.size

def nothing : CharSet := ⟨#[]⟩

def range (low high : Nat) : CharSet := ⟨#[⟨low, high⟩]⟩

def top : Nat := 0x10FFFF

def everything : CharSet := range 0 top

def single (c : Char) : CharSet := range c.toNat c.toNat

def only? (a : CharSet) : Option Char :=
  match a.toList with
  | [s] => if s.low = s.high then some (Char.ofNat s.low) else none
  | _ => none

def union (a b : CharSet) : CharSet := ofSpans (a.toList ++ b.toList)

def unions (sets : List CharSet) : CharSet := ofSpans (sets.flatMap toList)

def inter (a b : CharSet) : CharSet :=
  ⟨(a.toList.flatMap fun s => b.toList.filterMap s.inter?).toArray⟩

def diff (a b : CharSet) : CharSet :=
  ⟨(a.toList.flatMap fun s =>
    (b.toList.filter fun t => (s.inter? t).isSome).foldl
      (fun left t => left.flatMap fun u => u.minus t) [s]).toArray⟩

def symmDiff (a b : CharSet) : CharSet := diff (union a b) (inter a b)

def complUpTo (top : Nat) (a : CharSet) : CharSet :=
  match a.toList with
  | [] => range 0 top
  | s :: rest =>
    let front := if 0 < s.low then [Span.mk 0 (Span.below s.low)] else []
    ⟨(front ++ s.gaps top rest).toArray⟩

def compl (a : CharSet) : CharSet := complUpTo top a

def negateIf (negated : Bool) (a : CharSet) : CharSet := if negated then compl a else a

def isAscii (a : CharSet) : Bool := a.spans.back?.all (·.high < 128)

/-- Adds to each member the code points that a table lists with it. -/
def close (table : List (Nat × List Nat)) (a : CharSet) : CharSet :=
  ofSpans (a.toList ++ table.flatMap fun (n, ms) =>
    if a.has n then ms.map fun m => Span.mk m m else [])

def named? (name : String) (table : List (List String × CharSet)) : Option CharSet :=
  (table.find? fun row => name ∈ row.1).map (·.2)

end CharSet

end ChatTurn.Unicode
