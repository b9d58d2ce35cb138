import ChatTurn.Pattern.Basic

namespace ChatTurn.Pattern

open Unicode (CharSet Span)

def utf8Length (cs : List Char) : Nat := cs.foldr (fun c n => c.utf8Size + n) 0

def minLength : Pattern → Option Nat
  | empty | anchor _ => some 0
  | literal cs => some (utf8Length cs)
  | set a _ => a.spans[0]?.map fun s => Span.width s.low
  | cat p q => do some ((← minLength p) + (← minLength q))
  | alt p q => do some (Nat.min (← minLength p) (← minLength q))
  | repeated p min _ _ => (minLength p).map (· * min)
  | group _ _ p => minLength p

def maxLength : Pattern → Option Nat
  | empty | anchor _ => some 0
  | literal cs => some (utf8Length cs)
  | set a _ => a.spans.back?.map fun s => Span.width s.high
  | cat p q => do some ((← maxLength p) + (← maxLength q))
  | alt p q => do some (Nat.max (← maxLength p) (← maxLength q))
  | repeated p _ max _ => do some ((← maxLength p) * (← max))
  | group _ _ p => maxLength p

/-- Whether each match is plainly at the start of the text. -/
def isAtStart : Pattern → Bool
  | anchor a => a = .textStart
  | cat p q => isAtStart p || (maxLength p = some 0 && isAtStart q)
  | alt p q => isAtStart p && isAtStart q
  | repeated p min _ _ => 0 < min && isAtStart p
  | group _ _ p => isAtStart p
  | _ => false

def isAtEnd : Pattern → Bool
  | anchor a => a = .textEnd
  | cat p q => isAtEnd q || (maxLength q = some 0 && isAtEnd p)
  | alt p q => isAtEnd p && isAtEnd q
  | repeated p min _ _ => 0 < min && isAtEnd p
  | group _ _ p => isAtEnd p
  | _ => false

def never : Pattern := set .nothing true

def ofSet (chars : CharSet) (ascii : Bool) : Pattern :=
  if chars.isEmpty then never
  else match chars.only? with
    | some c => literal [c]
    | none => set chars ascii

/-- A part repeated. What has only empty matches needs no repetition beyond the first. -/
def times (p : Pattern) (min : Nat) (max : Option Nat) (greedy : Bool) : Pattern :=
  let (min, max) :=
    if maxLength p = some 0 then (Nat.min min 1, some (Nat.min (max.getD 1) 1)) else (min, max)
  if min = 0 ∧ max = some 0 then empty
  else if min = 1 ∧ max = some 1 then p
  else repeated p min max greedy

def factors : Pattern → List Pattern
  | empty => []
  | cat p q => p :: factors q
  | p => [p]

def branches : Pattern → List Pattern
  | alt p q => p :: branches q
  | p => [p]

def cats : List Pattern → Pattern
  | [] => empty
  | [p] => p
  | p :: ps => cat p (cats ps)

def alts : List Pattern → Pattern
  | [] => never
  | [p] => p
  | p :: ps => alt p (alts ps)

def attach (p : Pattern) (ps : List Pattern) : List Pattern :=
  match p, ps with
  | literal cs, literal ds :: rest => literal (cs ++ ds) :: rest
  | p, ps => p :: ps

def sequence (ps : List Pattern) : Pattern := cats ((ps.flatMap factors).foldr attach [])

def char? : Pattern → Option Char
  | literal [c] => some c
  | _ => none

def set? : Pattern → Option CharSet
  | set chars _ => some chars
  | _ => none

def sequence? : Pattern → Option (List Pattern)
  | cat p q => some (p :: factors q)
  | _ => none

def commonFront : List Pattern → List Pattern → List Pattern
  | p :: ps, q :: qs => if p = q then p :: commonFront ps qs else []
  | _, _ => []

def sharedFront : List (List Pattern) → List Pattern
  | [] => []
  | [ps] => ps
  | ps :: rest => commonFront ps (sharedFront rest)

/-- Branches as one pattern. What sequences share at the front is taken out of the choice; each
round of that shortens the sequences. -/
def choose : Nat → List Pattern → Pattern
  | 0, ps => alts ps
  | fuel + 1, ps =>
    let ps := ps.flatMap branches
    if ps.length < 2 then alts ps
    else if let some cs := ps.mapM char? then
      ofSet (.ofSpans (cs.map fun c => ⟨c.toNat, c.toNat⟩)) false
    else if let some sets := ps.mapM set? then ofSet (.unions sets) false
    else if let some rows := ps.mapM sequence? then
      let front := sharedFront rows
      if front.isEmpty then alts ps
      else
        sequence (front ++ [choose fuel (rows.map fun row => sequence (row.drop front.length))])
    else alts ps

def choice (ps : List Pattern) : Pattern :=
  choose (ps.foldr (fun p n => p.factors.length + n) 1) ps

end ChatTurn.Pattern
