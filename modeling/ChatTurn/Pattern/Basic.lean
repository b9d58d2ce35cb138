import ChatTurn.Pattern.Class

namespace ChatTurn

inductive Anchor
  | textStart
  | textEnd
  | lineStart
  | lineEnd
  /-- Lines may also end in a carriage return, alone or before a line feed. -/
  | anyLineStart
  | anyLineEnd
  /-- Whether a word is before the place, and whether one is after it; `none` leaves that open. -/
  | words (ascii : Bool) (before after : Option Bool)
  | boundary (ascii : Bool) (holds : Bool)
  deriving DecidableEq

inductive Pattern
  | empty
  | literal (cs : List Char)
  | set (chars : Unicode.CharSet) (ascii : Bool)
  | anchor (a : Anchor)
  | cat (p q : Pattern)
  | alt (p q : Pattern)
  /-- At least `min` times, and at most `max` times if that is given; `greedy` if rather more times
  than fewer. -/
  | repeated (p : Pattern) (min : Nat) (max : Option Nat) (greedy : Bool)
  | group (index : Nat) (name : Option (List Char)) (p : Pattern)
  deriving DecidableEq

namespace Anchor

def isWord (ascii : Bool) (c : Option Char) : Bool :=
  match c with
  | none => false
  | some c => if ascii then Pattern.Class.asciiWord.has c.toNat else Pattern.Class.word.has c.toNat

def holds (before after : Option Char) : Anchor → Bool
  | textStart => before.isNone
  | textEnd => after.isNone
  | lineStart => before.isNone || before == some '\n'
  | lineEnd => after.isNone || after == some '\n'
  | anyLineStart =>
    before.isNone || before == some '\n' || (before == some '\r' && after != some '\n')
  | anyLineEnd =>
    after.isNone || after == some '\r' || (after == some '\n' && before != some '\r')
  | words ascii b a =>
    (b.isNone || b == some (isWord ascii before)) && (a.isNone || a == some (isWord ascii after))
  | boundary ascii expected => (isWord ascii before != isWord ascii after) == expected

end Anchor

namespace Pattern

abbrev Places := List Nat

def merge : Nat → Places → Places → Places
  | 0, _, _ => []
  | _, [], bs => bs
  | _, as, [] => as
  | fuel + 1, a :: as, b :: bs =>
    if a < b then a :: merge fuel as (b :: bs)
    else if b < a then b :: merge fuel (a :: as) bs
    else a :: merge fuel as bs

def Places.union (as bs : Places) : Places := merge (as.length + bs.length) as bs

def without : Nat → Places → Places → Places
  | 0, _, _ => []
  | _, [], _ => []
  | _, as, [] => as
  | fuel + 1, a :: as, b :: bs =>
    if a < b then a :: without fuel as (b :: bs)
    else if b < a then without fuel (a :: as) bs
    else without fuel as bs

def Places.diff (as bs : Places) : Places := without (as.length + bs.length) as bs

/-- `n` steps, one after the other. A step that changes nothing is the last that counts. -/
def exactly (step : Places → Places) : Nat → Places → Places
  | 0, ps => ps
  | n + 1, ps =>
    let next := step ps
    if next = ps then ps else exactly step n next

/-- What up to `n` steps reach. Each step goes on from the places that are new. -/
def upTo (step : Places → Places) : Nat → Places → Places → Places
  | 0, seen, _ => seen
  | n + 1, seen, new =>
    let next := Places.diff (step new) seen
    if next.isEmpty then seen else upTo step n (seen.union next) next

def standsAt (text : Array Char) : List Char → Nat → Bool
  | [], _ => true
  | c :: cs, i => text[i]? == some c && standsAt text cs (i + 1)

/-- The places where matches end that begin at the given places. -/
def advance (text : Array Char) : Pattern → Places → Places
  | empty, ps => ps
  | literal cs, ps => ps.filterMap fun i =>
    if standsAt text cs i then some (i + cs.length) else none
  | set chars _, ps => ps.filterMap fun i =>
    match text[i]? with
    | some c => if chars.has c.toNat then some (i + 1) else none
    | none => none
  | anchor a, ps => ps.filter fun i =>
    a.holds (if i = 0 then none else text[i - 1]?) text[i]?
  | cat p q, ps => advance text q (advance text p ps)
  | alt p q, ps => (advance text p ps).union (advance text q ps)
  | repeated p min max _, ps =>
    let reached := exactly (advance text p) min ps
    let more := match max with
      | some max => Nat.min (max - min) (text.size + 1)
      | none => text.size + 1
    upTo (advance text p) more reached reached
  | group _ _ p, ps => advance text p ps

/-- Whether a match stands anywhere in a text. -/
def occursIn (p : Pattern) (s : String) : Bool :=
  let text := s.toList.toArray
  !(p.advance text (List.range (text.size + 1))).isEmpty

end Pattern

end ChatTurn
