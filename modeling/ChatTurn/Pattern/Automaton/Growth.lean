import ChatTurn.Pattern.Automaton.Chars
import ChatTurn.Pattern.Automaton.Words
import ChatTurn.Pattern.Normal

namespace ChatTurn.Pattern.Automaton

open Unicode (Span)

/-- The size with a part added, unless that is too much, and whether the part ends in a fork. -/
abbrev Growth := Size → Option (Size × Bool)

def part (states lists : Nat) : Growth := fun s => do some (← s.add? states lists, false)

def ofSize (f : Size → Size) : Growth := fun s => do some (← (f s).add? 0 0, false)

def both (g h : Growth) : Growth := fun s => do
  let (s, forks) ← g s
  let (s, last) ← h s
  some (← s.link? forks, last)

def copies (g : Growth) : Nat → Bool → Growth
  | 0, forks, s => some (s, forks)
  | n + 1, forks, s =>
    match g s with
    | none => none
    | some (s, last) =>
      match s.link? forks with
      | none => none
      | some s => copies g n last s

def exactly (g : Growth) : Nat → Growth
  | 0 => part 1 0
  | n + 1 => fun s => do
    let (s, forks) ← g s
    copies g n forks s

def optional (g : Growth) : Growth := fun s => do
  let (s, forks) ← g (← s.add? 1 (Size.choices 2))
  some (← (← s.link? forks).add? 1 0, false)

def upTo (g : Growth) : Nat → Bool → Growth
  | 0, forks, s => do some (← s.link? forks, false)
  | n + 1, forks, s =>
    match (s.link? forks).bind (·.add? 1 (Size.choices 2)) with
    | none => none
    | some s =>
      match g s with
      | none => none
      | some (s, last) => upTo g n last s

def bounded (g : Growth) (min max : Nat) : Growth := fun s => do
  let (s, forks) ← exactly g min s
  upTo g (max - min) forks (← s.add? 1 0)

/-- Any number of copies. A part that may match nothing needs more states, so that it is not read
again and again. -/
def star (g : Growth) (nullable : Bool) : Growth := fun s =>
  if nullable then do
    let (s, forks) ← g s
    some (← (← s.link? forks).add? 3 (Size.choices 4), false)
  else do
    let (s, forks) ← g (← s.add? 1 (Size.choices 1))
    some (← s.link? forks, true)

def plus (g : Growth) : Growth := fun s => do
  let (s, forks) ← g s
  some (← (← s.link? forks).add? 1 (Size.choices 1), true)

def fork : List Growth → Growth
  | [] => part 1 0
  | [g] => g
  | g :: h :: rest => fun s => do
    let (s, forks) ← g s
    let (s, forks') ← h (← s.link? forks)
    let s ← (← s.link? forks').add? 2 (Size.choices 2)
    let s ← rest.foldlM (fun s g => do
      let (s, forks) ← g s
      (← s.link? forks).add? 0 (Size.choices 1)) s
    some (s, false)

def repetition (g : Growth) (nullable : Bool) (min : Nat) : Option Nat → Growth
  | none =>
    match min with
    | 0 => star g nullable
    | 1 => plus g
    | n + 2 => both (exactly g (n + 1)) (plus g)
  | some max =>
    if min = 0 ∧ max = 1 then optional g
    else if min = max then exactly g min
    else bounded g min max

def wordOf (cs : List Char) : Word := cs.flatMap fun c => (Span.bytes c.toNat)

def words? (d : Direction) : Pattern → Option (List Word)
  | literal cs => some [if d = .forward then wordOf cs else (wordOf cs).reverse]
  | alt p q => do some ((← words? d p) ++ (← words? d q))
  | _ => none

def growths (d : Direction) : Pattern → Growth × List Growth
  | alt p q =>
    let branches := (growths d p).1 :: (growths d q).2
    match words? d (alt p q) with
    | some ws =>
      let size := wordsSize ws
      (part size.states size.lists, branches)
    | none => (fork branches, branches)
  | empty | anchor _ => single (part 1 0)
  | literal cs => single (part (utf8Length cs) 0)
  | set a _ =>
    if a.isAscii then single (part 2 (Size.transitions a.spans.size))
    else
      let rows := a.rows
      single (ofSize (addRows d rows))
  | cat p q =>
    let g := (growths d p).1
    let h := (growths d q).1
    single (if d = .forward then both g h else both h g)
  | repeated p min max _ =>
    single (repetition (growths d p).1 (minLength p = some 0 || minLength p = none) min max)
  | group _ _ p =>
    let g := (growths d p).1
    single (if d = .forward then marked g else g)
where
  single (g : Growth) : Growth × List Growth := (g, [g])
  marked (g : Growth) : Growth := both (both (part 1 0) g) (part 1 0)

/-- The whole automaton: what passes over text before a match, unless a match is bound to where
reading begins; the pattern, as the group that stands for all of it; and the final state. -/
def whole (d : Direction) (p : Pattern) : Growth := fun s => do
  let bound := if d = .forward then isAtStart p else isAtEnd p
  let s ← if bound then s.add? 1 0 else s.add? 3 (Size.transitions 1 + Size.choices 2)
  let g := (growths d p).1
  both (if d = .forward then growths.marked g else g) (part 1 0) s

def fits (p : Pattern) : Bool := (whole .backward p {}).isSome && (whole .forward p {}).isSome

end ChatTurn.Pattern.Automaton
