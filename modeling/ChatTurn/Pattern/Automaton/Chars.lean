import Std.Data.HashMap
import ChatTurn.Pattern.Automaton.Size
import ChatTurn.Unicode.Encoding

namespace ChatTurn.Pattern.Automaton

open Unicode (Row Span)

inductive Direction
  | forward
  | backward
  deriving DecidableEq

def slot (count : Nat) (key : List Nat) : Nat :=
  (key.foldl (fun h n => (h ^^^ n.toUInt64) * 1099511628211)
    (14695981039346656037 : UInt64)).toNat % count

/-- The size so far; in each slot the latest key and its state. -/
structure Sharing where
  size : Size
  slots : Std.HashMap Nat (List Nat × Nat) := {}

def Sharing.add (t : Sharing) (i : Nat) (key : List Nat) (lists : Nat) : Nat × Sharing :=
  let n := t.size.states
  (n, ⟨t.size.more 1 lists, t.slots.insert i (key, n)⟩)

def Sharing.state (t : Sharing) (count : Nat) (key : List Nat) (lists : Nat) : Nat × Sharing :=
  let i := slot count key
  match t.slots[i]? with
  | some (k, n) => if k = key then (n, t) else t.add i key lists
  | none => t.add i key lists

/-- The states of a row, from its last byte to its first; the next row is another choice of the
fork in front of all. -/
def addRow (goal : Nat) (t : Sharing) (row : Row) : Sharing :=
  let t := (row.foldl (fun (next, t) span => t.state 1000 [next, span.low, span.high] 0)
    (goal, t)).2
  { t with size := t.size.more 0 (Size.choices 1) }

def backwardSet (rows : List Row) (s : Size) : Size :=
  (rows.foldl (addRow (s.states + 1)) { size := s.more 2 0 }).size

/-- A state with its transitions, each as three numbers, and the one whose goal is still open. -/
structure Node where
  closed : List Nat
  last : Option Span

def Node.settle (node : Node) (next : Nat) : Node :=
  match node.last with
  | some s => ⟨node.closed ++ [s.low, s.high, next], none⟩
  | none => node

def close (goal : Nat) : List Node → Sharing → Nat × Sharing
  | [], t => (goal, t)
  | node :: deeper, t =>
    let (next, t) := close goal deeper t
    let key := (node.settle next).closed
    t.state 10000 key (Size.transitions (key.length / 3))

/-- The path of the next row, which leaves the path of the one before where they differ. -/
def extend (goal : Nat) : List Node → Row → Sharing → List Node × Sharing
  | [], row, t => (row.map fun s => ⟨[], some s⟩, t)
  | path, [], t => (path, t)
  | node :: deeper, span :: row, t =>
    if node.last = some span then
      let (deeper, t) := extend goal deeper row t
      (node :: deeper, t)
    else
      let (next, t) := close goal deeper t
      ({ node.settle next with last := some span } :: row.map fun s => ⟨[], some s⟩, t)

def forwardSet (rows : List Row) (s : Size) : Size :=
  let (path, t) := rows.foldl (fun (path, t) row => extend s.states path row t)
    ([⟨[], none⟩], { size := s.more 1 0 : Sharing })
  (close s.states path t).2.size

def addRows (d : Direction) (rows : List Row) (s : Size) : Size :=
  match d with
  | .forward => forwardSet rows s
  | .backward => backwardSet rows s

end ChatTurn.Pattern.Automaton
