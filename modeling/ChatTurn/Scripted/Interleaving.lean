import ChatTurn.Scripted.Pool

namespace ChatTurn

namespace Pool

variable {α : Type}

inductive Occurrence (α : Type)
  | entered (items : List α)
  | moved (i : Nat) (m : Move)
  | read (i : Nat) (found : Reading α)
  | dropped (i : Nat)
  | closed

abbrev Trace (α : Type) := List (Occurrence α)

/-- One step. A stream that is dropped is neither read nor dropped again. -/
inductive Step (p : Pool α) : Occurrence α → Pool α → Prop
  | enter (items : List α) : Step p (.entered items) (p.enter items).1
  | move {i : Nat} {m : Move} {q : Pool α} (h : p.move? i m = some q) : Step p (.moved i m) q
  | read {i : Nat} {g : Generation α} (hi : p.generations[i]? = some g)
      (hd : g.isDropped = false) : Step p (.read i (p.receive i).1) (p.receive i).2
  | drop {i : Nat} {g : Generation α} (hi : p.generations[i]? = some g)
      (hd : g.isDropped = false) : Step p (.dropped i) (p.drop i)
  | close : Step p .closed p.close

inductive Run (p : Pool α) : Trace α → Pool α → Prop
  | nil : Run p [] p
  | concat {t : Trace α} {o : Occurrence α} {q q' : Pool α} (h : Run p t q) (hs : Step q o q') :
      Run p (t ++ [o]) q'

namespace Occurrence

def entered? : Occurrence α → Option (List α)
  | entered items => some items
  | _ => none

def move? (i : Nat) : Occurrence α → Option Move
  | moved j m => if j = i then some m else none
  | _ => none

def item? (i : Nat) : Occurrence α → Option α
  | read j (.item a) => if j = i then some a else none
  | _ => none

end Occurrence

namespace Trace

def entered (t : Trace α) : List (List α) := t.filterMap Occurrence.entered?

def moves (t : Trace α) (i : Nat) : List Move := t.filterMap (Occurrence.move? i)

def received (t : Trace α) (i : Nat) : List α := t.filterMap (Occurrence.item? i)

/-- A generation that was given a permit and has not ended since. -/
def holds (t : Trace α) (i : Nat) : Bool :=
  .acquire ∈ t.moves i && .finish ∉ t.moves i && .cancel ∉ t.moves i

def holders (t : Trace α) : List Nat := (List.range t.entered.length).filter t.holds

end Trace

end Pool

end ChatTurn
