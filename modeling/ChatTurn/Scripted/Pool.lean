namespace ChatTurn

inductive Stage
  | waiting
  | running
  | ended
  deriving DecidableEq

structure Generation (α : Type) where
  stage : Stage := .waiting
  unsent : List α
  buffer : List α := []
  isDropped : Bool := false

structure Pool (α : Type) where
  limit : Nat
  available : Nat := limit
  isClosed : Bool := false
  refusal : α
  generations : List (Generation α) := []

inductive Move
  | acquire
  | refuse
  | send
  | finish
  | cancel
  deriving DecidableEq

inductive Reading (α : Type)
  | item (a : α)
  | pending
  | over

namespace Pool

variable {α : Type}

/-- How many items a buffer holds. -/
def capacity : Nat := 64

def moved? (p : Pool α) (g : Generation α) : Move → Option (Generation α × Nat)
  | .acquire =>
    if g.stage = .waiting ∧ ¬ p.isClosed ∧ 0 < p.available then
      some ({ g with stage := .running }, p.available - 1)
    else none
  | .refuse =>
    if g.stage = .waiting ∧ p.isClosed then
      some ({ g with stage := .ended, unsent := [], buffer := [p.refusal] }, p.available)
    else none
  | .send =>
    match g.unsent with
    | [] => none
    | a :: rest =>
      if g.stage = .running ∧ ¬ g.isDropped ∧ g.buffer.length < capacity then
        some ({ g with unsent := rest, buffer := g.buffer ++ [a] }, p.available)
      else none
  | .finish =>
    if g.stage = .running ∧ g.unsent.isEmpty then some ({ g with stage := .ended }, p.available + 1)
    else none
  | .cancel =>
    if g.isDropped ∧ g.stage ≠ .ended then
      some ({ g with stage := .ended, unsent := [], buffer := [] },
        if g.stage = .running then p.available + 1 else p.available)
    else none

def move? (p : Pool α) (i : Nat) (m : Move) : Option (Pool α) := do
  let g ← p.generations[i]?
  let (g, available) ← p.moved? g m
  some { p with available, generations := p.generations.set i g }

def moveOf? (p : Pool α) (i : Nat) : Option (Pool α) :=
  [Move.cancel, .refuse, .acquire, .send, .finish].findSome? (p.move? i)

/-- One move, by the first generation that can make one; so permits go in the order of arrival. -/
def step? (p : Pool α) : Option (Pool α) := (List.range p.generations.length).findSome? p.moveOf?

/-- At least as many moves as can be made before a reader comes. -/
def work (p : Pool α) : Nat := p.generations.foldr (fun g n => g.unsent.length + 2 + n) 0

def run : Nat → Pool α → Pool α
  | 0, p => p
  | fuel + 1, p =>
    match p.step? with
    | none => p
    | some p => run fuel p

def settle (p : Pool α) : Pool α := run p.work p

def update (p : Pool α) (i : Nat) (f : Generation α → Generation α) : Pool α :=
  { p with generations := p.generations.modify i f }

/-- Starts a generation, which is known by its place from then on. -/
def enter (p : Pool α) (items : List α) : Pool α × Nat :=
  ({ p with generations := p.generations ++ [{ unsent := items }] }, p.generations.length)

def receive (p : Pool α) (i : Nat) : Reading α × Pool α :=
  match p.generations[i]? with
  | none => (.over, p)
  | some g =>
    match g.buffer with
    | a :: rest => (.item a, p.update i fun g => { g with buffer := rest })
    | [] => if g.stage = .ended then (.over, p) else (.pending, p)

def drop (p : Pool α) (i : Nat) : Pool α := p.update i fun g => { g with isDropped := true, buffer := [] }

def close (p : Pool α) : Pool α := { p with isClosed := true }

def active (p : Pool α) : Nat := p.limit - p.available

def readings : Nat → Pool α → Nat → List (Reading α) × Pool α
  | 0, p, _ => ([], p)
  | n + 1, p, i =>
    let (first, p) := p.settle.receive i
    let (rest, p) := readings n p i
    (first :: rest, p)

/-- The items of a stream that is read to the end. -/
def readAll : Nat → Pool α → Nat → List α × Pool α
  | 0, p, _ => ([], p)
  | fuel + 1, p, i =>
    match p.settle.receive i with
    | (.item a, p) =>
      let (rest, p) := readAll fuel p i
      (a :: rest, p)
    | (_, p) => ([], p)

/-- The most items that a stream can still bring. -/
def remaining (p : Pool α) (i : Nat) : Nat :=
  match p.generations[i]? with
  | none => 0
  | some g => g.buffer.length + g.unsent.length + 1

end Pool

end ChatTurn
