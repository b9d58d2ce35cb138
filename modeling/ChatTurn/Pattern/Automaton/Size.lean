import ChatTurn.Pattern.Fault

namespace ChatTurn.Pattern

structure Size where
  states : Nat := 0
  lists : Nat := 0

namespace Size

/-- A state takes 32 bytes without what it lists. -/
def bytes (s : Size) : Nat := 32 * s.states + s.lists

def more (s : Size) (states lists : Nat) : Size := ⟨s.states + states, s.lists + lists⟩

def add? (s : Size) (states lists : Nat) : Option Size :=
  let s := s.more states lists
  if s.bytes ≤ sizeLimit then some s else none

def transitions (n : Nat) : Nat := 8 * n

def choices (n : Nat) : Nat := 4 * n

/-- Goes on from a part to another state, which a fork at the end of the part has to list. -/
def link? (s : Size) (forks : Bool) : Option Size := s.add? 0 (choices forks.toNat)

end Size

end ChatTurn.Pattern
