import ChatTurn.Tool.Name
import ChatTurn.Tool.Argument

namespace ChatTurn

structure Invocation where
  name : ToolName
  arguments : Arguments

structure ToolCall extends Invocation where
  id : String

/-- Distinct ids for calls that come without one. -/
abbrev IdSupply := Nat → String

namespace Invocation

def same (a b : Invocation) : Bool := a.name == b.name && Arguments.same a.arguments b.arguments

def withId (i : Invocation) (id : String) : ToolCall := ⟨i, id⟩

end Invocation

namespace ToolCall

def same (a b : ToolCall) : Bool := a.id == b.id && a.toInvocation.same b.toInvocation

end ToolCall

/-- The ids of `calls` are the supply's from its `first` on. -/
def numbered (ids : IdSupply) (first : Nat) : List Invocation → List ToolCall
  | [] => []
  | i :: is => i.withId (ids first) :: numbered ids (first + 1) is

namespace IdSupply

def counting (lead : String) : IdSupply := fun n =>
  let digits := Nat.repr (n % Nat.pow 10 12)
  lead ++ String.ofList (List.replicate (12 - digits.length) '0') ++ digits

def even (ids : IdSupply) : IdSupply := fun n => ids (2 * n)

def odd (ids : IdSupply) : IdSupply := fun n => ids (2 * n + 1)

end IdSupply

end ChatTurn
