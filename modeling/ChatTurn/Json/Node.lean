import ChatTurn.Json.Number
import ChatTurn.Ordered

namespace ChatTurn.Json

inductive Node
  | null
  | bool (b : Bool)
  | number (literal : Literal)
  | string (text : Option String)
  | array (items : List Node)
  | object (members : List (Option String × Node))

/-- A dynamic value: keys are distinct, in the order of their first appearance. -/
inductive Value
  | null
  | bool (b : Bool)
  | number (n : Number)
  | string (text : String)
  | array (items : List Value)
  | object (members : List (String × Value))
  deriving Inhabited

def maxDepth : Nat := 128

mutual

/-- The value of a node under `depth` enclosing containers. Of a repeated key the last value
counts, at the first place. -/
def Node.value? (depth : Nat) : Node → Option Value
  | .null => some .null
  | .bool b => some (.bool b)
  | .number l => l.number?.map .number
  | .string s => s.map .string
  | .array items =>
    if depth + 1 < maxDepth then (Node.values? (depth + 1) items).map .array else none
  | .object members =>
    if depth + 1 < maxDepth then
      (Node.entries? (depth + 1) members).map fun es => .object (Ordered.ofList es)
    else none

def Node.values? (depth : Nat) : List Node → Option (List Value)
  | [] => some []
  | n :: ns => do
    let v ← Node.value? depth n
    let vs ← Node.values? depth ns
    some (v :: vs)

def Node.entries? (depth : Nat) : List (Option String × Node) → Option (List (String × Value))
  | [] => some []
  | (k, n) :: ns => do
    let k ← k
    let v ← Node.value? depth n
    let es ← Node.entries? depth ns
    some ((k, v) :: es)

end

mutual

/-- Every number of a node under `depth` enclosing containers is in range, every string has a text,
and the containers are not too deep. -/
def Node.isSound (depth : Nat) : Node → Bool
  | .null | .bool _ => true
  | .number l => l.number?.isSome
  | .string s => s.isSome
  | .array items => decide (depth + 1 < maxDepth) && Node.areSound (depth + 1) items
  | .object members => decide (depth + 1 < maxDepth) && Node.membersAreSound (depth + 1) members

def Node.areSound (depth : Nat) : List Node → Bool
  | [] => true
  | n :: ns => n.isSound depth && Node.areSound depth ns

def Node.membersAreSound (depth : Nat) : List (Option String × Node) → Bool
  | [] => true
  | (k, n) :: ms => k.isSome && n.isSound depth && Node.membersAreSound depth ms

end

end ChatTurn.Json
