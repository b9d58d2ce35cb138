import ChatTurn.Json.Node
import ChatTurn.Json.Writer

namespace ChatTurn

inductive Argument
  | null
  | bool (b : Bool)
  | integer (n : Int64)
  | float (x : Double)
  | string (s : String)
  | list (items : List Argument)
  | map (entries : List (String × Argument))
  deriving Inhabited

abbrev Arguments := Ordered Argument

def int64? (i : Int) : Option Int64 :=
  if Int64.minValue.toInt ≤ i ∧ i ≤ Int64.maxValue.toInt then some (Int64.ofInt i) else none

namespace Argument

def string? : Argument → Option String
  | string s => some s
  | _ => none

/-- An integer out of the signed range becomes a float. -/
def ofNumber : Json.Number → Argument
  | .integer i => match int64? i with
    | some n => integer n
    | none => float (Double.ofInt i)
  | .double x => float x

mutual

def ofValue : Json.Value → Argument
  | .null => null
  | .bool b => bool b
  | .number n => ofNumber n
  | .string s => string s
  | .array items => list (ofValues items)
  | .object members => map (ofMembers members)

def ofValues : List Json.Value → List Argument
  | [] => []
  | v :: vs => ofValue v :: ofValues vs

def ofMembers : List (String × Json.Value) → List (String × Argument)
  | [] => []
  | (k, v) :: ms => (k, ofValue v) :: ofMembers ms

end

mutual

def toValue : Argument → Json.Value
  | null => .null
  | bool b => .bool b
  | integer n => .number (.integer n.toInt)
  | float x => Json.Value.ofDouble x
  | string s => .string s
  | list items => .array (toValues items)
  | map entries => .object (toMembers entries)

def toValues : List Argument → List Json.Value
  | [] => []
  | a :: as => toValue a :: toValues as

def toMembers : List (String × Argument) → List (String × Json.Value)
  | [] => []
  | (k, a) :: es => (k, toValue a) :: toMembers es

end

mutual

/-- Equality of values: floats compare as numbers, and the order of a map's keys does not count. -/
def same : Argument → Argument → Bool
  | null, null => true
  | bool a, bool b => a == b
  | integer a, integer b => a == b
  | float a, float b => a.same b
  | string a, string b => a == b
  | list as, list bs => sameList as bs
  | map as, map bs => as.length == bs.length && sameEntries as bs
  | _, _ => false

def sameList : List Argument → List Argument → Bool
  | [], [] => true
  | a :: as, b :: bs => same a b && sameList as bs
  | _, _ => false

def sameEntries : List (String × Argument) → List (String × Argument) → Bool
  | [], _ => true
  | (k, a) :: as, bs =>
    (match Ordered.get? k bs with
      | some b => same a b
      | none => false) && sameEntries as bs

end

end Argument

namespace Arguments

def same (as bs : Arguments) : Bool := as.length == bs.length && Argument.sameEntries as bs

def toJson (as : Arguments) : Json.Value := .object (Argument.toMembers as)

end Arguments

end ChatTurn
