import ChatTurn.Double.Basic
import ChatTurn.Ordered

namespace ChatTurn.Toml

inductive Origin
  | header
  | implied
  | dotted
  | inline
  deriving DecidableEq

inductive Item
  | string (s : String)
  | integer (i : Int)
  | bool (b : Bool)
  | float (x : Double)
  | moment (text : String)
  | array (items : List Item)
  | table (origin : Origin) (entries : List (String × Item))
  | tables (tables : List (List (String × Item)))

abbrev Entries := List (String × Item)

/-- Adds to the table at the end of a path. Missing tables on the way are made, and of an array of
tables the last is meant. A dotted key passes through no table that a header names. -/
def descend (dotted : Bool) : List String → (Origin → Entries → Option Entries) →
    Origin → Entries → Option Entries
  | [], add, origin, es => add origin es
  | k :: ks, add, _, es =>
    match Ordered.get? k es with
    | none => do
      let origin := if dotted then Origin.dotted else .implied
      let inner ← descend dotted ks add origin []
      some (Ordered.put k (.table origin inner) es)
    | some (.table origin inner) =>
      if origin = .inline || (dotted && origin = .header) then none
      else do
        let inner ← descend dotted ks add origin inner
        some (Ordered.put k (.table origin inner) es)
    | some (.tables ts) =>
      match ts.getLast? with
      | none => none
      | some last => do
        let last ← descend dotted ks add .header last
        some (Ordered.put k (.tables (ts.dropLast ++ [last])) es)
    | some _ => none

/-- A key with its value. A plain key belongs to a table that no dotted key made, and a dotted key
to one that only dotted keys make. -/
def addPair (path : List String) (value : Item) : Origin → Entries → Option Entries :=
  descend true path.dropLast fun origin es =>
    match path.getLast? with
    | none => none
    | some k =>
      if (origin = .dotted ∧ path.dropLast = []) ∨ (origin ≠ .dotted ∧ path.dropLast ≠ []) then none
      else if (Ordered.get? k es).isSome then none
      else some (es ++ [(k, value)])

/-- A table's header. A table is named once. -/
def addTable (path : List String) (es : Entries) : Option Entries :=
  descend false path.dropLast (fun _ es => do
    let k ← path.getLast?
    match Ordered.get? k es with
    | none => some (es ++ [(k, .table .header [])])
    | some (.table .implied inner) => some (Ordered.put k (.table .header inner) es)
    | some _ => none) .header es

def addElement (path : List String) (es : Entries) : Option Entries :=
  descend false path.dropLast (fun _ es => do
    let k ← path.getLast?
    match Ordered.get? k es with
    | none => some (es ++ [(k, .tables [[]])])
    | some (.tables ts) => some (Ordered.put k (.tables (ts ++ [[]])) es)
    | some _ => none) .header es

def addUnder (header path : List String) (value : Item) (es : Entries) : Option Entries :=
  descend false header (addPair path value) .header es

end ChatTurn.Toml
