import ChatTurn.Json.Parser

namespace ChatTurn.Json

/-- Where a node is read: in the text itself, in a copy whose variant a tag names, or in a copy
whose variant is found by trial. -/
inductive Source
  | text
  | tagged
  | trial
  deriving DecidableEq

structure Place where
  source : Source := .text
  depth : Nat := 0

abbrev Reader (α : Type) := Place → Node → Option α

namespace Place

def enter (p : Place) : Option Place :=
  if p.source = .text ∧ maxDepth ≤ p.depth + 1 then none else some { p with depth := p.depth + 1 }

def copy (p : Place) (source : Source) (n : Node) : Option Place :=
  if n.isSound p.depth then some { p with source } else none

end Place

namespace Reader

variable {α : Type}

def string : Reader String
  | _, .string s => s
  | _, _ => none

def null : Reader Unit
  | _, .null => some ()
  | _, _ => none

def bool : Reader Bool
  | _, .bool b => some b
  | _, _ => none

def value : Reader Value := fun p n => n.value? p.depth

def double : Reader Double
  | _, .number l => l.number?.map fun
    | .integer i => Double.ofInt i
    | .double x => x
  | _, _ => none

def int64 : Reader Int64
  | _, .number l => l.number?.bind fun
    | .integer i =>
      if Int64.minValue.toInt ≤ i ∧ i ≤ Int64.maxValue.toInt then some (Int64.ofInt i) else none
    | .double _ => none
  | _, _ => none

def uint32 : Reader UInt32
  | _, .number l => l.number?.bind fun
    | .integer i => if 0 ≤ i ∧ i < UInt32.size then some (UInt32.ofNat i.toNat) else none
    | .double _ => none
  | _, _ => none

def option (read : Reader α) : Reader (Option α)
  | _, .null => some none
  | p, n => (read p n).map some

def list (read : Reader α) : Reader (List α)
  | p, .array items => do
    let p ← p.enter
    items.mapM (read p)
  | _, _ => none

def dictionary (read : Reader α) : Reader (Ordered α)
  | p, .object members => do
    let p ← p.enter
    let entries ← members.mapM fun (k, n) => do
      let k ← k
      let v ← read p n
      some (k, v)
    if (entries.map Prod.fst).Nodup then some entries else none
  | _, _ => none

def isEmptyObject : Node → Bool
  | .object [] => true
  | _ => false

def isNull : Node → Bool
  | .null => true
  | _ => false

/-- One of several names, or an object with that name as its only key and nothing in it. -/
def name (values : List (String × α)) : Reader α
  | _, .string s => s.bind (Ordered.get? · values)
  | p, .object [(k, n)] => do
    let p ← p.enter
    let k ← k
    let a ← Ordered.get? k values
    if isNull n || (p.source == .tagged && isEmptyObject n) then some a else none
  | _, _ => none

end Reader

structure Record where
  place : Place
  fields : List (String × Node)

namespace Record

variable {α : Type}

/-- The members named, which may not be repeated. All keys must be sound. -/
def known (names : List String) : List (Option String × Node) → Option (List (String × Node))
  | [] => some []
  | (none, _) :: _ => none
  | (some k, n) :: ms => do
    let rest ← known names ms
    if k ∉ names then some rest
    else if k ∈ rest.map Prod.fst then none
    else some ((k, n) :: rest)

def ofNode (names : List String) (p : Place) : Node → Option Record
  | .object members => do
    let p ← p.enter
    let fields ← known names members
    some ⟨p, fields⟩
  | .array items => do
    let p ← p.enter
    if names.length < items.length then none else some ⟨p, names.zip items⟩
  | _ => none

def required (r : Record) (name : String) (read : Reader α) : Option α :=
  (Ordered.get? name r.fields).bind (read r.place)

def defaulted (r : Record) (name : String) (default : α) (read : Reader α) : Option α :=
  match Ordered.get? name r.fields with
  | none => some default
  | some n => read r.place n

def optional (r : Record) (name : String) (read : Reader α) : Option (Option α) :=
  r.defaulted name none (Reader.option read)

end Record

/-- The name of a variant. In a copy its number will do. -/
def tagName (names : List String) (p : Place) : Node → Option String
  | .string s => s.bind fun s => if s ∈ names then some s else none
  | .number l =>
    if p.source = .text then none
    else match l.number? with
      | some (.integer i) => if 0 ≤ i then names[i.toNat]? else none
      | _ => none
  | _ => none

def splitTag (tag : String) :
    List (Option String × Node) → Option (Option Node × List (Option String × Node))
  | [] => some (none, [])
  | (k, n) :: ms => do
    let (found, rest) ← splitTag tag ms
    if k = some tag then if found.isSome then none else some (some n, rest)
    else some (found, (k, n) :: rest)

def untag (tag : String) (names : List String) (p : Place) :
    Node → Option (String × Place × Node)
  | .object members => do
    let inner ← p.enter
    let (found, rest) ← splitTag tag members
    let name ← found.bind (tagName names inner)
    let inside ← p.copy .tagged (.object rest)
    some (name, inside, .object rest)
  | .array (first :: rest) => do
    let inner ← p.enter
    let name ← tagName names inner first
    let inside ← p.copy .tagged (.array rest)
    some (name, inside, .array rest)
  | _ => none

def decode? {α : Type} (read : Reader α) (s : String) : Option α := (parse? s.toList).bind (read {})

def field? (name : String) (v : Option Value) : List (String × Value) :=
  match v with
  | some v => [(name, v)]
  | none => []

end ChatTurn.Json
