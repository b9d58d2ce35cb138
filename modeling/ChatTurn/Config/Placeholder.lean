import ChatTurn.Text.Search
import ChatTurn.Text.Split
import ChatTurn.Text.White

namespace ChatTurn

abbrev Environment := String → Option String

inductive PlaceholderFault
  | scope (key : String)
  | unset (name : String)
  deriving DecidableEq

def PlaceholderFault.message : PlaceholderFault → String
  | scope key => "only variables scoped with 'env.' are supported: \x60" ++ key ++ "\x60"
  | unset name => "environment variable not found: \x60" ++ name ++ "\x60"

structure Placeholder where
  key : List Char
  default : Option (List Char)

namespace Placeholder

open Text (stripStart?)

def isKeyPart (c : Char) : Bool :=
  decide ('a' ≤ c ∧ c ≤ 'z') || decide ('A' ≤ c ∧ c ≤ 'Z') || decide ('0' ≤ c ∧ c ≤ '9') ||
    c == '_' || c == '.'

def default? (cs : List Char) : Option (List Char) × List Char :=
  let found := do
    let cs ← stripStart? ['|'] cs
    let cs ← stripStart? "default(\"".toList (Text.trimStart cs)
    let rest ← stripStart? "\")".toList (cs.dropWhile (· ≠ '"'))
    some (cs.takeWhile (· ≠ '"'), rest)
  match found with
  | some (text, rest) => (some text, rest)
  | none => (none, cs)

def read? (cs : List Char) : Option (Placeholder × List Char) := do
  let cs := Text.trimStart (← stripStart? ['{', '{'] cs)
  let key := cs.takeWhile isKeyPart
  if key.isEmpty then none
  let (default, cs) := default? (Text.trimStart (cs.dropWhile isKeyPart))
  let rest ← stripStart? ['}', '}'] (Text.trimStart cs)
  some (⟨key, default⟩, rest)

def names : List Char → List String
  | [] => []
  | c :: cs =>
    let name? := (read? (c :: cs)).bind fun (p, _) => stripStart? "env.".toList p.key
    (name?.map String.ofList).toList ++ names cs

def resolve (env : Environment) (p : Placeholder) : Except PlaceholderFault (List Char) :=
  match (stripStart? "env.".toList p.key).filter ('.' ∉ ·) with
  | none => .error (.scope (String.ofList p.key))
  | some name =>
    match env (String.ofList name), p.default with
    | some value, _ => .ok value.toList
    | none, some text => .ok text
    | none, none => .error (.unset (String.ofList name))

/-- Each placeholder takes at least four characters, so that the text left grows shorter. -/
def expandLine (env : Environment) : Nat → List Char → Except PlaceholderFault (List Char)
  | 0, cs => .ok cs
  | _, [] => .ok []
  | fuel + 1, c :: cs =>
    match read? (c :: cs) with
    | none => (expandLine env fuel cs).map (c :: ·)
    | some (p, rest) => do
      let value ← p.resolve env
      let rest ← expandLine env fuel rest
      .ok (value ++ rest)

def isComment (line : List Char) : Bool := (Text.trimStart line).head? = some '#'

def expandLines (env : Environment) : List (List Char) → Except PlaceholderFault (List (List Char))
  | [] => .ok []
  | line :: lines => do
    let first ← if isComment line then .ok line else expandLine env line.length line
    let rest ← expandLines env lines
    .ok (first :: rest)

def expand (env : Environment) (text : List Char) : Except PlaceholderFault (List Char) :=
  (expandLines env (Text.splitOn '\n' text)).map (Text.joinWith '\n')

end Placeholder

end ChatTurn
