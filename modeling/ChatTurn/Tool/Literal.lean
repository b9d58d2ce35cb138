import ChatTurn.Double.Decimal
import ChatTurn.Json.Parser
import ChatTurn.Text.Search
import ChatTurn.Text.White
import ChatTurn.Tool.Argument
import ChatTurn.Tool.Fault

namespace ChatTurn

namespace Literal

structure Nesting where
  quote : Option Char := none
  escaped : Bool := false
  depth : Nat := 0

/-- The text cut at the commas outside quotes and brackets: the first part, then the others. The
kinds of brackets are not told apart, and the fault names the whole text. -/
def parts (whole : String) : Nesting → List Char →
    Except CallFault (List Char × List (List Char))
  | s, [] =>
    if s.quote.isSome then .error (.openString whole)
    else if s.depth ≠ 0 then .error (.openBrackets whole)
    else .ok ([], [])
  | s, c :: cs =>
    let keep (s : Nesting) := (parts whole s cs).map fun (p, ps) => (c :: p, ps)
    match s.quote with
    | some q =>
      if s.escaped then keep { s with escaped := false }
      else if c = '\\' then keep { s with escaped := true }
      else if c = q then keep { s with quote := none }
      else keep s
    | none =>
      if c = '"' || c = '\'' then keep { s with quote := some c }
      else if c = '(' || c = '[' || c = '{' then keep { s with depth := s.depth + 1 }
      else if c = ')' || c = ']' || c = '}' then
        if s.depth = 0 then .error (.unbalanced c whole) else keep { s with depth := s.depth - 1 }
      else if c = ',' && s.depth = 0 then (parts whole s cs).map fun (p, ps) => ([], p :: ps)
      else keep s

def splitTopLevel (cs : List Char) : Except CallFault (List (List Char)) :=
  (parts (String.ofList cs) {} cs).map fun (p, ps) => p :: ps

/-- The characters of a quoted string after its opening quote. A backslash keeps the character
after it, but for `n` and `t`. The closing quote must end the text. -/
def unquote (whole : String) (quote : Char) : List Char → Except CallFault (List Char)
  | [] => .error (.unterminatedString whole)
  | ['\\'] => .error .danglingEscape
  | '\\' :: c :: cs =>
    (unquote whole quote cs).map
      (((if c = 'n' then '\n' else if c = 't' then '\t' else c)) :: ·)
  | c :: cs =>
    if c = quote then if cs.isEmpty then .ok [] else .error (.textAfterString whole)
    else (unquote whole quote cs).map (c :: ·)

def isNumeric (c : Char) : Bool :=
  Double.isDigit c || c == '-' || c == '+' || c == '.' || c == 'e' || c == 'E'

def number? (cs : List Char) : Option Argument :=
  if cs.isEmpty || !cs.all isNumeric then none
  else match (integer? cs).bind int64? with
    | some n => some (.integer n)
    | none => (Double.parse? cs).map .float

def constant? (cs : List Char) : Option Argument :=
  if cs = "True".toList || cs = "true".toList then some (.bool true)
  else if cs = "False".toList || cs = "false".toList then some (.bool false)
  else if cs = "None".toList || cs = "null".toList then some .null
  else none

def listBody? (cs : List Char) : Option (List Char) :=
  (Text.stripStart? ['['] cs).bind (Text.stripEnd? [']'])

def value : Nat → List Char → Except CallFault Argument
  | 0, raw => .error (.argumentValue (String.ofList raw))
  | fuel + 1, raw =>
    let cs := Text.trim raw
    let unsupported := Except.error (.argumentValue (String.ofList cs))
    match cs with
    | [] => unsupported
    | c :: rest =>
      if c = '"' || c = '\'' then
        (unquote (String.ofList cs) c rest).map fun s => .string (String.ofList s)
      else match constant? cs, listBody? cs with
        | some a, _ => .ok a
        | none, some body => do
          let items ← splitTopLevel body
          let values ← (items.filter (!Text.isBlank ·)).mapM (value fuel)
          .ok (.list values)
        | none, none =>
          if c = '{' then
            match Json.parseValue? cs with
            | some v => .ok (.ofValue v)
            | none => .error .mapping
          else match number? cs with
            | some a => .ok a
            | none => unsupported

/-- A nested list is shorter than the list around it. -/
def parse (cs : List Char) : Except CallFault Argument := value (cs.length + 1) cs

end Literal

end ChatTurn
