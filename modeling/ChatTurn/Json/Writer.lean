import ChatTurn.Json.Node

namespace ChatTurn.Json

namespace Writer

def hexDigit (n : Nat) : Char := Char.ofNat (if n < 10 then 48 + n else 87 + n)

def escape (c : Char) : List Char :=
  if c = '"' then ['\\', '"']
  else if c = '\\' then ['\\', '\\']
  else if c = '\x08' then ['\\', 'b']
  else if c = '\x0c' then ['\\', 'f']
  else if c = '\n' then ['\\', 'n']
  else if c = '\r' then ['\\', 'r']
  else if c = '\t' then ['\\', 't']
  else if c.toNat < 0x20 then
    ['\\', 'u', '0', '0', hexDigit (c.toNat / 16), hexDigit (c.toNat % 16)]
  else [c]

def string (s : String) : List Char := '"' :: (s.toList.flatMap escape ++ ['"'])

end Writer

mutual

def Value.write : Value → List Char
  | .null => "null".toList
  | .bool b => if b then "true".toList else "false".toList
  | .number n => n.text
  | .string s => Writer.string s
  | .array [] => ['[', ']']
  | .array (v :: vs) => '[' :: (v.write ++ Value.writeItems vs)
  | .object [] => ['\x7b', '\x7d']
  | .object ((k, v) :: ms) => '\x7b' :: (Writer.string k ++ ':' :: (v.write ++ Value.writeMembers ms))

def Value.writeItems : List Value → List Char
  | [] => [']']
  | v :: vs => ',' :: (v.write ++ Value.writeItems vs)

def Value.writeMembers : List (String × Value) → List Char
  | [] => ['\x7d']
  | (k, v) :: ms => ',' :: (Writer.string k ++ ':' :: (v.write ++ Value.writeMembers ms))

end

def Value.render (v : Value) : String := String.ofList v.write

/-- A double as a value; what JSON has no number for is null. -/
def Value.ofDouble (x : Double) : Value := if x.isFinite then .number (.double x) else .null

end ChatTurn.Json
