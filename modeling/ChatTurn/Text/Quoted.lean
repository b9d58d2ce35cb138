import ChatTurn.Unicode.Property

namespace ChatTurn.Text.Quoted

def hidden : Unicode.CharSet :=
  .unions [Unicode.Category.other, .diff Unicode.Category.separator (.single ' '),
    Unicode.Property.graphemeExtend]

def escape (c : Char) : List Char :=
  match c with
  | '\x00' => ['\\', '0']
  | '\t' => ['\\', 't']
  | '\r' => ['\\', 'r']
  | '\n' => ['\\', 'n']
  | '"' => ['\\', '"']
  | '\\' => ['\\', '\\']
  | c =>
    if hidden.has c.toNat then
      ['\\', 'u', '{'] ++ Nat.toDigits 16 c.toNat ++ ['}']
    else [c]

def write (cs : List Char) : List Char := ['"'] ++ cs.flatMap escape ++ ['"']

end ChatTurn.Text.Quoted
