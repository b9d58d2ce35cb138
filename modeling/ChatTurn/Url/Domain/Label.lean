import ChatTurn.Url.Domain.Direction
import ChatTurn.Url.Domain.Joiner
import ChatTurn.Url.Punycode
import ChatTurn.Text.Search

namespace ChatTurn.Url.Domain

open Unicode.Composition (compose)

structure Label where
  text : List Nat
  ascii : List Char
  deriving DecidableEq

namespace Label

def mark : List Char := "xn--".toList

def isAscii (text : List Nat) : Bool := text.all (· < 128)

/-- What `xn--` stands before. It goes beyond ASCII, so that it has no other ASCII form. -/
def decode? (cs : List Char) : Option (List Nat) :=
  if cs.getLast? = some '-' ∨ cs.isEmpty ∨ 2000 < cs.length then none else Punycode.decode? cs

def ofText? (text : List Nat) : Option Label :=
  let cs := text.map Char.ofNat
  match Text.stripStart? mark cs with
  | some rest => do
    if !isAscii text then none
    let decoded ← decode? rest
    if compose decoded ≠ decoded then none
    some ⟨decoded, cs⟩
  | none =>
    if isAscii text then some ⟨text, cs⟩
    else if 1000 < text.length then none
    else some ⟨text, mark ++ Punycode.encode text⟩

/-- A label contains no foreign characters, no mark without a letter before it, and no joiner out of
place. -/
def isSound (l : Label) : Bool :=
  l.text.all Alphabet.has && !l.text.head?.any Alphabet.mark.has && Joiner.areSound [] l.text

end Label

end ChatTurn.Url.Domain
