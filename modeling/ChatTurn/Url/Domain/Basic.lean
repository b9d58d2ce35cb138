import ChatTurn.Text.Split
import ChatTurn.Url.Domain.Label

namespace ChatTurn.Url.Domain

open Text (splitOn joinWith)

def isForbidden (c : Char) : Bool :=
  c.toNat ≤ 0x20 || c.toNat = 0x7F || "%#/:<>?@[\\]^|".toList.contains c

def texts (cs : List Char) : List (List Nat) :=
  let ns := Unicode.Composition.compose (Mapping.apply (cs.map Char.toNat))
  (splitOn '.' (ns.map Char.ofNat)).map fun text => text.map Char.toNat

def ascii? (cs : List Char) : Option (List Char) := do
  let labels ← (texts cs).mapM Label.ofText?
  let name := joinWith '.' (labels.map Label.ascii)
  if name.isEmpty || name.any isForbidden then none
  else if labels.all Label.isSound && Direction.areSound (labels.map Label.text) then some name
  else none

end ChatTurn.Url.Domain
