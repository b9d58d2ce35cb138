import ChatTurn.Unicode.Age
import ChatTurn.Unicode.Break
import ChatTurn.Unicode.Script

namespace ChatTurn.Pattern.Class

open Unicode

def digit : CharSet := Category.decimalNumber

def space : CharSet := Property.whiteSpace

def word : CharSet := .unions
  [Property.alphabetic, Category.mark, digit, Category.connectorPunctuation, Property.joinControl]

def asciiDigit : CharSet := .ofLines ["30-39"]

def asciiSpace : CharSet := .ofLines ["9-D 20"]

def asciiWord : CharSet := .ofLines ["30-39 41-5A 5F 61-7A"]

def ascii : List (List String × CharSet) :=
  [(["alnum"], .ofLines ["30-39 41-5A 61-7A"]),
    (["alpha"], .ofLines ["41-5A 61-7A"]),
    (["ascii"], .ofLines ["0-7F"]),
    (["blank"], .ofLines ["9 20"]),
    (["cntrl"], .ofLines ["0-1F 7F"]),
    (["digit"], asciiDigit),
    (["graph"], .ofLines ["21-7E"]),
    (["lower"], .ofLines ["61-7A"]),
    (["print"], .ofLines ["20-7E"]),
    (["punct"], .ofLines ["21-2F 3A-40 5B-60 7B-7E"]),
    (["space"], asciiSpace),
    (["upper"], .ofLines ["41-5A"]),
    (["word"], asciiWord),
    (["xdigit"], .ofLines ["30-39 41-46 61-66"])]

/-- Names are compared as ASCII, without case, spaces, hyphens and underscores. -/
def key (name : List Char) : List Char :=
  (name.filter fun c => c.toNat < 128 && c ∉ [' ', '_', '-']).map Char.toLower

/-- The key of a name less an `is` at its front; `isc` is another name than `c`. -/
def normalize (name : String) : String :=
  match name.toList with
  | i :: s :: rest =>
    if i.toLower = 'i' ∧ s.toLower = 's' then
      if key rest = ['c'] then "isc" else String.ofList (key rest)
    else String.ofList (key (i :: s :: rest))
  | cs => String.ofList (key cs)

def category? (name : String) : Option CharSet :=
  match name with
  | "any" => some .everything
  | "ascii" => some (.range 0 127)
  | "assigned" => some Category.assigned
  | name => CharSet.named? name Category.all

def script? (name : String) : Option CharSet := CharSet.named? name Script.all

def usedIn? (name : String) : Option CharSet := do
  let own ← script? name
  match CharSet.named? name Script.shared with
  | some others => some (.symmDiff own others)
  | none => some own

def named? (name : String) : Option CharSet :=
  let name := normalize name
  ((CharSet.named? name Property.all).or (category? name)).or (script? name)

def valued? (property value : String) : Option CharSet :=
  let value := normalize value
  match normalize property with
  | "generalcategory" | "gc" => category? value
  | "script" | "sc" => script? value
  | "scriptextensions" | "scx" => usedIn? value
  | "age" => Age.upTo? value
  | "graphemeclusterbreak" | "gcb" => CharSet.named? value Break.grapheme
  | "wordbreak" | "wb" => CharSet.named? value Break.word
  | "sentencebreak" | "sb" => CharSet.named? value Break.sentence
  | _ => none

end ChatTurn.Pattern.Class
