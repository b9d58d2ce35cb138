import ChatTurn.Json.Parser
import ChatTurn.Pattern.Automaton.Growth
import ChatTurn.Text.Search
import ChatTurn.Text.White
import ChatTurn.Unicode.Case

namespace ChatTurn.Pattern

structure Flags where
  ignoreCase : Bool := false
  manyLines : Bool := false
  dotAll : Bool := false
  crlf : Bool := false
  unicode : Bool := true
  spaced : Bool := false
  swapGreed : Bool := false

namespace Parser

open Unicode
open CharSet

structure State where
  flags : Flags := {}
  names : List (List Char) := []
  groups : Nat := 0

structure Nested (α : Type) where
  value : α
  depth : Nat := 0

def deepest (depths : List Nat) : Nat := depths.foldl Nat.max 0

/-- The depth of a row of parts. A part alone is no row. -/
def rowDepth : List Nat → Nat
  | [] => 0
  | [d] => d
  | ds => deepest ds + 1

def dropComment (cs : List Char) : List Char := cs.dropWhile (· ≠ '\n')

def skipSpaces : Nat → List Char → List Char
  | 0, cs => cs
  | fuel + 1, cs =>
    match Text.trimStart cs with
    | '#' :: cs => skipSpaces fuel (dropComment cs)
    | cs => cs

def skip (f : Flags) (cs : List Char) : List Char :=
  if f.spaced then skipSpaces (cs.length + 1) cs else cs

def spell (f : Flags) (test : Char → Bool) : Nat → List Char → List Char × List Char
  | 0, cs => ([], cs)
  | _, [] => ([], [])
  | fuel + 1, c :: cs =>
    if test c then
      let (word, rest) := spell f test fuel (skip f cs)
      (c :: word, rest)
    else ([], c :: cs)

inductive Escape
  | char (c : Char)
  | set (chars : CharSet)
  | anchor (a : Anchor)

def isAsciiPunctuation (c : Char) : Bool :=
  let n := c.toNat
  n < 128 && !(decide ('0' ≤ c ∧ c ≤ '9') || decide ('a' ≤ c ∧ c ≤ 'z') || decide ('A' ≤ c ∧ c ≤ 'Z')) &&
    c != '<' && c != '>'

def hexNat? (cs : List Char) : Option Nat :=
  if cs.isEmpty then none
  else cs.foldl (fun n c => do some (16 * (← n) + (← Json.Parser.hexDigit? c))) (some 0)

def char? (n : Nat) : Option Char := if n.isValidChar then some (Char.ofNat n) else none

/-- A code point: `width` digits, or any number of them in braces. Without Unicode, two digits stand
for a byte, and one beyond ASCII is no text. -/
def hexEscape (f : Flags) (width : Nat) (cs : List Char) : Option (Escape × List Char) := do
  match skip f cs with
  | '{' :: cs =>
    let (digits, rest) := spell f (· ≠ '}') cs.length (skip f cs)
    let c ← (← hexNat? digits) |> char?
    some (.char c, ← Text.stripStart? ['}'] rest)
  | cs =>
    let (digits, rest) := spell f (fun c => (Json.Parser.hexDigit? c).isSome) width cs
    if digits.length < width then none
    let c ← (← hexNat? digits) |> char?
    if !f.unicode && width = 2 && 128 ≤ c.toNat then none else some (.char c, rest)

def foldIf (f : Flags) (a : CharSet) : CharSet :=
  if f.ignoreCase then a.close (if f.unicode then Case.variants else Case.asciiVariants) else a

/-- A class with case folded and then maybe its complement. Without Unicode it is one of bytes, of
which those beyond ASCII are no text. -/
def finish? (f : Flags) (negated : Bool) (a : CharSet) : Option CharSet :=
  let a := foldIf f a
  if f.unicode then some (negateIf negated a)
  else
    let a := if negated then a.complUpTo 255 else a
    if a.isAscii then some a else none

def classNamed? (body : List Char) : Option CharSet :=
  match (Text.cut? "!=".toList body).or ((Text.cut? [':'] body).or (Text.cut? ['='] body)) with
  | some (property, value) => Class.valued? (String.ofList property) (String.ofList value)
  | none => Class.named? (String.ofList body)

def propertyEscape (f : Flags) (negated : Bool) (cs : List Char) : Option (Escape × List Char) := do
  let (body, rest) ← match skip f cs with
    | '{' :: cs => do
      let (body, rest) := spell f (· ≠ '}') cs.length (skip f cs)
      some (body, ← Text.stripStart? ['}'] rest)
    | c :: cs => if c = '\\' then none else some ([c], cs)
    | [] => none
  if f.unicode then some (.set (negateIf negated (foldIf f (← classNamed? body))), rest) else none

def shorthand (f : Flags) (negated : Bool) (wide narrow : CharSet) (cs : List Char) :
    Option (Escape × List Char) :=
  if f.unicode then some (.set (negateIf negated wide), cs)
  else if negated then none else some (.set narrow, cs)

def isBoundaryName (c : Char) : Bool :=
  decide ('a' ≤ c ∧ c ≤ 'z') || decide ('A' ≤ c ∧ c ≤ 'Z') || c == '-'

/-- A word boundary. A name in braces may follow; any other brace belongs to a repetition. -/
def boundaryEscape (f : Flags) (cs : List Char) : Option (Escape × List Char) :=
  let plain := some (Escape.anchor (.boundary (!f.unicode) true), cs)
  match cs with
  | '{' :: body =>
    let body := skip f body
    match body with
    | [] => none
    | c :: _ =>
      if !isBoundaryName c then plain
      else do
        let (name, rest) := spell f isBoundaryName body.length body
        let rest ← Text.stripStart? ['}'] rest
        let ascii := !f.unicode
        match String.ofList name with
        | "start" => some (.anchor (.words ascii (some false) (some true)), rest)
        | "end" => some (.anchor (.words ascii (some true) (some false)), rest)
        | "start-half" => some (.anchor (.words ascii (some false) none), rest)
        | "end-half" => some (.anchor (.words ascii none (some false)), rest)
        | _ => none
  | _ => plain

def escape (f : Flags) : List Char → Option (Escape × List Char)
  | [] => none
  | c :: cs =>
    let ascii := !f.unicode
    match c with
    | 'x' => hexEscape f 2 cs
    | 'u' => hexEscape f 4 cs
    | 'U' => hexEscape f 8 cs
    | 'p' => propertyEscape f false cs
    | 'P' => propertyEscape f true cs
    | 'd' => shorthand f false Class.digit Class.asciiDigit cs
    | 'D' => shorthand f true Class.digit Class.asciiDigit cs
    | 's' => shorthand f false Class.space Class.asciiSpace cs
    | 'S' => shorthand f true Class.space Class.asciiSpace cs
    | 'w' => shorthand f false Class.word Class.asciiWord cs
    | 'W' => shorthand f true Class.word Class.asciiWord cs
    | 'a' => some (.char '\x07', cs)
    | 'f' => some (.char '\x0c', cs)
    | 't' => some (.char '\t', cs)
    | 'n' => some (.char '\n', cs)
    | 'r' => some (.char '\r', cs)
    | 'v' => some (.char '\x0b', cs)
    | 'A' => some (.anchor .textStart, cs)
    | 'z' => some (.anchor .textEnd, cs)
    | 'b' => boundaryEscape f cs
    | 'B' => some (.anchor (.boundary ascii false), cs)
    | '<' => some (.anchor (.words ascii (some false) (some true)), cs)
    | '>' => some (.anchor (.words ascii (some true) (some false)), cs)
    | c => if isAsciiPunctuation c then some (.char c, cs) else none

inductive SetOperation
  | inter
  | diff
  | symmDiff

def SetOperation.apply (f : Flags) (a b : CharSet) : SetOperation → CharSet
  | inter => CharSet.inter (foldIf f a) (foldIf f b)
  | diff => CharSet.diff (foldIf f a) (foldIf f b)
  | symmDiff => CharSet.symmDiff (foldIf f a) (foldIf f b)

def unite (items : List (Nested CharSet)) : Nested CharSet :=
  ⟨unions (items.map (·.value)), rowDepth (items.map (·.depth))⟩

def operate (f : Flags) (left : Option (Nested CharSet × SetOperation)) (right : Nested CharSet) :
    Nested CharSet :=
  match left with
  | some (a, op) => ⟨op.apply f a.value right.value, Nat.max a.depth right.depth + 1⟩
  | none => right

def asciiClass? (cs : List Char) : Option (Bool × CharSet × List Char) := do
  let cs ← Text.stripStart? [':'] cs
  let (negated, cs) := match cs with
    | '^' :: cs => (true, cs)
    | cs => (false, cs)
  let (name, rest) ← Text.cut? [':', ']'] cs
  some (negated, ← CharSet.named? (String.ofList name) Class.ascii, rest)

def classChar? (f : Flags) (c : Char) : Option Char :=
  if f.unicode || c.toNat < 128 then some c else none

def classItem (f : Flags) : List Char → Option (Escape × List Char)
  | [] => none
  | '\\' :: cs => escape f cs
  | c :: cs => some (.char c, cs)

/-- The character after a hyphen, by which a range is told from a hyphen that stands for itself. A
comment is looked into, past its first sign. -/
def peek (f : Flags) (cs : List Char) : Option Char :=
  if f.spaced then
    match Text.trimStart cs with
    | '#' :: cs => (Text.trimStart cs).head?
    | cs => cs.head?
  else cs.head?

def classRange (f : Flags) (cs : List Char) : Option (CharSet × List Char) := do
  let (first, cs) ← classItem f cs
  let rest := skip f cs
  let next := peek f (rest.drop 1)
  if rest.head? = some '-' ∧ next ≠ some ']' ∧ next ≠ some '-' then
    match first, ← classItem f (skip f (rest.drop 1)) with
    | .char a, (.char b, cs) =>
      let a ← classChar? f a
      let b ← classChar? f b
      if a ≤ b then some (.range a.toNat b.toNat, cs) else none
    | _, _ => none
  else match first with
    | .char c => some (single (← classChar? f c), cs)
    | .set chars => some (chars, cs)
    | .anchor _ => none

/-- Hyphens at the front stand for themselves, as does a bracket in first place. -/
def classFront (f : Flags) : Nat → List CharSet → List Char → List CharSet × List Char
  | 0, items, cs => (items, cs)
  | fuel + 1, items, cs =>
    match cs with
    | '-' :: cs => classFront f fuel (items ++ [single '-']) (skip f cs)
    | ']' :: cs => if items.isEmpty then ([single ']'], skip f cs) else (items, ']' :: cs)
    | cs => (items, cs)

mutual

def bracket (f : Flags) : Nat → List Char → Option (Nested CharSet × List Char)
  | 0, _ => none
  | fuel + 1, cs => do
    let cs := skip f cs
    let (negated, cs) := match cs with
      | '^' :: cs => (true, skip f cs)
      | cs => (false, cs)
    let (items, cs) := classFront f (cs.length + 1) [] cs
    let (items, rest) ← classBody f fuel none (items.map (⟨·, 0⟩)) cs
    some (⟨← finish? f negated items.value, items.depth + 1⟩, rest)

def classBody (f : Flags) : Nat → Option (Nested CharSet × SetOperation) → List (Nested CharSet) →
    List Char → Option (Nested CharSet × List Char)
  | 0, _, _, _ => none
  | fuel + 1, left, items, cs =>
    match skip f cs with
    | [] => none
    | ']' :: cs => some (operate f left (unite items), cs)
    | '&' :: '&' :: cs => classBody f fuel (some (operate f left (unite items), .inter)) [] cs
    | '-' :: '-' :: cs => classBody f fuel (some (operate f left (unite items), .diff)) [] cs
    | '~' :: '~' :: cs => classBody f fuel (some (operate f left (unite items), .symmDiff)) [] cs
    | '[' :: cs =>
      match asciiClass? cs with
      | some (negated, chars, rest) => do
        classBody f fuel left (items ++ [⟨← finish? f negated chars, 0⟩]) rest
      | none => do
        let (chars, rest) ← bracket f fuel cs
        classBody f fuel left (items ++ [chars]) rest
    | cs => do
      let (chars, rest) ← classRange f cs
      classBody f fuel left (items ++ [⟨chars, 0⟩]) rest

end

def ofClass (f : Flags) (chars : CharSet) : Pattern := ofSet chars (!f.unicode)

def ofChar (f : Flags) (c : Char) : Pattern :=
  if f.ignoreCase then ofClass f (foldIf f (single c)) else .literal [c]

def dot? (f : Flags) : Option Pattern :=
  if !f.unicode then none
  else if f.dotAll then some (ofClass f everything)
  else if f.crlf then some (ofClass f (compl (union (single '\n') (single '\r'))))
  else some (ofClass f (compl (single '\n')))

def startAnchor (f : Flags) : Anchor :=
  if !f.manyLines then .textStart else if f.crlf then .anyLineStart else .lineStart

def endAnchor (f : Flags) : Anchor :=
  if !f.manyLines then .textEnd else if f.crlf then .anyLineEnd else .lineEnd

def ofEscape (f : Flags) : Escape → Pattern
  | .char c => ofChar f c
  | .set chars => ofClass f chars
  | .anchor a => .anchor a

def setFlag (on : Bool) (f : Flags) : Char → Option Flags
  | 'i' => some { f with ignoreCase := on }
  | 'm' => some { f with manyLines := on }
  | 's' => some { f with dotAll := on }
  | 'R' => some { f with crlf := on }
  | 'u' => some { f with unicode := on }
  | 'x' => some { f with spaced := on }
  | 'U' => some { f with swapGreed := on }
  | _ => none

/-- Flags up to a colon or a bracket, which is left. Those after a hyphen are unset, and none may
be named twice. -/
def flagsFrom (seen : List Char) (on : Bool) (f : Flags) : List Char → Option (Flags × List Char)
  | [] => none
  | c :: cs =>
    if c = ':' || c = ')' then if seen.getLast? = some '-' then none else some (f, c :: cs)
    else if c ∈ seen then none
    else if c = '-' then flagsFrom (seen ++ ['-']) false f cs
    else do flagsFrom (seen ++ [c]) on (← setFlag on f c) cs

def isNameStart (c : Char) : Bool := c == '_' || Property.alphabetic.has c.toNat

def isNamePart (c : Char) : Bool :=
  isNameStart c || Category.number.has c.toNat || c == '.' || c == '[' || c == ']'

def groupName (s : State) (cs : List Char) : Option (State × List Char) := do
  let name := cs.takeWhile (· ≠ '>')
  let rest ← Text.stripStart? ['>'] (cs.dropWhile (· ≠ '>'))
  let first ← name.head?
  if isNameStart first && name.all isNamePart && !s.names.contains name then
    some ({ s with names := name :: s.names }, rest)
  else none

structure Mark where
  index : Nat
  name : Option (List Char)

inductive Opening
  | flags (s : State)
  | group (s : State) (mark : Option Mark)

def counted (s : State) (name : Option (List Char)) : Opening :=
  .group { s with groups := s.groups + 1 } (some ⟨s.groups + 1, name⟩)

def namedGroup (s : State) (cs : List Char) : Option (Opening × List Char) :=
  (groupName s cs).map fun (s, rest) => (counted s s.names.head?, rest)

def opening (s : State) (cs : List Char) : Option (Opening × List Char) :=
  match skip s.flags cs with
  | '?' :: cs =>
    match cs with
    | 'P' :: '<' :: cs => namedGroup s cs
    | '<' :: '=' :: _ => none
    | '<' :: '!' :: _ => none
    | '<' :: cs => namedGroup s cs
    | cs => do
      let (flags, rest) ← flagsFrom [] true s.flags cs
      match rest with
      | ':' :: rest => some (.group { s with flags } none, rest)
      | _ :: rest => if cs.head? = some ')' then none else some (.flags { s with flags }, rest)
      | [] => none
  | cs => some (counted s none, cs)

def Opening.close (mark : Option Mark) (p : Pattern) : Pattern :=
  match mark with
  | some m => .group m.index m.name p
  | none => p

def number? (f : Flags) (cs : List Char) : Option (Nat × List Char) :=
  let (ds, rest) := spell f Json.Parser.isDigit cs.length (Text.trimStart cs)
  let n := Double.digitsValue ds
  if ds.isEmpty || UInt32.size ≤ n then none else some (n, Text.trimStart rest)

structure Bounds where
  min : Nat
  max : Option Nat
  greedy : Bool

def withGreed (f : Flags) (min : Nat) (max : Option Nat) (cs : List Char) : Bounds × List Char :=
  match cs with
  | '?' :: cs => (⟨min, max, f.swapGreed⟩, cs)
  | cs => (⟨min, max, !f.swapGreed⟩, cs)

def bounds (f : Flags) (cs : List Char) : Option (Bounds × List Char) := do
  let (min, cs) ← number? f (skip f cs)
  match cs with
  | '}' :: cs => some (withGreed f min (some min) (skip f cs))
  | ',' :: cs =>
    match skip f cs with
    | '}' :: cs => some (withGreed f min none (skip f cs))
    | cs => do
      let (max, cs) ← number? f cs
      match cs with
      | '}' :: cs => if min ≤ max then some (withGreed f min (some max) (skip f cs)) else none
      | _ => none
  | _ => none

/-- Parts of a sequence, the last of them first. Flags are a part without a pattern. -/
abbrev Parts := List (Nested (Option Pattern))

def repeatLast (b : Bounds) (parts : Parts) : Option Parts :=
  match parts with
  | ⟨some p, d⟩ :: rest => some (⟨some (p.times b.min b.max b.greedy), d + 1⟩ :: rest)
  | _ => none

def Parts.sequence (parts : Parts) : Nested Pattern :=
  ⟨Pattern.sequence (parts.reverse.filterMap (·.value)), rowDepth (parts.map (·.depth))⟩

def choice (branches : List (Nested Pattern)) : Nested Pattern :=
  ⟨Pattern.choice (branches.map (·.value)), rowDepth (branches.map (·.depth))⟩

mutual

def alternatives : Nat → State → List Char → Option (List (Nested Pattern) × State × List Char)
  | 0, _, _ => none
  | fuel + 1, s, cs => do
    let (p, s, rest) ← sequence fuel s [] cs
    match rest with
    | '|' :: rest => do
      let (ps, s, rest) ← alternatives fuel s rest
      some (p :: ps, s, rest)
    | rest => some ([p], s, rest)

def sequence : Nat → State → Parts → List Char → Option (Nested Pattern × State × List Char)
  | 0, _, _, _ => none
  | fuel + 1, s, parts, cs =>
    match skip s.flags cs with
    | [] => some (parts.sequence, s, [])
    | c :: cs =>
      let single (p : Pattern) := sequence fuel s (⟨some p, 0⟩ :: parts) cs
      let again (b : Bounds × List Char) := do sequence fuel s (← repeatLast b.1 parts) b.2
      match c with
      | '|' | ')' => some (parts.sequence, s, c :: cs)
      | '*' => again (withGreed s.flags 0 none cs)
      | '+' => again (withGreed s.flags 1 none cs)
      | '?' => again (withGreed s.flags 0 (some 1) cs)
      | '{' => do again (← bounds s.flags cs)
      | '.' => do single (← dot? s.flags)
      | '^' => single (.anchor (startAnchor s.flags))
      | '$' => single (.anchor (endAnchor s.flags))
      | '\\' => do
        let (e, cs) ← escape s.flags cs
        sequence fuel s (⟨some (ofEscape s.flags e), 0⟩ :: parts) cs
      | '[' => do
        let (chars, cs) ← bracket s.flags fuel cs
        sequence fuel s (⟨some (ofClass s.flags chars.value), chars.depth⟩ :: parts) cs
      | '(' => do
        match ← opening s cs with
        | (.flags s, cs) => sequence fuel s (⟨none, 0⟩ :: parts) cs
        | (.group inner mark, cs) => do
          let (ps, inner, cs) ← alternatives fuel inner cs
          let p := choice ps
          match cs with
          | ')' :: cs =>
            let part := ⟨some (Opening.close mark p.value), p.depth + 1⟩
            sequence fuel { s with names := inner.names, groups := inner.groups } (part :: parts) cs
          | _ => none
      | c => single (ofChar s.flags c)

end

end Parser

/-- The pattern that a text stands for. Each character takes at most three steps down. -/
def parse (s : String) : Except Fault Pattern :=
  let cs := s.toList
  match Parser.alternatives (3 * cs.length + 4) {} cs with
  | some (ps, _, []) =>
    let p := Parser.choice ps
    if nestingLimit < p.depth then .error .nesting
    else if !Automaton.fits p.value then .error .size
    else .ok p.value
  | _ => .error .form

end ChatTurn.Pattern
