import ChatTurn.Toml.Scalar

namespace ChatTurn.Toml

namespace Parser

open Text (stripStart?)

def isBlank (c : Char) : Bool := c == ' ' || c == '\t'

def skipBlanks (cs : List Char) : List Char := cs.dropWhile isBlank

def isPlain (c : Char) : Bool := c == '\t' || (0x20 ≤ c.toNat && c.toNat ≠ 0x7F)

def newline? : List Char → Option (List Char)
  | '\n' :: cs => some cs
  | '\r' :: '\n' :: cs => some cs
  | _ => none

def skipComment (cs : List Char) : Option (List Char) :=
  match skipBlanks cs with
  | '#' :: cs =>
    let rest := cs.dropWhile isPlain
    if rest.isEmpty || (newline? rest).isSome then some rest else none
  | cs => some cs

def skipLines : Nat → List Char → Option (List Char)
  | 0, _ => none
  | fuel + 1, cs => do
    let rest ← skipComment cs
    match newline? rest with
    | some rest => skipLines fuel rest
    | none => some rest

def endLine (cs : List Char) : Option (List Char) := do
  let rest ← skipComment cs
  if rest.isEmpty then some [] else newline? rest

def hexValue? : List Char → Option Nat
  | [] => some 0
  | cs => cs.foldl (fun n c => do some (16 * (← n) + (← Json.Parser.hexDigit? c))) (some 0)

def codePoint? (n : Nat) (cs : List Char) : Option (Char × List Char) := do
  if cs.length < n then none
  let code ← hexValue? (cs.take n)
  if code.isValidChar then some (Char.ofNat code, cs.drop n) else none

def escape? : List Char → Option (Char × List Char)
  | 'b' :: cs => some ('\x08', cs)
  | 't' :: cs => some ('\t', cs)
  | 'n' :: cs => some ('\n', cs)
  | 'f' :: cs => some ('\x0c', cs)
  | 'r' :: cs => some ('\r', cs)
  | 'e' :: cs => some ('\x1b', cs)
  | '"' :: cs => some ('"', cs)
  | '\\' :: cs => some ('\\', cs)
  | 'x' :: cs => codePoint? 2 cs
  | 'u' :: cs => codePoint? 4 cs
  | 'U' :: cs => codePoint? 8 cs
  | _ => none

abbrev Scanned := Option (List Char × List Char)

def basic : Nat → List Char → Scanned
  | 0, _ => none
  | fuel + 1, cs =>
    match cs with
    | [] => none
    | '"' :: cs => some ([], cs)
    | '\\' :: cs => do
      let (c, cs) ← escape? cs
      let (text, rest) ← basic fuel cs
      some (c :: text, rest)
    | c :: cs =>
      if isPlain c then (basic fuel cs).map fun (text, rest) => (c :: text, rest) else none

def quoted (cs : List Char) : Scanned :=
  match cs.dropWhile fun c => isPlain c && c != '\'' with
  | '\'' :: rest => some (cs.takeWhile fun c => isPlain c && c != '\'', rest)
  | _ => none

/-- Up to two quotes that belong to the text stand before the three that close it. -/
def closing (q : Char) (cs : List Char) : Scanned :=
  let n := (cs.takeWhile (· == q)).length
  if n < 3 then none
  else
    let extra := min (n - 3) 2
    some (List.replicate extra q, cs.drop (extra + 3))

/-- A backslash that ends its line takes the white space after it away. -/
def continued (cs : List Char) : Option (List Char) :=
  (newline? (skipBlanks cs)).map fun rest =>
    rest.dropWhile fun c => isBlank c || c == '\n' || c == '\r'

def lines (q : Char) : Nat → List Char → Scanned
  | 0, _ => none
  | fuel + 1, cs =>
    match closing q cs, newline? cs with
    | some done, _ => some done
    | none, some rest => (lines q fuel rest).map fun (text, rest) => ('\n' :: text, rest)
    | none, none =>
      match cs with
      | [] => none
      | c :: cs =>
        if c = '\\' ∧ q = '"' then
          match continued cs with
          | some rest => lines q fuel rest
          | none => do
            let (c, cs) ← escape? cs
            let (text, rest) ← lines q fuel cs
            some (c :: text, rest)
        else if isPlain c then (lines q fuel cs).map fun (text, rest) => (c :: text, rest)
        else none

def manyLines (q : Char) (cs : List Char) : Scanned := lines q (cs.length + 1) ((newline? cs).getD cs)

def string? (cs : List Char) : Option (Scanned) :=
  match cs with
  | '"' :: '"' :: '"' :: cs => some (manyLines '"' cs)
  | '\'' :: '\'' :: '\'' :: cs => some (manyLines '\'' cs)
  | '"' :: cs => some (basic (cs.length + 1) cs)
  | '\'' :: cs => some (quoted cs)
  | _ => none

def isBare (c : Char) : Bool :=
  decide ('a' ≤ c ∧ c ≤ 'z') || decide ('A' ≤ c ∧ c ≤ 'Z') || Double.isDigit c || c == '_' || c == '-'

def keyPart (cs : List Char) : Option (String × List Char) :=
  match cs with
  | '"' :: cs => (basic (cs.length + 1) cs).map fun (text, rest) => (String.ofList text, rest)
  | '\'' :: cs => (quoted cs).map fun (text, rest) => (String.ofList text, rest)
  | cs =>
    let text := cs.takeWhile isBare
    if text.isEmpty then none else some (String.ofList text, cs.dropWhile isBare)

def key : Nat → List Char → Option (List String × List Char)
  | 0, _ => none
  | fuel + 1, cs => do
    let (part, cs) ← keyPart (skipBlanks cs)
    match skipBlanks cs with
    | '.' :: cs => do
      let (parts, cs) ← key fuel cs
      some (part :: parts, cs)
    | cs => some ([part], cs)

mutual

def value : Nat → Nat → List Char → Option (Item × List Char)
  | 0, _, _ => none
  | fuel + 1, depth, cs =>
    match cs, depth with
    | '[' :: _, 0 | '{' :: _, 0 => none
    | '[' :: cs, depth + 1 => (items fuel depth cs).map fun (is, rest) => (.array is, rest)
    | '{' :: cs, depth + 1 => (pairs fuel depth [] cs).map fun (es, rest) => (.table .inline es, rest)
    | cs, _ => match string? cs with
      | some scanned => scanned.map fun (text, rest) => (.string (String.ofList text), rest)
      | none => Scalar.read? cs

def items : Nat → Nat → List Char → Option (List Item × List Char)
  | 0, _, _ => none
  | fuel + 1, depth, cs => do
    match ← skipLines fuel cs with
    | ']' :: cs => some ([], cs)
    | cs => do
      let (i, cs) ← value fuel depth cs
      match ← skipLines fuel cs with
      | ',' :: cs => do
        let (is, cs) ← items fuel depth cs
        some (i :: is, cs)
      | ']' :: cs => some ([i], cs)
      | _ => none

/-- The rest of an inline table that holds `es` so far. -/
def pairs : Nat → Nat → Entries → List Char → Option (Entries × List Char)
  | 0, _, _, _ => none
  | fuel + 1, depth, es, cs => do
    match ← skipLines fuel cs with
    | '}' :: cs => some (es, cs)
    | cs => do
      let (path, cs) ← key fuel cs
      match cs with
      | '=' :: cs => do
        let (i, cs) ← value fuel depth (skipBlanks cs)
        let es ← addPair path i .inline es
        match ← skipLines fuel cs with
        | ',' :: cs => pairs fuel depth es cs
        | '}' :: cs => some (es, cs)
        | _ => none
      | _ => none

end

def deepest : Nat := 80

/-- The lines of a document after those that made `es`, the last header being `header`. -/
def document : Nat → List String → Entries → List Char → Option Entries
  | 0, _, _, _ => none
  | fuel + 1, header, es, cs => do
    match ← skipLines fuel cs with
    | [] => some es
    | '[' :: '[' :: cs => do
      let (path, cs) ← key fuel cs
      let cs ← stripStart? [']', ']'] cs
      let es ← addElement path es
      let cs ← endLine cs
      document fuel path es cs
    | '[' :: cs => do
      let (path, cs) ← key fuel cs
      let cs ← stripStart? [']'] cs
      let es ← addTable path es
      let cs ← endLine cs
      document fuel path es cs
    | cs => do
      let (path, cs) ← key fuel cs
      let cs ← stripStart? ['='] cs
      let (i, cs) ← value fuel deepest (skipBlanks cs)
      let es ← addUnder header path i es
      let cs ← endLine cs
      document fuel header es cs

end Parser

/-- The table of a whole document. Each character of it takes at most four steps down. -/
def parse? (cs : List Char) : Option Entries :=
  let cs := match cs with
    | '\ufeff' :: cs => cs
    | cs => cs
  Parser.document (4 * cs.length + 8) [] [] cs

end ChatTurn.Toml
