import ChatTurn.Url.Host

namespace ChatTurn

structure Url where
  scheme : String
  username : String := ""
  password : String := ""
  host : Option String := none
  tcp : Option Nat := none
  path : String := ""
  query : Option String := none
  fragment : Option String := none
  deriving DecidableEq

namespace Url

open Text (splitOn joinWith)

def usualTcp : String → Option Nat
  | "http" | "ws" => some 80
  | "https" | "wss" => some 443
  | "ftp" => some 21
  | _ => none

def isSpecial (scheme : String) : Bool := (usualTcp scheme).isSome || scheme = "file"

def credentials (u : Url) : String :=
  if u.username.isEmpty && u.password.isEmpty then ""
  else u.username ++ (if u.password.isEmpty then "" else ":" ++ u.password) ++ "@"

def authority (u : Url) (host : String) : String :=
  "//" ++ u.credentials ++ host ++
    match u.tcp with
    | some n => ":" ++ Nat.repr n
    | none => ""

def marked (mark : String) (part : Option String) : String :=
  match part with
  | some text => mark ++ text
  | none => ""

def target (u : Url) : String := u.path ++ marked "?" u.query

def text (u : Url) : String :=
  u.scheme ++ ":" ++ ((u.host.map u.authority).getD "") ++ u.target ++ marked "#" u.fragment

def isFragmentEscaped (c : Char) : Bool := c == ' ' || c == '"' || c == '<' || c == '>' || c == '\x60'

def isPathEscaped (c : Char) : Bool :=
  isFragmentEscaped c || c == '#' || c == '?' || c == '{' || c == '}'

def isUserEscaped (c : Char) : Bool := isPathEscaped c || "/:;=@[\\]^|".toList.contains c

def isQueryEscaped (special : Bool) (c : Char) : Bool :=
  c == ' ' || c == '"' || c == '#' || c == '<' || c == '>' || (special && c == '\'')

def isSchemePart (c : Char) : Bool := c.isAlphanum || c == '+' || c == '-' || c == '.'

def scheme? (cs : List Char) : Option (String × List Char) :=
  let name := cs.takeWhile isSchemePart
  match name, cs.dropWhile isSchemePart with
  | c :: _, ':' :: rest =>
    if c.isAlpha then some (String.ofList (name.map Char.toLower), rest) else none
  | _, _ => none

def isSlash (special : Bool) (c : Char) : Bool := c == '/' || (special && c == '\\')

def endsAuthority (special : Bool) (c : Char) : Bool := isSlash special c || c == '?' || c == '#'

def splitUser (cs : List Char) : Option (List Char) × List Char :=
  if '@' ∈ cs then
    let host := (cs.reverse.takeWhile (· ≠ '@')).reverse
    (some (cs.take (cs.length - host.length - 1)), host)
  else (none, cs)

def readUser (cs : List Char) : String × String :=
  let write (cs : List Char) := String.ofList (encode isUserEscaped cs)
  (write (cs.takeWhile (· ≠ ':')), write ((cs.dropWhile (· ≠ ':')).drop 1))

def splitHost : Bool → List Char → List Char × Option (List Char)
  | _, [] => ([], none)
  | inside, c :: cs =>
    if c = ':' && !inside then ([], some cs)
    else
      let inside := if c = '[' then true else if c = ']' then false else inside
      let (host, rest) := splitHost inside cs
      (c :: host, rest)

def tcp? (scheme : String) (cs : List Char) : Option (Option Nat) :=
  let n := Double.digitsValue cs
  if !cs.all Double.isDigit || 65535 < n then none
  else if cs.isEmpty || usualTcp scheme = some n then some none
  else some (some n)

def isDot (s : List Char) : Bool :=
  (s.map Char.toLower) = ['.'] || (s.map Char.toLower) = "%2e".toList

def isDoubleDot (s : List Char) : Bool :=
  [ "..", "%2e%2e", "%2e.", ".%2e" ].any fun t => s.map Char.toLower = t.toList

def isDrive : List Char → Bool
  | [c, mark] => c.isAlpha && (mark == ':' || mark == '|')
  | _ => false

/-- What is above the last segment. Nothing is above a drive. -/
def parent (done : List (List Char)) : List (List Char) :=
  if done.getLast?.any isDrive then done else done.dropLast

/-- Resolves dot segments. One in last place leaves an empty segment. -/
def resolve : List (List Char) → List (List Char) → List (List Char)
  | done, [] => done
  | done, [last] =>
    if isDoubleDot last then parent done ++ [[]]
    else if isDot last then done ++ [[]]
    else done ++ [last]
  | done, s :: rest =>
    if isDoubleDot s then resolve (parent done) rest
    else if isDot s then resolve done rest
    else resolve (done ++ [s]) rest

def normalPath (special : Bool) (cs : List Char) : String :=
  let cs := cs.map fun c => if isSlash special c then '/' else c
  let cs := match cs with
    | '/' :: cs => cs
    | cs => cs
  String.ofList ('/' :: joinWith '/' (resolve [] (splitOn '/' (encode isPathEscaped cs))))

def withRest (u : Url) (path : List Char → String) (cs : List Char) : Url :=
  let special := isSpecial u.scheme
  let after (mark : Char) (cs : List Char) : Option (List Char) :=
    if mark ∈ cs then some ((cs.dropWhile (· ≠ mark)).drop 1) else none
  let front := cs.takeWhile (· ≠ '#')
  { u with
    path := path (front.takeWhile (· ≠ '?'))
    query := (after '?' front).map fun q => String.ofList (encode (isQueryEscaped special) q)
    fragment := (after '#' cs).map fun f => String.ofList (encode isFragmentEscaped f) }

/-- The host of a URL with an authority. It may be empty only if the scheme is not special and
nothing goes before it or belongs to it. -/
def authorityHost? (special : Bool) (host : List Char) (isLone : Bool) : Option (List Char) :=
  if host.isEmpty && (special || !isLone) then none
  else if special then host? host
  else opaqueHost? host

def readAuthority (scheme : String) (cs : List Char) : Option Url := do
  let special := isSpecial scheme
  let front := cs.takeWhile (!endsAuthority special ·)
  let (user, hostPart) := splitUser front
  let (username, password) := readUser (user.getD [])
  let (host, number) := splitHost false hostPart
  let number := number.map fun cs => (cs.takeWhile (· ≠ '\\'), cs.dropWhile (· ≠ '\\'))
  let rest := (number.map (·.2)).getD [] ++ cs.dropWhile (!endsAuthority special ·)
  let tcp ← tcp? scheme ((number.map (·.1)).getD [])
  let isLone := number.isNone && username.isEmpty && password.isEmpty &&
    (user ≠ some [] || rest.isEmpty)
  let host ← authorityHost? special host isLone
  let u : Url := { scheme, username, password, host := some (String.ofList host), tcp }
  if !special && rest.isEmpty then some u else some (u.withRest (normalPath special) rest)

def fileHost? (cs : List Char) : Option (List Char) :=
  if cs.isEmpty || isDrive cs then some []
  else (host? cs).map fun host => if host = "localhost".toList then [] else host

def readFile (cs : List Char) : Option Url := do
  let slashes := cs.takeWhile (isSlash true)
  if slashes.length = 2 then
    let front := cs.drop 2 |>.takeWhile (!endsAuthority true ·)
    let host ← fileHost? front
    let u : Url := { scheme := "file", host := some (String.ofList host) }
    some (u.withRest (normalPath true) (cs.drop (if isDrive front then 2 else 2 + front.length)))
  else
    let u : Url := { scheme := "file", host := some "" }
    some (u.withRest (normalPath true) (if 2 < slashes.length then cs.drop 2 else cs))

def isOuter (c : Char) : Bool := c.toNat ≤ 0x20

def isDropped (c : Char) : Bool := c == '\t' || c == '\n' || c == '\r'

/-- An absolute URL. White space at the ends and line ends anywhere are dropped. -/
def parse? (s : String) : Option Url := do
  let cs := s.toList.dropWhile isOuter
  let cs := ((cs.reverse.dropWhile isOuter).reverse).filter (!isDropped ·)
  let (scheme, rest) ← scheme? cs
  if scheme = "file" then readFile rest
  else if isSpecial scheme then readAuthority scheme (rest.dropWhile (isSlash true))
  else match rest with
    | '/' :: '/' :: rest => readAuthority scheme rest
    | '/' :: _ => some (({ scheme } : Url).withRest (normalPath false) rest)
    | rest => some (({ scheme } : Url).withRest (fun p => String.ofList (encode (fun _ => false) p)) rest)

end Url

end ChatTurn
