import ChatTurn.Text.Split
import ChatTurn.Text.Utf8

namespace ChatTurn.Remote.EventStream

/-- The lines that have ended, after the `line` read so far, which is in reverse. A carriage return
at the very end does not end its line, because a line feed might follow. -/
def lines (line : List Char) : List Char → List (List Char)
  | [] => []
  | '\n' :: cs => line.reverse :: lines [] cs
  | ['\r'] => []
  | '\r' :: '\n' :: cs => line.reverse :: lines [] cs
  | '\r' :: cs => line.reverse :: lines [] cs
  | c :: cs => lines (c :: line) cs

def data? (line : List Char) : Option (List Char) :=
  if line.takeWhile (· ≠ ':') = "data".toList then
    some <| match line.dropWhile (· ≠ ':') with
      | ':' :: ' ' :: value | ':' :: value => value
      | _ => []
  else none

/-- The data of each event, after the data lines `held` of the one that has begun. An event without
data is none, and neither is one that no empty line ends. -/
def ofLines (held : List (List Char)) : List (List Char) → List (List Char)
  | [] => []
  | [] :: rest =>
    if held.isEmpty then ofLines [] rest else Text.joinWith '\n' held :: ofLines [] rest
  | line :: rest => ofLines (held ++ (data? line).toList) rest

/-- The events of a text, whose byte order mark does not count. -/
def ofText (cs : List Char) : List (List Char) :=
  ofLines [] <| lines [] <| match cs with
    | '\uFEFF' :: cs => cs
    | cs => cs

end ChatTurn.Remote.EventStream
