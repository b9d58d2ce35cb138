import ChatTurn.Codec.Remote
import ChatTurn.Error
import ChatTurn.Remote.EventStream
import ChatTurn.Remote.Turn
import ChatTurn.Text.Utf16

namespace ChatTurn.Remote

structure Reply where
  code : Nat := 200
  body : List UInt8
  isWhole : Bool := true

/-- What a body brings: the data of an event, or a fault that ends it. -/
abbrev Frame := Except StreamFault (List Char)

inductive Signal
  | done
  | failure (message : String)
  | chunk (chunk : Chunk)
  | noise

namespace Signal

def doneMark : List Char := "[DONE]".toList

def ofData (data : List Char) : Signal :=
  let data := Text.trim data
  if data = doneMark then done
  else match Json.decode? Failure.read (String.ofList data) with
    | some f => failure f.message
    | none => match Json.decode? Chunk.read (String.ofList data) with
      | some c => chunk c
      | none => noise

end Signal

namespace Turn

/-- The items at the end of a body, which may come only after a reason to stop. -/
def onEnd (ids : IdSupply) (t : Turn) : List StreamItem :=
  if t.stop.isSome then (t.onDone ids).2.map .ok else [.error (.streaming .closedEarly)]

/-- The items of the frames of a body. Nothing counts after the end of the turn. -/
def items (ids : IdSupply) (t : Turn) : List Frame → List StreamItem
  | [] => t.onEnd ids
  | .error fault :: _ => [.error (.streaming fault)]
  | .ok data :: frames =>
    match Signal.ofData data with
    | .done => (t.onDone ids).2.map .ok
    | .failure message => [.error (.remote (.reported message))]
    | .chunk c =>
      let (t, events) := t.onChunk ids c
      events.map .ok ++ items ids t frames
    | .noise => items ids t frames

end Turn

namespace Reply

/-- The events before the first fault, and the fault. -/
def frames (r : Reply) : List Frame :=
  (EventStream.ofText (Utf8.valid r.body)).map .ok ++
    if !r.isWhole then [.error .transport]
    else if !Utf8.isValid r.body then [.error .encoding]
    else []

def detail (r : Reply) : String :=
  let text := if r.isWhole then String.ofList (Utf16.ofMarked r.body) else ""
  match Json.decode? Failure.read text with
  | some f => f.message
  | none => text

/-- Without the body where the code allows none. -/
def stripped (r : Reply) : Reply := if Status.hasBody r.code then r else { code := r.code, body := [] }

def items (ids : IdSupply) (r : Reply) : Except Error (List StreamItem) :=
  let r := r.stripped
  if Status.isSuccess r.code then .ok (Turn.items ids {} r.frames)
  else .error (.remote (.status r.code r.detail))

end Reply

end ChatTurn.Remote
