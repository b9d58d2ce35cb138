import ChatTurn.Codec.Tool
import ChatTurn.Event

namespace ChatTurn

open Json (Reader Value)

namespace StopReason

def toJson (r : StopReason) : Value := .string r.name

def read : Reader StopReason := Reader.name names

end StopReason

namespace CallPayload

def toJson : CallPayload → Value
  | text s => .string s
  | call c => c.toJson

/-- A string is text, and anything else must be a call. -/
def read : Reader CallPayload := fun p n => do
  let p ← p.copy .trial n
  match Reader.string p n with
  | some s => some (text s)
  | none => (ToolCall.read p n).map call

end CallPayload

namespace CallDelta

def toJson (d : CallDelta) : Value :=
  .object [("content", d.payload.toJson), ("parse_status", .string d.status.name)]

def read : Reader CallDelta := fun p n => do
  let r ← Json.Record.ofNode ["content", "parse_status"] p n
  let payload ← r.required "content" CallPayload.read
  let status ← r.required "parse_status" (Reader.name ParseStatus.names)
  some ⟨payload, status⟩

end CallDelta

namespace Delta

def toJson : Delta → Value
  | text s => .object [("text", .string s)]
  | toolCall d => .object [("tool_call", d.toJson)]

/-- An object whose one key names the variant. -/
def read : Reader Delta := fun p n =>
  match n with
  | .object [(some k, n)] => do
    let p ← p.enter
    if k = "text" then (Reader.string p n).map text
    else if k = "tool_call" then (CallDelta.read p n).map toolCall
    else none
  | _ => none

end Delta

namespace Event

def toJson (e : Event) : Value :=
  .object <| [("event_type", .string e.kind.name), ("delta", e.delta.toJson)] ++
    Json.field? "stop_reason" (e.stop.map StopReason.toJson)

def read : Reader Event := fun p n => do
  let r ← Json.Record.ofNode ["event_type", "delta", "stop_reason"] p n
  let kind ← r.required "event_type" (Reader.name EventKind.names)
  let delta ← r.required "delta" Delta.read
  let stop ← r.optional "stop_reason" StopReason.read
  some ⟨kind, delta, stop⟩

end Event

end ChatTurn
