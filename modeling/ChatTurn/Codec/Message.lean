import ChatTurn.Codec.Event
import ChatTurn.Message

namespace ChatTurn

open Json (Reader Value)

namespace ContentPart

def toJson : ContentPart → Value
  | text t => .object [("type", .string "text"), ("text", .string t)]
  | image url => .object [("type", .string "image"), ("url", .string url)]

def read : Reader ContentPart := fun p n => do
  let (type, p, n) ← Json.untag "type" ["text", "image"] p n
  if type = "text" then
    let r ← Json.Record.ofNode ["text"] p n
    (r.required "text" Reader.string).map text
  else
    let r ← Json.Record.ofNode ["url"] p n
    (r.required "url" Reader.string).map image

end ContentPart

namespace Content

def toJson : Content → Value
  | text t => .string t
  | parts ps => .array (ps.map ContentPart.toJson)

def read : Reader Content := fun p n => do
  let p ← p.copy .trial n
  match Reader.string p n with
  | some t => some (text t)
  | none => (Reader.list ContentPart.read p n).map parts

end Content

namespace Completion

def fields (m : Completion) : List (String × Value) :=
  [("content", .string m.content), ("stop_reason", m.stop.toJson)] ++
    if m.calls.isEmpty then [] else [("tool_calls", .array (m.calls.map ToolCall.toJson))]

def toJson (m : Completion) : Value := .object m.fields

def read : Reader Completion := fun p n => do
  let r ← Json.Record.ofNode ["content", "stop_reason", "tool_calls"] p n
  let content ← r.required "content" Reader.string
  let stop ← r.required "stop_reason" StopReason.read
  let calls ← r.defaulted "tool_calls" [] (Reader.list ToolCall.read)
  some ⟨content, stop, calls⟩

end Completion

namespace Message

def fields : Message → List (String × Value)
  | system c | user c => [("content", c.toJson)]
  | assistant m => m.fields
  | toolResponse callId tool c =>
    [("call_id", .string callId), ("tool_name", tool.toJson), ("content", c.toJson)]

def toJson (m : Message) : Value := .object (("role", .string m.role.name) :: m.fields)

def readContent : Reader Content := fun p n => do
  let r ← Json.Record.ofNode ["content"] p n
  r.required "content" Content.read

def readResponse : Reader Message := fun p n => do
  let r ← Json.Record.ofNode ["call_id", "tool_name", "content"] p n
  let callId ← r.required "call_id" Reader.string
  let tool ← r.required "tool_name" ToolName.read
  let content ← r.required "content" Content.read
  some (.toolResponse callId tool content)

def readAs : Role → Reader Message
  | .system => fun p n => (readContent p n).map system
  | .user => fun p n => (readContent p n).map user
  | .assistant => fun p n => (Completion.read p n).map assistant
  | .toolResponse => readResponse

def read : Reader Message := fun p n => do
  let (role, p, n) ← Json.untag "role" (Role.names.map Prod.fst) p n
  let role ← Ordered.get? role Role.names
  readAs role p n

end Message

namespace Chunk

def toJson : Chunk → Value
  | event e => .object [("event", e.toJson)]
  | response m => .object [("completion_message", m.toJson)]

def readEvent : Reader Event := fun p n => do
  let r ← Json.Record.ofNode ["event"] p n
  r.required "event" Event.read

def readResponse : Reader Completion := fun p n => do
  let r ← Json.Record.ofNode ["completion_message"] p n
  r.required "completion_message" Completion.read

/-- What holds an event is one, whatever else it holds. -/
def read : Reader Chunk := fun p n => do
  let p ← p.copy .trial n
  match readEvent p n with
  | some e => some (event e)
  | none => (readResponse p n).map response

end Chunk

end ChatTurn
