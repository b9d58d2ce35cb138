import ChatTurn.Json.Reader
import ChatTurn.Json.Writer
import ChatTurn.Remote.Wire

namespace ChatTurn.Remote

open Json (Reader Value)

def ofUInt32 (n : UInt32) : Value := .number (.integer n.toNat)

namespace Part

def toJson : Part → Value
  | text t => .object [("type", .string "text"), ("text", .string t)]
  | image url => .object [("type", .string "image_url"), ("image_url", .object [("url", .string url)])]

def readUrl : Reader String := fun p n => do
  let r ← Json.Record.ofNode ["url"] p n
  r.required "url" Reader.string

def read : Reader Part := fun p n => do
  let (type, p, n) ← Json.untag "type" ["text", "image_url"] p n
  let r ← Json.Record.ofNode [type] p n
  if type = "text" then (r.required "text" Reader.string).map text
  else (r.required "image_url" readUrl).map image

end Part

namespace Content

def toJson : Content → Value
  | text t => .string t
  | parts ps => .array (ps.map Part.toJson)

def read : Reader Content := fun p n => do
  let p ← p.copy .trial n
  match Reader.string p n with
  | some t => some (text t)
  | none => (Reader.list Part.read p n).map parts

end Content

namespace Call

def toJson (c : Call) : Value :=
  .object [("id", .string c.id), ("type", .string c.type),
    ("function", .object [("name", .string c.name), ("arguments", .string c.arguments)])]

def readFunction : Reader (String × String) := fun p n => do
  let r ← Json.Record.ofNode ["name", "arguments"] p n
  let name ← r.required "name" Reader.string
  let arguments ← r.required "arguments" Reader.string
  some (name, arguments)

def read : Reader Call := fun p n => do
  let r ← Json.Record.ofNode ["id", "type", "function"] p n
  let id ← r.required "id" Reader.string
  let type ← r.required "type" Reader.string
  let (name, arguments) ← r.required "function" readFunction
  some ⟨id, type, name, arguments⟩

end Call

namespace Message

def toJson (m : Message) : Value :=
  .object <| [("role", .string m.role)] ++
    Json.field? "content" (m.content.map Content.toJson) ++
    Json.field? "tool_calls" (m.calls.map fun cs => .array (cs.map Call.toJson)) ++
    Json.field? "tool_call_id" (m.callId.map .string)

def read : Reader Message := fun p n => do
  let r ← Json.Record.ofNode ["role", "content", "tool_calls", "tool_call_id"] p n
  let role ← r.required "role" Reader.string
  let content ← r.optional "content" Content.read
  let calls ← r.optional "tool_calls" (Reader.list Call.read)
  let callId ← r.optional "tool_call_id" Reader.string
  some ⟨role, content, calls, callId⟩

end Message

namespace Function

def toJson (f : Function) : Value :=
  .object <| [("name", .string f.name)] ++
    Json.field? "description" (f.description.map .string) ++
    Json.field? "parameters" f.parameters

def read : Reader Function := fun p n => do
  let r ← Json.Record.ofNode ["name", "description", "parameters"] p n
  let name ← r.required "name" Reader.string
  let description ← r.optional "description" Reader.string
  let parameters ← r.optional "parameters" Reader.value
  some ⟨name, description, parameters⟩

end Function

namespace Tool

def toJson (t : Tool) : Value :=
  .object [("type", .string t.type), ("function", t.function.toJson)]

def read : Reader Tool := fun p n => do
  let r ← Json.Record.ofNode ["type", "function"] p n
  let type ← r.required "type" Reader.string
  let function ← r.required "function" Function.read
  some ⟨type, function⟩

end Tool

namespace Request

def toJson (r : Request) : Value :=
  .object <| [("model", .string r.model), ("messages", .array (r.messages.map Message.toJson))] ++
    Json.field? "temperature" (r.temperature.map Value.ofDouble) ++
    Json.field? "top_p" (r.topP.map Value.ofDouble) ++
    Json.field? "max_tokens" (r.maxTokens.map ofUInt32) ++
    Json.field? "stream" (r.stream.map .bool) ++
    Json.field? "tools" (r.tools.map fun ts => .array (ts.map Tool.toJson))

def read : Reader Request := fun p n => do
  let names := ["model", "messages", "temperature", "top_p", "max_tokens", "stream", "tools"]
  let r ← Json.Record.ofNode names p n
  let model ← r.required "model" Reader.string
  let messages ← r.required "messages" (Reader.list Message.read)
  let temperature ← r.optional "temperature" Reader.double
  let topP ← r.optional "top_p" Reader.double
  let maxTokens ← r.optional "max_tokens" Reader.uint32
  let stream ← r.optional "stream" Reader.bool
  let tools ← r.optional "tools" (Reader.list Tool.read)
  some ⟨model, messages, temperature, topP, maxTokens, stream, tools⟩

end Request

namespace FunctionFragment

def toJson (f : FunctionFragment) : Value :=
  .object <| Json.field? "name" (f.name.map .string) ++
    Json.field? "arguments" (f.arguments.map .string)

def read : Reader FunctionFragment := fun p n => do
  let r ← Json.Record.ofNode ["name", "arguments"] p n
  let name ← r.optional "name" Reader.string
  let arguments ← r.optional "arguments" Reader.string
  some ⟨name, arguments⟩

end FunctionFragment

namespace CallFragment

def toJson (c : CallFragment) : Value :=
  .object <| [("index", ofUInt32 c.index)] ++
    Json.field? "id" (c.id.map .string) ++
    Json.field? "type" (c.type.map .string) ++
    Json.field? "function" (c.function.map FunctionFragment.toJson)

def read : Reader CallFragment := fun p n => do
  let r ← Json.Record.ofNode ["index", "id", "type", "function"] p n
  let index ← r.defaulted "index" 0 Reader.uint32
  let id ← r.optional "id" Reader.string
  let type ← r.optional "type" Reader.string
  let function ← r.optional "function" FunctionFragment.read
  some ⟨index, id, type, function⟩

end CallFragment

namespace ChoiceDelta

def toJson (d : ChoiceDelta) : Value :=
  .object <| Json.field? "role" (d.role.map .string) ++
    Json.field? "content" (d.content.map .string) ++
    Json.field? "tool_calls" (d.calls.map fun cs => .array (cs.map CallFragment.toJson))

def read : Reader ChoiceDelta := fun p n => do
  let r ← Json.Record.ofNode ["role", "content", "tool_calls"] p n
  let role ← r.optional "role" Reader.string
  let content ← r.optional "content" Reader.string
  let calls ← r.optional "tool_calls" (Reader.list CallFragment.read)
  some ⟨role, content, calls⟩

end ChoiceDelta

namespace Choice

def toJson (c : Choice) : Value :=
  .object [("index", ofUInt32 c.index), ("delta", c.delta.toJson),
    ("finish_reason", (c.finishReason.map Value.string).getD .null)]

def read : Reader Choice := fun p n => do
  let r ← Json.Record.ofNode ["index", "delta", "finish_reason"] p n
  let index ← r.defaulted "index" 0 Reader.uint32
  let delta ← r.defaulted "delta" {} ChoiceDelta.read
  let finishReason ← r.optional "finish_reason" Reader.string
  some ⟨index, delta, finishReason⟩

end Choice

namespace Chunk

def toJson (c : Chunk) : Value := .object [("choices", .array (c.choices.map Choice.toJson))]

def read : Reader Chunk := fun p n => do
  let r ← Json.Record.ofNode ["choices"] p n
  let choices ← r.required "choices" (Reader.list Choice.read)
  some ⟨choices⟩

end Chunk

namespace Failure

def toJson (f : Failure) : Value := .object [("error", .object [("message", .string f.message)])]

def readDetail : Reader String := fun p n => do
  let r ← Json.Record.ofNode ["message"] p n
  r.required "message" Reader.string

def read : Reader Failure := fun p n => do
  let r ← Json.Record.ofNode ["error"] p n
  let message ← r.required "error" readDetail
  some ⟨message⟩

end Failure

end ChatTurn.Remote
