import ChatTurn.Json.Writer
import ChatTurn.Remote.Wire
import ChatTurn.Request

namespace ChatTurn.Remote

namespace Content

def ofContent : ChatTurn.Content → Content
  | .text t => text t
  | .parts ps => parts <| ps.map fun
    | .text t => .text t
    | .image url => .image url

end Content

namespace Call

def ofCall (c : ToolCall) : Call :=
  ⟨c.id, "function", c.name.text, (Arguments.toJson c.arguments).render⟩

end Call

namespace Message

def ofMessage : ChatTurn.Message → Message
  | .system c => { role := "system", content := some (.ofContent c) }
  | .user c => { role := "user", content := some (.ofContent c) }
  | .assistant m =>
    { role := "assistant"
      content := if m.content.isEmpty then none else some (.text m.content)
      calls := if m.calls.isEmpty then none else some (m.calls.map .ofCall) }
  | .toolResponse callId _ c =>
    { role := "tool", content := some (.ofContent c), callId := some callId }

end Message

def schemaType (type : String) : String :=
  match type with
  | "str" | "string" => "string"
  | "int" | "integer" => "integer"
  | "float" | "number" => "number"
  | "bool" | "boolean" => "boolean"
  | "list" | "array" => "array"
  | "dict" | "object" => "object"
  | other => other

def parameterSchema (p : ToolParameter) : Json.Value :=
  .object <| [("type", .string (schemaType p.type))] ++
    (match p.description with
      | some d => [("description", .string d)]
      | none => []) ++
    (match p.default with
      | some a => [("default", a.toValue)]
      | none => [])

def objectSchema (properties : List (String × Json.Value)) (required : List String) : Json.Value :=
  .object [("type", .string "object"), ("properties", .object properties),
    ("required", .array (required.map .string))]

/-- A built-in tool declared without parameters takes its one text argument. -/
def schema (t : ToolDefinition) : Json.Value :=
  match t.name, t.parameters with
  | .builtin tool, [] =>
    objectSchema [(tool.primaryParameter, .object [("type", .string "string")])] [tool.primaryParameter]
  | _, ps =>
    objectSchema (ps.map fun (k, p) => (k, parameterSchema p))
      ((ps.filter (·.2.required)).map Prod.fst)

namespace Tool

def ofDefinition (t : ToolDefinition) : Tool :=
  ⟨"function", ⟨t.name.text, t.description, some (schema t)⟩⟩

end Tool

namespace Request

def ofRequest (r : ChatTurn.Request) (model : String) : Request :=
  { model
    messages := r.messages.map .ofMessage
    temperature := r.sampling.temperature
    topP := r.sampling.topP
    maxTokens := r.sampling.maxTokens
    stream := some true
    tools := if r.tools.isEmpty then none else some (r.tools.map .ofDefinition) }

end Request

end ChatTurn.Remote
