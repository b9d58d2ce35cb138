import ChatTurn.Json.Reader
import ChatTurn.Json.Writer
import ChatTurn.Tool.Call
import ChatTurn.Tool.Definition

namespace ChatTurn

open Json (Node Place Reader Value)

def BuiltinTool.names : List (String × BuiltinTool) := BuiltinTool.all.map fun t => (t.name, t)

namespace ToolName

def toJson (n : ToolName) : Value := .string n.text

def read : Reader ToolName := fun p n => do
  let p ← p.copy .trial n
  match Reader.name BuiltinTool.names p n with
  | some tool => some (.builtin tool)
  | none => (Reader.string p n).map .custom

end ToolName

namespace Argument

mutual

/-- The first form that fits: a number that is no integer of 64 bits with a sign is a float. -/
def read (p : Place) (n : Node) : Option Argument := do
  let p ← p.copy .trial n
  ((Reader.null p n).map fun _ => null)
    |>.or ((Reader.bool p n).map bool)
    |>.or ((Reader.int64 p n).map integer)
    |>.or ((Reader.double p n).map float)
    |>.or ((Reader.string p n).map string)
    |>.or (match n with
      | .array items => do
        let p ← p.enter
        (readItems p items).map list
      | _ => none)
    |>.or (match n with
      | .object members => do
        let p ← p.enter
        (readEntries p members).map fun es => map (Ordered.ofList es)
      | _ => none)

def readItems (p : Place) : List Node → Option (List Argument)
  | [] => some []
  | n :: ns => do
    let a ← read p n
    let as ← readItems p ns
    some (a :: as)

def readEntries (p : Place) : List (Option String × Node) → Option (List (String × Argument))
  | [] => some []
  | (k, n) :: ms => do
    let k ← k
    let a ← read p n
    let es ← readEntries p ms
    some ((k, a) :: es)

end

end Argument

namespace PromptFormat

def toJson (f : PromptFormat) : Value := .string f.name

def read : Reader PromptFormat := Reader.name names

end PromptFormat

namespace ToolParameter

def toJson (p : ToolParameter) : Value :=
  .object <| [("param_type", .string p.type)] ++
    Json.field? "description" (p.description.map .string) ++
    [("required", .bool p.required)] ++
    Json.field? "default" (p.default.map Argument.toValue)

def read : Reader ToolParameter := fun p n => do
  let r ← Json.Record.ofNode ["param_type", "description", "required", "default"] p n
  let type ← r.required "param_type" Reader.string
  let description ← r.optional "description" Reader.string
  let required ← r.defaulted "required" true Reader.bool
  let default ← r.optional "default" Argument.read
  some ⟨type, description, required, default⟩

end ToolParameter

namespace ToolDefinition

def toJson (t : ToolDefinition) : Value :=
  .object <| [("tool_name", t.name.toJson)] ++
    Json.field? "description" (t.description.map .string) ++
    if t.parameters.isEmpty then []
    else [("parameters", .object (t.parameters.map fun (k, p) => (k, p.toJson)))]

def read : Reader ToolDefinition := fun p n => do
  let r ← Json.Record.ofNode ["tool_name", "description", "parameters"] p n
  let name ← r.required "tool_name" ToolName.read
  let description ← r.optional "description" Reader.string
  let parameters ← r.defaulted "parameters" [] (Reader.dictionary ToolParameter.read)
  some ⟨name, description, parameters⟩

end ToolDefinition

namespace ToolCall

def toJson (c : ToolCall) : Value :=
  .object [("call_id", .string c.id), ("tool_name", c.name.toJson), ("arguments", Arguments.toJson c.arguments)]

/-- Of a repeated argument the last value counts. -/
def readArguments : Reader Arguments
  | p, .object members => do
    let p ← p.enter
    (Argument.readEntries p members).map Ordered.ofList
  | _, _ => none

def read : Reader ToolCall := fun p n => do
  let r ← Json.Record.ofNode ["call_id", "tool_name", "arguments"] p n
  let id ← r.required "call_id" Reader.string
  let name ← r.required "tool_name" ToolName.read
  let arguments ← r.required "arguments" readArguments
  some ⟨⟨name, arguments⟩, id⟩

end ToolCall

end ChatTurn
