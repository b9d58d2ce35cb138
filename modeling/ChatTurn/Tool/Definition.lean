import ChatTurn.Tool.Name
import ChatTurn.Tool.Argument

namespace ChatTurn

structure ToolParameter where
  type : String
  description : Option String := none
  required : Bool := true
  default : Option Argument := none

structure ToolDefinition where
  name : ToolName
  description : Option String := none
  parameters : Ordered ToolParameter := []

/-- How the tools are shown to a model, and so how it calls them. -/
inductive PromptFormat
  | json
  | functionTag
  | pythonList
  deriving DecidableEq

namespace ToolParameter

def describe (p : ToolParameter) (description : String) : ToolParameter :=
  { p with description := some description }

def optional (p : ToolParameter) : ToolParameter := { p with required := false }

end ToolParameter

namespace ToolDefinition

def builtin (tool : BuiltinTool) : ToolDefinition := ⟨.builtin tool, none, []⟩

/-- A tool of the caller's own, whatever its name. -/
def custom (name description : String) : ToolDefinition := ⟨.custom name, some description, []⟩

def addParameter (t : ToolDefinition) (name : String) (p : ToolParameter) : ToolDefinition :=
  { t with parameters := t.parameters.put name p }

end ToolDefinition

namespace PromptFormat

def names : List (String × PromptFormat) :=
  [("json", json), ("function_tag", functionTag), ("python_list", pythonList)]

def name : PromptFormat → String
  | json => "json"
  | functionTag => "function_tag"
  | pythonList => "python_list"

def ofName? (s : String) : Option PromptFormat := Ordered.get? s names

theorem ofName?_name (f : PromptFormat) : ofName? f.name = some f := by
  cases f <;> decide

end PromptFormat

end ChatTurn
