namespace ChatTurn

inductive BuiltinTool
  | braveSearch
  | wolframAlpha
  | photogen
  | codeInterpreter
  deriving DecidableEq

namespace BuiltinTool

def name : BuiltinTool → String
  | braveSearch => "brave_search"
  | wolframAlpha => "wolfram_alpha"
  | photogen => "photogen"
  | codeInterpreter => "code_interpreter"

def all : List BuiltinTool := [braveSearch, wolframAlpha, photogen, codeInterpreter]

def ofName? (s : String) : Option BuiltinTool := all.find? (·.name = s)

def primaryParameter : BuiltinTool → String
  | codeInterpreter => "code"
  | braveSearch | wolframAlpha | photogen => "query"

theorem ofName?_name (t : BuiltinTool) : ofName? t.name = some t := by
  cases t <;> decide

end BuiltinTool

inductive ToolName
  | builtin (tool : BuiltinTool)
  | custom (name : String)
  deriving DecidableEq

namespace ToolName

/-- The built-in tool of that name if there is one. -/
def parse (s : String) : ToolName :=
  match BuiltinTool.ofName? s with
  | some tool => builtin tool
  | none => custom s

def text : ToolName → String
  | builtin tool => tool.name
  | custom name => name

def isBuiltin : ToolName → Bool
  | builtin _ => true
  | custom _ => false

theorem text_parse (s : String) : (parse s).text = s := by
  unfold parse
  cases h : BuiltinTool.ofName? s with
  | none => rfl
  | some tool => simpa [text] using List.find?_some h

end ToolName

end ChatTurn
