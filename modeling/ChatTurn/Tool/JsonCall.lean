import ChatTurn.Tool.CallExpression

namespace ChatTurn

/-- An object of arguments as JSON text; blank text has none. -/
def Arguments.parse (raw : List Char) : Except CallFault Arguments :=
  let cs := Text.trim raw
  if cs.isEmpty then .ok []
  else match Json.parseValue? cs with
    | some (.object members) => .ok (Argument.ofMembers members)
    | some _ => .error .argumentsNotAnObject
    | none => .error .argumentsJson

namespace JsonCall

def arguments (members : List (String × Json.Value)) : Except CallFault Arguments :=
  match (Ordered.get? "parameters" members).or (Ordered.get? "arguments" members) with
  | none => .ok []
  | some (.object ms) => .ok (Argument.ofMembers ms)
  | some (.string encoded) => Arguments.parse encoded.toList
  | some _ => .error .parameters

def ofMembers (members : List (String × Json.Value)) : Except CallFault Invocation :=
  match Ordered.get? "name" members with
  | some (.string name) =>
    let name := Text.trim name.toList
    if isToolName name then (arguments members).map (⟨ToolName.parse (String.ofList name), ·⟩)
    else .error .noName
  | _ => .error .noName

def parse (cs : List Char) : Except MalformedCall Invocation :=
  Except.mapError (⟨String.ofList cs, ·⟩) <|
    match Json.parseValue? cs with
    | none => .error .json
    | some (.object members) => ofMembers members
    | some _ => .error .notAnObject

end JsonCall

end ChatTurn
