import ChatTurn.Tool.Call
import ChatTurn.Tool.Literal

namespace ChatTurn

def isAsciiLetter (c : Char) : Bool := decide ('a' ≤ c ∧ c ≤ 'z') || decide ('A' ≤ c ∧ c ≤ 'Z')

def isIdentifier : List Char → Bool
  | [] => false
  | c :: cs =>
    (isAsciiLetter c || c == '_') && cs.all fun c => isAsciiLetter c || Double.isDigit c || c == '_'

def isToolName (cs : List Char) : Bool :=
  !cs.isEmpty &&
    cs.all fun c => isAsciiLetter c || Double.isDigit c || c == '_' || c == '-' || c == '.'

namespace CallExpression

/-- Adds the keyword arguments in order. Blank parts count for nothing. -/
def addPairs : Arguments → List (List Char) → Except CallFault Arguments
  | given, [] => .ok given
  | given, part :: rest =>
    let pair := Text.trim part
    if pair.isEmpty then addPairs given rest
    else match Text.cut? ['='] pair with
      | none => .error (.notAPair (String.ofList pair))
      | some (before, after) =>
        let key := Text.trim before
        if !isIdentifier key then .error (.argumentName (String.ofList key))
        else match Literal.parse after with
          | .error e => .error e
          | .ok value =>
            let key := String.ofList key
            if (given.get? key).isSome then .error (.repeatedArgument key)
            else addPairs (given.put key value) rest

def keywordArguments (cs : List Char) : Except CallFault Arguments := do
  let pairs ← Literal.splitTopLevel cs
  addPairs [] pairs

def code (cs : List Char) : Invocation :=
  ⟨.builtin .codeInterpreter, [(BuiltinTool.codeInterpreter.primaryParameter, .string (String.ofList cs))]⟩

def builtinCall? (cs : List Char) : Option (BuiltinTool × List Char) := do
  let (name, rest) ← Text.cut? ".call(".toList cs
  let tool ← BuiltinTool.ofName? (String.ofList (Text.trim name))
  some (tool, rest)

def builtin (raw : List Char) : Except MalformedCall Invocation :=
  let cs := Text.trim raw
  let refuse (fault : CallFault) : MalformedCall := ⟨String.ofList cs, fault⟩
  match builtinCall? cs with
  | some (tool, rest) =>
    match Text.stripEnd? [')'] (Text.trimEnd rest) with
    | none => .error (refuse .unterminatedCall)
    | some args => ((keywordArguments args).map (⟨.builtin tool, ·⟩)).mapError refuse
  | none => if cs.isEmpty then .error (refuse .empty) else .ok (code cs)

def named (raw : List Char) : Except CallFault Invocation :=
  let cs := Text.trim raw
  match Text.cut? ['('] cs with
  | none => .error (.notACall (String.ofList cs))
  | some (before, rest) =>
    let name := Text.trim before
    if !isToolName name then .error (.functionName (String.ofList name))
    else match Text.stripEnd? [')'] rest with
      | none => .error (.unterminatedCallTo (String.ofList name))
      | some args => (keywordArguments args).map (⟨ToolName.parse (String.ofList name), ·⟩)

def list (raw : List Char) : Except MalformedCall (List Invocation) :=
  let refuse (fault : CallFault) : MalformedCall := ⟨String.ofList raw, fault⟩
  match Literal.listBody? (Text.trim raw) with
  | none => .error (refuse .unterminatedList)
  | some body =>
    match (do
      let parts ← Literal.splitTopLevel body
      (parts.filter (!Text.isBlank ·)).mapM named) with
    | .error fault => .error (refuse fault)
    | .ok [] => .error (refuse .emptyList)
    | .ok calls => .ok calls

end CallExpression

end ChatTurn
