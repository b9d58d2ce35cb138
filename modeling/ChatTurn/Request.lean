import ChatTurn.Message
import ChatTurn.Tool.Definition
import ChatTurn.Text.White
import ChatTurn.Double.Shortest

namespace ChatTurn

structure Sampling where
  temperature : Option Double := none
  topP : Option Double := none
  topK : Option UInt32 := none
  maxTokens : Option UInt32 := none
  repetitionPenalty : Option Double := none

structure Request where
  model : String
  messages : List Message
  sampling : Sampling := {}
  tools : List ToolDefinition := []
  format : Option PromptFormat := none
  stream : Bool := false

inductive RequestFault
  | emptyModel
  | noMessages
  | lastRole (role : Role)
  | unknownCall (index : Nat) (callId : String)
  | formatWithoutTools (format : PromptFormat)
  | emptyToolName
  | repeatedTool (name : String)
  | emptyParameterName (tool : String)
  | temperature (x : Double)
  | topP (x : Double)
  | maxTokens
  | reported (text : String)
  deriving DecidableEq

def RequestFault.message : RequestFault → String
  | emptyModel => "model must not be empty"
  | noMessages => "messages must not be empty"
  | lastRole role =>
    "conversation must end with a user or tool_response message, found " ++ role.label
  | unknownCall index callId =>
    "message " ++ Nat.repr index ++ ": tool response references unknown call_id '" ++ callId ++ "'"
  | formatWithoutTools format =>
    "tool_prompt_format '" ++ format.name ++ "' requires at least one tool"
  | emptyToolName => "tool name must not be empty"
  | repeatedTool name => "duplicate tool name '" ++ name ++ "'"
  | emptyParameterName tool => "tool '" ++ tool ++ "' has a parameter with an empty name"
  | temperature x => "temperature " ++ x.plain ++ " is outside [0, 2]"
  | topP x => "top_p " ++ x.plain ++ " is outside (0, 1]"
  | maxTokens => "max_tokens must be greater than 0"
  | reported text => text

namespace Request

def new (model : String) (messages : List Message) : Request := { model, messages }

def streaming (r : Request) (stream : Bool) : Request := { r with stream }

def withTools (r : Request) (tools : List ToolDefinition) : Request := { r with tools }

def withFormat (r : Request) (format : PromptFormat) : Request := { r with format := some format }

def withSampling (r : Request) (sampling : Sampling) : Request := { r with sampling }

/-- Tools are shown as JSON where no other format is asked for. -/
def effectiveFormat (r : Request) : Option PromptFormat :=
  if r.tools.isEmpty then none else some (r.format.getD .json)

def isBlank (s : String) : Bool := Text.isBlank s.toList

/-- Every tool response answers a call that an earlier message made. -/
def checkResponses : Nat → List String → List Message → Except RequestFault Unit
  | _, _, [] => .ok ()
  | i, made, .assistant m :: ms => checkResponses (i + 1) (made ++ m.calls.map (·.id)) ms
  | i, made, .toolResponse callId _ _ :: ms =>
    if callId ∈ made then checkResponses (i + 1) made ms else .error (.unknownCall i callId)
  | i, made, .system _ :: ms | i, made, .user _ :: ms => checkResponses (i + 1) made ms

def checkMessages (ms : List Message) : Except RequestFault Unit :=
  match ms.getLast? with
  | none => .error .noMessages
  | some last =>
    if last.role = .user ∨ last.role = .toolResponse then checkResponses 0 [] ms
    else .error (.lastRole last.role)

/-- Names differ, and none is blank; the names of the tools before come first. -/
def checkTools : List String → List ToolDefinition → Except RequestFault Unit
  | _, [] => .ok ()
  | seen, t :: ts =>
    let name := t.name.text
    if isBlank name then .error .emptyToolName
    else if name ∈ seen then .error (.repeatedTool name)
    else if t.parameters.any fun p => isBlank p.1 then .error (.emptyParameterName name)
    else checkTools (name :: seen) ts

def checkFormat (r : Request) : Except RequestFault Unit :=
  match r.tools, r.format with
  | [], some format => .error (.formatWithoutTools format)
  | tools, _ => checkTools [] tools

def temperatureRange (x : Double) : Bool := Double.zero.le x && x.le (.ofNat 2)

def topPRange (x : Double) : Bool := Double.zero.lt x && x.le (.ofNat 1)

def checkSampling (s : Sampling) : Except RequestFault Unit :=
  match s.temperature.filter (!temperatureRange ·), s.topP.filter (!topPRange ·) with
  | some x, _ => .error (.temperature x)
  | none, some x => .error (.topP x)
  | none, none => if s.maxTokens = some 0 then .error .maxTokens else .ok ()

def validate (r : Request) : Except RequestFault Unit := do
  if isBlank r.model then .error .emptyModel
  checkMessages r.messages
  checkFormat r
  checkSampling r.sampling

end Request

end ChatTurn
