import ChatTurn.Event

namespace ChatTurn

inductive Role
  | system
  | user
  | assistant
  | toolResponse
  deriving DecidableEq

inductive ContentPart
  | text (text : String)
  | image (url : String)
  deriving DecidableEq

inductive Content
  | text (text : String)
  | parts (parts : List ContentPart)
  deriving DecidableEq

structure Completion where
  content : String
  stop : StopReason
  calls : List ToolCall

inductive Message
  | system (content : Content)
  | user (content : Content)
  | assistant (completion : Completion)
  | toolResponse (callId : String) (tool : ToolName) (content : Content)

/-- One item of an answer: an event where the request streams, and else the whole message. -/
inductive Chunk
  | event (event : Event)
  | response (completion : Completion)

def ContentPart.text? : ContentPart → Option String
  | text t => some t
  | image _ => none

def Content.plain : Content → String
  | text t => t
  | parts ps => String.join (ps.filterMap ContentPart.text?)

namespace Role

def names : List (String × Role) :=
  [("system", system), ("user", user), ("assistant", assistant), ("tool_response", toolResponse)]

def name : Role → String
  | system => "system"
  | user => "user"
  | assistant => "assistant"
  | toolResponse => "tool_response"

def label : Role → String
  | system => "System"
  | user => "User"
  | assistant => "Assistant"
  | toolResponse => "ToolResponse"

end Role

namespace Message

def role : Message → Role
  | system _ => .system
  | user _ => .user
  | assistant _ => .assistant
  | toolResponse .. => .toolResponse

def plain : Message → String
  | system c | user c | toolResponse _ _ c => c.plain
  | assistant m => m.content

end Message

end ChatTurn
