import ChatTurn.Json.Node

namespace ChatTurn.Remote

inductive Part
  | text (text : String)
  | image (url : String)

inductive Content
  | text (text : String)
  | parts (parts : List Part)

structure Call where
  id : String
  type : String
  name : String
  arguments : String

structure Message where
  role : String
  content : Option Content := none
  calls : Option (List Call) := none
  callId : Option String := none

structure Function where
  name : String
  description : Option String
  parameters : Option Json.Value

structure Tool where
  type : String
  function : Function

structure Request where
  model : String
  messages : List Message
  temperature : Option Double
  topP : Option Double
  maxTokens : Option UInt32
  stream : Option Bool
  tools : Option (List Tool)

structure FunctionFragment where
  name : Option String
  arguments : Option String

/-- A piece of the tool call that stands at `index`. -/
structure CallFragment where
  index : UInt32
  id : Option String
  type : Option String
  function : Option FunctionFragment

structure ChoiceDelta where
  role : Option String := none
  content : Option String := none
  calls : Option (List CallFragment) := none

structure Choice where
  index : UInt32
  delta : ChoiceDelta
  finishReason : Option String

structure Chunk where
  choices : List Choice

structure Failure where
  message : String

end ChatTurn.Remote
