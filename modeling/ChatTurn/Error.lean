import ChatTurn.Event
import ChatTurn.Lifecycle
import ChatTurn.Pattern.Fault
import ChatTurn.Remote.Status
import ChatTurn.Request
import ChatTurn.Tool.Fault

namespace ChatTurn

/-- How a sequence of events breaks the order of start, progress and completion. -/
inductive Violation
  | beforeStart (kind : EventKind)
  | afterComplete (kind : EventKind)
  | secondStart
  | completeWithoutStop
  | reported (text : String)
  deriving DecidableEq

inductive RemoteFault
  | status (code : Nat) (detail : String)
  | unreachable
  | malformed
  | reported (text : String)
  deriving DecidableEq

inductive StreamFault
  | transport
  | encoding
  | closedEarly
  | reported (text : String)
  deriving DecidableEq

inductive GenerationFault
  | noScript (provider : String)
  | shutDown (provider : String)
  | reported (text : String)
  deriving DecidableEq

inductive ConfigurationFault
  | repeatedProvider (name : String)
  | sharedModel (model first second : String)
  | pattern (provider source : String) (fault : Pattern.Fault)
  | noConcurrency (provider : String)
  | tooMuchConcurrency (provider : String)
  | reported (text : String)
  deriving DecidableEq

inductive Error
  | invalidRequest (fault : RequestFault)
  | malformedCall (call : MalformedCall)
  | notReady (provider : String) (state : Lifecycle)
  | canceled
  | modelNotFound (model : String)
  | providerNotFound (provider : String)
  | protocol (violation : Violation)
  | remote (fault : RemoteFault)
  | streaming (fault : StreamFault)
  | generation (fault : GenerationFault)
  | configuration (fault : ConfigurationFault)
  | internal (text : String)
  deriving DecidableEq

def Violation.message : Violation → String
  | beforeStart kind => kind.name ++ " event before start"
  | afterComplete kind => kind.name ++ " event after complete"
  | secondStart => "duplicate start event"
  | completeWithoutStop => "complete event without stop_reason"
  | reported text => text

def RemoteFault.message : RemoteFault → String
  | status code detail =>
    "provider returned " ++ Nat.repr code ++ " " ++ Remote.Status.reason code ++ ": " ++ detail
  | unreachable => "error sending request"
  | malformed => "builder error"
  | reported text => text

def StreamFault.message : StreamFault → String
  | transport => "Transport error: the body ended before its length"
  | encoding => "UTF8 error: the body is not UTF-8"
  | closedEarly => "upstream closed the stream before finishing"
  | reported text => text

def GenerationFault.message : GenerationFault → String
  | noScript provider => "provider '" ++ provider ++ "': no script matches the last message"
  | shutDown provider => "provider '" ++ provider ++ "' is shut down"
  | reported text => text

def ConfigurationFault.message : ConfigurationFault → String
  | repeatedProvider name => "provider '" ++ name ++ "' is registered twice"
  | sharedModel model first second =>
    "model '" ++ model ++ "' is served by both '" ++ first ++ "' and '" ++ second ++ "'"
  | pattern provider source fault =>
    "provider '" ++ provider ++ "': invalid script pattern '" ++ source ++ "': " ++ fault.message
  | noConcurrency provider =>
    "provider '" ++ provider ++ "': max_concurrent_generations must be greater than 0"
  | tooMuchConcurrency provider =>
    "provider '" ++ provider ++ "': max_concurrent_generations is too large"
  | reported text => text

namespace Error

def message : Error → String
  | invalidRequest fault => "invalid request: " ++ fault.message
  | malformedCall call => "malformed tool call: " ++ call.fault.message
  | notReady provider state => "provider '" ++ provider ++ "' is not ready (" ++ state.name ++ ")"
  | canceled => "stream ended before completion"
  | modelNotFound model => "model not found: " ++ model
  | providerNotFound provider => "provider not found: " ++ provider
  | protocol violation => "stream protocol violation: " ++ violation.message
  | remote fault => "upstream error: " ++ fault.message
  | streaming fault => "streaming error: " ++ fault.message
  | generation fault => "generation failed: " ++ fault.message
  | configuration fault => "configuration error: " ++ fault.message
  | internal text => "internal error: " ++ text

def isClient : Error → Bool
  | invalidRequest _ | modelNotFound _ | providerNotFound _ => true
  | _ => false

end Error

abbrev StreamItem := Except Error Event

end ChatTurn
