import ChatTurn.Remote.Wire
import ChatTurn.Tool.JsonCall
import ChatTurn.Event

namespace ChatTurn.Remote

def stopReason (finishReason : String) : StopReason :=
  match finishReason with
  | "tool_calls" | "function_call" => .endOfMessage
  | "length" => .outOfTokens
  | "stop" => .endOfTurn
  | _ => .other

structure OpenCall where
  id : Option String := none
  name : String := ""
  arguments : String := ""

structure Turn where
  started : Bool := false
  completed : Bool := false
  stop : Option StopReason := none
  pending : List (UInt32 × OpenCall) := []

namespace OpenCall

def add (c : OpenCall) (f : CallFragment) : OpenCall :=
  let function := f.function.getD ⟨none, none⟩
  { id := f.id.or c.id
    name := c.name ++ function.name.getD ""
    arguments := c.arguments ++ function.arguments.getD "" }

/-- The call meant, under the given id if the fragments brought none. -/
def resolve (c : OpenCall) (id : String) : Except CallFault ToolCall :=
  let name := Text.trim c.name.toList
  if name.isEmpty then .error .noFunctionName
  else (Arguments.parse c.arguments.toList).map fun arguments =>
    (⟨ToolName.parse (String.ofList name), arguments⟩ : Invocation).withId (c.id.getD id)

end OpenCall

namespace Turn

/-- Adds a fragment to the call at its index, which keeps the indices in order. -/
def addFragment (f : CallFragment) : List (UInt32 × OpenCall) → List (UInt32 × OpenCall)
  | [] => [(f.index, OpenCall.add {} f)]
  | (i, c) :: rest =>
    if f.index < i then (f.index, OpenCall.add {} f) :: (i, c) :: rest
    else if f.index = i then (i, c.add f) :: rest
    else (i, c) :: addFragment f rest

def start (t : Turn) : Turn × List Event :=
  if t.started then (t, []) else ({ t with started := true }, [.start])

def fragmentText (f : CallFragment) : String := (f.function.bind (·.arguments)).getD ""

def onFragment (t : Turn) (f : CallFragment) : Turn × Event :=
  let status := if t.pending.any (·.1 = f.index) then .inProgress else .started
  ({ t with pending := addFragment f t.pending }, .fragment (fragmentText f) status)

def onFragments (t : Turn) : List CallFragment → Turn × List Event
  | [] => (t, [])
  | f :: fs =>
    let (t, e) := t.onFragment f
    let (t, es) := t.onFragments fs
    (t, e :: es)

/-- One event for each unfinished call; the last bears the reason to stop. -/
def resolutions (ids : IdSupply) (stop : StopReason) : Nat → List OpenCall → List Event
  | _, [] => []
  | i, c :: cs =>
    let stop? := if cs.isEmpty then some stop else none
    let event := match c.resolve (ids i) with
      | .ok call => Event.resolved call stop?
      | .error _ => .failure stop?
    event :: resolutions ids stop (i + 1) cs

/-- Stops for the first reason given; a later one counts for nothing. -/
def onStop (ids : IdSupply) (t : Turn) (stop : StopReason) : Turn × List Event :=
  if t.stop.isSome then (t, [])
  else ({ t with stop := some stop, pending := [] }, resolutions ids stop 0 (t.pending.map Prod.snd))

def onContent (content : Option String) : List Event :=
  match content with
  | none => []
  | some s => if s.isEmpty then [] else [.text s]

def onChoice (ids : IdSupply) (t : Turn) (c : Choice) : Turn × List Event :=
  let (t, fragments) := t.onFragments (c.delta.calls.getD [])
  let (t, closing) := match c.finishReason with
    | some reason => t.onStop ids (stopReason reason)
    | none => (t, [])
  (t, onContent c.delta.content ++ fragments ++ closing)

def onChoices (ids : IdSupply) (t : Turn) : List Choice → Turn × List Event
  | [] => (t, [])
  | c :: cs =>
    let (t, first) := t.onChoice ids c
    let (t, rest) := t.onChoices ids cs
    (t, first ++ rest)

/-- Only the first choice counts. After completion a chunk brings nothing. -/
def onChunk (ids : IdSupply) (t : Turn) (c : Chunk) : Turn × List Event :=
  let (t, opening) := t.start
  if t.completed then (t, opening)
  else
    let (t, events) := t.onChoices ids (c.choices.filter (·.index = 0))
    (t, opening ++ events)

def onDone (ids : IdSupply) (t : Turn) : Turn × List Event :=
  let (t, opening) := t.start
  if t.completed then (t, opening)
  else
    let (t, closing) := t.onStop ids .endOfTurn
    ({ t with completed := true }, opening ++ closing ++ [.complete (t.stop.getD .endOfTurn)])

end Turn

end ChatTurn.Remote
