import ChatTurn.Event
import ChatTurn.Output.Token
import ChatTurn.Request
import ChatTurn.Tool.CallText

namespace ChatTurn

inductive CallForm
  | builtin
  | functionTag
  | json
  | list
  deriving DecidableEq

inductive Decoder
  /-- Prose so far. A message that begins with a call in the form `leading` is all call, until
  it is seen how it begins; `held` has not been passed on. -/
  | prose (leading : Option CallForm) (held : List Char)
  | call (form : CallForm) (buffer : List Char)
  | ended (stop : StopReason)

namespace CallForm

def opener : CallForm → Option Char
  | json => some '{'
  | list => some '['
  | builtin | functionTag => none

def read (form : CallForm) (buffer : List Char) :
    Except MalformedCall (List Char × List Invocation) :=
  match form with
  | builtin => (CallExpression.builtin buffer).map fun i => ([], [i])
  | functionTag => FunctionTag.extract buffer
  | json => (JsonCall.parse buffer).map fun i => ([], [i])
  | list => (CallExpression.list buffer).map fun is => ([], is)

def ofFormat? : Option PromptFormat → Option CallForm
  | some .json => some json
  | some .pythonList => some list
  | some .functionTag | none => none

end CallForm

namespace Decoder

def new (format : Option PromptFormat) : Decoder := prose (CallForm.ofFormat? format) []

/-- The format counts only where the request has tools that are not built in. -/
def formatOf (r : Request) : Option PromptFormat :=
  if r.tools.any (!·.name.isBuiltin) then r.effectiveFormat else none

def forRequest (r : Request) : Decoder := new (formatOf r)

def stop? : Decoder → Option StopReason
  | ended stop => some stop
  | _ => none

def isDone (d : Decoder) : Bool := d.stop?.isSome

def flush (held : List Char) : List Event :=
  if held.isEmpty then [] else [.text (String.ofList held)]

def enter (form : CallForm) (initial : List Char) : Decoder × List Event :=
  (call form initial, [.fragment (String.ofList initial) .started])

def resolutions (stop : StopReason) : List ToolCall → List Event
  | [] => []
  | [c] => [.resolved c (some stop)]
  | c :: cs => .resolved c none :: resolutions stop cs

def conclude (ids : IdSupply) (form : CallForm) (buffer : List Char) (stop : StopReason) :
    List Event :=
  match form.read buffer with
  | .error _ => [.failure (some stop)]
  | .ok (around, calls) =>
    (if Text.isBlank around then [] else [.text (String.ofList around)]) ++
      if calls.isEmpty then [.failure (some stop)]
      else resolutions stop (numbered ids 0 calls)

def finish (ids : IdSupply) (stop : StopReason) : Decoder → Decoder × List Event
  | ended s => (ended s, [])
  | prose _ held => (ended stop, flush held ++ [.complete stop])
  | call form buffer => (ended stop, conclude ids form buffer stop ++ [.complete stop])

/-- Splits off the longest end that is the beginning of a function tag, short of all of it. -/
def splitPartialTag : List Char → List Char × List Char
  | [] => ([], [])
  | c :: cs =>
    if cs.length + 1 < FunctionTag.opening.length && Text.startsWith (c :: cs) FunctionTag.opening then
      ([], c :: cs)
    else
      let (out, held) := splitPartialTag cs
      (c :: out, held)

def pushProse (held : List Char) : Decoder × List Event :=
  match Text.cut? FunctionTag.opening held with
  | some (before, after) =>
    let (d, events) := enter .functionTag (FunctionTag.opening ++ after)
    (d, flush before ++ events)
  | none =>
    let (out, held) := splitPartialTag held
    (prose none held, flush out)

def pushLeading (form : CallForm) (held : List Char) : Decoder × List Event :=
  match Text.trimStart held with
  | [] => (prose (some form) held, [])
  | c :: cs => if form.opener = some c then enter form (c :: cs) else pushProse held

/-- Control tokens hold no text of the message, and none counts after its end. -/
def push (ids : IdSupply) (token : String) (d : Decoder) : Decoder × List Event :=
  if d.isDone then (d, [])
  else if token = Token.endOfTurn then d.finish ids .endOfTurn
  else if token = Token.endOfMessage then d.finish ids .endOfMessage
  else if token = Token.builtinCall then
    match d with
    | prose _ held =>
      let (d, events) := enter .builtin []
      (d, flush held ++ events)
    | d => (d, [])
  else if Token.isControl token.toList then (d, [])
  else match d with
    | prose none held => pushProse (held ++ token.toList)
    | prose (some form) held => pushLeading form (held ++ token.toList)
    | call form buffer => (call form (buffer ++ token.toList), [.fragment token .inProgress])
    | ended stop => (ended stop, [])

/-- Decodes whole output, which ends for want of tokens where it does not end itself. -/
def pushAll (ids : IdSupply) (d : Decoder) : List String → Decoder × List Event
  | [] => (d, [])
  | t :: ts =>
    let (d, first) := d.push ids t
    let (d, rest) := pushAll ids d ts
    (d, first ++ rest)

def run (ids : IdSupply) (d : Decoder) (tokens : List String) (stop : StopReason) : List Event :=
  let (d, events) := d.pushAll ids tokens
  events ++ (d.finish ids stop).2

end Decoder

end ChatTurn
