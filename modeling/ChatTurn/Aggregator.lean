import ChatTurn.Error
import ChatTurn.Message
import ChatTurn.Tool.CallText

namespace ChatTurn

inductive Phase
  | awaiting
  | streaming
  | complete (stop : StopReason)
  deriving DecidableEq

structure Aggregator where
  phase : Phase := .awaiting
  content : String := ""
  calls : List ToolCall := []
  /-- Calls delivered whole that no text has restated yet. -/
  uncovered : List ToolCall := []
  pending : String := ""
  issued : Nat := 0

namespace Aggregator

abbrev Outcome := Except Error Unit

/-- A call delivered whole; of one id the first counts. -/
def deliver (a : Aggregator) (c : ToolCall) : Aggregator :=
  if a.calls.any (·.id = c.id) then a
  else { a with calls := a.calls ++ [c], uncovered := a.uncovered ++ [c] }

/-- A call found in text. It covers an equal call that was delivered, if there is one. -/
def restate (ids : IdSupply) (a : Aggregator) (i : Invocation) : Aggregator :=
  if a.uncovered.any (·.toInvocation.same i) then
    { a with uncovered := a.uncovered.eraseP (·.toInvocation.same i) }
  else
    { a with calls := a.calls ++ [i.withId (ids a.issued)], issued := a.issued + 1 }

def resolvePending (ids : IdSupply) (a : Aggregator) : Aggregator × Outcome :=
  let text := a.pending
  let a := { a with pending := "" }
  if Text.isBlank text.toList then (a, .ok ())
  else match CallText.parse text.toList with
    | .error e => (a, .error (.malformedCall e))
    | .ok calls => (calls.foldl (restate ids) a, .ok ())

def applyCall (ids : IdSupply) (a : Aggregator) (d : CallDelta) : Aggregator × Outcome :=
  match d.status, d.payload with
  | .failure, .text s => ({ a with pending := "" }, .error (.malformedCall ⟨a.pending ++ s, .unparsed⟩))
  | .failure, .call _ => ({ a with pending := "" }, .error (.malformedCall ⟨a.pending, .unparsed⟩))
  | .success, .call c => (deliver { a with pending := "" } c, .ok ())
  | .success, .text s => resolvePending ids { a with pending := a.pending ++ s }
  | _, .text s => ({ a with pending := a.pending ++ s }, .ok ())
  | _, .call c => (deliver a c, .ok ())

def applyDelta (ids : IdSupply) (a : Aggregator) : Delta → Aggregator × Outcome
  | .text s => ({ a with content := a.content ++ s }, .ok ())
  | .toolCall d => applyCall ids a d

def applyStop (ids : IdSupply) (a : Aggregator) : Option StopReason → Aggregator × Outcome
  | none => (a, .ok ())
  | some _ => resolvePending ids a

def close (a : Aggregator) (e : Event) : Aggregator :=
  match e.kind, e.stop with
  | .complete, some stop => { a with phase := .complete stop }
  | _, _ => a

def proceed (ids : IdSupply) (a : Aggregator) (e : Event) : Aggregator × Outcome :=
  match applyDelta ids a e.delta with
  | (a, .error err) => (a, .error err)
  | (a, .ok ()) =>
    match applyStop ids a e.stop with
    | (a, .error err) => (a, .error err)
    | (a, .ok ()) => (a.close e, .ok ())

/-- The next event. After an error the aggregator goes on with what it has. -/
def push (ids : IdSupply) (a : Aggregator) (e : Event) : Aggregator × Outcome :=
  match a.phase, e.kind with
  | .awaiting, .start => applyDelta ids { a with phase := .streaming } e.delta
  | .awaiting, kind => (a, .error (.protocol (.beforeStart kind)))
  | .complete _, kind => (a, .error (.protocol (.afterComplete kind)))
  | .streaming, .start => (a, .error (.protocol .secondStart))
  | .streaming, .progress => proceed ids a e
  | .streaming, .complete =>
    if e.stop.isNone then (a, .error (.protocol .completeWithoutStop)) else proceed ids a e

def finish (ids : IdSupply) (a : Aggregator) : Except Error Completion :=
  match a.phase with
  | .complete stop =>
    match FunctionTag.extract a.content.toList with
    | .error e => .error (.malformedCall e)
    | .ok (prose, calls) =>
      let a := calls.foldl (restate ids) a
      let content := if a.calls.isEmpty then prose else Text.trimEnd prose
      .ok ⟨String.ofList content, stop, a.calls⟩
  | _ => .error .canceled

def collect (ids : IdSupply) (a : Aggregator) : List Event → Except Error Completion
  | [] => a.finish ids
  | e :: events =>
    match a.push ids e with
    | (_, .error err) => .error err
    | (a, .ok ()) => collect ids a events

def drain (ids : IdSupply) (a : Aggregator) : List StreamItem → Except Error Completion
  | [] => a.finish ids
  | .error e :: _ => .error e
  | .ok e :: items =>
    match a.push ids e with
    | (_, .error err) => .error err
    | (a, .ok ()) => drain ids a items

end Aggregator

def aggregate (ids : IdSupply) (events : List Event) : Except Error Completion :=
  Aggregator.collect ids {} events

def aggregateStream (ids : IdSupply) (items : List StreamItem) : Except Error Completion :=
  Aggregator.drain ids {} items

end ChatTurn
