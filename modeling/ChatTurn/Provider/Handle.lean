import ChatTurn.Aggregator
import ChatTurn.Provider.Basic
import ChatTurn.Text.Quoted

namespace ChatTurn

structure Handle (σ : Type) where
  provider : Provider σ
  state : Lifecycle := .uninitialized

namespace Handle

variable {σ : Type}

def name (h : Handle σ) : String := h.provider.name

def notReady (h : Handle σ) : Error := .notReady h.name h.state

def startReply? (h : Handle σ) : Option (Except Error Unit) :=
  match h.state with
  | .ready => some (.ok ())
  | .shutDown => some (.error h.notReady)
  | .uninitialized => none

/-- Sets the provider up, once. A failure leaves it as it was. -/
def start (h : Handle σ) : StateM σ (Except Error Unit × Handle σ) :=
  match h.startReply? with
  | some result => pure (result, h)
  | none => do
    match ← h.provider.start with
    | .ok () => pure (.ok (), { h with state := .ready })
    | .error e => pure (.error e, h)

/-- Shuts the provider down for good, even where that fails. -/
def shutdown (h : Handle σ) : StateM σ (Except Error Unit × Handle σ) :=
  match h.state with
  | .shutDown => pure (.ok (), h)
  | .uninitialized | .ready => do
    let result ← h.provider.shutdown
    pure (result, { h with state := .shutDown })

def accept (h : Handle σ) (r : Request) : Except Error Unit :=
  match h.state with
  | .ready => r.validate.mapError .invalidRequest
  | .uninitialized | .shutDown => .error h.notReady

def turn (h : Handle σ) (ids : IdSupply) (r : Request) : StateM σ (Except Error (List StreamItem)) :=
  match h.accept r with
  | .error e => pure (.error e)
  | .ok () => h.provider.turn ids r

def completion (ids : IdSupply) : Except Error (List StreamItem) → Except Error Completion
  | .error e => .error e
  | .ok items => aggregateStream ids.odd items

/-- The items of a turn one by one where the request streams, and else its message as the one item. -/
def chunks (ids : IdSupply) (r : Request) :
    Except Error (List StreamItem) → Except Error (List (Except Error Chunk))
  | .error e => .error e
  | .ok items =>
    if r.stream then .ok (items.map (·.map Chunk.event))
    else .ok [(aggregateStream ids.odd items).map Chunk.response]

def complete (h : Handle σ) (ids : IdSupply) (r : Request) : StateM σ (Except Error Completion) := do
  return completion ids (← h.turn ids.even r)

def chat (h : Handle σ) (ids : IdSupply) (r : Request) :
    StateM σ (Except Error (List (Except Error Chunk))) := do
  return chunks ids r (← h.turn ids.even r)

def describe (h : Handle σ) : String :=
  "ProviderHandle \x7b name: " ++ String.ofList (Text.Quoted.write h.name.toList) ++ ", state: " ++
    h.state.label ++ " \x7d"

end Handle

end ChatTurn
