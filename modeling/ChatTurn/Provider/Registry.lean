import ChatTurn.Ordered
import ChatTurn.Provider.Handle
import ChatTurn.Text.Search

namespace ChatTurn

structure Registry (σ : Type) where
  handles : Ordered (Handle σ) := []
  owners : Ordered String := []

/-- Where a request goes: a provider by its name, and the model as the provider knows it. -/
structure Route where
  provider : String
  model : String
  deriving DecidableEq

namespace Registry

variable {σ : Type}

def served? (owners : Ordered String) : List String → Option (String × String)
  | [] => none
  | m :: ms =>
    match Ordered.get? m owners with
    | some owner => some (m, owner)
    | none => served? owners ms

def own (r : Registry σ) (provider model : String) : Registry σ :=
  { r with owners := Ordered.put model provider r.owners }

/-- Adds a provider for some models. Its name and its models must be new. -/
def register (r : Registry σ) (p : Provider σ) (models : List String) :
    Registry σ × Except ConfigurationFault Unit :=
  if (Ordered.get? p.name r.handles).isSome then (r, .error (.repeatedProvider p.name))
  else match served? r.owners models with
    | some (model, owner) => (r, .error (.sharedModel model owner p.name))
    | none =>
      let r := models.foldl (own · p.name) r
      ({ r with handles := Ordered.put p.name { provider := p } r.handles }, .ok ())

def listModels (r : Registry σ) : List (String × String) :=
  r.owners.mergeSort fun a b => decide (a.1 ≤ b.1)

def splitPrefix? (s : String) : Option (String × String) :=
  (Text.cut? ['/'] s.toList).map fun (before, after) => (String.ofList before, String.ofList after)

/-- A model by its own name, or else by its provider's name, a slash and its own name. -/
def resolve (r : Registry σ) (model : String) : Except Error Route :=
  match Ordered.get? model r.owners with
  | some provider => .ok ⟨provider, model⟩
  | none =>
    match splitPrefix? model with
    | none => .error (.modelNotFound model)
    | some (provider, rest) =>
      if (Ordered.get? provider r.handles).isNone then .error (.providerNotFound provider)
      else if Ordered.get? rest r.owners = some provider then .ok ⟨provider, rest⟩
      else .error (.modelNotFound model)

def update (r : Registry σ) (h : Handle σ) : Registry σ :=
  { r with handles := Ordered.put h.name h r.handles }

def startHandles : Ordered (Handle σ) → StateM σ (Except Error Unit × Ordered (Handle σ))
  | [] => pure (.ok (), [])
  | (name, h) :: rest => do
    match ← h.start with
    | (.error e, h) => pure (.error e, (name, h) :: rest)
    | (.ok (), h) =>
      let (result, rest) ← startHandles rest
      pure (result, (name, h) :: rest)

def start (r : Registry σ) : StateM σ (Except Error Unit × Registry σ) := do
  let (result, handles) ← startHandles r.handles
  pure (result, { r with handles })

/-- Shuts down all providers; of several failures the first is reported. -/
def shutdownHandles : Ordered (Handle σ) → StateM σ (Except Error Unit × Ordered (Handle σ))
  | [] => pure (.ok (), [])
  | (name, h) :: rest => do
    let (first, h) ← h.shutdown
    let (later, rest) ← shutdownHandles rest
    let result := match first with
      | .error e => .error e
      | .ok () => later
    pure (result, (name, h) :: rest)

def shutdown (r : Registry σ) : StateM σ (Except Error Unit × Registry σ) := do
  let (result, handles) ← shutdownHandles r.handles
  pure (result, { r with handles })

def dispatch (r : Registry σ) (q : Request) : Except Error (Handle σ × Request) :=
  match r.resolve q.model with
  | .error e => .error e
  | .ok route =>
    match Ordered.get? route.provider r.handles with
    | none => .error (.providerNotFound route.provider)
    | some h => .ok (h, { q with model := route.model })

def complete (r : Registry σ) (ids : IdSupply) (q : Request) : StateM σ (Except Error Completion) :=
  match r.dispatch q with
  | .error e => pure (.error e)
  | .ok (h, q) => h.complete ids q

def chat (r : Registry σ) (ids : IdSupply) (q : Request) :
    StateM σ (Except Error (List (Except Error Chunk))) :=
  match r.dispatch q with
  | .error e => pure (.error e)
  | .ok (h, q) => h.chat ids q

end Registry

end ChatTurn
