import ChatTurn.Config.Placeholder
import ChatTurn.Double.Decimal
import ChatTurn.Double.Shortest
import ChatTurn.Tool.Definition

namespace ChatTurn

structure Options where
  config : String
  model : Option String
  stream : Bool
  system : Option String
  tools : Option String
  format : Option PromptFormat
  maxTokens : Option UInt32
  temperature : Option Double
  listModels : Bool
  prompt : Option String

namespace Options

inductive Key
  | config
  | model
  | stream
  | system
  | tools
  | format
  | maxTokens
  | temperature
  | listModels
  | prompt
  deriving DecidableEq

namespace Key

def names : List (String × Key) :=
  [("config", config), ("model", model), ("stream", stream), ("system", system), ("tools", tools),
    ("tool-prompt-format", format), ("max-tokens", maxTokens), ("temperature", temperature),
    ("list-models", listModels)]

def letters : List (Char × Key) := [('c', config), ('m', model)]

def isFlag : Key → Bool
  | stream | listModels => true
  | _ => false

end Key

inductive Word
  | given (key : Key) (value : String)
  | awaiting (key : Key)
  | ending

def readLong (cs : List Char) : Option Word := do
  let key ← Ordered.get? (String.ofList (cs.takeWhile (· ≠ '='))) Key.names
  match cs.dropWhile (· ≠ '=') with
  | [] => some (if key.isFlag then .given key "" else .awaiting key)
  | _ :: value => if key.isFlag then none else some (.given key (String.ofList value))

def readShort (letter : Char) (cs : List Char) : Option Word := do
  let (_, key) ← Key.letters.find? (·.1 = letter)
  match cs with
  | [] => some (.awaiting key)
  | '=' :: value | value => some (.given key (String.ofList value))

def read (arg : String) : Option Word :=
  match arg.toList with
  | ['-', '-'] => some .ending
  | '-' :: '-' :: cs => readLong cs
  | '-' :: c :: cs => readShort c cs
  | _ => some (.given .prompt arg)

/-- A lone hyphen is a value like any other. -/
def isValue (arg : String) : Bool :=
  match arg.toList with
  | '-' :: _ :: _ => false
  | _ => true

def collect : List String → Option (List (Key × String))
  | [] => some []
  | arg :: args => do
    match ← read arg with
    | .given key value => (collect args).map ((key, value) :: ·)
    | .ending => some (args.map fun a => (.prompt, a))
    | .awaiting key =>
      match args with
      | value :: args => if isValue value then (collect args).map ((key, value) :: ·) else none
      | [] => none

def value? (key : Key) (given : List (Key × String)) : Option String :=
  (given.find? (·.1 = key)).map Prod.snd

def optional? {α : Type} (read : String → Option α) (value : Option String) : Option (Option α) :=
  match value with
  | none => some none
  | some s => (read s).map some

def path? (s : String) : Option String := if s.isEmpty then none else some s

def uint32? (s : String) : Option UInt32 :=
  match integer? s.toList with
  | some i => if 0 ≤ i ∧ i < UInt32.size then some (.ofNat i.toNat) else none
  | none => none

def parse? (env : Environment) (args : List String) : Option Options := do
  let given ← collect args
  if !(given.map Prod.fst).Nodup then none
  let value (key : Key) := value? key given
  let config ← path? (((value .config).or (env "INFER_CONFIG")).getD "infer.toml")
  let tools ← optional? path? (value .tools)
  let format ← optional? PromptFormat.ofName? (value .format)
  let maxTokens ← optional? uint32? (value .maxTokens)
  let temperature ← optional? (fun s => Double.parse? s.toList) (value .temperature)
  some
    { config, tools, format, maxTokens, temperature
      model := (value .model).or (env "INFER_MODEL")
      stream := (value .stream).isSome
      system := value .system
      listModels := (value .listModels).isSome
      prompt := value .prompt }

end Options

end ChatTurn
