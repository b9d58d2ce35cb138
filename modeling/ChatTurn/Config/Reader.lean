import ChatTurn.Config.Basic
import ChatTurn.Toml.Parser

namespace ChatTurn

open Toml (Item)

namespace Toml

namespace Item

def string? : Item → Option String
  | string s => some s
  | _ => none

def strings? : Item → Option (List String)
  | array items => items.mapM string?
  | _ => none

/-- The entries of a table. A date or a time counts as a table of one entry, its text. -/
def entries? : Item → Option Entries
  | table _ es => some es
  | moment text => some [("$__toml_private_datetime", .string text)]
  | _ => none

def natural? (bound : Nat) : Item → Option Nat
  | integer i => if 0 ≤ i ∧ i < bound then some i.toNat else none
  | _ => none

def items? : Item → Option (List Item)
  | array items => some items
  | tables ts => some (ts.map (table .header ·))
  | _ => none

/-- A table of the names given and no others, or an array of their values in order; if `exact` is
set, of no more values than names. -/
def record? (names : List String) (exact : Bool) : Item → Option Entries
  | table _ es => if es.all fun (k, _) => k ∈ names then some es else none
  | item => do
    let items ← item.items?
    if exact && names.length < items.length then none else some (names.zip items)

end Item

def optionalField {α : Type} (read : Item → Option α) (name : String) (es : Entries) :
    Option (Option α) :=
  match Ordered.get? name es with
  | none => some none
  | some i => (read i).map some

def fieldOr {α : Type} (default : α) (read : Item → Option α) (name : String) (es : Entries) :
    Option α :=
  (optionalField read name es).map (·.getD default)

def requiredField {α : Type} (read : Item → Option α) (name : String) (es : Entries) : Option α :=
  (Ordered.get? name es).bind read

end Toml

open Toml (optionalField fieldOr requiredField)

namespace Script

def read? (i : Item) : Option Script := do
  let es ← i.record? ["pattern", "output"] true
  let pattern ← requiredField Item.string? "pattern" es
  let output ← requiredField Item.string? "output" es
  some ⟨pattern, output⟩

end Script

namespace ScriptedConfig

def fields : List String :=
  ["models", "scripts", "fallback", "max_tokens", "max_concurrent_generations", "token_delay_ms"]

def read? (i : Item) : Option ScriptedConfig := do
  let es ← i.record? fields true
  let models ← requiredField Item.strings? "models" es
  let scripts ← fieldOr [] (fun i => i.items?.bind (·.mapM Script.read?)) "scripts" es
  let fallback ← optionalField Item.string? "fallback" es
  let maxTokens ← fieldOr 512 (Item.natural? UInt32.size) "max_tokens" es
  let maxConcurrent ← fieldOr 1 (Item.natural? UInt64.size) "max_concurrent_generations" es
  let tokenDelay ← optionalField (Item.natural? UInt64.size) "token_delay_ms" es
  some ⟨models, scripts, fallback, .ofNat maxTokens, .ofNat maxConcurrent, tokenDelay.map .ofNat⟩

end ScriptedConfig

namespace RemoteConfig

def fields : List String := ["base_url", "api_key", "models", "model_map", "timeout_seconds"]

def readMap? (i : Item) : Option (Ordered String) :=
  i.entries?.bind (·.mapM fun (k, i) => i.string?.map fun s => (k, s))

def read? (i : Item) : Option RemoteConfig := do
  let es ← i.record? fields true
  let baseUrl ← requiredField (fun i => i.string?.bind Url.parse?) "base_url" es
  let apiKey ← optionalField Item.string? "api_key" es
  let models ← requiredField Item.strings? "models" es
  let modelMap ← fieldOr [] readMap? "model_map" es
  let timeout ← optionalField (Item.natural? UInt64.size) "timeout_seconds" es
  some ⟨baseUrl, apiKey, models, modelMap, timeout.map .ofNat⟩

end RemoteConfig

namespace ProviderConfig

def splitType? : Item → Option (String × Item)
  | .table origin es => do
    let type ← requiredField Item.string? "type" es
    some (type, .table origin (es.filter (·.1 ≠ "type")))
  | item => do
    match ← item.items? with
    | .string type :: rest => some (type, .array rest)
    | _ => none

def read? (i : Item) : Option ProviderConfig := do
  let (type, i) ← splitType? i
  match type with
  | "scripted" => (ScriptedConfig.read? i).map scripted
  | "openai_compatible" => (RemoteConfig.read? i).map remote
  | _ => none

end ProviderConfig

namespace LogFormat

/-- A name, or a table with that name as its only key and nothing in it. -/
def read? : Item → Option LogFormat
  | .string s => Ordered.get? s names
  | .table _ [(k, .table _ [])] => Ordered.get? k names
  | .table _ [(k, .array [])] => Ordered.get? k names
  | _ => none

end LogFormat

namespace LogConfig

def read? (i : Item) : Option LogConfig := do
  let es ← i.record? ["filter", "format"] false
  let filter ← optionalField Item.string? "filter" es
  let format ← fieldOr .text LogFormat.read? "format" es
  some ⟨filter, format⟩

end LogConfig

namespace Config

def readProviders? (i : Item) : Option (Ordered ProviderConfig) := do
  let es ← i.entries?
  let providers ← es.mapM fun (k, i) => (ProviderConfig.read? i).map fun p => (k, p)
  some (providers.mergeSort fun a b => a.1 ≤ b.1)

def readInference? (i : Item) : Option (Ordered ProviderConfig) := do
  let es ← i.record? ["providers"] false
  fieldOr [] readProviders? "providers" es

def read? (es : Toml.Entries) : Option Config := do
  let es ← (Item.table .header es).record? ["inference", "logging"] false
  let providers ← fieldOr [] readInference? "inference" es
  let logging ← optionalField LogConfig.read? "logging" es
  some ⟨providers, logging⟩

/-- A valid configuration from its text, with the placeholders replaced. -/
def parse (env : Environment) (text : String) : Except ConfigFault Config :=
  match Placeholder.expand env text.toList with
  | .error fault => .error (.placeholder fault)
  | .ok cs =>
    match (Toml.parse? cs).bind read? with
    | none => .error .form
    | some config => config.validate.map fun _ => config

def load (env : Environment) (read : String → Except String String) (file : String) :
    Except ConfigFault Config :=
  match read file with
  | .error cause => .error (.unreadable file cause)
  | .ok text => parse env text

end Config

end ChatTurn
