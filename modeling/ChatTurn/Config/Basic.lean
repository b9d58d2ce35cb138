import ChatTurn.Config.Placeholder
import ChatTurn.Ordered
import ChatTurn.Pattern.Parser
import ChatTurn.Url.Basic

namespace ChatTurn

/-- Raw output for the conversations whose last message matches a pattern. -/
structure Script where
  pattern : String
  output : String
  deriving DecidableEq

structure ScriptedConfig where
  models : List String
  scripts : List Script := []
  fallback : Option String := none
  maxTokens : UInt32 := 512
  maxConcurrent : UInt64 := 1
  tokenDelay : Option UInt64 := none

structure RemoteConfig where
  baseUrl : Url
  apiKey : Option String := none
  models : List String
  modelMap : Ordered String := []
  timeout : Option UInt64 := none

inductive ProviderConfig
  | scripted (config : ScriptedConfig)
  | remote (config : RemoteConfig)

inductive LogFormat
  | text
  | json
  deriving DecidableEq

structure LogConfig where
  filter : Option String := none
  format : LogFormat := .text

structure Config where
  providers : Ordered ProviderConfig := []
  logging : Option LogConfig := none

inductive ConfigFault
  | unreadable (file : String) (cause : String)
  | placeholder (fault : PlaceholderFault)
  | form
  | noProviders
  | noModels (provider : String)
  | sharedModel (model first second : String)
  | pattern (provider : String) (fault : Pattern.Fault)
  | noConcurrency (provider : String)
  | noTokens (provider : String)
  | scheme (provider : String)
  | unmappedModel (provider model : String)
  deriving DecidableEq

def ConfigFault.message : ConfigFault → String
  | unreadable file cause => "failed to read config file " ++ file ++ ": " ++ cause
  | placeholder fault => "config variable expansion failed: " ++ fault.message
  | form => "failed to parse config: not a configuration"
  | noProviders => "at least one inference provider must be configured"
  | noModels provider => "provider '" ++ provider ++ "' must serve at least one model"
  | sharedModel model first second =>
    "model '" ++ model ++ "' is served by both '" ++ first ++ "' and '" ++ second ++ "'"
  | pattern provider fault =>
    "invalid script pattern for provider '" ++ provider ++ "': " ++ fault.message
  | noConcurrency provider =>
    "provider '" ++ provider ++ "': max_concurrent_generations must be greater than 0"
  | noTokens provider => "provider '" ++ provider ++ "': max_tokens must be greater than 0"
  | scheme provider => "provider '" ++ provider ++ "': base_url must use http or https"
  | unmappedModel provider model =>
    "provider '" ++ provider ++ "': model_map entry '" ++ model ++ "' is not a served model"

namespace LogFormat

def names : List (String × LogFormat) := [("text", text), ("json", json)]

def name : LogFormat → String
  | text => "text"
  | json => "json"

end LogFormat

namespace ProviderConfig

def models : ProviderConfig → List String
  | scripted c => c.models
  | remote c => c.models

end ProviderConfig

namespace Config

/-- Adds the models of a provider to the owners known so far; no model may have an owner yet. -/
def own (provider : String) : Ordered String → List String → Except ConfigFault (Ordered String)
  | owners, [] => .ok owners
  | owners, m :: ms =>
    match Ordered.get? m owners with
    | some first => .error (.sharedModel m first provider)
    | none => own provider (Ordered.put m provider owners) ms

def checkScripts (provider : String) : List Script → Except ConfigFault Unit
  | [] => .ok ()
  | s :: ss =>
    match Pattern.parse s.pattern with
    | .error fault => .error (.pattern provider fault)
    | .ok _ => checkScripts provider ss

def checkProvider (provider : String) : ProviderConfig → Except ConfigFault Unit
  | .scripted c => do
    checkScripts provider c.scripts
    if c.maxConcurrent = 0 then .error (.noConcurrency provider)
    else if c.maxTokens = 0 then .error (.noTokens provider)
    else .ok ()
  | .remote c =>
    if c.baseUrl.scheme ≠ "http" ∧ c.baseUrl.scheme ≠ "https" then .error (.scheme provider)
    else match c.modelMap.keys.find? (· ∉ c.models) with
      | some model => .error (.unmappedModel provider model)
      | none => .ok ()

def checkProviders : Ordered String → Ordered ProviderConfig → Except ConfigFault Unit
  | _, [] => .ok ()
  | owners, (name, p) :: rest => do
    if p.models.isEmpty then .error (.noModels name)
    let owners ← own name owners p.models
    checkProvider name p
    checkProviders owners rest

def validate (c : Config) : Except ConfigFault Unit :=
  if c.providers.isEmpty then .error .noProviders else checkProviders [] c.providers

end Config

end ChatTurn
