import ChatTurn.Cli.Options
import ChatTurn.Codec.Tool
import ChatTurn.Config.Reader
import ChatTurn.Provider.Configured

namespace ChatTurn

inductive Failure
  | usage
  | config (fault : ConfigFault)
  | providers (fault : ConfigurationFault)
  | noModel
  | noPrompt
  | unreadableTools (file : String)
  | malformedTools (file : String)
  | completion (e : Error)
  | canceled

structure Report where
  output : String := ""
  failure : Option Failure := none

namespace Failure

def message : Failure → String
  | usage => "usage: infer [OPTIONS] [PROMPT]"
  | config fault => fault.message
  | providers fault => (Error.configuration fault).message
  | noModel => "a model is required (--model or INFER_MODEL)"
  | noPrompt => "a prompt is required"
  | unreadableTools file => "failed to read tools file: " ++ file
  | malformedTools file => "failed to parse tools file: " ++ file
  | completion e => e.message
  | canceled => "completion canceled"

/-- Whether the program breaks off instead of reporting an error. -/
def isCrash : Failure → Bool
  | providers (.tooMuchConcurrency _) => true
  | _ => false

def line? (f : Failure) : Option String :=
  if f.isCrash then none else some (String.ofList (f.message.toList.takeWhile (· ≠ '\n')))

def status : Failure → Nat
  | usage => 2
  | f => if f.isCrash then 101 else 1

end Failure

namespace Report

def status (r : Report) : Nat := (r.failure.map Failure.status).getD 0

def callText (c : ToolCall) : String :=
  "[tool call " ++ c.id ++ "] " ++ c.name.text ++ "(" ++ (Arguments.toJson c.arguments).render ++ ")"

def messageText (m : Completion) : String :=
  let text := if m.content.isEmpty then [] else [m.content]
  String.intercalate "\n" (text ++ m.calls.map callText)

def eventText (e : Event) : Except Failure String :=
  match e.delta with
  | .text s => .ok s
  | .toolCall ⟨.call c, .success⟩ => .ok ("\n" ++ callText c)
  | .toolCall ⟨_, .failure⟩ => .error (.completion (.malformedCall ⟨"", .unparsable⟩))
  | .toolCall _ => .ok ""

def chunkText : Except Error Chunk → Except Failure String
  | .ok (.event e) => eventText e
  | .ok (.response m) => .ok (messageText m)
  | .error e => .error (.completion e)

/-- Prints up to the first failure; without one a line end follows. -/
def ofChunks (output : String) : List (Except Error Chunk) → Report
  | [] => { output := output ++ "\n" }
  | c :: cs =>
    match chunkText c with
    | .ok s => ofChunks (output ++ s) cs
    | .error f => { output, failure := some f }

end Report

namespace Options

variable {σ : Type}

def readTools (read : String → Except String String) (file : String) :
    Except Failure (List ToolDefinition) :=
  match read file with
  | .error _ => .error (.unreadableTools file)
  | .ok text =>
    match Json.decode? (Json.Reader.list ToolDefinition.read) text with
    | none => .error (.malformedTools file)
    | some tools => .ok tools

def request (o : Options) (read : String → Except String String) : Except Failure Request := do
  let some model := o.model | .error .noModel
  let some prompt := o.prompt | .error .noPrompt
  let tools ← match o.tools with
    | none => .ok []
    | some file => readTools read file
  .ok
    { model
      messages := (o.system.toList.map fun s => .system (.text s)) ++ [.user (.text prompt)]
      sampling := { temperature := o.temperature, maxTokens := o.maxTokens }
      tools
      format := o.format
      stream := o.stream }

/-- Puts a request. If a signal comes before the first token does, the completion is canceled. -/
def answer (r : Registry σ) (ids : IdSupply) (isInterrupted : Bool) (q : Request) : StateM σ Report := do
  match ← r.chat ids q with
  | .error e => pure { failure := some (.completion e) }
  | .ok chunks =>
    if isInterrupted then pure { failure := some .canceled } else pure (.ofChunks "" chunks)

def serve (r : Registry σ) (ids : IdSupply) (isInterrupted : Bool) (q : Request) : StateM σ Report := do
  match ← r.start with
  | (.error e, _) => pure { failure := some (.completion e) }
  | (.ok (), r) =>
    let report ← answer r ids isInterrupted q
    match ← r.shutdown with
    | (.error e, _) => pure { report with failure := some (.completion e) }
    | (.ok (), _) => pure report

def modelLines (r : Registry σ) : String :=
  String.join (r.listModels.map fun (model, provider) => provider ++ "/" ++ model ++ "\n")

def run (o : Options) (env : Environment) (read : String → Except String String)
    (send : Remote.Transport σ) (ids : IdSupply) (isInterrupted : Bool) : StateM σ Report :=
  match Config.load env read o.config with
  | .error fault => pure { failure := some (.config fault) }
  | .ok c =>
    match Registry.ofConfig send c with
    | .error fault => pure { failure := some (.providers fault) }
    | .ok r =>
      if o.listModels then pure { output := modelLines r }
      else match o.request read with
        | .error f => pure { failure := some f }
        | .ok q => serve r ids isInterrupted q

end Options

end ChatTurn
