import ChatTurn.Config.Basic
import ChatTurn.Error
import ChatTurn.Output.Token

namespace ChatTurn

structure Rule where
  pattern : Pattern
  output : String

structure Scripted where
  name : String
  rules : List Rule
  fallback : Option String
  maxTokens : UInt32
  limit : Nat

namespace Scripted

/-- The most permits that can be counted. -/
def maxLimit : Nat := (1 <<< 61) - 1

def compile (provider : String) : List Script → Except ConfigurationFault (List Rule)
  | [] => .ok []
  | s :: ss =>
    match Pattern.parse s.pattern with
    | .error fault => .error (.pattern provider s.pattern fault)
    | .ok pattern => (compile provider ss).map (⟨pattern, s.output⟩ :: ·)

def ofConfig (name : String) (c : ScriptedConfig) : Except ConfigurationFault Scripted :=
  match compile name c.scripts with
  | .error fault => .error fault
  | .ok rules =>
    let limit := c.maxConcurrent.toNat
    if limit = 0 then .error (.noConcurrency name)
    else if maxLimit < limit then .error (.tooMuchConcurrency name)
    else .ok ⟨name, rules, c.fallback, c.maxTokens, limit⟩

/-- The output with an end of turn, unless it ends the message itself. -/
def terminated (output : String) : String :=
  let cs := output.toList
  if Text.contains Token.endOfTurn.toList cs || Text.contains Token.endOfMessage.toList cs then output
  else output ++ Token.endOfTurn

def prompt (r : Request) : String := (r.messages.getLast?.map Message.plain).getD ""

/-- Of several rules that match, the first one counts. -/
def output (p : Scripted) (r : Request) : Except GenerationFault String :=
  match ((p.rules.find? (·.pattern.occursIn (prompt r))).map Rule.output).or p.fallback with
  | some output => .ok (terminated output)
  | none => .error (.noScript p.name)

end Scripted

end ChatTurn
