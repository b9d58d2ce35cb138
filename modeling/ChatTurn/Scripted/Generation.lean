import ChatTurn.Output.Decoder
import ChatTurn.Scripted.Basic
import ChatTurn.Scripted.Pool

namespace ChatTurn

structure Budget where
  limit : UInt32
  spent : UInt32 := 0

namespace Budget

/-- Pays for a token. One that ends the message is free. -/
def pay? (b : Budget) (token : String) : Option Budget :=
  if Token.isStop token then some b
  else if b.limit ≤ b.spent then none
  else some { b with spent := b.spent + 1 }

end Budget

namespace Scripted

def budget (p : Scripted) (r : Request) : Budget := { limit := r.sampling.maxTokens.getD p.maxTokens }

/-- The message ends for want of tokens where nothing ended it before. -/
def generate (ids : IdSupply) (b : Budget) (d : Decoder) : List String → List Event
  | [] => (d.finish ids .outOfTokens).2
  | t :: ts =>
    if d.isDone then (d.finish ids .outOfTokens).2
    else match b.pay? t with
      | none => (d.finish ids .outOfTokens).2
      | some b =>
        let (d, events) := d.push ids t
        events ++ generate ids b d ts

/-- All events of a generation, once it has its permit. -/
def generation (ids : IdSupply) (b : Budget) (d : Decoder) (tokens : List String) : List Event :=
  .start :: generate ids b d tokens

def events (p : Scripted) (ids : IdSupply) (r : Request) : Except GenerationFault (List Event) :=
  (p.output r).map fun output => generation ids (p.budget r) (.forRequest r) (Token.ofText output)

def pool (p : Scripted) : Pool StreamItem :=
  { limit := p.limit, refusal := .error (.generation (.shutDown p.name)) }

end Scripted

end ChatTurn
