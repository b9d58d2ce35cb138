import ChatTurn.Provider.Basic
import ChatTurn.Scripted.Generation

namespace ChatTurn.Scripted

def turn (p : Scripted) (ids : IdSupply) (r : Request) : Except Error (List StreamItem) :=
  match p.events ids r with
  | .error fault => .error (.generation fault)
  | .ok events => .ok (events.map .ok)

def provider {σ : Type} (p : Scripted) : Provider σ :=
  { name := p.name, capabilities := ⟨true, true, some p.limit⟩
    turn := fun ids r => pure (p.turn ids r) }

end ChatTurn.Scripted
