import ChatTurn.Provider.Registry
import ChatTurn.Remote.Service
import ChatTurn.Scripted.Provider

namespace ChatTurn

variable {σ : Type}

namespace Provider

def ofConfig (send : Remote.Transport σ) (name : String) :
    ProviderConfig → Except ConfigurationFault (Provider σ)
  | .scripted c => (Scripted.ofConfig name c).map (·.provider)
  | .remote c => .ok ((Remote.Service.ofConfig name c).provider send)

end Provider

namespace Registry

def registerAll (send : Remote.Transport σ) (r : Registry σ) :
    Ordered ProviderConfig → Except ConfigurationFault (Registry σ)
  | [] => .ok r
  | (name, c) :: rest => do
    let p ← Provider.ofConfig send name c
    match r.register p c.models with
    | (_, .error fault) => .error fault
    | (r, .ok ()) => registerAll send r rest

def ofConfig (send : Remote.Transport σ) (c : Config) : Except ConfigurationFault (Registry σ) :=
  registerAll send {} c.providers

end Registry

end ChatTurn
