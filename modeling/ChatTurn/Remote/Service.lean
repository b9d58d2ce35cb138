import ChatTurn.Config.Basic
import ChatTurn.Provider.Basic
import ChatTurn.Remote.Outbound
import ChatTurn.Remote.Reply

namespace ChatTurn.Remote

structure Service where
  name : String
  baseUrl : Url
  apiKey : Option String
  modelMap : Ordered String

structure Post where
  url : Url
  authorization : Option String
  body : String

/-- Sends a request. There is no reply where the host cannot be reached. -/
abbrev Transport (σ : Type) := Post → StateM σ (Option Reply)

namespace Post

def method : String := "POST"

def contentType : String := "application/json"

end Post

namespace Service

def ofConfig (name : String) (c : RemoteConfig) : Service := ⟨name, c.baseUrl, c.apiKey, c.modelMap⟩

def modelName (s : Service) (model : String) : String := (Ordered.get? model s.modelMap).getD model

def completionsUrl? (s : Service) : Option Url :=
  let base := (s.baseUrl.text.toList.reverse.dropWhile (· = '/')).reverse
  Url.parse? (String.ofList base ++ "/chat/completions")

def isHeaderChar (c : Char) : Bool := (0x20 ≤ c.toNat && c.toNat ≠ 0x7F) || c = '\t'

def isBlank (c : Char) : Bool := c = ' ' || c = '\t'

/-- The value of the header for a key. Blanks at its end do not arrive. -/
def authorization? (key : String) : Option String :=
  let value := "Bearer ".toList ++ key.toList
  if value.all isHeaderChar then some (String.ofList (value.reverse.dropWhile isBlank).reverse) else none

def post? (s : Service) (r : ChatTurn.Request) : Option Post := do
  let url ← s.completionsUrl?
  let authorization ← s.apiKey.mapM authorization?
  some ⟨url, authorization, (Request.ofRequest r (s.modelName r.model)).toJson.render⟩

def turn {σ : Type} (s : Service) (send : Transport σ) (ids : IdSupply) (r : ChatTurn.Request) :
    StateM σ (Except Error (List StreamItem)) :=
  match s.post? r with
  | none => pure (.error (.remote .malformed))
  | some post => do
    match ← send post with
    | none => pure (.error (.remote .unreachable))
    | some reply => pure (reply.items ids)

def provider {σ : Type} (s : Service) (send : Transport σ) : Provider σ :=
  { name := s.name, capabilities := ⟨true, true, none⟩, turn := s.turn send }

end Service

end ChatTurn.Remote
