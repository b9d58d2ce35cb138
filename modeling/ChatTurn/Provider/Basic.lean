import ChatTurn.Error
import ChatTurn.Request
import ChatTurn.Tool.Call

namespace ChatTurn

structure Capabilities where
  streaming : Bool
  toolCalling : Bool
  maxConcurrent : Option Nat
  deriving DecidableEq

structure Provider (σ : Type) where
  name : String
  capabilities : Capabilities
  start : StateM σ (Except Error Unit) := pure (.ok ())
  shutdown : StateM σ (Except Error Unit) := pure (.ok ())
  /-- The items of one turn, or the reason why it does not begin. -/
  turn : IdSupply → Request → StateM σ (Except Error (List StreamItem))

end ChatTurn
