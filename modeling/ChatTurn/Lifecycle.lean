namespace ChatTurn

inductive Lifecycle
  | uninitialized
  | ready
  | shutDown
  deriving DecidableEq

namespace Lifecycle

def name : Lifecycle → String
  | uninitialized => "uninitialized"
  | ready => "ready"
  | shutDown => "shut down"

def label : Lifecycle → String
  | uninitialized => "Uninitialized"
  | ready => "Ready"
  | shutDown => "ShutDown"

end Lifecycle

end ChatTurn
