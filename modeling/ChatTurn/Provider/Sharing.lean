import ChatTurn.Provider.Handle

namespace ChatTurn

namespace Shared

inductive Ask
  | start
  | shutdown
  | complete (ids : IdSupply) (q : Request)
  | chat (ids : IdSupply) (q : Request)

inductive Reply
  | life (result : Except Error Unit)
  | completion (result : Except Error Completion)
  | chunks (result : Except Error (List (Except Error Chunk)))

inductive Stage
  | waiting
  | holding
  | cleared
  | starting
  | started
  | closing
  | stopping
  | accepted
  | serving
  | leaving (reply : Reply)
  | ended (reply : Reply)
  | abandoned

inductive Occurrence
  | asked (a : Ask)
  | locked
  | found (state : Lifecycle)
  | startBegan
  | startEnded (result : Except Error Unit)
  | readied
  | shutdownBegan
  | shutdownEnded (result : Except Error Unit)
  | reached (q : Request)
  | served (result : Except Error (List StreamItem))
  | replied (a : Ask) (reply : Reply)
  | abandoned

/-- What the steps of calls have shown, each with the place of its call. -/
abbrev Trace := List (Nat × Occurrence)

namespace Ask

def request? : Ask → Option Request
  | start | shutdown => none
  | complete _ q | chat _ q => some q

def reply (result : Except Error (List StreamItem)) : Ask → Reply
  | start | shutdown => .life (result.map fun _ => ())
  | complete ids _ => .completion (Handle.completion ids result)
  | chat ids q => .chunks (Handle.chunks ids q result)

def locks (a : Ask) : Stage → Bool
  | .holding | .cleared | .starting | .started | .closing | .stopping => true
  | .leaving _ => a.request?.isNone
  | .waiting | .accepted | .serving | .ended _ | .abandoned => false

end Ask

/-- Whether the call waits for others, so that it may be given up. -/
def Stage.isSuspended : Stage → Bool
  | waiting | starting | stopping | serving => true
  | holding | cleared | started | closing | accepted | leaving _ | ended _ | abandoned => false

inductive Move {σ : Type} (h : Handle σ) : Ask → Stage → Occurrence → Stage → Lifecycle → Prop
  | lock {a : Ask} (ha : a.request? = none) : Move h a .waiting .locked .holding h.state
  | answer {r : Except Error Unit} (hr : h.startReply? = some r) :
      Move h .start .holding (.found h.state) (.leaving (.life r)) h.state
  | clear (hr : h.startReply? = none) : Move h .start .holding (.found h.state) .cleared h.state
  | beginStart : Move h .start .cleared .startBegan .starting h.state
  | endStart : Move h .start .starting (.startEnded (.ok ())) .started h.state
  | failStart (e : Error) : Move h .start .starting (.startEnded (.error e))
      (.leaving (.life (.error e))) h.state
  | ready : Move h .start .started .readied (.leaving (.life (.ok ()))) .ready
  | remain (hs : h.state = .shutDown) :
      Move h .shutdown .holding (.found h.state) (.leaving (.life (.ok ()))) .shutDown
  | close (hs : h.state ≠ .shutDown) : Move h .shutdown .holding (.found h.state) .closing .shutDown
  | beginShutdown : Move h .shutdown .closing .shutdownBegan .stopping h.state
  | endShutdown (r : Except Error Unit) : Move h .shutdown .stopping (.shutdownEnded r)
      (.leaving (.life r)) h.state
  | refuse {a : Ask} {q : Request} {e : Error} (ha : a.request? = some q)
      (he : h.accept q = .error e) :
      Move h a .waiting (.found h.state) (.leaving (a.reply (.error e))) h.state
  | accept {a : Ask} {q : Request} (ha : a.request? = some q) (he : h.accept q = .ok ()) :
      Move h a .waiting (.found h.state) .accepted h.state
  | beginTurn {a : Ask} {q : Request} (ha : a.request? = some q) :
      Move h a .accepted (.reached q) .serving h.state
  | endTurn {a : Ask} (r : Except Error (List StreamItem)) :
      Move h a .serving (.served r) (.leaving (a.reply r)) h.state
  | leave {a : Ask} {r : Reply} : Move h a (.leaving r) (.replied a r) (.ended r) h.state
  | abandon {a : Ask} {st : Stage} (hst : st.isSuspended = true) :
      Move h a st .abandoned .abandoned h.state

end Shared

structure Shared (σ : Type) where
  handle : Handle σ
  holder : Option Nat := none
  calls : List (Shared.Ask × Shared.Stage) := []

namespace Shared

variable {σ : Type}

/-- A call comes to a stage and leaves a state. The lock follows from the stage. -/
def advance (s : Shared σ) (i : Nat) (a : Ask) (st : Stage) (x : Lifecycle) : Shared σ :=
  { handle := { s.handle with state := x }
    holder := if a.locks st then some i else if s.holder = some i then none else s.holder
    calls := s.calls.set i (a, st) }

/-- A step of the whole: a new call, or a step of a call that needs no lock that another has. -/
inductive Step (s : Shared σ) : Nat × Occurrence → Shared σ → Prop
  | ask (a : Ask) : Step s (s.calls.length, .asked a) { s with calls := s.calls ++ [(a, .waiting)] }
  | move {i : Nat} {a : Ask} {st st' : Stage} {o : Occurrence} {x : Lifecycle}
      (hi : s.calls[i]? = some (a, st)) (hm : Move s.handle a st o st' x)
      (hfree : a.locks st' = true → s.holder = none ∨ s.holder = some i) :
      Step s (i, o) (s.advance i a st' x)

inductive Run (s : Shared σ) : Trace → Shared σ → Prop
  | nil : Run s [] s
  | concat {t : Trace} {e : Nat × Occurrence} {s' s'' : Shared σ}
      (h : Run s t s') (hs : Step s' e s'') : Run s (t ++ [e]) s''

end Shared

end ChatTurn
