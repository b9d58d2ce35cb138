import ChatTurn.Tool.Call

namespace ChatTurn

inductive StopReason
  | endOfTurn
  /-- The message is over, and the turn goes on when the tools have answered. -/
  | endOfMessage
  | outOfTokens
  | other
  deriving DecidableEq

inductive EventKind
  | start
  | progress
  | complete
  deriving DecidableEq

inductive ParseStatus
  | started
  | inProgress
  | failure
  | success
  deriving DecidableEq

inductive CallPayload
  | text (fragment : String)
  | call (call : ToolCall)

structure CallDelta where
  payload : CallPayload
  status : ParseStatus

inductive Delta
  | text (fragment : String)
  | toolCall (delta : CallDelta)

structure Event where
  kind : EventKind
  delta : Delta
  stop : Option StopReason

namespace StopReason

def names : List (String × StopReason) :=
  [("end_of_turn", endOfTurn), ("end_of_message", endOfMessage), ("out_of_tokens", outOfTokens),
    ("other", other)]

def name : StopReason → String
  | endOfTurn => "end_of_turn"
  | endOfMessage => "end_of_message"
  | outOfTokens => "out_of_tokens"
  | other => "other"

def ofName? (s : String) : Option StopReason := Ordered.get? s names

theorem ofName?_name (r : StopReason) : ofName? r.name = some r := by
  cases r <;> decide

end StopReason

namespace EventKind

def names : List (String × EventKind) :=
  [("start", start), ("progress", progress), ("complete", complete)]

def name : EventKind → String
  | start => "start"
  | progress => "progress"
  | complete => "complete"

end EventKind

namespace ParseStatus

def names : List (String × ParseStatus) :=
  [("started", started), ("in_progress", inProgress), ("failure", failure), ("success", success)]

def name : ParseStatus → String
  | started => "started"
  | inProgress => "in_progress"
  | failure => "failure"
  | success => "success"

end ParseStatus

namespace Delta

def text? : Delta → Option String
  | text s => some s
  | toolCall _ => none

def call? : Delta → Option ToolCall
  | toolCall ⟨.call c, _⟩ => some c
  | _ => none

end Delta

namespace Event

def start : Event := ⟨.start, .text "", none⟩

def text (s : String) : Event := ⟨.progress, .text s, none⟩

def fragment (s : String) (status : ParseStatus) : Event :=
  ⟨.progress, .toolCall ⟨.text s, status⟩, none⟩

def resolved (c : ToolCall) (stop : Option StopReason) : Event :=
  ⟨.progress, .toolCall ⟨.call c, .success⟩, stop⟩

def failure (stop : Option StopReason) : Event :=
  ⟨.progress, .toolCall ⟨.text "", .failure⟩, stop⟩

def complete (stop : StopReason) : Event := ⟨.complete, .text "", some stop⟩

end Event

end ChatTurn
