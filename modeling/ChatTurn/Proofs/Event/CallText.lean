import ChatTurn.Proofs.Event.Open
import ChatTurn.Proofs.History
import ChatTurn.Tool.CallText

namespace ChatTurn

def callsIn (text : List Char) : List Invocation :=
  if Text.isBlank text then []
  else match CallText.parse text with
    | .ok calls => calls
    | .error _ => []

def IsUnparsable (text : List Char) : Prop :=
  Text.isBlank text = false ∧ ∃ e, CallText.parse text = .error e

theorem callsIn_nil : callsIn [] = [] := rfl

theorem not_isUnparsable_nil : ¬ IsUnparsable [] := fun h => nomatch h.1

namespace Event

/-- The reason to stop that counts: one on a start event does not. -/
def reason? (e : Event) : Option StopReason := if e.kind = .start then none else e.stop

/-- The event is the last word on the fragments before it. -/
def endsCall (e : Event) : Bool :=
  match e.status? with
  | some .success | some .failure => true
  | _ => e.reason?.isSome

def openText (es : List Event) : List Char :=
  es.foldl (fun text e => if e.endsCall then [] else text ++ (e.fragment?.getD "").toList) []

/-- The text that an event leaves to be understood, after the events before it. A call delivered
whole takes the place of its text, and a failure gives it up. -/
def endedText (es : List Event) (e : Event) : List Char :=
  if e.status? = some .failure ∨ e.delivered?.isSome ∨ e.endsCall = false then []
  else openText es ++ (e.fragment?.getD "").toList

/-- The event reports a failure, or it ends text that is no call. -/
def Spoils (es : List Event) (e : Event) : Prop :=
  e.status? = some .failure ∨ IsUnparsable (endedText es e)

def Spoiled (es : List Event) : Prop :=
  ∃ before e after, es = before ++ e :: after ∧ Spoils before e

variable {e : Event} {es fs : List Event}

theorem openText_concat : openText (es ++ [e]) =
    if e.endsCall then [] else openText es ++ (e.fragment?.getD "").toList := by
  rw [openText, List.foldl_append]
  rfl

theorem openText_concat_of_ends (h : e.endsCall = true) : openText (es ++ [e]) = [] := by
  rw [openText_concat, if_pos h]

theorem endsCall_of_isOpen (h : e.isOpen = true) : e.endsCall = false := by
  rcases isOpen_iff.1 h with ⟨s, rfl⟩ | ⟨s, rfl⟩ | ⟨s, rfl⟩ <;> rfl

theorem endedText_of_isOpen (h : e.isOpen = true) : endedText es e = [] :=
  if_pos (.inr (.inr (endsCall_of_isOpen h)))

theorem openText_append_of_open (h : ∀ e ∈ fs, e.isOpen = true) :
    openText (es ++ fs) = openText es ++ fragments fs := by
  induction fs generalizing es with
  | nil => simp
  | cons e fs ih =>
      have he := endsCall_of_isOpen (h e List.mem_cons_self)
      rw [List.append_cons, ih fun f hf => h f (List.mem_cons_of_mem e hf), openText_concat, he]
      simp [fragments]

theorem spoiled_concat : Spoiled (es ++ [e]) ↔ Spoiled es ∨ Spoils es e := by
  constructor
  · rintro ⟨before, d, after, he, hs⟩
    rcases cut_concat he with ⟨-, rfl, rfl⟩ | ⟨rest, -, rfl⟩
    · exact .inr hs
    · exact .inl ⟨before, d, rest, rfl, hs⟩
  · rintro (⟨before, d, after, rfl, hs⟩ | hs)
    · exact ⟨before, d, after ++ [e], by simp, hs⟩
    · exact ⟨es, e, [], rfl, hs⟩

theorem not_spoiled_nil : ¬ Spoiled [] := by
  rintro ⟨before, e, after, he, -⟩
  cases (List.append_eq_nil_iff.1 he.symm).2

end Event

end ChatTurn
