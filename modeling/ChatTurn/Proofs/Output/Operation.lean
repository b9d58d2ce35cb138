import ChatTurn.Proofs.Event.Open
import ChatTurn.Proofs.Output.PartialTag

namespace ChatTurn

namespace Token

/-- What a token means to a decoder. -/
inductive Kind
  | stop (reason : StopReason)
  | call
  | control
  | text
  deriving DecidableEq

def kind (token : String) : Kind :=
  if token = endOfTurn then .stop .endOfTurn
  else if token = endOfMessage then .stop .endOfMessage
  else if token = builtinCall then .call
  else if isControl token.toList then .control
  else .text

theorem kind_eq_text_iff {token : String} :
    kind token = .text ↔ isControl token.toList = false := by
  rw [kind]
  split
  · next h => subst h; decide
  · split
    · next h => subst h; decide
    · split
      · next h => subst h; decide
      · cases isControl token.toList <;> simp

end Token

namespace Decoder

def feed (text : List Char) : Decoder → Decoder × List Event
  | prose none held => pushProse (held ++ text)
  | prose (some form) held => pushLeading form (held ++ text)
  | call form buffer => (call form (buffer ++ text), [.fragment (String.ofList text) .inProgress])
  | ended stop => (ended stop, [])

def openCall : Decoder → Decoder × List Event
  | prose _ held => (call .builtin [], flush held ++ [.fragment "" .started])
  | d => (d, [])

theorem push_eq (ids : IdSupply) (token : String) (d : Decoder) :
    d.push ids token = match Token.kind token with
      | .stop reason => d.finish ids reason
      | .call => openCall d
      | .control => (d, [])
      | .text => feed token.toList d := by
  unfold push Token.kind
  by_cases h₁ : token = Token.endOfTurn
  · simp only [if_pos h₁]
    cases d <;> rfl
  · by_cases h₂ : token = Token.endOfMessage
    · simp only [if_neg h₁, if_pos h₂]
      cases d <;> rfl
    · by_cases h₃ : token = Token.builtinCall
      · simp only [if_neg h₁, if_neg h₂, if_pos h₃]
        cases d <;> rfl
      · simp only [if_neg h₁, if_neg h₂, if_neg h₃]
        cases Token.isControl token.toList with
        | true => cases d <;> rfl
        | false =>
            cases d with
            | prose leading held => cases leading <;> rfl
            | call form buffer => simp [feed, isDone, stop?, String.ofList_toList]
            | ended stop => rfl

inductive Op
  | push (token : String)
  | finish (stop : StopReason)

namespace Op

def stop? : Op → Option StopReason
  | push token =>
    if token = Token.endOfTurn then some .endOfTurn
    else if token = Token.endOfMessage then some .endOfMessage
    else none
  | finish stop => some stop

theorem stop?_push (token : String) :
    (push token).stop? = match Token.kind token with
      | .stop reason => some reason
      | _ => none := by
  rw [stop?, Token.kind]
  by_cases h₁ : token = Token.endOfTurn
  · rw [if_pos h₁, if_pos h₁]
  · by_cases h₂ : token = Token.endOfMessage
    · rw [if_neg h₁, if_pos h₂, if_neg h₁, if_pos h₂]
    · rw [if_neg h₁, if_neg h₂, if_neg h₁, if_neg h₂]
      by_cases h₃ : token = Token.builtinCall
      · rw [if_pos h₃]
      · rw [if_neg h₃]
        cases Token.isControl token.toList <;> rfl

end Op

end Decoder

namespace Token

theorem isStop_eq_false_iff (t : String) :
    isStop t = false ↔ (Decoder.Op.push t).stop? = none := by
  rw [isStop, Decoder.Op.stop?]
  by_cases h₁ : t = endOfTurn
  · simp [h₁]
  · by_cases h₂ : t = endOfMessage
    · subst h₂
      decide
    · simp [h₁, h₂]

theorem exists_stop?_of_isStop {t : String} (h : isStop t = true) :
    ∃ reason, (Decoder.Op.push t).stop? = some reason ∧ reason ≠ .outOfTokens := by
  rw [Decoder.Op.stop?]
  by_cases h₁ : t = endOfTurn
  · exact ⟨.endOfTurn, if_pos h₁, by decide⟩
  · by_cases h₂ : t = endOfMessage
    · exact ⟨.endOfMessage, by rw [if_neg h₁, if_pos h₂], by decide⟩
    · simp [isStop, h₁, h₂] at h

end Token

namespace Decoder

open FunctionTag (opening)

def apply (ids : IdSupply) (d : Decoder) : Op → Decoder × List Event
  | .push token => d.push ids token
  | .finish stop => d.finish ids stop

/-- The decoder after some operations, and all events that they brought. -/
def perform (ids : IdSupply) (d : Decoder) : List Op → Decoder × List Event
  | [] => (d, [])
  | op :: ops =>
    let r := perform ids (d.apply ids op).1 ops
    (r.1, (d.apply ids op).2 ++ r.2)

def runOps (tokens : List String) (stop : StopReason) : List Op :=
  tokens.map .push ++ [.finish stop]

def advance (d : Decoder) : Op → Decoder × List Event
  | .push token =>
    match Token.kind token with
    | .call => openCall d
    | .text => feed token.toList d
    | _ => (d, [])
  | .finish _ => (d, [])

/-- The part of a run before the message ends, and the reason if it does. -/
structure Course where
  decoder : Decoder
  events : List Event
  stop? : Option StopReason

def course (d : Decoder) : List Op → Course
  | [] => ⟨d, [], none⟩
  | op :: ops =>
    match op.stop? with
    | some stop => ⟨d, [], some stop⟩
    | none =>
      let c := course (d.advance op).1 ops
      { c with events := (d.advance op).2 ++ c.events }

theorem apply_of_stop {op : Op} {stop : StopReason} (h : op.stop? = some stop) (ids : IdSupply)
    (d : Decoder) : d.apply ids op = d.finish ids stop := by
  cases op with
  | finish s =>
      cases h
      rfl
  | push token =>
      rw [apply, push_eq]
      rw [Op.stop?_push] at h
      split at h
      · cases h
        next hk => rw [hk]
      · cases h

theorem apply_of_open {op : Op} (h : op.stop? = none) (ids : IdSupply) (d : Decoder) :
    d.apply ids op = d.advance op := by
  cases op with
  | finish stop => cases h
  | push token =>
      rw [apply, advance, push_eq]
      rw [Op.stop?_push] at h
      split at h
      · cases h
      · cases hk : Token.kind token with
        | stop reason => next hn => exact absurd hk (hn reason)
        | call => rfl
        | control => rfl
        | text => rfl

theorem apply_of_done {d : Decoder} (h : d.isDone = true) (ids : IdSupply) (op : Op) :
    d.apply ids op = (d, []) := by
  cases d with
  | prose leading held => cases h
  | call form buffer => cases h
  | ended stop =>
      cases op with
      | finish s => rfl
      | push token => rfl

theorem finish_fst (ids : IdSupply) (stop : StopReason) {d : Decoder} (h : d.isDone = false) :
    (d.finish ids stop).1 = ended stop := by
  cases d with
  | prose leading held => rfl
  | call form buffer => rfl
  | ended s => cases h

theorem apply_fst (ids ids' : IdSupply) (d : Decoder) (op : Op) :
    (d.apply ids op).1 = (d.apply ids' op).1 := by
  cases hd : d.isDone with
  | true => rw [apply_of_done hd, apply_of_done hd]
  | false =>
      cases hop : op.stop? with
      | none => rw [apply_of_open hop, apply_of_open hop]
      | some stop =>
          rw [apply_of_stop hop, apply_of_stop hop, finish_fst ids stop hd, finish_fst ids' stop hd]

theorem perform_append (ids : IdSupply) (d : Decoder) (ops more : List Op) :
    perform ids d (ops ++ more) =
      ((perform ids (perform ids d ops).1 more).1,
        (perform ids d ops).2 ++ (perform ids (perform ids d ops).1 more).2) := by
  induction ops generalizing d with
  | nil => rfl
  | cons op ops ih =>
      simp only [List.cons_append, perform, ih, List.append_assoc]

theorem perform_of_done {d : Decoder} (h : d.isDone = true) (ids : IdSupply) (ops : List Op) :
    perform ids d ops = (d, []) := by
  induction ops with
  | nil => rfl
  | cons op ops ih => simp only [perform, apply_of_done h, ih, List.append_nil]

theorem isDone_pushProse (text : List Char) : (pushProse text).1.isDone = false := by
  rw [pushProse]
  cases Text.cut? opening text <;> rfl

theorem isDone_feed {d : Decoder} (h : d.isDone = false) (text : List Char) :
    (feed text d).1.isDone = false := by
  cases d with
  | call form buffer => rfl
  | ended stop => cases h
  | prose leading held =>
      cases leading with
      | none => exact isDone_pushProse _
      | some form =>
          rw [feed, pushLeading]
          split
          · rfl
          · split
            · rfl
            · exact isDone_pushProse _

/-- What an operation can do that does not end the message. -/
theorem advance_cases (d : Decoder) (op : Op) :
    d.advance op = d.openCall ∨ (∃ text, d.advance op = feed text d) ∨ d.advance op = (d, []) := by
  cases op with
  | finish stop => exact .inr (.inr rfl)
  | push token =>
      rw [advance]
      split
      · exact .inl rfl
      · exact .inr (.inl ⟨_, rfl⟩)
      · exact .inr (.inr rfl)

theorem isDone_advance {d : Decoder} (h : d.isDone = false) (op : Op) :
    (d.advance op).1.isDone = false := by
  rcases advance_cases d op with he | ⟨text, he⟩ | he
  · rw [he]
    cases d with
    | prose leading held => rfl
    | call form buffer => rfl
    | ended stop => cases h
  · rw [he]
    exact isDone_feed h text
  · rw [he]
    exact h

/-- A run is its course up to the end of the message, then the events of the end. -/
theorem perform_eq_course {d : Decoder} (h : d.isDone = false) (ids : IdSupply) (ops : List Op) :
    perform ids d ops = match (course d ops).stop? with
      | none => ((course d ops).decoder, (course d ops).events)
      | some stop =>
        (ended stop, (course d ops).events ++ ((course d ops).decoder.finish ids stop).2) := by
  induction ops generalizing d with
  | nil => rfl
  | cons op ops ih =>
      rw [perform, course]
      cases hop : op.stop? with
      | some stop =>
          have hf := finish_fst ids stop h
          simp only [apply_of_stop hop, hf, perform_of_done (d := ended stop) rfl, List.append_nil,
            List.nil_append]
      | none =>
          simp only [apply_of_open hop]
          rw [ih (isDone_advance h op)]
          cases hs : (course (d.advance op).1 ops).stop? with
          | none => rfl
          | some stop => simp only [List.append_assoc]

theorem course_stop?_eq_none_iff {d : Decoder} {ops : List Op} :
    (course d ops).stop? = none ↔ ∀ op ∈ ops, op.stop? = none := by
  induction ops generalizing d with
  | nil => simp [course]
  | cons op ops ih =>
      rw [course, List.forall_mem_cons]
      cases op.stop? with
      | some stop => simp
      | none =>
          rw [← ih (d := (d.advance op).1)]
          simp

theorem pushAll_eq_perform (ids : IdSupply) (d : Decoder) (tokens : List String) :
    d.pushAll ids tokens = perform ids d (tokens.map .push) := by
  induction tokens generalizing d with
  | nil => rfl
  | cons t ts ih => simp only [pushAll, List.map_cons, perform, apply, ih]

theorem run_eq_perform (ids : IdSupply) (d : Decoder) (tokens : List String) (stop : StopReason) :
    d.run ids tokens stop = (perform ids d (runOps tokens stop)).2 := by
  rw [run, pushAll_eq_perform, runOps, perform_append]
  simp [perform, apply]

end Decoder

end ChatTurn
