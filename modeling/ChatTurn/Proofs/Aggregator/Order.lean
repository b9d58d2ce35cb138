import ChatTurn.Aggregator
import Mathlib.Data.List.Induction

namespace ChatTurn

/-- One start, any progress, and one completion, for the reason given. -/
def WellOrdered (es : List Event) (stop : StopReason) : Prop :=
  ∃ first body last, es = first :: (body ++ [last]) ∧ first.kind = .start ∧
    (∀ e ∈ body, e.kind = .progress) ∧ last.kind = .complete ∧ last.stop = some stop

/-- More events can make it a whole turn. -/
def IsUnfinished (es : List Event) : Prop :=
  ∃ rest stop, rest ≠ [] ∧ WellOrdered (es ++ rest) stop

def Phase.next? (p : Phase) (e : Event) : Option Phase :=
  match p, e.kind, e.stop with
  | .awaiting, .start, _ => some .streaming
  | .streaming, .progress, _ => some .streaming
  | .streaming, .complete, some stop => some (.complete stop)
  | _, _, _ => none

/-- The phase after some events, if they are in order. -/
def phase? (es : List Event) : Option Phase := es.foldlM Phase.next? .awaiting

variable {e : Event} {es : List Event} {p : Phase} {stop : StopReason}

theorem next?_awaiting_iff :
    Phase.awaiting.next? e = some p ↔ e.kind = .start ∧ p = .streaming := by
  obtain ⟨kind, delta, stop⟩ := e
  cases kind <;> simp [Phase.next?, eq_comm]

theorem next?_streaming_iff : Phase.streaming.next? e = some p ↔
    (e.kind = .progress ∧ p = .streaming) ∨
      ∃ stop, e.kind = .complete ∧ e.stop = some stop ∧ p = .complete stop := by
  obtain ⟨kind, delta, stop⟩ := e
  cases kind <;> cases stop <;> simp [Phase.next?, eq_comm]

theorem phase?_concat : phase? (es ++ [e]) = (phase? es).bind (·.next? e) := by
  rw [phase?, List.foldlM_append]
  simp only [List.foldlM_cons, List.foldlM_nil, bind_pure]
  rfl

theorem phase?_eq_awaiting_iff : phase? es = some .awaiting ↔ es = [] := by
  constructor
  · intro h
    rcases List.eq_nil_or_concat es with rfl | ⟨es, e, rfl⟩
    · rfl
    · rw [List.concat_eq_append, phase?_concat, Option.bind_eq_some_iff] at h
      obtain ⟨q, -, hq⟩ := h
      cases q with
      | awaiting => cases (next?_awaiting_iff.1 hq).2
      | streaming =>
          rcases next?_streaming_iff.1 hq with ⟨-, hp⟩ | ⟨stop, -, -, hp⟩ <;> cases hp
      | complete stop => cases hq
  · rintro rfl
    rfl

theorem phase?_eq_streaming_iff : phase? es = some .streaming ↔
    ∃ first body, es = first :: body ∧ first.kind = .start ∧ ∀ e ∈ body, e.kind = .progress := by
  constructor
  · intro h
    induction es using List.reverseRecOn with
    | nil => cases h
    | append_singleton es e ih =>
        rw [phase?_concat, Option.bind_eq_some_iff] at h
        obtain ⟨q, hes, hq⟩ := h
        cases q with
        | awaiting =>
            rw [phase?_eq_awaiting_iff.1 hes]
            exact ⟨e, [], rfl, (next?_awaiting_iff.1 hq).1, List.forall_mem_nil _⟩
        | streaming =>
            obtain ⟨first, body, rfl, hf, hb⟩ := ih hes
            rcases next?_streaming_iff.1 hq with ⟨hk, -⟩ | ⟨stop, -, -, hp⟩
            · exact ⟨first, body ++ [e], rfl, hf,
                List.forall_mem_append.2 ⟨hb, List.forall_mem_singleton.2 hk⟩⟩
            · cases hp
        | complete stop => cases hq
  · rintro ⟨first, body, rfl, hf, hb⟩
    induction body using List.reverseRecOn with
    | nil =>
        have h : phase? [first] = Phase.awaiting.next? first := bind_pure _
        rw [h]
        exact next?_awaiting_iff.2 ⟨hf, rfl⟩
    | append_singleton body e ih =>
        obtain ⟨hb, he⟩ := List.forall_mem_append.1 hb
        rw [← List.cons_append, phase?_concat, ih hb]
        exact next?_streaming_iff.2 (.inl ⟨he e List.mem_cons_self, rfl⟩)

theorem phase?_eq_complete_iff : phase? es = some (.complete stop) ↔ WellOrdered es stop := by
  constructor
  · intro h
    rcases List.eq_nil_or_concat es with rfl | ⟨es, e, rfl⟩
    · cases h
    · rw [List.concat_eq_append, phase?_concat, Option.bind_eq_some_iff] at h
      obtain ⟨q, hes, hq⟩ := h
      cases q with
      | awaiting => cases (next?_awaiting_iff.1 hq).2
      | streaming =>
          obtain ⟨first, body, rfl, hf, hb⟩ := phase?_eq_streaming_iff.1 hes
          rcases next?_streaming_iff.1 hq with ⟨-, hp⟩ | ⟨s, hk, hs, hp⟩
          · cases hp
          · cases hp
            exact ⟨first, body, e, by rw [List.concat_eq_append, List.cons_append], hf, hb, hk, hs⟩
      | complete s => cases hq
  · rintro ⟨first, body, last, rfl, hf, hb, hk, hs⟩
    rw [← List.cons_append, phase?_concat, phase?_eq_streaming_iff.2 ⟨first, body, rfl, hf, hb⟩]
    exact next?_streaming_iff.2 (.inr ⟨stop, hk, hs, rfl⟩)

theorem phase?_append (es fs : List Event) :
    phase? (es ++ fs) = (phase? es).bind (fs.foldlM Phase.next? ·) :=
  List.foldlM_append

theorem isUnfinished_iff :
    IsUnfinished es ↔ phase? es = some .awaiting ∨ phase? es = some .streaming := by
  constructor
  · rintro ⟨rest, stop, hne, hw⟩
    rw [← phase?_eq_complete_iff, phase?_append, Option.bind_eq_some_iff] at hw
    obtain ⟨p, hp, hr⟩ := hw
    cases p with
    | awaiting => exact .inl hp
    | streaming => exact .inr hp
    | complete s =>
        cases rest with
        | nil => exact absurd rfl hne
        | cons e rest => cases hr
  · rintro (h | h)
    · rw [phase?_eq_awaiting_iff.1 h]
      exact ⟨[.start, .complete .endOfTurn], .endOfTurn, List.cons_ne_nil _ _, .start, [],
        .complete .endOfTurn, rfl, rfl, List.forall_mem_nil _, rfl, rfl⟩
    · obtain ⟨first, body, rfl, hf, hb⟩ := phase?_eq_streaming_iff.1 h
      exact ⟨[.complete .endOfTurn], .endOfTurn, List.cons_ne_nil _ _, first, body,
        .complete .endOfTurn, rfl, hf, hb, rfl, rfl⟩

theorem exists_violation (h : phase? es = none) :
    ∃ before e after p, es = before ++ e :: after ∧ phase? before = some p ∧ p.next? e = none := by
  induction es using List.reverseRecOn with
  | nil => cases h
  | append_singleton es e ih =>
      cases hes : phase? es with
      | none =>
          obtain ⟨before, d, after, p, rfl, hp, hd⟩ := ih hes
          exact ⟨before, d, after ++ [e], p, by simp, hp, hd⟩
      | some p =>
          rw [phase?_concat, hes] at h
          exact ⟨es, e, [], p, rfl, hes, h⟩

end ChatTurn
