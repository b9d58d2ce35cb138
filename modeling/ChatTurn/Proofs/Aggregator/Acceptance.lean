import ChatTurn.Proofs.Aggregator.Journal

namespace ChatTurn

/-- A whole turn, or the beginning of one. -/
def InOrder (es : List Event) : Prop := IsUnfinished es ∨ ∃ stop, WellOrdered es stop

theorem inOrder_iff {es : List Event} : InOrder es ↔ ∃ p, phase? es = some p := by
  rw [InOrder, isUnfinished_iff]
  constructor
  · rintro ((h | h) | ⟨stop, h⟩)
    · exact ⟨_, h⟩
    · exact ⟨_, h⟩
    · exact ⟨_, phase?_eq_complete_iff.2 h⟩
  · rintro ⟨p, h⟩
    cases p with
    | awaiting => exact .inl (.inl h)
    | streaming => exact .inl (.inr h)
    | complete stop => exact .inr ⟨stop, phase?_eq_complete_iff.1 h⟩

namespace Aggregator

open Event (openText Spoils Spoiled)

variable {ids : IdSupply} {a : Aggregator} {e : Event} {es : List Event} {p : Phase}

/-- The state after events that are in order and spoil nothing. -/
structure Follows (ids : IdSupply) (es : List Event) (a : Aggregator) : Prop where
  phase : phase? es = some a.phase
  content : a.content.toList = Event.prose es
  pending : a.pending.toList = openText es
  books : SameBooks a ((journal es).foldl (record ids) {})

theorem follows_nil : Follows ids [] {} := ⟨rfl, rfl, rfl, .refl _⟩

theorem Follows.absorbs {b b' : Aggregator} (h : Follows ids es a) (hb : Absorbs ids es e b' b)
    (hcontent : b'.content = a.content) (hbooks : SameBooks b' a)
    (hp : phase? (es ++ [e]) = some p) : Follows ids (es ++ [e]) { b with phase := p } := by
  refine ⟨hp, ?_, hb.pending, ?_⟩
  · rw [hb.content, hcontent, h.content, Event.prose_append]
    simp [Event.prose]
  · rw [journal_concat, List.foldl_append]
    have hjournal := hb.books.trans ((hbooks.trans h.books).foldl_record ids (e.entries es))
    exact ⟨hjournal.calls, hjournal.uncovered, hjournal.issued⟩

theorem push_of_start (h : a.phase = .awaiting) (hk : e.kind = .start) :
    a.push ids e = absorb ids { a with phase := .streaming } e := by
  simp only [Aggregator.push, h, hk, absorb, Event.reason?, if_true, applyStop]
  split
  · next hd => exact hd
  · next hd => exact hd

theorem proceed_eq (hk : e.kind ≠ .start) : proceed ids a e =
    match absorb ids a e with
    | (b, .error err) => (b, .error err)
    | (b, .ok ()) => (b.close e, .ok ()) := by
  simp only [proceed, absorb, Event.reason?, if_neg hk]
  cases hd : applyDelta ids a e.delta with
  | mk b result => cases result <;> rfl

theorem Follows.proceed (h : Follows ids es a) (hk : e.kind ≠ .start)
    (hp : phase? (es ++ [e]) = some p)
    (hclose : ∀ b : Aggregator, b.phase = a.phase → b.close e = { b with phase := p }) :
    (Spoils es e ∧ ∃ c, (proceed ids a e).2 = .error (.malformedCall c)) ∨
      ¬ Spoils es e ∧ ∃ b, proceed ids a e = (b, .ok ()) ∧ Follows ids (es ++ [e]) b := by
  rw [proceed_eq hk]
  rcases absorb_spec ids h.pending e with ⟨hs, c, hc⟩ | ⟨hs, b, hb, ha⟩
  · refine .inl ⟨hs, c, ?_⟩
    cases hr : absorb ids a e with
    | mk b result =>
        rw [hr] at hc
        cases hc
        rfl
  · refine .inr ⟨hs, _, by rw [hb], ?_⟩
    rw [hclose b ha.phase]
    exact h.absorbs ha rfl (.refl a) hp

/-- A step of the run: an event in order spoils the text of a call, or the state follows it. -/
theorem Follows.push (h : Follows ids es a) (hn : a.phase.next? e = some p) :
    (Spoils es e ∧ ∃ c, (a.push ids e).2 = .error (.malformedCall c)) ∨
      ¬ Spoils es e ∧ ∃ b, a.push ids e = (b, .ok ()) ∧ Follows ids (es ++ [e]) b := by
  have hp : phase? (es ++ [e]) = some p := by rw [phase?_concat, h.phase, Option.bind_some, hn]
  cases ha : a.phase with
  | awaiting =>
      rw [ha] at hn
      obtain ⟨hk, rfl⟩ := next?_awaiting_iff.1 hn
      rw [push_of_start ha hk]
      rcases absorb_spec ids (a := { a with phase := .streaming }) h.pending e with
        hs | ⟨hs, b, hb, hab⟩
      · exact .inl hs
      · have hf := h.absorbs hab rfl ⟨rfl, rfl, rfl⟩ hp
        have hbp : b.phase = .streaming := hab.phase
        rw [← hbp] at hf
        exact .inr ⟨hs, b, hb, hf⟩
  | streaming =>
      rw [ha] at hn
      rcases next?_streaming_iff.1 hn with ⟨hk, rfl⟩ | ⟨stop, hk, hs, rfl⟩
      · rw [push_of_progress ha hk]
        refine h.proceed (by simp [hk]) hp fun b hb => ?_
        rw [close, hk, ← ha, ← hb]
      · have hpush : a.push ids e = Aggregator.proceed ids a e := by
          simp [Aggregator.push, ha, hk, hs]
        rw [hpush]
        refine h.proceed (by simp [hk]) hp fun b hb => ?_
        rw [close, hk, hs]
  | complete stop =>
      rw [ha] at hn
      cases hn

theorem push_of_violation (ids : IdSupply) (h : a.phase.next? e = none) :
    ∃ v, a.push ids e = (a, .error (.protocol v)) := by
  obtain ⟨kind, delta, stop⟩ := e
  simp only [Aggregator.push]
  cases hp : a.phase with
  | awaiting =>
      rw [hp] at h
      cases kind with
      | start => cases h
      | progress => exact ⟨_, rfl⟩
      | complete => exact ⟨_, rfl⟩
  | streaming =>
      rw [hp] at h
      cases kind with
      | start => exact ⟨_, rfl⟩
      | progress => cases h
      | complete =>
          cases stop with
          | none => exact ⟨_, rfl⟩
          | some s => cases h
  | complete s => exact ⟨_, rfl⟩

theorem drain_of_inOrder (ids : IdSupply) (h : phase? es = some p) :
    (Spoiled es ∧ ∃ c, ∀ items, drain ids {} (es.map .ok ++ items) = .error (.malformedCall c)) ∨
      ¬ Spoiled es ∧ ∃ a, Follows ids es a ∧
        ∀ items, drain ids {} (es.map .ok ++ items) = drain ids a items := by
  induction es using List.reverseRecOn generalizing p with
  | nil => exact .inr ⟨Event.not_spoiled_nil, {}, follows_nil, fun items => rfl⟩
  | append_singleton es e ih =>
      rw [phase?_concat, Option.bind_eq_some_iff] at h
      obtain ⟨q, hq, hn⟩ := h
      have hitems : ∀ items : List StreamItem, (es ++ [e]).map .ok ++ items =
          es.map .ok ++ .ok e :: items := fun items => by simp
      simp only [Event.spoiled_concat, hitems]
      rcases ih hq with ⟨hs, c, hc⟩ | ⟨hs, a, ha, hd⟩
      · exact .inl ⟨.inl hs, c, fun items => hc _⟩
      · have hqa : q = a.phase := Option.some.inj (hq.symm.trans ha.phase)
        subst hqa
        rcases ha.push hn with ⟨hsp, c, hc⟩ | ⟨hsp, b, hb, hf⟩
        · exact .inl ⟨.inr hsp, c, fun items => by rw [hd, drain_of_push_error hc]⟩
        · refine .inr ⟨fun h => h.elim hs hsp, b, hf, fun items => ?_⟩
          rw [hd, drain_of_push hb]

theorem aggregate_of_stream {out : List StreamItem → Except Error Completion}
    (h : ∀ items, aggregateStream ids (es.map .ok ++ items) = out items) :
    aggregate ids es = out [] := by
  rw [← aggregateStream_map_ok, ← h [], List.append_nil]

theorem stream_of_spoiled (ids : IdSupply) (h : InOrder es) (hs : Spoiled es) :
    ∃ c, ∀ items, aggregateStream ids (es.map .ok ++ items) = .error (.malformedCall c) := by
  obtain ⟨p, hp⟩ := inOrder_iff.1 h
  rcases drain_of_inOrder ids hp with ⟨-, hc⟩ | ⟨hn, -⟩
  · exact hc
  · exact absurd hs hn

theorem stream_of_unspoiled (ids : IdSupply) (h : InOrder es) (hs : ¬ Spoiled es) :
    ∃ a, Follows ids es a ∧
      ∀ items, aggregateStream ids (es.map .ok ++ items) = drain ids a items := by
  obtain ⟨p, hp⟩ := inOrder_iff.1 h
  rcases drain_of_inOrder ids hp with ⟨hn, -⟩ | ⟨-, ha⟩
  · exact absurd hn hs
  · exact ha

theorem aggregate_of_spoiled (ids : IdSupply) (h : InOrder es) (hs : Spoiled es) :
    ∃ c, aggregate ids es = .error (.malformedCall c) := by
  obtain ⟨c, hc⟩ := stream_of_spoiled ids h hs
  exact ⟨c, aggregate_of_stream hc⟩

theorem aggregate_of_unspoiled (ids : IdSupply) (h : InOrder es) (hs : ¬ Spoiled es) :
    ∃ a, Follows ids es a ∧ aggregate ids es = a.finish ids := by
  obtain ⟨a, ha, hd⟩ := stream_of_unspoiled ids h hs
  exact ⟨a, ha, aggregate_of_stream hd⟩

theorem aggregate_of_wellOrdered (ids : IdSupply) {stop : StopReason} (h : WellOrdered es stop)
    (hs : ¬ Spoiled es) :
    (∃ m, m.stop = stop ∧ aggregate ids es = .ok m) ∨
      ∃ c, FunctionTag.extract (Event.prose es) = .error c ∧
        aggregate ids es = .error (.malformedCall c) := by
  obtain ⟨a, ha, hes⟩ := aggregate_of_unspoiled ids (.inr ⟨stop, h⟩) hs
  have hphase : a.phase = .complete stop :=
    Option.some.inj (ha.phase.symm.trans (phase?_eq_complete_iff.2 h))
  rw [hes, finish, hphase, ha.content]
  cases FunctionTag.extract (Event.prose es) with
  | error c => exact .inr ⟨c, rfl, rfl⟩
  | ok r => exact .inl ⟨_, rfl, rfl⟩

theorem aggregate_of_unfinished (ids : IdSupply) (h : IsUnfinished es) (hs : ¬ Spoiled es) :
    aggregate ids es = .error .canceled := by
  obtain ⟨a, ha, hes⟩ := aggregate_of_unspoiled ids (.inl h) hs
  rw [hes, finish]
  rcases isUnfinished_iff.1 h with hp | hp
  · rw [Option.some.inj (ha.phase.symm.trans hp)]
  · rw [Option.some.inj (ha.phase.symm.trans hp)]

/-- The first event out of order is refused, if nothing before it has failed. -/
theorem stream_of_violation (ids : IdSupply) {before : List Event} (after : List Event)
    (hb : InOrder before) (he : ¬ InOrder (before ++ [e])) (hs : ¬ Spoiled before) :
    ∃ v, ∀ items, aggregateStream ids ((before ++ e :: after).map .ok ++ items) =
      .error (.protocol v) := by
  obtain ⟨a, ha, hd⟩ := stream_of_unspoiled ids hb hs
  have hn : a.phase.next? e = none := by
    cases hp : a.phase.next? e with
    | none => rfl
    | some p => exact absurd (inOrder_iff.2 ⟨p, by rw [phase?_concat, ha.phase]; exact hp⟩) he
  obtain ⟨v, hv⟩ := push_of_violation ids hn
  refine ⟨v, fun items => ?_⟩
  rw [List.map_append, List.append_assoc, hd, List.map_cons, List.cons_append,
    drain_of_push_error (by rw [hv])]

theorem exists_disorder (h : ¬ InOrder es) :
    ∃ before e after, es = before ++ e :: after ∧ InOrder before ∧ ¬ InOrder (before ++ [e]) := by
  have hn : phase? es = none := by
    cases hp : phase? es with
    | none => rfl
    | some p => exact absurd (inOrder_iff.2 ⟨p, hp⟩) h
  obtain ⟨before, e, after, p, rfl, hp, hpe⟩ := exists_violation hn
  refine ⟨before, e, after, rfl, inOrder_iff.2 ⟨p, hp⟩, fun he => ?_⟩
  obtain ⟨q, hq⟩ := inOrder_iff.1 he
  rw [phase?_concat, hp, Option.bind_some, hpe] at hq
  cases hq

theorem stream_of_disorder (ids : IdSupply) (h : ¬ InOrder es) :
    ∃ err, ∀ items, aggregateStream ids (es.map .ok ++ items) = .error err := by
  obtain ⟨before, e, after, rfl, hb, he⟩ := exists_disorder h
  by_cases hs : Spoiled before
  · obtain ⟨c, hc⟩ := stream_of_spoiled ids hb hs
    refine ⟨.malformedCall c, fun items => ?_⟩
    rw [List.map_append, List.append_assoc, hc]
  · obtain ⟨v, hv⟩ := stream_of_violation ids after hb he hs
    exact ⟨_, hv⟩

theorem stream_of_failed (ids : IdSupply) (h : ¬ (InOrder es ∧ ¬ Spoiled es)) :
    ∃ err, ∀ items, aggregateStream ids (es.map .ok ++ items) = .error err := by
  by_cases ho : InOrder es
  · have hs : Spoiled es := Classical.byContradiction fun hs => h ⟨ho, hs⟩
    obtain ⟨c, hc⟩ := stream_of_spoiled ids ho hs
    exact ⟨_, hc⟩
  · exact stream_of_disorder ids ho

theorem exists_finish_of_ok {m : Completion} (h : aggregate ids es = .ok m) :
    ∃ a, Follows ids es a ∧ a.finish ids = .ok m := by
  by_cases hok : InOrder es ∧ ¬ Spoiled es
  · obtain ⟨a, ha, hes⟩ := aggregate_of_unspoiled ids hok.1 hok.2
    exact ⟨a, ha, hes.symm.trans h⟩
  · obtain ⟨err, he⟩ := stream_of_failed ids hok
    cases (aggregate_of_stream he).symm.trans h

/-- A list of events makes a message only if it is a whole turn, and then for the reason of its
completion. What else comes of it is fixed by its order and by the events that spoil the text of a
call; an error among the items is passed on unless an event before it has failed. -/
theorem aggregate_outcome (ids : IdSupply) (es : List Event) :
    (∀ m, aggregate ids es = .ok m → WellOrdered es m.stop) ∧
    (∀ stop, WellOrdered es stop →
      (Spoiled es → ∃ c, aggregate ids es = .error (.malformedCall c)) ∧
      (¬ Spoiled es → (∃ m, m.stop = stop ∧ aggregate ids es = .ok m) ∨
        ∃ c, FunctionTag.extract (Event.prose es) = .error c ∧
          aggregate ids es = .error (.malformedCall c))) ∧
    (IsUnfinished es →
      (Spoiled es → ∃ c, aggregate ids es = .error (.malformedCall c)) ∧
      (¬ Spoiled es → aggregate ids es = .error .canceled)) ∧
    (¬ InOrder es → ∃ before e after, es = before ++ e :: after ∧
      InOrder before ∧ ¬ InOrder (before ++ [e]) ∧
      (Spoiled before → ∃ c, aggregate ids es = .error (.malformedCall c)) ∧
      (¬ Spoiled before → ∃ v, aggregate ids es = .error (.protocol v))) ∧
    aggregateStream ids (es.map .ok) = aggregate ids es ∧
    ∀ err rest,
      (InOrder es ∧ ¬ Spoiled es →
        aggregateStream ids (es.map .ok ++ .error err :: rest) = .error err) ∧
      (¬ (InOrder es ∧ ¬ Spoiled es) → ∃ err', aggregate ids es = .error err' ∧
        aggregateStream ids (es.map .ok ++ .error err :: rest) = .error err') := by
  refine ⟨?_, ?_, ?_, ?_, aggregateStream_map_ok ids es, ?_⟩
  · intro m hm
    by_cases h : InOrder es ∧ ¬ Spoiled es
    · obtain ⟨ho, hs⟩ := h
      rcases ho with hu | ⟨stop, hw⟩
      · rw [aggregate_of_unfinished ids hu hs] at hm
        cases hm
      · rcases aggregate_of_wellOrdered ids hw hs with ⟨m', rfl, hm'⟩ | ⟨c, -, hc⟩
        · rw [hm'] at hm
          cases hm
          exact hw
        · rw [hc] at hm
          cases hm
    · obtain ⟨err, he⟩ := stream_of_failed ids h
      cases (aggregate_of_stream he).symm.trans hm
  · intro stop hw
    exact ⟨aggregate_of_spoiled ids (.inr ⟨stop, hw⟩), aggregate_of_wellOrdered ids hw⟩
  · intro hu
    exact ⟨aggregate_of_spoiled ids (.inl hu), aggregate_of_unfinished ids hu⟩
  · intro ho
    obtain ⟨before, e, after, rfl, hb, he⟩ := exists_disorder ho
    refine ⟨before, e, after, rfl, hb, he, fun hs => ?_, fun hs => ?_⟩
    · obtain ⟨c, hc⟩ := stream_of_spoiled ids hb hs
      refine ⟨c, ?_⟩
      rw [← aggregateStream_map_ok, List.map_append, hc]
    · obtain ⟨v, hv⟩ := stream_of_violation ids after hb he hs
      exact ⟨v, aggregate_of_stream hv⟩
  · intro err rest
    refine ⟨fun ⟨ho, hs⟩ => ?_, fun h => ?_⟩
    · obtain ⟨a, -, hd⟩ := stream_of_unspoiled ids ho hs
      rw [hd]
      rfl
    · obtain ⟨err', he⟩ := stream_of_failed ids h
      exact ⟨err', aggregate_of_stream he, he _⟩

end Aggregator

end ChatTurn
