import ChatTurn.Proofs.Aggregator.Conservation
import ChatTurn.Proofs.Aggregator.Recovery

namespace ChatTurn.Aggregator

variable {ids : IdSupply} {a b : Aggregator} {c : ToolCall} {e : Event} {es : List Event}
  {stop : StopReason}

def receive (a : Aggregator) (d : Delta) : Aggregator := d.call?.elim a (deliver a)

/-- What an event has put on the books by the time it is done or fails: malformed text leaves at most
the call that came whole, and a reason to stop leaves no text. -/
def Books (ids : IdSupply) (a : Aggregator) (e : Event) (r : Aggregator × Outcome) : Prop :=
  (IsMalformed r.2 ∧ (SameBooks r.1 a ∨ SameBooks r.1 (receive a e.delta))) ∨
    (r.2 = .ok () ∧ (e.reason? ≠ none → r.1.pending = "") ∧
      ∃ is : List Invocation, SameBooks r.1 (is.foldl (restate ids) (receive a e.delta)))

theorem SameBooks.foldl_restate (h : SameBooks a b) (ids : IdSupply) (is : List Invocation) :
    SameBooks (is.foldl (restate ids) a) (is.foldl (restate ids) b) := by
  rw [← foldl_record_parsed, ← foldl_record_parsed]
  exact h.foldl_record ids _

theorem SameBooks.receive (h : SameBooks a b) (d : Delta) : SameBooks (receive a d) (b.receive d) := by
  rw [Aggregator.receive, Aggregator.receive]
  cases d.call? with
  | none => exact h
  | some c => exact h.record (fun _ => "") (.delivered c)

theorem Books.of_sameBooks {r : Aggregator × Outcome} (h : Books ids a e r) (hab : SameBooks a b) :
    Books ids b e r := by
  rcases h with ⟨hm, h | h⟩ | ⟨hr, hp, is, h⟩
  · exact .inl ⟨hm, .inl (h.trans hab)⟩
  · exact .inl ⟨hm, .inr (h.trans (hab.receive _))⟩
  · exact .inr ⟨hr, hp, is, h.trans ((hab.receive _).foldl_restate ids is)⟩

theorem resolvePending_books (ids : IdSupply) (a : Aggregator) :
    (IsMalformed (resolvePending ids a).2 ∧ SameBooks (resolvePending ids a).1 a) ∨
      ((resolvePending ids a).2 = .ok () ∧ (resolvePending ids a).1.pending = "" ∧
        ∃ is : List Invocation, SameBooks (resolvePending ids a).1 (is.foldl (restate ids) a)) := by
  have hb : SameBooks { a with pending := "" } a := ⟨rfl, rfl, rfl⟩
  by_cases h : IsUnparsable a.pending.toList
  · obtain ⟨hblank, c, hc⟩ := h
    refine .inl ?_
    simp only [resolvePending, hblank, hc]
    exact ⟨⟨c, rfl⟩, hb⟩
  · rw [resolvePending_of_parsable h]
    exact .inr ⟨rfl, foldl_restate_pending ids _ _, _, hb.foldl_restate ids _⟩

/-- The text of a call is read either by the delta that ends it or by the reason to stop. -/
theorem applyDelta_books (ids : IdSupply) (a : Aggregator) (d : Delta) :
    (IsMalformed (applyDelta ids a d).2 ∧ SameBooks (applyDelta ids a d).1 a) ∨
      ((applyDelta ids a d).2 = .ok () ∧
        (SameBooks (applyDelta ids a d).1 (receive a d) ∨
          (applyDelta ids a d).1.pending = "" ∧
            ∃ is : List Invocation, SameBooks (applyDelta ids a d).1
              (is.foldl (restate ids) (receive a d)))) := by
  cases d with
  | text s => exact .inr ⟨rfl, .inl ⟨rfl, rfl, rfl⟩⟩
  | toolCall d =>
      obtain ⟨payload, status⟩ := d
      cases payload with
      | text s =>
          cases status with
          | started | inProgress => exact .inr ⟨rfl, .inl ⟨rfl, rfl, rfl⟩⟩
          | failure => exact .inl ⟨⟨_, rfl⟩, rfl, rfl, rfl⟩
          | success =>
              have hb : SameBooks { a with pending := a.pending ++ s } a := ⟨rfl, rfl, rfl⟩
              rcases resolvePending_books ids { a with pending := a.pending ++ s } with
                ⟨hm, h⟩ | ⟨hr, hp, is, h⟩
              · exact .inl ⟨hm, h.trans hb⟩
              · exact .inr ⟨hr, .inr ⟨hp, is, h.trans (hb.foldl_restate ids is)⟩⟩
      | call c =>
          cases status with
          | started | inProgress => exact .inr ⟨rfl, .inl (.refl _)⟩
          | failure => exact .inl ⟨⟨_, rfl⟩, rfl, rfl, rfl⟩
          | success =>
              have hb : SameBooks { a with pending := "" } a := ⟨rfl, rfl, rfl⟩
              exact .inr ⟨rfl, .inl (hb.record ids (.delivered c))⟩

theorem absorb_books (ids : IdSupply) (a : Aggregator) (e : Event) :
    Books ids a e (absorb ids a e) := by
  have hd := applyDelta_books ids a e.delta
  rw [absorb]
  cases hdelta : applyDelta ids a e.delta with
  | mk b result =>
      rw [hdelta] at hd
      rcases hd with ⟨⟨c, hc⟩, hb⟩ | ⟨hr, hb⟩
      · cases hc
        exact .inl ⟨⟨c, rfl⟩, .inl hb⟩
      · cases hr
        rcases hb with hb | ⟨hp, is, hb⟩
        · -- the text, if there is any, is left to the reason to stop
          cases hs : e.reason? with
          | none => exact .inr ⟨rfl, fun h => absurd hs h, [], hb⟩
          | some stop =>
              rcases resolvePending_books ids b with ⟨hm, h⟩ | ⟨hr, hp, is, h⟩
              · exact .inl ⟨hm, .inr (h.trans hb)⟩
              · exact .inr ⟨hr, fun _ => hp, is, h.trans (hb.foldl_restate ids is)⟩
        · dsimp only
          rw [applyStop_of_empty hp]
          exact .inr ⟨rfl, fun _ => hp, is, hb⟩

theorem proceed_books (hk : e.kind ≠ .start) : Books ids a e (proceed ids a e) := by
  have hclose : ∀ b : Aggregator, SameBooks (b.close e) b ∧ (b.close e).pending = b.pending := by
    intro b
    rw [close]
    split <;> exact ⟨⟨rfl, rfl, rfl⟩, rfl⟩
  have habsorb := absorb_books ids a e
  rw [proceed_eq hk]
  cases hr : absorb ids a e with
  | mk b result =>
      rw [hr] at habsorb
      rcases habsorb with ⟨⟨c, hc⟩, hb⟩ | ⟨hok, hp, is, hb⟩
      · cases hc
        exact .inl ⟨⟨c, rfl⟩, hb⟩
      · cases hok
        exact .inr ⟨rfl, fun h => (hclose b).2.trans (hp h), is, (hclose b).1.trans hb⟩

theorem push_books (ids : IdSupply) (a : Aggregator) (e : Event) :
    (∃ v, a.push ids e = (a, .error (.protocol v))) ∨ Books ids a e (a.push ids e) := by
  cases hn : a.phase.next? e with
  | none => exact .inl (push_of_violation ids hn)
  | some p =>
      right
      cases ha : a.phase with
      | complete stop =>
          rw [ha] at hn
          cases hn
      | awaiting =>
          rw [ha] at hn
          rw [push_of_start ha (next?_awaiting_iff.1 hn).1]
          exact (absorb_books ids _ e).of_sameBooks ⟨rfl, rfl, rfl⟩
      | streaming =>
          rw [ha] at hn
          rcases next?_streaming_iff.1 hn with ⟨hk, -⟩ | ⟨stop, hk, hs, -⟩
          · rw [push_of_progress ha hk]
            exact proceed_books (by simp [hk])
          · have hpush : a.push ids e = proceed ids a e := by simp [push, ha, hk, hs]
            rw [hpush]
            exact proceed_books (by simp [hk])

/-- The ids are distinct and none of them is still to come, and a call that is not covered is a call
of the turn. -/
structure IsSound (ids : IdSupply) (a : Aggregator) : Prop where
  distinct : (a.calls.map (·.id)).Nodup
  unused : ∀ c ∈ a.calls, ∀ k, a.issued ≤ k → c.id ≠ ids k
  uncovered : a.uncovered.Sublist a.calls

theorem isSound_empty (ids : IdSupply) : IsSound ids {} :=
  ⟨List.nodup_nil, List.forall_mem_nil _, .refl _⟩

theorem IsSound.of_sameBooks (h : IsSound ids a) (hab : SameBooks b a) : IsSound ids b := by
  obtain ⟨hcalls, huncovered, hissued⟩ := hab
  refine ⟨hcalls ▸ h.distinct, ?_, ?_⟩
  · rw [hcalls, hissued]
    exact h.unused
  · rw [hcalls, huncovered]
    exact h.uncovered

theorem IsSound.deliver (h : IsSound ids a) (hc : ∀ k, c.id ≠ ids k) : IsSound ids (deliver a c) := by
  by_cases hm : c.id ∈ a.calls.map (·.id)
  · rw [deliver_of_old hm]
    exact h
  · rw [deliver_of_new hm]
    refine ⟨nodup_concat_id h.distinct hm, ?_, h.uncovered.append (.refl _)⟩
    exact List.forall_mem_append.2 ⟨h.unused, List.forall_mem_singleton.2 fun k _ => hc k⟩

theorem IsSound.receive (h : IsSound ids a) {d : Delta}
    (hd : ∀ c, d.call? = some c → ∀ k, c.id ≠ ids k) : IsSound ids (a.receive d) := by
  rw [Aggregator.receive]
  cases hc : d.call? with
  | none => exact h
  | some c => exact h.deliver (hd c hc)

theorem IsSound.restate (h : IsSound ids a) (hids : Function.Injective ids) (i : Invocation) :
    IsSound ids (restate ids a i) := by
  by_cases hany : (invocations a.uncovered).any (·.same i) = true
  · rw [restate_of_any hany]
    exact ⟨h.distinct, h.unused, List.eraseP_sublist.trans h.uncovered⟩
  · rw [restate_of_not_any hany]
    refine ⟨nodup_concat_id h.distinct fun hm => ?_, ?_, ?_⟩
    · obtain ⟨c, hc, he⟩ := List.mem_map.1 hm
      exact h.unused c hc a.issued (Nat.le_refl _) he
    · refine List.forall_mem_append.2 ⟨fun c hc k hk => h.unused c hc k (Nat.le_of_succ_le hk), ?_⟩
      refine List.forall_mem_singleton.2 fun k hk he => ?_
      exact Nat.not_succ_le_self _ (hids he ▸ hk)
    · exact h.uncovered.trans (List.sublist_append_left _ _)

theorem IsSound.foldl_restate (h : IsSound ids a) (hids : Function.Injective ids)
    (is : List Invocation) : IsSound ids (is.foldl (Aggregator.restate ids) a) := by
  induction is generalizing a with
  | nil => exact h
  | cons i is ih => exact ih (h.restate hids i)

theorem IsSound.push (h : IsSound ids a) (hids : Function.Injective ids)
    (he : ∀ c, e.delta.call? = some c → ∀ k, c.id ≠ ids k) : IsSound ids (a.push ids e).1 := by
  rcases push_books ids a e with ⟨v, hv⟩ | ⟨-, hb | hb⟩ | ⟨-, -, is, hb⟩
  · rw [hv]
    exact h
  · exact h.of_sameBooks hb
  · exact (h.receive he).of_sameBooks hb
  · exact ((h.receive he).foldl_restate hids is).of_sameBooks hb

theorem IsSound.after (h : IsSound ids a) (hids : Function.Injective ids)
    (hes : ∀ c ∈ Event.carried es, ∀ k, c.id ≠ ids k) : IsSound ids (after ids a es) := by
  induction es generalizing a with
  | nil => exact h
  | cons e es ih =>
      rw [after_cons]
      refine ih (h.push hids fun c hc => ?_) fun c hc => ?_
      · exact hes c (List.mem_filterMap.2 ⟨e, List.mem_cons_self, hc⟩)
      · exact hes c (((List.sublist_cons_self e es).filterMap _).subset hc)

theorem exists_deliver (a : Aggregator) (c : ToolCall) :
    ∃ new, (∀ d ∈ new, d = c) ∧ (deliver a c).calls = a.calls ++ new ∧
      (deliver a c).uncovered = a.uncovered ++ new ∧ (deliver a c).issued = a.issued := by
  by_cases hm : c.id ∈ a.calls.map (·.id)
  · rw [deliver_of_old hm]
    exact ⟨[], List.forall_mem_nil _, (List.append_nil _).symm, (List.append_nil _).symm, rfl⟩
  · rw [deliver_of_new hm]
    exact ⟨[c], List.forall_mem_singleton.2 rfl, rfl, rfl, rfl⟩

theorem exists_receive (a : Aggregator) (d : Delta) :
    ∃ new, (∀ c ∈ new, d.call? = some c) ∧ (receive a d).calls = a.calls ++ new ∧
      (receive a d).uncovered = a.uncovered ++ new ∧ (receive a d).issued = a.issued := by
  rw [receive]
  cases d.call? with
  | none => exact ⟨[], List.forall_mem_nil _, (List.append_nil _).symm, (List.append_nil _).symm, rfl⟩
  | some c =>
      obtain ⟨new, hnew, h⟩ := exists_deliver a c
      exact ⟨new, fun d hd => congrArg some (hnew d hd).symm, h⟩

theorem push_of_malformed (h : IsMalformed (a.push ids e).2) :
    ∃ new, (∀ c ∈ new, e.delta.call? = some c) ∧ (a.push ids e).1.calls = a.calls ++ new ∧
      (a.push ids e).1.uncovered = a.uncovered ++ new ∧ (a.push ids e).1.issued = a.issued := by
  obtain ⟨c, hc⟩ := h
  rcases push_books ids a e with ⟨v, hv⟩ | ⟨-, hb | hb⟩ | ⟨hr, -⟩
  · rw [hv] at hc
    cases hc
  · refine ⟨[], List.forall_mem_nil _, ?_, ?_, hb.issued⟩
    · rw [hb.calls, List.append_nil]
    · rw [hb.uncovered, List.append_nil]
  · rw [hb.calls, hb.uncovered, hb.issued]
    exact exists_receive a e.delta
  · cases hr.symm.trans hc

theorem calls_prefix_foldl_restate (ids : IdSupply) (a : Aggregator) (is : List Invocation) :
    a.calls <+: (is.foldl (restate ids) a).calls := by
  induction is generalizing a with
  | nil => exact List.prefix_rfl
  | cons i is ih =>
      refine .trans ?_ (ih (restate ids a i))
      rw [restate]
      split
      · exact List.prefix_rfl
      · exact List.prefix_append _ _

theorem calls_prefix_push (ids : IdSupply) (a : Aggregator) (e : Event) :
    a.calls <+: (a.push ids e).1.calls := by
  obtain ⟨new, -, hcalls, -⟩ := exists_receive a e.delta
  have hreceive : a.calls <+: (receive a e.delta).calls := hcalls ▸ List.prefix_append _ _
  rcases push_books ids a e with ⟨v, hv⟩ | ⟨-, hb | hb⟩ | ⟨-, -, is, hb⟩
  · exact hv ▸ List.prefix_rfl
  · exact hb.calls ▸ List.prefix_rfl
  · rw [hb.calls]
    exact hreceive
  · rw [hb.calls]
    exact hreceive.trans (calls_prefix_foldl_restate ids _ is)

theorem calls_prefix_after (ids : IdSupply) (a : Aggregator) (es : List Event) :
    a.calls <+: (after ids a es).calls := by
  induction es generalizing a with
  | nil => exact List.prefix_rfl
  | cons e es ih => exact (calls_prefix_push ids a e).trans (ih _)

theorem push_of_completes (ha : ∀ stop, a.phase ≠ .complete stop)
    (h : (a.push ids e).1.phase = .complete stop) :
    (a.push ids e).2 = .ok () ∧ e.kind = .complete ∧ e.stop = some stop ∧
      (a.push ids e).1.pending = "" := by
  rcases push_cases ids a e with ⟨-, hsame, -⟩ | ⟨-, hp⟩ | ⟨hok, hn⟩
  · rw [hsame] at h
    exact absurd h (ha stop)
  · cases hp.symm.trans h
  · rw [h] at hn
    have hend : e.kind = .complete ∧ e.stop = some stop := by
      cases hphase : a.phase with
      | awaiting =>
          rw [hphase] at hn
          cases (next?_awaiting_iff.1 hn).2
      | streaming =>
          rw [hphase] at hn
          rcases next?_streaming_iff.1 hn with ⟨-, hp⟩ | ⟨s, hk, hs, hp⟩
          · cases hp
          · cases hp
            exact ⟨hk, hs⟩
      | complete s => exact absurd hphase (ha s)
    refine ⟨hok, hend.1, hend.2, ?_⟩
    rcases push_books ids a e with ⟨v, hv⟩ | ⟨⟨c, hc⟩, -⟩ | ⟨-, hp, -⟩
    · rw [hv] at hok
      cases hok
    · cases hok.symm.trans hc
    · refine hp ?_
      simp [Event.reason?, hend.1, hend.2]

theorem exists_completes (ha : ∀ stop, a.phase ≠ .complete stop)
    (h : (after ids a es).phase = .complete stop) :
    (after ids a es).pending = "" ∧ ∃ before e rest, es = before ++ e :: rest ∧
      e.kind = .complete ∧ e.stop = some stop ∧
      (after ids a before).push ids e = (after ids a es, .ok ()) := by
  induction es generalizing a with
  | nil => exact absurd h (ha stop)
  | cons e es ih =>
      rw [after_cons] at h ⊢
      by_cases hc : ∃ s, (a.push ids e).1.phase = .complete s
      · obtain ⟨s, hc⟩ := hc
        rw [after_of_complete ids hc] at h ⊢
        obtain ⟨hok, hk, hs, hp⟩ := push_of_completes ha h
        exact ⟨hp, [], e, es, rfl, hk, hs, Prod.ext rfl hok⟩
      · obtain ⟨hp, before, d, rest, rfl, hd⟩ := ih (fun s hs => hc ⟨s, hs⟩) h
        exact ⟨hp, e :: before, d, rest, rfl, hd⟩

/-- Whatever pushes have come to: the ids of the calls are distinct, the calls not covered are calls
of the turn in their order, calls are only added at the end, an event out of order changes nothing,
and malformed text adds no call but one that came whole with it. A complete turn has the reason of
the event that completed it and no text, and takes no event any more. -/
theorem books_are_sound (hids : Function.Injective ids) (ha : after ids {} es = a)
    (hfresh : ∀ c ∈ Event.carried es, ∀ k, c.id ≠ ids k) :
    (a.calls.map (·.id)).Nodup ∧ a.uncovered.Sublist a.calls ∧
    (∀ fs, a.calls <+: (after ids a fs).calls) ∧
    (∀ e,
      (∀ v, (a.push ids e).2 = .error (.protocol v) → (a.push ids e).1 = a) ∧
      (IsMalformed (a.push ids e).2 → ∃ new, (∀ c ∈ new, e.delta.call? = some c) ∧
        (a.push ids e).1.calls = a.calls ++ new ∧
        (a.push ids e).1.uncovered = a.uncovered ++ new ∧
        (a.push ids e).1.issued = a.issued)) ∧
    ∀ stop, a.phase = .complete stop →
      a.pending = "" ∧
      (∃ before e rest, es = before ++ e :: rest ∧ e.kind = .complete ∧ e.stop = some stop ∧
        (after ids {} before).push ids e = (a, .ok ())) ∧
      ∀ e, ∃ v, a.push ids e = (a, .error (.protocol v)) := by
  subst ha
  have hs := (isSound_empty ids).after hids hfresh
  refine ⟨hs.distinct, hs.uncovered, calls_prefix_after ids _, fun e => ⟨?_, push_of_malformed⟩,
    fun stop hstop => ?_⟩
  · intro v hv
    rcases push_cases ids (after ids {} es) e with ⟨-, hsame, -⟩ | ⟨⟨c, hc⟩, -⟩ | ⟨hok, -⟩
    · exact hsame
    · cases hv.symm.trans hc
    · cases hv.symm.trans hok
  · obtain ⟨hp, hend⟩ := exists_completes (fun _ h => by cases h) hstop
    refine ⟨hp, hend, fun e => push_of_violation ids ?_⟩
    rw [hstop]
    rfl

/-- A call comes whole while the text before it stops, after one call and half of another. -/
def brokenOff : Event := ⟨.progress, .toolCall ⟨.call codeCall, .inProgress⟩, some .endOfMessage⟩

def brokenTurn : List Event :=
  [.start, .fragment "[f(), g(" .started, brokenOff, .complete .endOfTurn]

theorem books_are_sound_brokenTurn :
    (∀ c ∈ Event.carried brokenTurn, ∀ k, c.id ≠ IdSupply.strokes k) ∧
    IsMalformed ((after .strokes {} (brokenTurn.take 2)).push .strokes brokenOff).2 ∧
    (∀ c ∈ ((after .strokes {} (brokenTurn.take 2)).push .strokes brokenOff).1.calls,
      c = codeCall) ∧
    (after .strokes {} brokenTurn).pending = "" ∧
    ((after .strokes {} brokenTurn).calls.map (·.id)).Nodup := by
  have hfresh : ∀ c ∈ Event.carried brokenTurn, ∀ k, c.id ≠ IdSupply.strokes k :=
    List.forall_mem_singleton.2 codeCall_id_ne_strokes
  have hm : IsMalformed ((after .strokes {} (brokenTurn.take 2)).push .strokes brokenOff).2 :=
    ⟨_, rfl⟩
  have hfirst : ∀ c ∈ Event.carried (brokenTurn.take 2), ∀ k, c.id ≠ IdSupply.strokes k :=
    List.forall_mem_nil _
  obtain ⟨-, -, -, hpush, -⟩ := books_are_sound IdSupply.strokes_injective rfl hfirst
  obtain ⟨new, hnew, hcalls, -⟩ := (hpush brokenOff).2 hm
  obtain ⟨hn, -, -, -, hend⟩ := books_are_sound IdSupply.strokes_injective rfl hfresh
  refine ⟨hfresh, hm, fun c hc => ?_, (hend .endOfTurn rfl).1, hn⟩
  rw [hcalls] at hc
  exact (Option.some.inj (hnew c hc)).symm

end ChatTurn.Aggregator
