import ChatTurn.Proofs.Provider.Alone

namespace ChatTurn.Shared

variable {σ : Type} {p : Provider σ} {t : Trace} {s s' : Shared σ} {i j k : Nat} {a b : Ask}
  {st st' : Stage} {o : Occurrence} {r : Reply} {x : Lifecycle}

/-- What may be said of each step of a run, by what the run has shown before. -/
structure Lawful (p : Provider σ) (t : Trace) (s : Shared σ) (i : Nat) (o : Occurrence)
    (s' : Shared σ) : Prop where
  forward : s'.handle.state = s.handle.state ∨
    (s.handle.state = .uninitialized ∧ s'.handle.state = .ready) ∨
    (s.handle.state ≠ .shutDown ∧ s'.handle.state = .shutDown)
  start : o = .startBegan → (∀ j, ¬ Busy t j) ∧ (∀ j, (j, .startEnded (.ok ())) ∉ t) ∧
    ∀ j, (j, .shutdownBegan) ∉ t
  success : o = .startEnded (.ok ()) → ∀ j, (j, .startEnded (.ok ())) ∉ t
  failure : ∀ e, o = .startEnded (.error e) →
    s.handle.state = .uninitialized ∧ s'.handle.state = .uninitialized
  shutdown : o = .shutdownBegan → (∀ j, ¬ Busy t j) ∧ ∀ j, (j, .shutdownBegan) ∉ t
  reach : ∀ q, o = .reached q → (i, .found .ready) ∈ t ∧ q.validate = .ok ()
  late : Late t i → o ≠ .startBegan ∧ (∀ q, o ≠ .reached q) ∧
    ∀ a r, o = .replied a r → a ≠ .shutdown → r = turnedAway p a

section Move

variable (hr : Recorded p t s) (hg : Guarded p s) (hi : s.At i a st)
  (hm : Move s.handle a st o st' x)

include hr hg hi

/-- While a call has the lock and does not wait for the provider, nobody does. -/
theorem not_busy (hl : a.locks st = true) (hst : st ≠ .starting ∧ st ≠ .stopping) :
    ¬ Busy t j := by
  intro hb
  rcases hr.busy hb with hj | hj
  · obtain rfl : j = i := hg.eq_of_locks hi hl hj rfl
    cases hi.symm.trans hj
    exact hst.1 rfl
  · obtain rfl : j = i := hg.eq_of_locks hi hl hj rfl
    cases hi.symm.trans hj
    exact hst.2 rfl

theorem not_startEnded (ha : a = .start) (hp : st.isPreparing = true) (hst : st ≠ .started) :
    (j, .startEnded (.ok ())) ∉ t := by
  subst ha
  intro hj
  rcases hr.setUp hj with hn | hj
  · exact hn (hg.preparing hi hp)
  · have hl : Ask.start.locks st = true := by
      cases st <;> first | rfl | cases hp
    obtain rfl : j = i := hg.eq_of_locks hi hl hj rfl
    cases hi.symm.trans hj
    exact hst rfl

include hm

theorem start_of_move (ho : o = .startBegan) : (∀ j, ¬ Busy t j) ∧
    (∀ j, (j, .startEnded (.ok ())) ∉ t) ∧ ∀ j, (j, .shutdownBegan) ∉ t := by
  subst ho
  cases hm with
  | beginStart =>
      refine ⟨fun j => not_busy hr hg hi rfl ⟨nofun, nofun⟩,
        fun j => not_startEnded hr hg hi rfl rfl nofun, fun j hj => ?_⟩
      exact nomatch (hg.preparing hi rfl).symm.trans (hr.closed hj)

theorem success_of_move (ho : o = .startEnded (.ok ())) : (j, .startEnded (.ok ())) ∉ t := by
  subst ho
  cases hm with
  | endStart => exact not_startEnded hr hg hi rfl rfl nofun

omit hr in
theorem failure_of_move {e : Error} (ho : o = .startEnded (.error e)) :
    s.handle.state = .uninitialized ∧ x = .uninitialized := by
  subst ho
  cases hm with
  | failStart => exact ⟨hg.preparing hi rfl, hg.preparing hi rfl⟩

theorem shutdown_of_move (ho : o = .shutdownBegan) :
    (∀ j, ¬ Busy t j) ∧ ∀ j, (j, .shutdownBegan) ∉ t := by
  subst ho
  cases hm with
  | beginShutdown =>
      exact ⟨fun j => not_busy hr hg hi rfl ⟨nofun, nofun⟩, hr.closing hi⟩

omit hg in
theorem reach_of_move {q : Request} (ho : o = .reached q) :
    (i, .found .ready) ∈ t ∧ q.validate = .ok () := by
  subst ho
  cases hm with
  | beginTurn ha =>
      obtain ⟨hf, hq⟩ := hr.accepted hi
      exact ⟨hf, hq q ha⟩

theorem late_of_move (hl : Late t i) : o ≠ .startBegan ∧ (∀ q, o ≠ .reached q) ∧
    ∀ a r, o = .replied a r → a ≠ .shutdown → r = turnedAway p a := by
  refine ⟨fun ho => ?_, fun q ho => ?_, fun b r ho hb => ?_⟩
  · subst ho
    cases hm with
    | beginStart => exact nomatch (hg.preparing hi rfl).symm.trans (hl.shutDown hr)
  · subst ho
    cases hm with
    | beginTurn ha =>
        have hne : a ≠ .shutdown := by
          rintro rfl
          cases ha
        rcases hr.late hl hi hne with h | h | h | h | h <;> cases h
  · subst ho
    cases hm with
    | leave =>
        rcases hr.late hl hi hb with h | h | h | h | h <;> cases h
        rfl

end Move

theorem Recorded.lawful {e : Nat × Occurrence} (hr : Recorded p t s) (hg : Guarded p s)
    (hs : Step s e s') : Lawful p t s e.1 e.2 s' := by
  cases hs with
  | ask a =>
      refine ⟨.inl rfl, fun h => ?_, fun h => ?_, fun _ h => ?_, fun h => ?_, fun _ h => ?_,
        fun _ => ⟨fun h => ?_, fun _ h => ?_, fun _ _ h => ?_⟩⟩
      all_goals cases h
  | move hi hm hfree =>
      exact
        { forward := hg.forward hi hm
          start := start_of_move hr hg hi hm
          success := fun ho _ => success_of_move hr hg hi hm ho
          failure := fun _ => failure_of_move hg hi hm
          shutdown := shutdown_of_move hr hg hi hm
          reach := fun _ => reach_of_move hr hi hm
          late := late_of_move hr hg hi hm }

theorem recorded_run (h : Run { handle := { provider := p } } t s) :
    Guarded p s ∧ Recorded p t s := by
  induction h with
  | nil => exact ⟨guarded_new p, recorded_new p⟩
  | concat _ hs ih =>
      obtain ⟨hg, hr⟩ := ih
      refine ⟨hg.step hs, ?_⟩
      cases hs with
      | ask a => exact hr.ask a
      | move hi hm => exact hr.move hg hi hm

/-- Once the provider is shut down, the call that has the lock soon gives it up. -/
theorem path_of_locks (hg : Guarded p s) (hs : s.handle.state = .shutDown)
    (hc : ¬ s.At i .shutdown .closing ∧ ¬ s.At i .shutdown .stopping) (hi : s.At i a st)
    (hl : a.locks st = true) : ∃ os r, Path s.handle a st os (.ended r) s.handle.state := by
  have hleave : ∀ r, st = .leaving r →
      ∃ os r, Path s.handle a st os (.ended r) s.handle.state := by
    rintro r rfl
    exact ⟨_, r, .concat .nil .leave⟩
  cases a with
  | start =>
      cases st with
      | holding =>
          have hr : s.handle.startReply? = some (.error s.handle.notReady) := by
            rw [Handle.startReply?, hs]
          exact ⟨_, _, .concat (.concat .nil (.answer hr)) .leave⟩
      | cleared | starting | started => cases hs.symm.trans (hg.preparing hi rfl)
      | leaving r => exact hleave r rfl
      | closing | stopping => exact absurd (hg.visits hi) (by decide)
      | _ => cases hl
  | shutdown =>
      cases st with
      | holding =>
          rw [hs]
          exact ⟨_, _, .concat (.concat .nil (.remain hs)) .leave⟩
      | closing => exact absurd hi hc.1
      | stopping => exact absurd hi hc.2
      | leaving r => exact hleave r rfl
      | cleared | starting | started => exact absurd (hg.visits hi) (by decide)
      | _ => cases hl
  | complete | chat =>
      have hv := hg.visits hi
      cases st with
      | leaving | waiting | accepted | serving | ended | abandoned => cases hl
      | _ => exact absurd hv (by simp [Ask.visits])

theorem exists_free (hg : Guarded p s) (hs : s.handle.state = .shutDown)
    (hc : ∀ k, ¬ s.At k .shutdown .closing ∧ ¬ s.At k .shutdown .stopping) (hi : s.At i a st) :
    ∃ t s', Run s t s' ∧ s'.handle = s.handle ∧ s'.At i a st ∧ s'.IsFree i := by
  cases hh : s.holder with
  | none => exact ⟨[], s, .nil, rfl, hi, .inl hh⟩
  | some k =>
      by_cases hne : i = k
      · exact ⟨[], s, .nil, rfl, hi, .inr (hne ▸ hh)⟩
      · obtain ⟨b, u, hk⟩ := hg.held hh
        obtain ⟨os, r, hp⟩ := path_of_locks hg hs (hc k) hk ((hg.locks_iff hk).2 hh)
        obtain ⟨s', hrun, he, hk', hfree, hkeep⟩ := run_of_path hp hk (.inr hh)
        exact ⟨_, s', hrun, he, hkeep i a st hne hi,
          .inl (holder_of_ended (hg.run hrun) hk' hfree)⟩

theorem path_of_isFutile {h : Handle σ} (hs : h.state = .shutDown) (hp : h.provider = p)
    (hf : IsFutile p a st) (hv : a.visits st = true) (ha : a ≠ .shutdown)
    (hended : ∀ r, st ≠ .ended r) (hst : st ≠ .abandoned) :
    ∃ os, .replied a (turnedAway p a) ∈ os ∧ Path h a st os (.ended (turnedAway p a)) h.state := by
  have he : h.notReady = .notReady p.name .shutDown := by
    rw [Handle.notReady, Handle.name, hs, hp]
  have hstart : h.startReply? = some (.error (.notReady p.name .shutDown)) := by
    rw [Handle.startReply?, hs, he]
  have haccept : ∀ q, h.accept q = .error (.notReady p.name .shutDown) := by
    intro q
    rw [Handle.accept, hs, he]
  rcases hf with rfl | rfl | rfl | rfl | rfl
  · cases a with
    | start =>
        exact ⟨_, List.mem_append_right _ List.mem_cons_self,
          .concat (.concat (.concat .nil (.lock rfl)) (.answer hstart)) .leave⟩
    | shutdown => exact absurd rfl ha
    | complete ids q | chat ids q =>
        exact ⟨_, List.mem_append_right _ List.mem_cons_self,
          .concat (.concat .nil (.refuse rfl (haccept q))) .leave⟩
  · cases a with
    | start => exact ⟨_, List.mem_append_right _ List.mem_cons_self,
          .concat (.concat .nil (.answer hstart)) .leave⟩
    | shutdown => exact absurd rfl ha
    | complete | chat => cases hv
  · exact ⟨_, List.mem_append_right _ List.mem_cons_self, .concat .nil .leave⟩
  · exact absurd rfl (hended _)
  · exact absurd rfl hst

theorem replied_of_late (hr : Recorded p t s) (hg : Guarded p s) (hl : Late t i)
    (hi : s.At i a st) (ha : a ≠ .shutdown) (hended : ∀ r, st ≠ .ended r) (hst : st ≠ .abandoned) :
    ∃ t' s', Run s t' s' ∧ (i, .replied a (turnedAway p a)) ∈ t' := by
  have hs := hl.shutDown hr
  have hc : ∀ k, ¬ s.At k .shutdown .closing ∧ ¬ s.At k .shutdown .stopping := by
    obtain ⟨before, j, reply, after, b, rfl, -⟩ := hl
    exact (hr.returned (List.mem_append_right _ List.mem_cons_self)).2
  obtain ⟨t', s', hrun, hh, hi', hfree⟩ := exists_free hg hs hc hi
  obtain ⟨os, hos, hp⟩ := path_of_isFutile (hh ▸ hs) (hh ▸ hg.provider) (hr.late hl hi ha)
    (hg.visits hi) ha hended hst
  obtain ⟨s'', hrun', -⟩ := run_of_path hp hi' hfree
  exact ⟨_, s'', hrun.append hrun', List.mem_append_right _ (List.mem_map_of_mem hos)⟩

theorem start_of_waiting (hi : s.At i .start .waiting) (hfree : s.holder = none)
    (hs : s.handle.state = .uninitialized) (result : Except Error Unit) :
    ∃ t s', Run s t s' ∧ (i, .startBegan) ∈ t ∧ s'.At i .start (.ended (.life result)) ∧
      s'.handle.state = match result with | .ok () => .ready | .error _ => .uninitialized := by
  obtain ⟨os, hos, hp⟩ := Path.start_asking (Handle.startReply?_eq_none_iff.2 hs) result
  obtain ⟨s', hrun, hh, hi', -⟩ := run_of_path hp hi (.inl hfree)
  rw [hs] at hh
  exact ⟨_, s', hrun, List.mem_map_of_mem hos, hi', congrArg Handle.state hh⟩

/-- Whatever calls are made and however they interleave, each step keeps to the life of a provider,
what comes too late is turned away, and setting up that failed can be tried again. -/
theorem run_lawful (h : Run { handle := { provider := p } } t s) :
    (∀ e s', Step s e s' → Lawful p t s e.1 e.2 s') ∧
    (∀ i a st, Late t i → s.At i a st → a ≠ .shutdown → (∀ r, st ≠ .ended r) → st ≠ .abandoned →
      ∃ t' s', Run s t' s' ∧ (i, .replied a (turnedAway p a)) ∈ t') ∧
    ∀ i result, s.At i .start .waiting → s.holder = none → s.handle.state = .uninitialized →
      ∃ t' s', Run s t' s' ∧ (i, .startBegan) ∈ t' ∧ s'.At i .start (.ended (.life result)) ∧
        s'.handle.state = match result with | .ok () => .ready | .error _ => .uninitialized := by
  obtain ⟨hg, hr⟩ := recorded_run h
  exact ⟨fun _ _ => hr.lawful hg, fun _ _ _ => replied_of_late hr hg,
    fun _ result hi hfree hs => start_of_waiting hi hfree hs result⟩

def stubborn : Provider Unit :=
  { name := "stubborn", capabilities := ⟨true, false, none⟩
    shutdown := pure (.error (.internal "busy"))
    turn := fun _ _ => pure (.ok []) }

/-- While a call sets the provider up, another one comes to shut it down. The third comes when the
second has returned with an error. -/
def overlapping : Trace :=
  [(0, .asked .start), (0, .locked), (0, .found .uninitialized), (0, .startBegan),
    (1, .asked .shutdown), (0, .startEnded (.ok ())), (0, .readied),
    (0, .replied .start (.life (.ok ()))), (1, .locked), (1, .found .ready), (1, .shutdownBegan),
    (1, .shutdownEnded (.error (.internal "busy"))),
    (1, .replied .shutdown (.life (.error (.internal "busy")))), (2, .asked .start)]

theorem run_overlapping :
    ∃ s, Run { handle := { provider := stubborn } } overlapping s ∧ s.At 2 .start .waiting := by
  have h := Run.nil.concat (.ask (s := { handle := { provider := stubborn } }) .start)
  have h := h.concat (.move (i := 0) rfl (.lock rfl) fun _ => .inl rfl)
  have h := h.concat (.move (i := 0) rfl (.clear rfl) fun _ => .inr rfl)
  have h := h.concat (.move (i := 0) rfl .beginStart fun _ => .inr rfl)
  have h := h.concat (.ask .shutdown)
  have h := h.concat (.move (i := 0) rfl .endStart fun _ => .inr rfl)
  have h := h.concat (.move (i := 0) rfl .ready fun _ => .inr rfl)
  have h := h.concat (.move (i := 0) rfl .leave nofun)
  have h := h.concat (.move (i := 1) rfl (.lock rfl) fun _ => .inl rfl)
  have h := h.concat (.move (i := 1) rfl (.close nofun) fun _ => .inr rfl)
  have h := h.concat (.move (i := 1) rfl .beginShutdown fun _ => .inr rfl)
  have h := h.concat (.move (i := 1) rfl (.endShutdown (.error (.internal "busy"))) fun _ =>
    .inr rfl)
  have h := h.concat (.move (i := 1) rfl .leave nofun)
  have h := h.concat (.ask .start)
  exact ⟨_, h, rfl⟩

theorem run_lawful_overlapping : Late overlapping 2 ∧
    ∃ s, Run { handle := { provider := stubborn } } overlapping s ∧
      (∀ e s', Step s e s' → Lawful stubborn overlapping s e.1 e.2 s') ∧
      ∃ t' s', Run s t' s' ∧ (2, .replied .start (turnedAway stubborn .start)) ∈ t' := by
  have hl : Late overlapping 2 :=
    ⟨overlapping.take 12, 1, .life (.error (.internal "busy")), [(2, .asked .start)], .start, rfl,
      List.mem_cons_self⟩
  obtain ⟨s, hrun, hi⟩ := run_overlapping
  obtain ⟨hlaw, hlate, -⟩ := run_lawful hrun
  exact ⟨hl, s, hrun, hlaw, hlate 2 .start .waiting hl hi nofun nofun nofun⟩

end ChatTurn.Shared
