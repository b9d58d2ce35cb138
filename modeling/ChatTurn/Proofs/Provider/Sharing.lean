import ChatTurn.Proofs.History
import ChatTurn.Proofs.Tool.Reading
import ChatTurn.Provider.Sharing

namespace ChatTurn

variable {σ : Type}

theorem Handle.startReply?_eq_none_iff {h : Handle σ} :
    h.startReply? = none ↔ h.state = .uninitialized := by
  rw [startReply?]
  cases h.state <;> simp

theorem Handle.accept_eq_ok_iff {h : Handle σ} {q : Request} :
    h.accept q = .ok () ↔ h.state = .ready ∧ q.validate = .ok () := by
  rw [accept]
  cases h.state with
  | ready => exact mapError_eq_ok_iff.trans (by simp)
  | uninitialized | shutDown => simp

namespace Shared

def Ask.visits : Ask → Stage → Bool
  | _, .waiting | _, .leaving _ | _, .ended _ | _, .abandoned => true
  | .start, .holding | .start, .cleared | .start, .starting | .start, .started => true
  | .shutdown, .holding | .shutdown, .closing | .shutdown, .stopping => true
  | .complete .., .accepted | .complete .., .serving => true
  | .chat .., .accepted | .chat .., .serving => true
  | _, _ => false

/-- From here on setting up relies on what it has found. -/
def Stage.isPreparing : Stage → Bool
  | cleared | starting | started => true
  | _ => false

def Stage.isClosed : Stage → Bool
  | closing | stopping | leaving _ | ended _ => true
  | _ => false

namespace Move

variable {h : Handle σ} {a : Ask} {st st' : Stage} {o : Occurrence} {x : Lifecycle}

theorem visits (hm : Move h a st o st' x) : a.visits st' = true := by
  cases hm with
  | accept ha | beginTurn ha =>
      cases a <;> first | rfl | cases ha
  | lock ha => cases a <;> first | rfl | cases ha
  | _ => rfl

theorem ne_asked (hm : Move h a st o st' x) (b : Ask) : o ≠ .asked b := by
  cases hm <;> exact nofun

theorem state_eq (hm : Move h a st o st' x) (hl : a.locks st = false) : x = h.state := by
  cases hm with
  | ready | remain | close => cases hl
  | _ => rfl

end Move

variable {p : Provider σ} {s s' : Shared σ} {i j k : Nat} {a b : Ask} {st st' u : Stage}
  {o : Occurrence} {x : Lifecycle}

abbrev At (s : Shared σ) (i : Nat) (a : Ask) (st : Stage) : Prop := s.calls[i]? = some (a, st)

theorem at_advance (hi : s.At i a st) : (s.advance i a st' x).At k b u ↔
    (k = i ∧ (a, st') = (b, u)) ∨ (k ≠ i ∧ s.At k b u) :=
  getElem?_set_eq_some hi

theorem holder_advance_self : (s.advance i a st' x).holder = some i ↔ a.locks st' = true := by
  rw [advance]
  split
  · next hl => simp [hl]
  · next hl =>
      split
      · simp [hl]
      · next hs => simp [hl, hs]

theorem holder_advance_of_ne (hk : k ≠ i)
    (hfree : a.locks st' = true → s.holder = none ∨ s.holder = some i) :
    (s.advance i a st' x).holder = some k ↔ s.holder = some k := by
  rw [advance]
  split
  · next hl =>
      rcases hfree hl with hf | hf
      · simp [hf, Ne.symm hk]
      · simp [hf, Ne.symm hk]
  · split
    · next hs => simp [hs, Ne.symm hk]
    · rfl

theorem at_ask : (s.calls ++ [(a, Stage.waiting)])[k]? = some (b, u) ↔
    (k = s.calls.length ∧ (a, Stage.waiting) = (b, u)) ∨ s.At k b u :=
  getElem?_concat_eq_some.trans or_comm

/-- What the lock guards. -/
structure Guarded (p : Provider σ) (s : Shared σ) : Prop where
  provider : s.handle.provider = p
  visits : ∀ {i a st}, s.At i a st → a.visits st = true
  locks_iff : ∀ {i a st}, s.At i a st → (a.locks st = true ↔ s.holder = some i)
  held : ∀ {i}, s.holder = some i → ∃ a st, s.At i a st
  preparing : ∀ {i st}, s.At i .start st → st.isPreparing = true →
    s.handle.state = .uninitialized
  closed : ∀ {i st}, s.At i .shutdown st → st.isClosed = true → s.handle.state = .shutDown

theorem guarded_new (p : Provider σ) : Guarded p { handle := { provider := p } } :=
  ⟨rfl, nofun, nofun, nofun, nofun, nofun⟩

namespace Guarded

theorem eq_of_locks (h : Guarded p s) (hi : s.At i a st) (hl : a.locks st = true)
    (hk : s.At k b u) (hlk : b.locks u = true) : k = i := by
  have he := (h.locks_iff hk).1 hlk
  rw [(h.locks_iff hi).1 hl] at he
  exact (Option.some.inj he).symm

theorem forward (h : Guarded p s) (hi : s.At i a st) (hm : Move s.handle a st o st' x) :
    x = s.handle.state ∨ (s.handle.state = .uninitialized ∧ x = .ready) ∨
      (s.handle.state ≠ .shutDown ∧ x = .shutDown) := by
  cases hm with
  | ready => exact .inr (.inl ⟨h.preparing hi rfl, rfl⟩)
  | remain hs => exact .inl hs.symm
  | close hs => exact .inr (.inr ⟨hs, rfl⟩)
  | _ => exact .inl rfl

theorem stays_shutDown (h : Guarded p s) (hi : s.At i a st) (hm : Move s.handle a st o st' x)
    (hs : s.handle.state = .shutDown) : x = .shutDown := by
  rcases h.forward hi hm with hx | ⟨hu, -⟩ | ⟨hn, -⟩
  · exact hx.trans hs
  · rw [hs] at hu
    cases hu
  · exact absurd hs hn

theorem ask (h : Guarded p s) (a : Ask) :
    Guarded p { s with calls := s.calls ++ [(a, .waiting)] } := by
  refine ⟨h.provider, fun hk => ?_, fun {k b u} hk => ?_, fun hk => ?_, fun hk hp => ?_,
    fun hk hc => ?_⟩
  · rcases at_ask.1 hk with ⟨-, he⟩ | hk
    · cases he
      cases a <;> rfl
    · exact h.visits hk
  · rcases at_ask.1 hk with ⟨rfl, he⟩ | hk
    · cases he
      refine ⟨(nomatch ·), fun hs => ?_⟩
      obtain ⟨b, u, hb⟩ := h.held hs
      exact absurd (List.getElem?_eq_some_iff.1 hb).1 (Nat.lt_irrefl _)
    · exact h.locks_iff hk
  · obtain ⟨b, u, hb⟩ := h.held hk
    exact ⟨b, u, at_ask.2 (.inr hb)⟩
  · rcases at_ask.1 hk with ⟨-, he⟩ | hk
    · cases he
      cases hp
    · exact h.preparing hk hp
  · rcases at_ask.1 hk with ⟨-, he⟩ | hk
    · cases he
      cases hc
    · exact h.closed hk hc

theorem move (h : Guarded p s) (hi : s.At i a st) (hm : Move s.handle a st o st' x)
    (hfree : a.locks st' = true → s.holder = none ∨ s.holder = some i) :
    Guarded p (s.advance i a st' x) := by
  -- Another call that has the lock stays the one that has it.
  have hother : ∀ {k b u}, s.At k b u → k ≠ i → b.locks u = true → x = s.handle.state := by
    intro k b u hk hne hl
    refine hm.state_eq (Bool.eq_false_iff.2 fun hli => ?_)
    exact hne (h.eq_of_locks hi hli hk hl)
  refine ⟨h.provider, fun hk => ?_, fun {k b u} hk => ?_, fun {k} hk => ?_,
    fun {k u} hk hp => ?_, fun {k u} hk hc => ?_⟩
  · rcases (at_advance hi).1 hk with ⟨-, he⟩ | ⟨-, hk⟩
    · cases he
      exact hm.visits
    · exact h.visits hk
  · rcases (at_advance hi).1 hk with ⟨rfl, he⟩ | ⟨hne, hk⟩
    · cases he
      exact holder_advance_self.symm
    · exact (h.locks_iff hk).trans (holder_advance_of_ne hne hfree).symm
  · by_cases hki : k = i
    · exact ⟨a, st', (at_advance hi).2 (.inl ⟨hki, rfl⟩)⟩
    · obtain ⟨b, u, hb⟩ := h.held ((holder_advance_of_ne hki hfree).1 hk)
      exact ⟨b, u, (at_advance hi).2 (.inr ⟨hki, hb⟩)⟩
  · rcases (at_advance hi).1 hk with ⟨rfl, he⟩ | ⟨hne, hk⟩
    · cases he
      cases hm with
      | clear hr => exact Handle.startReply?_eq_none_iff.1 hr
      | beginStart | endStart => exact h.preparing hi rfl
      | _ => cases hp
    · have hl : Ask.start.locks u = true := by
        cases u <;> first | rfl | cases hp
      exact (hother hk hne hl).trans (h.preparing hk hp)
  · rcases (at_advance hi).1 hk with ⟨rfl, he⟩ | ⟨hne, hk⟩
    · cases he
      cases hm with
      | remain | close => rfl
      | beginShutdown | endShutdown | leave => exact h.closed hi rfl
      | refuse ha => cases ha
      | endTurn => exact absurd (h.visits hi) (by decide)
      | _ => cases hc
    · exact h.stays_shutDown hi hm (h.closed hk hc)

theorem step {e : Nat × Occurrence} (h : Guarded p s) (hs : Step s e s') : Guarded p s' := by
  cases hs with
  | ask a => exact h.ask a
  | move hi hm hfree => exact h.move hi hm hfree

theorem run {t : Trace} (h : Guarded p s) (hr : Run s t s') : Guarded p s' := by
  induction hr with
  | nil => exact h
  | concat _ hs ih => exact ih.step hs

end Guarded

/-- The provider was asked by call `i`, to set up or to shut down, and is still at it. -/
structure Busy (t : Trace) (i : Nat) : Prop where
  began : (i, .startBegan) ∈ t ∨ (i, .shutdownBegan) ∈ t
  startEnded : ∀ r, (i, .startEnded r) ∉ t
  shutdownEnded : ∀ r, (i, .shutdownEnded r) ∉ t
  abandoned : (i, .abandoned) ∉ t

/-- The call came when a call to shut down had returned. -/
def Late (t : Trace) (j : Nat) : Prop :=
  ∃ before i reply after a, t = before ++ (i, .replied .shutdown reply) :: after ∧
    (j, .asked a) ∈ after

theorem late_concat {t : Trace} {e : Nat × Occurrence} : Late (t ++ [e]) j ↔
    Late t j ∨ (∃ a, e = (j, .asked a)) ∧ ∃ i reply, (i, .replied .shutdown reply) ∈ t := by
  constructor
  · rintro ⟨before, i, reply, after, a, ht, ha⟩
    rcases cut_concat ht with ⟨rfl, -⟩ | ⟨after, rfl, rfl⟩
    · cases ha
    · rcases List.mem_append.1 ha with ha | ha
      · exact .inl ⟨before, i, reply, after, a, rfl, ha⟩
      · exact .inr ⟨⟨a, (List.mem_singleton.1 ha).symm⟩, i, reply,
          List.mem_append_right _ List.mem_cons_self⟩
  · rintro (⟨before, i, reply, after, a, rfl, ha⟩ | ⟨⟨a, rfl⟩, i, reply, hm⟩)
    · exact ⟨before, i, reply, after ++ [e], a, by simp, List.mem_append_left _ ha⟩
    · obtain ⟨before, after, rfl⟩ := List.append_of_mem hm
      exact ⟨before, i, reply, after ++ [(j, .asked a)], a, by simp, by simp⟩

def turnedAway (p : Provider σ) (a : Ask) : Reply :=
  a.reply (.error (.notReady p.name .shutDown))

/-- What a call can come to that is late. -/
def IsFutile (p : Provider σ) (a : Ask) (st : Stage) : Prop :=
  st = .waiting ∨ st = .holding ∨ st = .leaving (turnedAway p a) ∨ st = .ended (turnedAway p a) ∨
    st = .abandoned

/-- What the trace of a run tells of the state that it leads to. -/
structure Recorded (p : Provider σ) (t : Trace) (s : Shared σ) : Prop where
  asked : ∀ {i a}, (i, .asked a) ∈ t → ∃ st, s.At i a st
  busy : ∀ {i}, Busy t i → s.At i .start .starting ∨ s.At i .shutdown .stopping
  setUp : ∀ {i}, (i, .startEnded (.ok ())) ∈ t →
    s.handle.state ≠ .uninitialized ∨ s.At i .start .started
  closed : ∀ {i}, (i, .shutdownBegan) ∈ t → s.handle.state = .shutDown
  closing : ∀ {i}, s.At i .shutdown .closing → ∀ j, (j, .shutdownBegan) ∉ t
  returned : ∀ {i r}, (i, .replied .shutdown r) ∈ t → s.handle.state = .shutDown ∧
    ∀ k, ¬ s.At k .shutdown .closing ∧ ¬ s.At k .shutdown .stopping
  accepted : ∀ {i a}, s.At i a .accepted →
    (i, .found .ready) ∈ t ∧ ∀ q, a.request? = some q → q.validate = .ok ()
  late : ∀ {i a st}, Late t i → s.At i a st → a ≠ .shutdown → IsFutile p a st

theorem recorded_new (p : Provider σ) : Recorded p [] { handle := { provider := p } } := by
  refine ⟨nofun, fun h => ?_, nofun, nofun, nofun, nofun, nofun, fun h => ?_⟩
  · rcases h.began with h | h <;> cases h
  · obtain ⟨before, i, reply, after, a, ht, -⟩ := h
    cases before <;> cases ht

theorem Late.shutDown {t : Trace} (hr : Recorded p t s) (h : Late t j) :
    s.handle.state = .shutDown := by
  obtain ⟨before, i, reply, after, a, rfl, -⟩ := h
  exact (hr.returned (List.mem_append_right _ List.mem_cons_self)).1

theorem mem_concat_of_ne {t : Trace} {o' : Occurrence} (hne : o' ≠ o ∨ k ≠ i) :
    (k, o') ∈ t ++ [(i, o)] ↔ (k, o') ∈ t := by
  rw [List.mem_append, List.mem_singleton, Prod.mk.injEq]
  refine ⟨fun h => h.resolve_right ?_, .inl⟩
  rintro ⟨hk, ho⟩
  rcases hne with hne | hne
  · exact hne ho
  · exact hne hk

theorem busy_of_concat {t : Trace} {e : Nat × Occurrence} (h : Busy (t ++ [e]) k)
    (hs : e ≠ (k, .startBegan)) (hd : e ≠ (k, .shutdownBegan)) : Busy t k := by
  refine ⟨h.began.imp (fun hm => ?_) (fun hm => ?_),
    fun r hm => h.startEnded r (List.mem_append_left _ hm),
    fun r hm => h.shutdownEnded r (List.mem_append_left _ hm),
    fun hm => h.abandoned (List.mem_append_left _ hm)⟩
  · exact (List.mem_append.1 hm).resolve_right fun he => hs (List.mem_singleton.1 he).symm
  · exact (List.mem_append.1 hm).resolve_right fun he => hd (List.mem_singleton.1 he).symm

namespace Recorded

variable {t : Trace}

theorem ask (h : Recorded p t s) (a : Ask) :
    Recorded p (t ++ [(s.calls.length, .asked a)])
      { s with calls := s.calls ++ [(a, .waiting)] } := by
  have hmem : ∀ {k o}, (∀ b, o ≠ .asked b) → (k, o) ∈ t ++ [(s.calls.length, .asked a)] →
      (k, o) ∈ t := fun ho hm => (mem_concat_of_ne (.inl (ho a))).1 hm
  have hat : ∀ {k b u}, u ≠ .waiting → (s.calls ++ [(a, Stage.waiting)])[k]? = some (b, u) →
      s.At k b u := by
    intro k b u hu hk
    rcases at_ask.1 hk with ⟨-, he⟩ | hk
    · cases he
      exact absurd rfl hu
    · exact hk
  refine ⟨fun hm => ?_, fun hb => ?_, fun hm => ?_, fun hm => h.closed (hmem nofun hm),
    fun hk j hm => h.closing (hat nofun hk) j (hmem nofun hm), fun hm => ?_, fun hk => ?_,
    fun hl hk ha => ?_⟩
  · rw [List.mem_append, List.mem_singleton] at hm
    rcases hm with hm | hm
    · obtain ⟨st, hst⟩ := h.asked hm
      exact ⟨st, at_ask.2 (.inr hst)⟩
    · cases hm
      exact ⟨.waiting, at_ask.2 (.inl ⟨rfl, rfl⟩)⟩
  · exact (h.busy (busy_of_concat hb nofun nofun)).imp (fun hk => at_ask.2 (.inr hk))
      fun hk => at_ask.2 (.inr hk)
  · exact (h.setUp (hmem nofun hm)).imp_right fun hk => at_ask.2 (.inr hk)
  · obtain ⟨hs, hn⟩ := h.returned (hmem nofun hm)
    exact ⟨hs, fun k => ⟨fun hk => (hn k).1 (hat nofun hk), fun hk => (hn k).2 (hat nofun hk)⟩⟩
  · obtain ⟨hf, hq⟩ := h.accepted (hat nofun hk)
    exact ⟨List.mem_append_left _ hf, hq⟩
  · rcases at_ask.1 hk with ⟨-, he⟩ | hk
    · cases he
      exact .inl rfl
    · rcases late_concat.1 hl with hl | ⟨⟨b, he⟩, -⟩
      · exact h.late hl hk ha
      · cases he
        exact absurd (List.getElem?_eq_some_iff.1 hk).1 (Nat.lt_irrefl _)

section Move

variable (h : Recorded p t s) (hg : Guarded p s) (hi : s.At i a st)
  (hm : Move s.handle a st o st' x)

include hi in
theorem at_self : (s.advance i a st' x).At i a st' := (at_advance hi).2 (.inl ⟨rfl, rfl⟩)

include hi in
theorem at_other (hne : k ≠ i) (hk : s.At k b u) : (s.advance i a st' x).At k b u :=
  (at_advance hi).2 (.inr ⟨hne, hk⟩)

include h hi hm

theorem asked_move (hk : (k, .asked b) ∈ t ++ [(i, o)]) :
    ∃ u, (s.advance i a st' x).At k b u := by
  obtain ⟨u, hu⟩ := h.asked ((mem_concat_of_ne (.inl (Ne.symm (hm.ne_asked b)))).1 hk)
  by_cases hne : k = i
  · subst hne
    cases hi.symm.trans hu
    exact ⟨st', at_self hi⟩
  · exact ⟨u, at_other hi hne hu⟩

theorem busy_move (hb : Busy (t ++ [(i, o)]) k) : (s.advance i a st' x).At k .start .starting ∨
    (s.advance i a st' x).At k .shutdown .stopping := by
  by_cases hne : k = i
  · subst hne
    have hlast : (k, o) ∈ t ++ [(k, o)] := List.mem_append_right _ List.mem_cons_self
    cases hm with
    | beginStart => exact .inl (at_self hi)
    | beginShutdown => exact .inr (at_self hi)
    | endStart => exact absurd hlast (hb.startEnded _)
    | failStart e => exact absurd hlast (hb.startEnded _)
    | endShutdown r => exact absurd hlast (hb.shutdownEnded _)
    | abandon => exact absurd hlast hb.abandoned
    | _ =>
        rcases h.busy (busy_of_concat hb nofun nofun) with hk | hk
        all_goals cases hi.symm.trans hk
  · have hold : Busy t k := busy_of_concat hb (fun he => hne (Prod.mk.inj he).1.symm)
      fun he => hne (Prod.mk.inj he).1.symm
    exact (h.busy hold).imp (at_other hi hne) (at_other hi hne)

include hg

theorem setUp_move (hk : (k, .startEnded (.ok ())) ∈ t ++ [(i, o)]) :
    x ≠ .uninitialized ∨ (s.advance i a st' x).At k .start .started := by
  rcases List.mem_append.1 hk with hold | hnew
  · rcases h.setUp hold with hs | hstarted
    · refine .inl ?_
      rcases hg.forward hi hm with rfl | ⟨-, rfl⟩ | ⟨-, rfl⟩
      · exact hs
      · exact nofun
      · exact nofun
    · by_cases hne : k = i
      · subst hne
        cases hi.symm.trans hstarted
        cases hm with
        | ready => exact .inl nofun
        | abandon hst => cases hst
      · exact .inr (at_other hi hne hstarted)
  · cases List.mem_singleton.1 hnew
    cases hm with
    | endStart => exact .inr (at_self hi)

theorem closed_move (hk : (k, .shutdownBegan) ∈ t ++ [(i, o)]) : x = .shutDown := by
  rcases List.mem_append.1 hk with hk | hk
  · exact hg.stays_shutDown hi hm (h.closed hk)
  · cases List.mem_singleton.1 hk
    cases hm with
    | beginShutdown => exact hg.closed hi rfl

theorem closing_move (hk : (s.advance i a st' x).At k .shutdown .closing) :
    (j, .shutdownBegan) ∉ t ++ [(i, o)] := by
  intro hj
  replace hk := (at_advance hi).1 hk
  rcases hk with ⟨rfl, he⟩ | ⟨hne, hk⟩
  · cases he
    cases hm with
    | close hs => exact hs (h.closed ((mem_concat_of_ne (.inl (by exact nofun))).1 hj))
  · rcases List.mem_append.1 hj with hold | hnew
    · exact h.closing hk j hold
    · cases List.mem_singleton.1 hnew
      cases hm with
      | beginShutdown => exact hne (hg.eq_of_locks hi rfl hk rfl)

theorem returned_move {r : Reply} (hk : (k, .replied .shutdown r) ∈ t ++ [(i, o)]) :
    x = .shutDown ∧ ∀ n, ¬ (s.advance i a st' x).At n .shutdown .closing ∧
      ¬ (s.advance i a st' x).At n .shutdown .stopping := by
  rcases List.mem_append.1 hk with hk | hk
  · obtain ⟨hs, hn⟩ := h.returned hk
    refine ⟨hg.stays_shutDown hi hm hs, fun n => ⟨fun hc => ?_, fun hc => ?_⟩⟩
    · rcases (at_advance hi).1 hc with ⟨rfl, he⟩ | ⟨-, hc⟩
      · cases he
        cases hm with
        | close hopen => exact hopen hs
      · exact (hn n).1 hc
    · rcases (at_advance hi).1 hc with ⟨rfl, he⟩ | ⟨-, hc⟩
      · cases he
        cases hm with
        | beginShutdown => exact (hn n).1 hi
      · exact (hn n).2 hc
  · cases List.mem_singleton.1 hk
    cases hm with
    | leave =>
        refine ⟨hg.closed hi rfl, fun n => ⟨fun hc => ?_, fun hc => ?_⟩⟩
        all_goals
          rcases (at_advance hi).1 hc with ⟨-, he⟩ | ⟨hne, hc⟩
          · cases he
          · exact hne (hg.eq_of_locks hi rfl hc rfl)

omit hg in
theorem accepted_move (hk : (s.advance i a st' x).At k b .accepted) :
    (k, .found .ready) ∈ t ++ [(i, o)] ∧ ∀ q, b.request? = some q → q.validate = .ok () := by
  rcases (at_advance hi).1 hk with ⟨rfl, he⟩ | ⟨-, hk⟩
  · cases he
    cases hm with
    | accept ha hok =>
        obtain ⟨hs, hv⟩ := Handle.accept_eq_ok_iff.1 hok
        refine ⟨by simp [hs], fun q hq => ?_⟩
        cases ha.symm.trans hq
        exact hv
  · obtain ⟨hf, hq⟩ := h.accepted hk
    exact ⟨List.mem_append_left _ hf, hq⟩

theorem late_move (hl : Late (t ++ [(i, o)]) k) (hk : (s.advance i a st' x).At k b u)
    (hb : b ≠ .shutdown) : IsFutile p b u := by
  have hold : Late t k := by
    rcases late_concat.1 hl with hold | ⟨⟨c, he⟩, -⟩
    · exact hold
    · exact absurd (Prod.mk.inj he).2 (hm.ne_asked c)
  have hs := hold.shutDown h
  rcases (at_advance hi).1 hk with ⟨rfl, he⟩ | ⟨-, hk⟩
  · cases he
    have hrefuse : s.handle.notReady = .notReady p.name .shutDown := by
      rw [Handle.notReady, hs, Handle.name, hg.provider]
    rcases h.late hold hi hb with rfl | rfl | rfl | rfl | rfl
    · cases hm with
      | lock => exact .inr (.inl rfl)
      | refuse _ he =>
          rw [Handle.accept, hs, hrefuse] at he
          cases he
          exact .inr (.inr (.inl rfl))
      | accept _ hok =>
          rw [Handle.accept, hs] at hok
          cases hok
      | abandon => exact .inr (.inr (.inr (.inr rfl)))
    · cases hm with
      | answer hr =>
          rw [Handle.startReply?, hs, hrefuse] at hr
          cases hr
          exact .inr (.inr (.inl rfl))
      | clear hr =>
          rw [Handle.startReply?, hs] at hr
          cases hr
      | remain | close => exact absurd rfl hb
      | abandon hst => cases hst
    · cases hm with
      | leave => exact .inr (.inr (.inr (.inl rfl)))
      | abandon hst => cases hst
    · cases hm with
      | abandon hst => cases hst
    · cases hm with
      | abandon hst => cases hst
  · exact h.late hold hk hb

end Move

theorem move (h : Recorded p t s) (hg : Guarded p s) (hi : s.At i a st)
    (hm : Move s.handle a st o st' x) : Recorded p (t ++ [(i, o)]) (s.advance i a st' x) :=
  { asked := asked_move h hi hm
    busy := busy_move h hi hm
    setUp := setUp_move h hg hi hm
    closed := closed_move h hg hi hm
    closing := fun hk _ => closing_move h hg hi hm hk
    returned := returned_move h hg hi hm
    accepted := accepted_move h hi hm
    late := late_move h hg hi hm }

end Recorded

end Shared

end ChatTurn
