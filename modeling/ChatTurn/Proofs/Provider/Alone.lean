import ChatTurn.Proofs.Provider.Sharing

namespace ChatTurn.Shared

variable {σ : Type}

inductive Path (h : Handle σ) (a : Ask) (st : Stage) : List Occurrence → Stage → Lifecycle → Prop
  | nil : Path h a st [] st h.state
  | concat {os : List Occurrence} {o : Occurrence} {st' st'' : Stage} {x y : Lifecycle}
      (hp : Path h a st os st' x) (hm : Move { h with state := x } a st' o st'' y) :
      Path h a st (os ++ [o]) st'' y

variable {p : Provider σ} {s s' s'' : Shared σ} {i j k : Nat} {a b : Ask} {st st' u : Stage}
  {o : Occurrence} {x : Lifecycle} {t t' : Trace}

theorem Run.append (h : Run s t s') (h' : Run s' t' s'') : Run s (t ++ t') s'' := by
  induction h' with
  | nil => rwa [List.append_nil]
  | concat _ hs ih =>
      rw [← List.append_assoc]
      exact ih.concat hs

def IsFree (s : Shared σ) (i : Nat) : Prop := s.holder = none ∨ s.holder = some i

theorem isFree_advance (h : s.IsFree i) : (s.advance i a st x).IsFree i := by
  rw [IsFree, advance]
  split
  · exact .inr rfl
  · split
    · exact .inl rfl
    · exact h

theorem run_of_path {os : List Occurrence} (hp : Path s.handle a st os st' x) (hi : s.At i a st)
    (hfree : s.IsFree i) : ∃ s', Run s (os.map (i, ·)) s' ∧ s'.handle = ⟨s.handle.provider, x⟩ ∧
      s'.At i a st' ∧ s'.IsFree i ∧ ∀ k b u, k ≠ i → s.At k b u → s'.At k b u := by
  induction hp with
  | nil => exact ⟨s, .nil, rfl, hi, hfree, fun _ _ _ _ => id⟩
  | @concat os o st' st'' x y _ hm ih =>
      obtain ⟨s', hrun, hh, hi', hfree', hkeep⟩ := ih
      rw [← hh] at hm
      refine ⟨s'.advance i a st'' y, ?_, ?_, (at_advance hi').2 (.inl ⟨rfl, rfl⟩),
        isFree_advance hfree', fun k b u hne hk => ?_⟩
      · rw [List.map_append]
        exact hrun.concat (.move hi' hm fun _ => hfree')
      · rw [advance, hh]
      · exact (at_advance hi').2 (.inr ⟨hne, hkeep k b u hne hk⟩)

theorem holder_of_ended {r : Reply} (hg : Guarded p s) (hi : s.At i a (.ended r))
    (hfree : s.IsFree i) : s.holder = none := by
  refine hfree.resolve_right fun hs => ?_
  cases (hg.locks_iff hi).2 hs

/-- What a call comes to, and what becomes of the handle, when there is no other. -/
def Ask.run (h : Handle σ) : Ask → StateM σ (Reply × Handle σ)
  | .start => do
    let (result, h) ← h.start
    return (.life result, h)
  | .shutdown => do
    let (result, h) ← h.shutdown
    return (.life result, h)
  | .complete ids q => return (.completion (← h.complete ids q), h)
  | .chat ids q => return (.chunks (← h.chat ids q), h)

namespace Path

variable {h : Handle σ}

theorem start_answered {r : Except Error Unit} (hr : h.startReply? = some r) :
    ∃ os, Path h .start .waiting os (.ended (.life r)) h.state :=
  ⟨_, (((nil.concat (.lock rfl)).concat (.answer hr)).concat .leave)⟩

theorem start_asking (hr : h.startReply? = none) (result : Except Error Unit) :
    ∃ os, .startBegan ∈ os ∧ Path h .start .waiting os (.ended (.life result))
      (match result with | .ok () => .ready | .error _ => h.state) := by
  have hbegan : Path h .start .waiting [.locked, .found h.state, .startBegan] .starting h.state :=
    ((nil.concat (.lock rfl)).concat (.clear hr)).concat .beginStart
  cases result with
  | ok => exact ⟨_, by simp, ((hbegan.concat .endStart).concat .ready).concat .leave⟩
  | error e => exact ⟨_, by simp, (hbegan.concat (.failStart e)).concat .leave⟩

theorem shutdown_again (hs : h.state = .shutDown) :
    ∃ os, Path h .shutdown .waiting os (.ended (.life (.ok ()))) h.state := by
  rw [hs]
  exact ⟨_, ((nil.concat (.lock rfl)).concat (.remain hs)).concat .leave⟩

theorem shutdown_once (hs : h.state ≠ .shutDown) (result : Except Error Unit) :
    ∃ os, Path h .shutdown .waiting os (.ended (.life result)) .shutDown :=
  ⟨_, ((((nil.concat (.lock rfl)).concat (.close hs)).concat .beginShutdown).concat
    (.endShutdown result)).concat .leave⟩

theorem refused {a : Ask} {q : Request} {e : Error} (ha : a.request? = some q)
    (he : h.accept q = .error e) :
    ∃ os, Path h a .waiting os (.ended (a.reply (.error e))) h.state :=
  ⟨_, (nil.concat (.refuse ha he)).concat .leave⟩

theorem served {a : Ask} {q : Request} (ha : a.request? = some q) (he : h.accept q = .ok ())
    (result : Except Error (List StreamItem)) :
    ∃ os, Path h a .waiting os (.ended (a.reply result)) h.state :=
  ⟨_, (((nil.concat (.accept ha he)).concat (.beginTurn ha)).concat (.endTurn result)).concat
    .leave⟩

end Path

namespace Ask

theorem run_start (h : Handle σ) (w : σ) : ∃ os, Path h .start .waiting os
    (.ended (Ask.start.run h w).1.1) (Ask.start.run h w).1.2.state := by
  simp only [run, Handle.start]
  cases hr : h.startReply? with
  | some r => exact Path.start_answered hr
  | none =>
      obtain ⟨os, -, hp⟩ := Path.start_asking hr (h.provider.start w).1
      refine ⟨os, ?_⟩
      simp only [bind, StateT.bind]
      generalize h.provider.start w = answer at hp ⊢
      obtain ⟨_ | _, w'⟩ := answer <;> exact hp

theorem run_shutdown (h : Handle σ) (w : σ) : ∃ os, Path h .shutdown .waiting os
    (.ended (Ask.shutdown.run h w).1.1) (Ask.shutdown.run h w).1.2.state := by
  simp only [run, Handle.shutdown]
  cases hs : h.state with
  | shutDown => exact Path.shutdown_again hs
  | uninitialized | ready => exact Path.shutdown_once (by rw [hs]; exact nofun) _

theorem run_turn {a : Ask} {q : Request} (ha : a.request? = some q) (h : Handle σ)
    (result : Except Error (List StreamItem))
    (hresult : ∀ e, h.accept q = .error e → result = .error e) :
    ∃ os, Path h a .waiting os (.ended (a.reply result)) h.state := by
  cases he : h.accept q with
  | error e =>
      rw [hresult e he]
      exact Path.refused ha he
  | ok => exact Path.served ha he result

theorem turn_of_refused {h : Handle σ} {q : Request} {e : Error} (ids : IdSupply)
    (he : h.accept q = .error e) (w : σ) : (h.turn ids q w).1 = .error e := by
  rw [Handle.turn, he]
  rfl

theorem run_path (a : Ask) (h : Handle σ) (w : σ) :
    ∃ os, Path h a .waiting os (.ended (a.run h w).1.1) (a.run h w).1.2.state := by
  cases a with
  | start => exact run_start h w
  | shutdown => exact run_shutdown h w
  | complete ids q => exact run_turn rfl h _ fun e he => turn_of_refused ids.even he w
  | chat ids q => exact run_turn rfl h _ fun e he => turn_of_refused ids.even he w

theorem run_provider (a : Ask) (h : Handle σ) (w : σ) :
    (a.run h w).1.2.provider = h.provider := by
  cases a with
  | start =>
      simp only [run, Handle.start]
      cases h.startReply? with
      | some r => rfl
      | none =>
          simp only [bind, StateT.bind]
          generalize h.provider.start w = answer
          obtain ⟨_ | _, w'⟩ := answer <;> rfl
  | shutdown =>
      simp only [run, Handle.shutdown]
      cases h.state <;> rfl
  | complete | chat => rfl

end Ask

/-- A call without others does to a shared handle what it does to a handle of its own. -/
theorem run_alone {p : Provider σ} {s : Shared σ} {i : Nat} {a : Ask} (hg : Guarded p s)
    (hi : s.At i a .waiting) (hfree : s.holder = none) (w : σ) : ∃ t s', Run s t s' ∧
      s'.At i a (.ended (a.run s.handle w).1.1) ∧ s'.handle = (a.run s.handle w).1.2 ∧
      s'.holder = none := by
  obtain ⟨os, hp⟩ := a.run_path s.handle w
  obtain ⟨s', hrun, hh, hi', hfree', -⟩ := run_of_path hp hi (.inl hfree)
  refine ⟨_, s', hrun, hi', hh.trans ?_, holder_of_ended (hg.run hrun) hi' hfree'⟩
  rw [← a.run_provider s.handle w]

end ChatTurn.Shared
