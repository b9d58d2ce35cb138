import ChatTurn.Proofs.Provider.Registration

namespace ChatTurn

variable {σ α β γ δ : Type}

inductive Act
  | start
  | shutdown
  deriving DecidableEq

/-- What a provider was asked to do, and how that went. -/
structure Note where
  provider : String
  act : Act
  result : Except Error Unit
  deriving DecidableEq

namespace Note

def error? (n : Note) : Option Error :=
  match n.result with
  | .error e => some e
  | .ok () => none

def IsSuccess (name : String) (n : Note) : Prop :=
  n.provider = name ∧ n.act = .start ∧ n.result = .ok ()

def IsEnd (name : String) (n : Note) : Prop := n.provider = name ∧ n.act = .shutdown

instance (name : String) : DecidablePred (IsSuccess name) :=
  fun _ => inferInstanceAs (Decidable (_ ∧ _))

instance (name : String) : DecidablePred (IsEnd name) :=
  fun _ => inferInstanceAs (Decidable (_ ∧ _))

end Note

def Provider.noted (p : Provider σ) : Provider (σ × List Note) where
  name := p.name
  capabilities := p.capabilities
  start := fun (s, log) =>
    let (result, s) := p.start s
    (result, s, log ++ [⟨p.name, .start, result⟩])
  shutdown := fun (s, log) =>
    let (result, s) := p.shutdown s
    (result, s, log ++ [⟨p.name, .shutdown, result⟩])
  turn := fun ids q (s, log) =>
    let (items, s) := p.turn ids q s
    (items, s, log)

def Handle.noted (h : Handle σ) : Handle (σ × List Note) := ⟨h.provider.noted, h.state⟩

/-- From `s` on, `x` yields `a`, and so does `y`, which takes `notes` down on the way. -/
structure Tells (x : StateM σ α) (y : StateM (σ × List Note) β) (see : α → β) (s : σ) (a : α)
    (s' : σ) (notes : List Note) : Prop where
  plain : x s = (a, s')
  noted : ∀ log, y (s, log) = (see a, s', log ++ notes)

namespace Tells

variable {x : StateM σ α} {y : StateM (σ × List Note) β} {f : α → β} {s s' s'' : σ} {a : α}
  {b : γ} {g : γ → δ} {notes notes' : List Note}

theorem pure (f : α → β) (s : σ) (a : α) :
    Tells (Pure.pure a) (Pure.pure (f a)) f s a s [] :=
  ⟨rfl, fun log => by rw [List.append_nil]; rfl⟩

theorem bind {k : α → StateM σ γ} {l : β → StateM (σ × List Note) δ}
    (h : Tells x y f s a s' notes) (hk : Tells (k a) (l (f a)) g s' b s'' notes') :
    Tells (x >>= k) (y >>= l) g s b s'' (notes ++ notes') := by
  constructor
  · change k (x s).1 (x s).2 = _
    rw [h.plain]
    exact hk.plain
  · intro log
    change l (y (s, log)).1 (y (s, log)).2 = _
    rw [h.noted, hk.noted, List.append_assoc]

end Tells

namespace Handle

variable {h h' : Handle σ} {result : Except Error Unit} {notes : List Note}

def see (x : Except Error Unit × Handle σ) : Except Error Unit × Handle (σ × List Note) :=
  (x.1, x.2.noted)

inductive Starts (h : Handle σ) : Except Error Unit → Handle σ → List Note → Prop
  | already (hs : h.state = .ready) : Starts h (.ok ()) h []
  | refused (hs : h.state = .shutDown) : Starts h (.error h.notReady) h []
  | done (hs : h.state = .uninitialized) :
      Starts h (.ok ()) { h with state := .ready } [⟨h.name, .start, .ok ()⟩]
  | failed (hs : h.state = .uninitialized) (e : Error) :
      Starts h (.error e) h [⟨h.name, .start, .error e⟩]

inductive Stops (h : Handle σ) : Except Error Unit → Handle σ → List Note → Prop
  | already (hs : h.state = .shutDown) : Stops h (.ok ()) h []
  | called (hs : h.state ≠ .shutDown) (result : Except Error Unit) :
      Stops h result { h with state := .shutDown } [⟨h.name, .shutdown, result⟩]

def Calls (h : Handle σ) (result : Except Error Unit) (h' : Handle σ) (notes : List Note) : Prop :=
  h.Starts result h' notes ∨ h.Stops result h' notes

theorem starts (h : Handle σ) (s : σ) : ∃ result h' s' notes,
    Tells h.start h.noted.start see s (result, h') s' notes ∧ h.Starts result h' notes := by
  obtain ⟨p, state⟩ := h
  cases state with
  | ready => exact ⟨_, _, _, _, .pure see s _, .already rfl⟩
  | shutDown => exact ⟨_, _, _, _, .pure see s _, .refused rfl⟩
  | uninitialized =>
      have hp : Tells p.start p.noted.start id s (p.start s).1 (p.start s).2
          [⟨p.name, .start, (p.start s).1⟩] := ⟨rfl, fun _ => rfl⟩
      cases hr : (p.start s).1 with
      | ok =>
          rw [hr] at hp
          exact ⟨_, _, _, _, hp.bind (.pure see _ (.ok (), ⟨p, .ready⟩)), .done rfl⟩
      | error e =>
          rw [hr] at hp
          exact ⟨_, _, _, _, hp.bind (.pure see _ (.error e, ⟨p, .uninitialized⟩)), .failed rfl e⟩

theorem stops (h : Handle σ) (s : σ) : ∃ result h' s' notes,
    Tells h.shutdown h.noted.shutdown see s (result, h') s' notes ∧ h.Stops result h' notes := by
  obtain ⟨p, state⟩ := h
  have hp : Tells p.shutdown p.noted.shutdown id s (p.shutdown s).1 (p.shutdown s).2
      [⟨p.name, .shutdown, (p.shutdown s).1⟩] := ⟨rfl, fun _ => rfl⟩
  have hcall := hp.bind (k := fun result => pure (result, (⟨p, .shutDown⟩ : Handle σ)))
    (l := fun result => pure (result, (⟨p.noted, .shutDown⟩ : Handle (σ × List Note))))
    (.pure see _ ((p.shutdown s).1, ⟨p, .shutDown⟩))
  cases state with
  | shutDown => exact ⟨_, _, _, _, .pure see s _, .already rfl⟩
  | uninitialized => exact ⟨_, _, _, _, hcall, .called Lifecycle.noConfusion _⟩
  | ready => exact ⟨_, _, _, _, hcall, .called Lifecycle.noConfusion _⟩

theorem Calls.name (hc : h.Calls result h' notes) : h'.name = h.name := by
  rcases hc with hc | hc <;> cases hc <;> rfl

theorem Calls.provider (hc : h.Calls result h' notes) : ∀ n ∈ notes, n.provider = h.name := by
  rcases hc with hc | hc <;> cases hc <;> simp

end Handle

namespace Registry

variable {hs hs' : Ordered (Handle σ)} {result : Except Error Unit} {notes notes' : List Note}

def notedAll (hs : Ordered (Handle σ)) : Ordered (Handle (σ × List Note)) :=
  hs.map fun (name, h) => (name, h.noted)

def seeAll (x : Except Error Unit × Ordered (Handle σ)) :
    Except Error Unit × Ordered (Handle (σ × List Note)) := (x.1, notedAll x.2)

def allIn (state : Lifecycle) (hs : Ordered (Handle σ)) : Ordered (Handle σ) :=
  hs.map fun (name, h) => (name, { h with state })

def freshStarts (hs : Ordered (Handle σ)) : List Note :=
  (hs.filter (·.2.state = .uninitialized)).map fun (_, h) => ⟨h.name, .start, .ok ()⟩

/-- Why setting up goes no further than to `hs`. -/
inductive Halts : Ordered (Handle σ) → Except Error Unit → List Note → Prop
  | finished : Halts [] (.ok ()) []
  | refused {name : String} {h : Handle σ} (hs : h.state = .shutDown) (rest : Ordered (Handle σ)) :
      Halts ((name, h) :: rest) (.error h.notReady) []
  | failed {name : String} {h : Handle σ} (hs : h.state = .uninitialized) (e : Error)
      (rest : Ordered (Handle σ)) :
      Halts ((name, h) :: rest) (.error e) [⟨h.name, .start, .error e⟩]

/-- All are set up in their order, up to the first that fails or is shut down already. That one and
those after it stay as they are. -/
inductive Brought : Ordered (Handle σ) → Except Error Unit → Ordered (Handle σ) → List Note → Prop
  | upTo {before rest : Ordered (Handle σ)} {result : Except Error Unit} {notes : List Note}
      (hb : ∀ e ∈ before, e.2.state ≠ .shutDown) (hr : Halts rest result notes) :
      Brought (before ++ rest) result (allIn .ready before ++ rest) (freshStarts before ++ notes)

/-- All are shut down, those that were not by a call each, in their order. The first failure of such
a call is reported. -/
structure Closed (hs : Ordered (Handle σ)) (result : Except Error Unit) (hs' : Ordered (Handle σ))
    (notes : List Note) : Prop where
  handles : hs' = allIn .shutDown hs
  calls : notes.map (fun n => (n.provider, n.act)) =
    (hs.filter (·.2.state ≠ .shutDown)).map fun (_, h) => (h.name, .shutdown)
  result : result = match notes.findSome? Note.error? with
    | some e => .error e
    | none => .ok ()

inductive Moves : Ordered (Handle σ) → Ordered (Handle σ) → List Note → Prop
  | refl (hs : Ordered (Handle σ)) : Moves hs hs []
  | call (before : Ordered (Handle σ)) {after hs : Ordered (Handle σ)} {name : String} {h h' : Handle σ}
      {result : Except Error Unit} {notes notes' : List Note} (hc : h.Calls result h' notes)
      (hrest : Moves (before ++ (name, h') :: after) hs notes') :
      Moves (before ++ (name, h) :: after) hs (notes ++ notes')

theorem Moves.cons (h : Moves hs hs' notes) (x : String × Handle σ) :
    Moves (x :: hs) (x :: hs') notes := by
  induction h with
  | refl => exact .refl _
  | call before hc _ ih => exact .call (x :: before) hc ih

theorem Moves.keys (h : Moves hs hs' notes) : Ordered.keys hs' = Ordered.keys hs := by
  induction h with
  | refl => rfl
  | call _ hc _ ih => simpa [Ordered.keys] using ih

theorem Brought.cons {h h' : Handle σ} (hm : h.Starts (.ok ()) h' notes)
    (hb : Brought hs result hs' notes') (name : String) :
    Brought ((name, h) :: hs) result ((name, h') :: hs') (notes ++ notes') := by
  obtain ⟨hall, hr⟩ := hb
  obtain ⟨p, state⟩ := h
  cases hm with
  | already hs =>
      cases hs
      exact .upTo (List.forall_mem_cons.2 ⟨Lifecycle.noConfusion, hall⟩) hr
  | done hs =>
      cases hs
      exact .upTo (List.forall_mem_cons.2 ⟨Lifecycle.noConfusion, hall⟩) hr

theorem Brought.of_error {h h' : Handle σ} {e : Error} (hm : h.Starts (.error e) h' notes)
    (name : String) (hs : Ordered (Handle σ)) :
    Brought ((name, h) :: hs) (.error e) ((name, h') :: hs) notes := by
  cases hm with
  | refused hst => exact .upTo (List.forall_mem_nil _) (.refused hst hs)
  | failed hst => exact .upTo (List.forall_mem_nil _) (.failed hst e hs)

theorem startHandles_tells (hs : Ordered (Handle σ)) (s : σ) : ∃ result hs' s' notes,
    Tells (startHandles hs) (startHandles (notedAll hs)) seeAll s (result, hs') s' notes ∧
      Brought hs result hs' notes ∧ Moves hs hs' notes := by
  induction hs generalizing s with
  | nil => exact ⟨_, _, _, _, .pure seeAll s _, .upTo (List.forall_mem_nil _) .finished, .refl []⟩
  | cons x hs ih =>
      obtain ⟨name, h⟩ := x
      obtain ⟨result, h', s', notes, ht, hm⟩ := h.starts s
      cases result with
      | error e =>
          refine ⟨_, _, _, _, ht.bind (.pure seeAll s' (.error e, (name, h') :: hs)), ?_, ?_⟩
          · rw [List.append_nil]
            exact .of_error hm name hs
          · exact .call [] (.inl hm) (.refl _)
      | ok u =>
          obtain ⟨result, hs', s'', notes', hts, hb, hms⟩ := ih s'
          refine ⟨_, _, _, _, ht.bind (hts.bind (.pure seeAll s'' (result, (name, h') :: hs'))), ?_, ?_⟩
          · rw [List.append_nil]
            exact hb.cons hm name
          · rw [List.append_nil]
            exact .call [] (.inl hm) (hms.cons _)

theorem Closed.cons {h h' : Handle σ} {first : Except Error Unit} (hm : h.Stops first h' notes)
    (hc : Closed hs result hs' notes') (name : String) :
    Closed ((name, h) :: hs) (match first with | .error e => .error e | .ok () => result)
      ((name, h') :: hs') (notes ++ notes') := by
  obtain ⟨rfl, hcalls, rfl⟩ := hc
  cases hm with
  | already hst =>
      obtain ⟨p, state⟩ := h
      cases hst
      exact ⟨rfl, hcalls, rfl⟩
  | called hst =>
      refine ⟨rfl, ?_, ?_⟩
      · simp [hst, hcalls]
      · cases first <;> rfl

theorem shutdownHandles_tells (hs : Ordered (Handle σ)) (s : σ) : ∃ result hs' s' notes,
    Tells (shutdownHandles hs) (shutdownHandles (notedAll hs)) seeAll s (result, hs') s' notes ∧
      Closed hs result hs' notes ∧ Moves hs hs' notes := by
  induction hs generalizing s with
  | nil => exact ⟨_, _, _, _, .pure seeAll s _, ⟨rfl, rfl, rfl⟩, .refl []⟩
  | cons x hs ih =>
      obtain ⟨name, h⟩ := x
      obtain ⟨first, h', s', notes, ht, hm⟩ := h.stops s
      obtain ⟨later, hs', s'', notes', hts, hc, hms⟩ := ih s'
      have hmove : Moves ((name, h) :: hs) ((name, h') :: hs') (notes ++ (notes' ++ [])) := by
        rw [List.append_nil]
        exact .call [] (.inr hm) (hms.cons _)
      have hclosed := hc.cons hm name
      rw [← List.append_nil notes'] at hclosed
      cases first with
      | error e =>
          exact ⟨_, _, _, _, ht.bind (hts.bind (.pure seeAll s'' (.error e, (name, h') :: hs'))),
            hclosed, hmove⟩
      | ok u =>
          exact ⟨_, _, _, _, ht.bind (hts.bind (.pure seeAll s'' (later, (name, h') :: hs'))),
            hclosed, hmove⟩

inductive Command
  | startAll
  | shutdownAll
  | start (name : String)
  | shutdown (name : String)

def one (r : Registry σ) (name : String)
    (call : Handle σ → StateM σ (Except Error Unit × Handle σ)) :
    StateM σ (Except Error Unit × Registry σ) :=
  match Ordered.get? name r.handles with
  | none => pure (.ok (), r)
  | some h => do
    let (result, h) ← call h
    pure (result, r.update h)

def perform (r : Registry σ) : Command → StateM σ (Except Error Unit × Registry σ)
  | .startAll => r.start
  | .shutdownAll => r.shutdown
  | .start name => r.one name Handle.start
  | .shutdown name => r.one name Handle.shutdown

def performAll (r : Registry σ) : List Command → StateM σ (List (Except Error Unit) × Registry σ)
  | [] => pure ([], r)
  | c :: cs => do
    let (result, r) ← r.perform c
    let (results, r) ← r.performAll cs
    pure (result :: results, r)

def noted (r : Registry σ) : Registry (σ × List Note) := ⟨notedAll r.handles, r.owners⟩

def see {ρ : Type} (x : ρ × Registry σ) : ρ × Registry (σ × List Note) := (x.1, x.2.noted)

structure IsNamed (hs : Ordered (Handle σ)) : Prop where
  names : ∀ e ∈ hs, e.2.name = e.1
  nodup : (Ordered.keys hs).Nodup

/-- Success once at most, and none while the provider waits to be set up; one end at most, and none
before the provider is shut down. -/
structure Spent (state : Lifecycle) (name : String) (log : List Note) : Prop where
  started : log.countP (Note.IsSuccess name) ≤ if state = .uninitialized then 0 else 1
  ended : log.countP (Note.IsEnd name) ≤ if state = .shutDown then 1 else 0

variable {r : Registry σ} {log : List Note} {name : String} {state : Lifecycle}
  {h h' : Handle σ} {before after : Ordered (Handle σ)}

theorem Spent.nil (state : Lifecycle) (name : String) : Spent state name [] :=
  ⟨Nat.zero_le _, Nat.zero_le _⟩

theorem Spent.append_of_ne (hsp : Spent state name log) (hn : ∀ n ∈ notes, n.provider ≠ name) :
    Spent state name (log ++ notes) := by
  have hstart : notes.countP (Note.IsSuccess name) = 0 := by
    rw [List.countP_eq_zero]
    exact fun n hm hs => hn n hm (of_decide_eq_true hs).1
  have hend : notes.countP (Note.IsEnd name) = 0 := by
    rw [List.countP_eq_zero]
    exact fun n hm hs => hn n hm (of_decide_eq_true hs).1
  constructor
  · rw [List.countP_append, hstart]
    exact hsp.started
  · rw [List.countP_append, hend]
    exact hsp.ended

theorem Spent.calls (hsp : Spent h.state h.name log) (hc : h.Calls result h' notes) :
    Spent h'.state h.name (log ++ notes) := by
  rcases hc with hc | hc
  · cases hc with
    | already | refused =>
        rw [List.append_nil]
        exact hsp
    | done hst =>
        rw [hst] at hsp
        exact ⟨by simpa [Note.IsSuccess] using hsp.started, by simpa [Note.IsEnd] using hsp.ended⟩
    | failed hst e =>
        exact ⟨by simpa [Note.IsSuccess] using hsp.started, by simpa [Note.IsEnd] using hsp.ended⟩
  · cases hc with
    | already =>
        rw [List.append_nil]
        exact hsp
    | called hst =>
        have hle : log.countP (Note.IsSuccess h.name) ≤ 1 := hsp.started.trans (by split <;> simp)
        have hno := hsp.ended
        rw [if_neg hst] at hno
        exact ⟨by simpa [Note.IsSuccess] using hle, by simpa [Note.IsEnd] using hno⟩

structure Kept (hs : Ordered (Handle σ)) (log : List Note) : Prop extends IsNamed hs where
  spent : ∀ e ∈ hs, Spent e.2.state e.1 log

theorem Kept.nil (h : IsNamed hs) : Kept hs [] := ⟨h, fun e _ => .nil e.2.state e.1⟩

theorem Kept.call (hk : Kept (before ++ (name, h) :: after) log) (hc : h.Calls result h' notes) :
    Kept (before ++ (name, h') :: after) (log ++ notes) := by
  obtain ⟨⟨hnames, hnodup⟩, hsp⟩ := hk
  have hn : h.name = name := hnames (name, h) (List.mem_append_right _ List.mem_cons_self)
  have hkeys : Ordered.keys (before ++ (name, h') :: after) =
      Ordered.keys (before ++ (name, h) :: after) := by simp [Ordered.keys]
  have hmem : ∀ e ∈ before ++ (name, h') :: after,
      e = (name, h') ∨ e ∈ before ++ (name, h) :: after ∧ e.1 ≠ name := by
    intro e he
    have hother : e ∈ before ++ after → e.1 ≠ name := by
      intro hm hne
      have hperm := (List.perm_middle.map Prod.fst).nodup_iff.1 hnodup
      have hkey : e.1 ∈ (before ++ after).map Prod.fst := List.mem_map_of_mem hm
      exact (List.nodup_cons.1 hperm).1 (hne ▸ hkey)
    rcases List.mem_append.1 he with hb | ha
    · exact .inr ⟨List.mem_append_left _ hb, hother (List.mem_append_left _ hb)⟩
    · rcases List.mem_cons.1 ha with rfl | ha
      · exact .inl rfl
      · exact .inr ⟨List.mem_append_right _ (List.mem_cons_of_mem _ ha),
          hother (List.mem_append_right _ ha)⟩
  refine ⟨⟨fun e he => ?_, hkeys ▸ hnodup⟩, fun e he => ?_⟩
  · rcases hmem e he with rfl | ⟨he, -⟩
    · exact hc.name.trans hn
    · exact hnames e he
  · rcases hmem e he with rfl | ⟨he, hne⟩
    · have hs := hsp (name, h) (List.mem_append_right _ List.mem_cons_self)
      rw [← hn] at hs ⊢
      exact hs.calls hc
    · exact (hsp e he).append_of_ne fun n hm => by rw [hc.provider n hm, hn]; exact hne.symm

theorem Kept.moves (hk : Kept hs log) (hm : Moves hs hs' notes) : Kept hs' (log ++ notes) := by
  induction hm generalizing log with
  | refl =>
      rw [List.append_nil]
      exact hk
  | call _ hc _ ih =>
      rw [← List.append_assoc]
      exact ih (hk.call hc)

theorem start_tells (r : Registry σ) (s : σ) : ∃ result hs s' notes,
    Tells r.start r.noted.start see s (result, { r with handles := hs }) s' notes ∧
      Brought r.handles result hs notes ∧ Moves r.handles hs notes := by
  obtain ⟨result, hs, s', notes, ht, hb, hm⟩ := startHandles_tells r.handles s
  have h : Tells r.start r.noted.start see s (result, { r with handles := hs }) s' (notes ++ []) :=
    ht.bind (.pure see s' (result, { r with handles := hs }))
  rw [List.append_nil] at h
  exact ⟨result, hs, s', notes, h, hb, hm⟩

theorem shutdown_tells (r : Registry σ) (s : σ) : ∃ result hs s' notes,
    Tells r.shutdown r.noted.shutdown see s (result, { r with handles := hs }) s' notes ∧
      Closed r.handles result hs notes ∧ Moves r.handles hs notes := by
  obtain ⟨result, hs, s', notes, ht, hc, hm⟩ := shutdownHandles_tells r.handles s
  have h : Tells r.shutdown r.noted.shutdown see s (result, { r with handles := hs }) s'
      (notes ++ []) := ht.bind (.pure see s' (result, { r with handles := hs }))
  rw [List.append_nil] at h
  exact ⟨result, hs, s', notes, h, hc, hm⟩

theorem one_tells (call : {τ : Type} → Handle τ → StateM τ (Except Error Unit × Handle τ))
    (hcall : ∀ (h : Handle σ) (s : σ), ∃ result h' s' notes,
      Tells (call h) (call h.noted) Handle.see s (result, h') s' notes ∧ h.Calls result h' notes)
    (hr : IsNamed r.handles) (name : String) (s : σ) : ∃ result hs s' notes,
    Tells (r.one name call) (r.noted.one name call) see s (result, { r with handles := hs }) s'
      notes ∧ Moves r.handles hs notes := by
  have hget : Ordered.get? name r.noted.handles = (Ordered.get? name r.handles).map Handle.noted :=
    Ordered.get?_map Handle.noted name r.handles
  cases hg : Ordered.get? name r.handles with
  | none =>
      rw [hg] at hget
      refine ⟨.ok (), r.handles, s, [], ?_, .refl _⟩
      rw [one, hg, one, hget]
      exact .pure see s (Except.ok (), r)
  | some h =>
      rw [hg] at hget
      obtain ⟨result, h', s', notes, ht, hc⟩ := hcall h s
      obtain ⟨before, after, he, hput⟩ := Ordered.exists_of_get? hg
      have hn : h'.name = name := hc.name.trans (hr.names (name, h) (he ▸ by simp))
      have hupdate : r.noted.update h'.noted = (r.update h').noted :=
        congrArg (Registry.mk · r.owners) (Ordered.put_map Handle.noted _ h' r.handles)
      have hone : Tells (r.one name call) (r.noted.one name call) see s (result, r.update h') s'
          (notes ++ []) := by
        rw [one, hg, one, hget]
        refine ht.bind ?_
        change Tells (pure _) (pure (result, r.noted.update h'.noted)) _ _ _ _ _
        rw [hupdate]
        exact .pure see s' (result, r.update h')
      refine ⟨result, before ++ (name, h') :: after, s', notes ++ [], ?_, ?_⟩
      · rwa [update, hn, hput] at hone
      · rw [he]
        exact .call before hc (.refl _)

/-- Every command is made of calls to handles. -/
theorem perform_tells (hr : IsNamed r.handles) (c : Command) (s : σ) : ∃ result hs s' notes,
    Tells (r.perform c) (r.noted.perform c) see s (result, { r with handles := hs }) s' notes ∧
      Moves r.handles hs notes := by
  cases c with
  | startAll =>
      obtain ⟨result, hs, s', notes, ht, -, hm⟩ := start_tells r s
      exact ⟨result, hs, s', notes, ht, hm⟩
  | shutdownAll =>
      obtain ⟨result, hs, s', notes, ht, -, hm⟩ := shutdown_tells r s
      exact ⟨result, hs, s', notes, ht, hm⟩
  | start name =>
      refine one_tells Handle.start (fun h s => ?_) hr name s
      obtain ⟨result, h', s', notes, ht, hm⟩ := h.starts s
      exact ⟨result, h', s', notes, ht, .inl hm⟩
  | shutdown name =>
      refine one_tells Handle.shutdown (fun h s => ?_) hr name s
      obtain ⟨result, h', s', notes, ht, hm⟩ := h.stops s
      exact ⟨result, h', s', notes, ht, .inr hm⟩

theorem performAll_tells (cs : List Command) (hk : Kept r.handles log) (s : σ) :
    ∃ results hs s' notes,
      Tells (r.performAll cs) (r.noted.performAll cs) see s (results, { r with handles := hs }) s'
        notes ∧ Kept hs (log ++ notes) ∧ Ordered.keys hs = Ordered.keys r.handles := by
  induction cs generalizing r log s with
  | nil =>
      refine ⟨[], r.handles, s, [], .pure see s ([], r), ?_, rfl⟩
      rw [List.append_nil]
      exact hk
  | cons c cs ih =>
      obtain ⟨result, hs, s', notes, ht, hm⟩ := perform_tells hk.toIsNamed c s
      obtain ⟨results, hs', s'', notes', hts, hk', hkeys⟩ :=
        ih (r := { r with handles := hs }) (hk.moves hm) s'
      refine ⟨result :: results, hs', s'', notes ++ (notes' ++ []), ht.bind (hts.bind (.pure see s''
        (result :: results, { r with handles := hs' }))), ?_, hkeys.trans hm.keys⟩
      rw [List.append_nil, ← List.append_assoc]
      exact hk'

/-- What holds of a registry and of all that has reached its providers, and what the next command to
all of them does. -/
structure Governed (r : Registry σ) (log : List Note) (s : σ) : Prop where
  once : ∀ e ∈ r.handles,
    log.countP (Note.IsSuccess e.1) ≤ 1 ∧ log.countP (Note.IsEnd e.1) ≤ 1
  startAll : ∃ result hs s' notes,
    Tells (r.perform .startAll) (r.noted.perform .startAll) see s (result, { r with handles := hs })
      s' notes ∧ Brought r.handles result hs notes
  shutdownAll : ∃ result hs s' notes,
    Tells (r.perform .shutdownAll) (r.noted.perform .shutdownAll) see s
      (result, { r with handles := hs }) s' notes ∧ Closed r.handles result hs notes

theorem Kept.governed (hk : Kept r.handles log) (s : σ) : r.Governed log s := by
  refine ⟨fun e he => ?_, ?_, ?_⟩
  · obtain ⟨hs, hc⟩ := hk.spent e he
    exact ⟨hs.trans (by split <;> simp), hc.trans (by split <;> simp)⟩
  · obtain ⟨result, hs, s', notes, ht, hb, -⟩ := start_tells r s
    exact ⟨result, hs, s', notes, ht, hb⟩
  · obtain ⟨result, hs, s', notes, ht, hc, -⟩ := shutdown_tells r s
    exact ⟨result, hs, s', notes, ht, hc⟩

/-- After any commands, whichever of them failed, each provider was set up with success at most once
and shut down at most once. The next command to set up all goes through them in order up to the first
fault, and asks only those that are not ready; the next one to shut down all leaves none out. -/
theorem governed_after_commands (hr : IsNamed r.handles) (cs : List Command) (s : σ) :
    ∃ results hs s' log,
      Tells (r.performAll cs) (r.noted.performAll cs) see s (results, { r with handles := hs }) s'
        log ∧ Ordered.keys hs = Ordered.keys r.handles ∧ { r with handles := hs }.Governed log s' := by
  obtain ⟨results, hs, s', log, ht, hk, hkeys⟩ := performAll_tells cs (.nil hr) s
  rw [List.nil_append] at hk
  exact ⟨results, hs, s', log, ht, hkeys, hk.governed s'⟩

theorem isNamed_after (xs : List (Registration σ)) : IsNamed (Registry.after xs).handles := by
  have h := consistent_after xs
  refine ⟨fun e he => ?_, h.names⟩
  rw [h.handles] at he
  obtain ⟨y, -, rfl⟩ := List.mem_map.1 he
  rfl

/-- A provider that cannot be set up at first, and cannot be shut down. -/
def flaky : Provider Nat :=
  { name := "flaky", capabilities := ⟨true, false, none⟩
    start := fun n => (if n = 0 then .error (.internal "busy") else .ok (), n + 1)
    shutdown := pure (.error (.internal "stuck"))
    turn := fun _ _ => pure (.ok []) }

def idle (name : String) : Provider Nat :=
  { name, capabilities := ⟨true, false, none⟩, turn := fun _ _ => pure (.ok []) }

def trio : Registry Nat :=
  Registry.after [⟨idle "a", ["k"]⟩, ⟨flaky, ["l"]⟩, ⟨idle "b", ["m"]⟩]

theorem governed_after_commands_trio : IsNamed trio.handles ∧ ∃ results hs s' log,
    Tells (trio.performAll [.startAll, .startAll, .shutdown "a", .startAll, .shutdownAll])
      (trio.noted.performAll [.startAll, .startAll, .shutdown "a", .startAll, .shutdownAll]) see 0
      (results, { trio with handles := hs }) s' log ∧
    Ordered.keys hs = Ordered.keys trio.handles ∧
    { trio with handles := hs }.Governed log s' :=
  ⟨isNamed_after _, governed_after_commands (isNamed_after _) _ 0⟩

/-- The second command does not come back to the provider that is ready. -/
example : ((trio.noted.performAll [.startAll, .startAll, .shutdownAll]).run (0, [])).2.2.map
    (fun n => (n.provider, n.act)) =
      [("a", .start), ("flaky", .start), ("flaky", .start), ("b", .start),
        ("a", .shutdown), ("flaky", .shutdown), ("b", .shutdown)] := by decide

end Registry

end ChatTurn
