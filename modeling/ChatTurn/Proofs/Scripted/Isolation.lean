import Mathlib.Data.List.Range
import ChatTurn.Proofs.History
import ChatTurn.Proofs.Scripted.Life

namespace ChatTurn.Pool

variable {α : Type} {p q q' : Pool α} {g g' : Generation α} {n i k : Nat} {o : Occurrence α}
  {t : Trace α}

theorem modify_of_getElem? {l : List α} {a : α} {f : α → α} (h : l[i]? = some a) :
    l.modify i f = l.set i (f a) := by
  rw [List.modify_eq_set_getElem?, h]
  rfl

theorem set_of_getElem? {l : List α} {a : α} (h : l[i]? = some a) : l.set i a = l := by
  obtain ⟨hlt, rfl⟩ := List.getElem?_eq_some_iff.1 h
  exact List.set_getElem_self hlt

theorem change_receive (hi : p.generations[i]? = some g) (hd : g.isDropped = false) :
    ∃ g', Change p i (.read i (p.receive i).1) g g' p.available ∧
      (p.receive i).2 = { p with generations := p.generations.set i g' } := by
  cases hb : g.buffer with
  | cons a rest =>
      have hr : p.receive i = (.item a, p.update i fun g => { g with buffer := rest }) := by
        simp only [receive, hi, hb]
      rw [hr]
      exact ⟨_, .item hd hb, by rw [update, modify_of_getElem? hi]⟩
  | nil =>
      by_cases hst : g.stage = .ended
      · have hr : p.receive i = (.over, p) := by simp only [receive, hi, hb, if_pos hst]
        rw [hr]
        exact ⟨g, .ended hd hb hst, by rw [set_of_getElem? hi]⟩
      · have hr : p.receive i = (.pending, p) := by simp only [receive, hi, hb, if_neg hst]
        rw [hr]
        exact ⟨g, .wait, by rw [set_of_getElem? hi]⟩

/-- A step begins a generation, closes the pool, or changes one generation only. -/
theorem Step.change (h : Step p o q) :
    (∃ items, o = .entered items ∧ q = (p.enter items).1) ∨ (o = .closed ∧ q = p.close) ∨
      ∃ i g g' n, p.generations[i]? = some g ∧ Change p i o g g' n ∧
        q = { p with available := n, generations := p.generations.set i g' } := by
  cases h with
  | enter items => exact .inl ⟨items, rfl, rfl⟩
  | close => exact .inr (.inl ⟨rfl, rfl⟩)
  | @move i m q h =>
      simp only [move?, Option.bind_eq_bind, Option.bind_eq_some_iff, Prod.exists] at h
      obtain ⟨g, hi, g', n, hm, hq⟩ := h
      cases hq
      exact .inr (.inr ⟨i, g, g', n, hi, .move (moves_of_moved? hm), rfl⟩)
  | @read i g hi hd =>
      obtain ⟨g', hc, hq⟩ := change_receive hi hd
      exact .inr (.inr ⟨i, g, g', _, hi, hc, hq⟩)
  | @drop i g hi hd =>
      refine .inr (.inr ⟨i, g, _, _, hi, .drop, ?_⟩)
      rw [Pool.drop, update, modify_of_getElem? hi]

namespace Change

theorem entered? (h : Change p i o g g' n) : o.entered? = none := by cases h <;> rfl

theorem ne_closed (h : Change p i o g g' n) : o ≠ .closed := by cases h <;> exact nofun

theorem move?_other (h : Change p i o g g' n) (hk : k ≠ i) : o.move? k = none := by
  cases h with
  | move => exact if_neg hk.symm
  | item | wait | ended | drop => rfl

theorem item?_other (h : Change p i o g g' n) (hk : k ≠ i) : o.item? k = none := by
  cases h with
  | item => exact if_neg hk.symm
  | move | wait | ended | drop => rfl

theorem eq_dropped (h : Change p i o g g' n) (hd : g.isDropped = false)
    (hd' : g'.isDropped = true) : o = .dropped i := by
  cases h with
  | move h =>
      have he : g'.isDropped = g.isDropped := by cases h <;> rfl
      rw [he, hd] at hd'
      cases hd'
  | drop => rfl
  | item | wait | ended =>
      cases hd.symm.trans hd'

end Change

namespace Trace

theorem entered_concat : entered (t ++ [o]) = t.entered ++ o.entered?.toList := filterMap_concat

theorem moves_concat : moves (t ++ [o]) i = t.moves i ++ (o.move? i).toList := filterMap_concat

theorem received_concat : received (t ++ [o]) i = t.received i ++ (o.item? i).toList :=
  filterMap_concat

theorem concat_of_none (hm : o.move? i = none) (hr : o.item? i = none) :
    moves (t ++ [o]) i = t.moves i ∧ received (t ++ [o]) i = t.received i := by
  rw [moves_concat, received_concat, hm, hr]
  exact ⟨List.append_nil _, List.append_nil _⟩

end Trace

/-- What the trace of a run from an empty pool tells of the pool that it leads to. -/
structure Kept (limit : Nat) (refusal : α) (t : Trace α) (q : Pool α) : Prop where
  limit_eq : q.limit = limit
  refusal_eq : q.refusal = refusal
  closed_iff : q.isClosed = true ↔ .closed ∈ t
  length_eq : q.generations.length = t.entered.length
  lives : ∀ {i g items}, q.generations[i]? = some g → t.entered[i]? = some items →
    Life refusal items (t.moves i) (t.received i) g
  left : ∀ {i g}, q.generations[i]? = some g → g.isDropped = true → .dropped i ∈ t
  unborn : ∀ {i}, q.generations[i]? = none → t.moves i = [] ∧ t.received i = []
  permits : q.available + q.generations.countP Generation.isRunning = limit

theorem countP_set_add {l : List α} {a b : α} {f : α → Bool} (h : l[i]? = some a) :
    (l.set i b).countP f + (f a).toNat = l.countP f + (f b).toNat := by
  obtain ⟨hlt, rfl⟩ := List.getElem?_eq_some_iff.1 h
  rw [List.countP_set hlt]
  cases ha : f l[i] with
  | false => cases f b <;> rfl
  | true =>
      have hpos : 0 < l.countP f := List.countP_pos_iff.2 ⟨_, List.getElem_mem hlt, ha⟩
      cases f b <;> simp <;> omega

namespace Kept

variable {limit : Nat} {refusal : α}

theorem new (limit : Nat) (refusal : α) : Kept limit refusal [] { limit, refusal } :=
  ⟨rfl, rfl, by simp, rfl, nofun, nofun, fun _ => ⟨rfl, rfl⟩, rfl⟩

theorem enter (h : Kept limit refusal t q) (items : List α) :
    Kept limit refusal (t ++ [.entered items]) (q.enter items).1 := by
  have he : Trace.entered (t ++ [.entered items]) = t.entered ++ [items] := Trace.entered_concat
  have hsame : ∀ i, Trace.moves (t ++ [.entered items]) i = t.moves i ∧
      Trace.received (t ++ [.entered items]) i = t.received i := fun i =>
    Trace.concat_of_none rfl rfl
  refine ⟨h.limit_eq, h.refusal_eq, ?_, ?_, fun {i g its} hi hits => ?_, fun hi hd => ?_,
    fun {i} hi => ?_, ?_⟩
  · rw [List.mem_append, List.mem_singleton]
    exact h.closed_iff.trans ⟨.inl, fun hm => hm.resolve_right nofun⟩
  · rw [he, List.length_append, ← h.length_eq]
    exact List.length_append
  · rw [(hsame i).1, (hsame i).2]
    rw [he, getElem?_concat_eq_some] at hits
    rcases getElem?_concat_eq_some.1 hi with hold | ⟨rfl, rfl⟩
    · have hlt := (List.getElem?_eq_some_iff.1 hold).1
      exact h.lives hold (hits.resolve_right fun hn => by rw [hn.1, h.length_eq] at hlt; omega)
    · obtain ⟨hms, hgot⟩ := h.unborn (List.getElem?_eq_none (Nat.le_refl _))
      rcases hits with hold | ⟨-, rfl⟩
      · have hlt := (List.getElem?_eq_some_iff.1 hold).1
        exact absurd h.length_eq (Nat.ne_of_gt hlt ·.symm)
      · rw [hms, hgot]
        exact life_new refusal items
  · rcases getElem?_concat_eq_some.1 hi with hold | ⟨-, rfl⟩
    · exact List.mem_append_left _ (h.left hold hd)
    · cases hd
  · rw [(hsame i).1, (hsame i).2]
    refine h.unborn (List.getElem?_eq_none (Nat.le_of_succ_le ?_))
    simpa [Pool.enter] using List.getElem?_eq_none_iff.1 hi
  · rw [← h.permits]
    simp [Pool.enter, Generation.isRunning]

theorem close (h : Kept limit refusal t q) : Kept limit refusal (t ++ [.closed]) q.close := by
  have he : Trace.entered (t ++ [.closed]) = t.entered := by
    rw [Trace.entered_concat]
    exact List.append_nil _
  have hsame : ∀ i, Trace.moves (t ++ [.closed]) i = t.moves i ∧
      Trace.received (t ++ [.closed]) i = t.received i := fun i => Trace.concat_of_none rfl rfl
  refine ⟨h.limit_eq, h.refusal_eq, by simp [Pool.close], ?_, fun {i} _ _ hi hits => ?_,
    fun hi hd => List.mem_append_left _ (h.left hi hd), fun {i} hi => ?_, h.permits⟩
  · rw [he]
    exact h.length_eq
  · rw [(hsame i).1, (hsame i).2]
    rw [he] at hits
    exact h.lives hi hits
  · rw [(hsame i).1, (hsame i).2]
    exact h.unborn hi

theorem change (h : Kept limit refusal t q) (hi : q.generations[i]? = some g)
    (hc : Change q i o g g' n) : Kept limit refusal (t ++ [o])
      { q with available := n, generations := q.generations.set i g' } := by
  have he : Trace.entered (t ++ [o]) = t.entered := by
    rw [Trace.entered_concat, hc.entered?]
    exact List.append_nil _
  have hother : ∀ {k}, k ≠ i → Trace.moves (t ++ [o]) k = t.moves k ∧
      Trace.received (t ++ [o]) k = t.received k := fun hk =>
    Trace.concat_of_none (hc.move?_other hk) (hc.item?_other hk)
  refine ⟨h.limit_eq, h.refusal_eq, ?_, ?_, fun {k g₁ items} hk hits => ?_, fun {k g₁} hk hd => ?_,
    fun {k} hk => ?_, ?_⟩
  · rw [List.mem_append, List.mem_singleton, h.closed_iff]
    exact ⟨.inl, fun hm => hm.resolve_right hc.ne_closed.symm⟩
  · rw [he, ← h.length_eq]
    exact List.length_set
  · rw [he] at hits
    rcases (getElem?_set_eq_some hi).1 hk with ⟨rfl, rfl⟩ | ⟨hki, hk⟩
    · rw [Trace.moves_concat, Trace.received_concat]
      have hl := h.lives hi hits
      rw [← h.refusal_eq] at hl ⊢
      exact hl.change hc
    · rw [(hother hki).1, (hother hki).2]
      exact h.lives hk hits
  · rcases (getElem?_set_eq_some hi).1 hk with ⟨rfl, rfl⟩ | ⟨-, hk⟩
    · by_cases hg : g.isDropped = true
      · exact List.mem_append_left _ (h.left hi hg)
      · rw [hc.eq_dropped (Bool.eq_false_iff.2 hg) hd]
        exact List.mem_append_right _ List.mem_cons_self
    · exact List.mem_append_left _ (h.left hk hd)
  · have hn : q.generations[k]? = none := by simpa using hk
    have hki : k ≠ i := fun he => by
      rw [he, hi] at hn
      cases hn
    rw [(hother hki).1, (hother hki).2]
    exact h.unborn hn
  · have hp := hc.permits
    have hs := countP_set_add (b := g') (f := Generation.isRunning) hi
    have hk := h.permits
    dsimp only
    omega

theorem step (h : Kept limit refusal t q) (hs : Step q o q') :
    Kept limit refusal (t ++ [o]) q' := by
  rcases hs.change with ⟨items, rfl, rfl⟩ | ⟨rfl, rfl⟩ | ⟨i, g, g', n, hi, hc, rfl⟩
  · exact h.enter items
  · exact h.close
  · exact h.change hi hc

end Kept

theorem kept_of_run {limit : Nat} {refusal : α} (h : Run { limit, refusal } t q) :
    Kept limit refusal t q := by
  induction h with
  | nil => exact .new limit refusal
  | concat _ hs ih => exact ih.step hs

theorem Run.split {before after : Trace α} (h : Run p t q) (ht : t = before ++ o :: after) :
    ∃ q₁ q₂, Run p before q₁ ∧ Step q₁ o q₂ := by
  induction h generalizing after with
  | nil => cases before <;> cases ht
  | @concat t o' q q' h hs ih =>
      rcases cut_concat ht with ⟨-, rfl, rfl⟩ | ⟨rest, -, ht⟩
      · exact ⟨q, q', h, hs⟩
      · exact ih ht

theorem countP_eq_countP_range {β : Type} {l : List β} {f : β → Bool} {h : Nat → Bool}
    (hf : ∀ i b, l[i]? = some b → f b = h i) :
    l.countP f = (List.range l.length).countP h := by
  induction l generalizing h with
  | nil => rfl
  | cons b l ih =>
      rw [List.length_cons, List.range_succ_eq_map, List.countP_cons, List.countP_cons,
        List.countP_map, hf 0 b rfl, ih (h := h ∘ Nat.succ) fun i c hc => hf (i + 1) c hc]

theorem Step.moves {m : Move} (h : Step p (.moved i m) q) :
    ∃ g g' n, p.generations[i]? = some g ∧ Moves p g m g' n := by
  rcases h.change with ⟨items, he, -⟩ | ⟨he, -⟩ | ⟨j, g, g', n, hj, hc, -⟩
  · cases he
  · cases he
  · cases hc with
    | move hm => exact ⟨g, g', n, hj, hm⟩

theorem Step.ended (h : Step p (.read i .over) q) : ∃ g, p.generations[i]? = some g ∧
    g.isDropped = false ∧ g.buffer = [] ∧ g.stage = .ended := by
  rcases h.change with ⟨items, he, -⟩ | ⟨he, -⟩ | ⟨j, g, g', n, hj, hc, -⟩
  · cases he
  · cases he
  · cases hc with
    | ended hd hb hst => exact ⟨g, hj, hd, hb, hst⟩

theorem Trace.mem_moves_iff {m : Move} : m ∈ t.moves i ↔ .moved i m ∈ t := by
  rw [moves, List.mem_filterMap]
  constructor
  · rintro ⟨o, ho, he⟩
    cases o with
    | moved j m' =>
        obtain ⟨rfl, hm⟩ := Option.ite_none_right_eq_some.1 he
        obtain rfl := Option.some.inj hm
        exact ho
    | entered | read | dropped | closed => cases he
  · exact fun h => ⟨_, h, if_pos rfl⟩

/-- What can be told of a pool from the trace that led to it. -/
structure Isolated (limit : Nat) (refusal : α) (t : Trace α) (q : Pool α) : Prop where
  bounded : t.holders.length ≤ limit
  active : q.active = t.holders.length
  covered : q.available ≤ q.limit
  permits : q.available + q.generations.countP Generation.isRunning = limit
  running_iff : ∀ (i : Nat) (g : Generation α), q.generations[i]? = some g →
    (g.isRunning = true ↔ i ∈ t.holders)
  released : ∀ (i : Nat) (g : Generation α), q.generations[i]? = some g →
    .finish ∈ t.moves i ∨ .cancel ∈ t.moves i → g.isRunning = false
  abandoned : ∀ i : Nat, .cancel ∈ t.moves i → .dropped i ∈ t
  fits : ∀ (i : Nat) (g : Generation α), q.generations[i]? = some g →
    g.buffer.length ≤ capacity
  received : ∀ (i : Nat) items, t.entered[i]? = some items → .acquire ∈ t.moves i →
    t.received i <+: items
  refused : ∀ i : Nat, .acquire ∉ t.moves i →
    t.received i = [] ∨ (.closed ∈ t ∧ t.received i = [refusal])
  conserved : ∀ (i : Nat) (g : Generation α) items, q.generations[i]? = some g →
    t.entered[i]? = some items → .acquire ∈ t.moves i → g.isDropped = false →
    t.received i ++ (g.buffer ++ g.unsent) = items
  opened : ∀ (i : Nat) before after, t = before ++ .moved i .acquire :: after → .closed ∉ before
  ended : ∀ (i : Nat) items, t.entered[i]? = some items → .read i .over ∈ t →
    (.acquire ∈ t.moves i ∧ t.received i = items) ∨
      (.acquire ∉ t.moves i ∧ .closed ∈ t ∧ t.received i = [refusal])

namespace Kept

variable {limit : Nat} {refusal : α} {items : List α}

theorem entered_of_getElem? (h : Kept limit refusal t q) (hi : q.generations[i]? = some g) :
    ∃ items, t.entered[i]? = some items := by
  have hlt := (List.getElem?_eq_some_iff.1 hi).1
  rw [h.length_eq] at hlt
  exact ⟨_, List.getElem?_eq_getElem hlt⟩

theorem life_of_getElem? (h : Kept limit refusal t q) (hi : t.entered[i]? = some items) :
    ∃ g, q.generations[i]? = some g ∧ Life refusal items (t.moves i) (t.received i) g := by
  have hlt := (List.getElem?_eq_some_iff.1 hi).1
  rw [← h.length_eq] at hlt
  exact ⟨_, List.getElem?_eq_getElem hlt, h.lives (List.getElem?_eq_getElem hlt) hi⟩

theorem unborn_or_life (h : Kept limit refusal t q) (i : Nat) :
    (t.moves i = [] ∧ t.received i = []) ∨
      ∃ g items, q.generations[i]? = some g ∧ Life refusal items (t.moves i) (t.received i) g := by
  cases hg : q.generations[i]? with
  | none => exact .inl (h.unborn hg)
  | some g =>
      obtain ⟨items, hits⟩ := h.entered_of_getElem? hg
      exact .inr ⟨g, items, rfl, h.lives hg hits⟩

theorem isRunning_eq (h : Kept limit refusal t q) (hi : q.generations[i]? = some g) :
    g.isRunning = t.holds i := by
  obtain ⟨items, hits⟩ := h.entered_of_getElem? hi
  rw [Bool.eq_iff_iff, Generation.isRunning, decide_eq_true_iff, (h.lives hi hits).course.running_iff]
  simp [Trace.holds, and_assoc]

theorem holders_length (h : Kept limit refusal t q) :
    q.generations.countP Generation.isRunning = t.holders.length := by
  rw [Trace.holders, ← List.countP_eq_length_filter, ← h.length_eq]
  exact countP_eq_countP_range fun i g hi => h.isRunning_eq hi

end Kept

section

variable {limit : Nat} {refusal : α} {items : List α}

theorem closed_of_refused (h : Run { limit, refusal } t q) (hr : .refuse ∈ t.moves i) :
    .closed ∈ t := by
  obtain ⟨before, after, rfl⟩ := List.append_of_mem (Trace.mem_moves_iff.1 hr)
  obtain ⟨q₁, q₂, hrun, hs⟩ := h.split rfl
  obtain ⟨g, g', n, hi, hm⟩ := hs.moves
  cases hm with
  | refuse hc => exact List.mem_append_left _ ((kept_of_run hrun).closed_iff.1 hc)

theorem not_closed_of_acquired {before after : Trace α} (h : Run { limit, refusal } t q)
    (ht : t = before ++ .moved i .acquire :: after) : .closed ∉ before := by
  intro hc
  obtain ⟨q₁, q₂, hbefore, hs⟩ := h.split ht
  obtain ⟨g, g', n, -, hm⟩ := hs.moves
  cases hm with
  | acquire hopen =>
      rw [(kept_of_run hbefore).closed_iff.2 hc] at hopen
      cases hopen

theorem over_of_run (h : Run { limit, refusal } t q) (hi : t.entered[i]? = some items)
    (ho : .read i .over ∈ t) :
    (.acquire ∈ t.moves i ∧ t.received i = items) ∨
      (.acquire ∉ t.moves i ∧ .closed ∈ t ∧ t.received i = [refusal]) := by
  obtain ⟨g, -, hl⟩ := (kept_of_run h).life_of_getElem? hi
  obtain ⟨before, after, ht⟩ := List.append_of_mem ho
  obtain ⟨q₁, q₂, hrun, hs⟩ := h.split ht
  obtain ⟨g₁, hg₁, hd, hb, hst⟩ := hs.ended
  obtain ⟨items₁, hi₁⟩ := (kept_of_run hrun).entered_of_getElem? hg₁
  -- The generation was the same when its reader came to the end.
  have hbefore : before <+: t := ⟨_, ht.symm⟩
  have hmoves : Trace.moves before i <+: t.moves i := hbefore.filterMap _
  have hgot : Trace.received before i <+: t.received i := hbefore.filterMap _
  have hsame : items₁ = items := by
    obtain ⟨rest, hentered⟩ : Trace.entered before <+: t.entered := hbefore.filterMap _
    rw [← hentered, List.getElem?_append_left (List.getElem?_eq_some_iff.1 hi₁).1, hi₁] at hi
    exact Option.some.inj hi
  subst hsame
  rcases ((kept_of_run hrun).lives hg₁ hi₁).all_of_over hd hb hst with ⟨ha, he⟩ | ⟨hm, he⟩
  · have ha := hmoves.subset ha
    rw [he] at hgot
    have hle := (hl.flows_of_acquired ha).first.length_le
    exact .inl ⟨ha, (hgot.eq_of_length (Nat.le_antisymm hgot.length_le hle)).symm⟩
  · have hr : .refuse ∈ t.moves i := hmoves.subset (by rw [hm]; exact List.mem_cons_self)
    have ha : .acquire ∉ t.moves i := by
      rw [hl.course.eq_of_refused hr]
      decide
    refine .inr ⟨ha, closed_of_refused h hr, ?_⟩
    rcases hl.received_of_not_acquired ha with hn | ⟨-, hgot'⟩
    · rw [he, hn] at hgot
      cases List.prefix_nil.1 hgot
    · exact hgot'

theorem isolated_of_run (h : Run { limit, refusal } t q) : Isolated limit refusal t q := by
  have hk := kept_of_run h
  have hp := hk.permits
  rw [hk.holders_length] at hp
  have hrun : ∀ i (g : Generation α), q.generations[i]? = some g →
      (g.isRunning = true ↔ i ∈ t.holders) := by
    intro i g hi
    rw [hk.isRunning_eq hi, Trace.holders, List.mem_filter, List.mem_range, ← hk.length_eq]
    exact ⟨fun hh => ⟨(List.getElem?_eq_some_iff.1 hi).1, hh⟩, And.right⟩
  exact {
    bounded := by omega
    active := by rw [active, hk.limit_eq]; omega
    covered := by rw [hk.limit_eq]; omega
    permits := hk.permits
    running_iff := hrun
    released := fun i g hi he => by
      rw [hk.isRunning_eq hi, Trace.holds]
      rcases he with he | he <;> simp [he]
    abandoned := fun i hc => by
      rcases hk.unborn_or_life i with ⟨hms, -⟩ | ⟨g, items, hg, hl⟩
      · rw [hms] at hc
        cases hc
      · exact hk.left hg (hl.left hc)
    fits := fun i g hi => by
      obtain ⟨items, hits⟩ := hk.entered_of_getElem? hi
      exact (hk.lives hi hits).flows.fits
    received := fun i items hi ha => by
      obtain ⟨g, -, hl⟩ := hk.life_of_getElem? hi
      exact (hl.flows_of_acquired ha).first
    refused := fun i ha => by
      rcases hk.unborn_or_life i with ⟨-, hgot⟩ | ⟨g, items, -, hl⟩
      · exact .inl hgot
      · refine (hl.received_of_not_acquired ha).imp_right fun hr => ⟨?_, hr.2⟩
        exact closed_of_refused h (by rw [hr.1]; exact List.mem_cons_self)
    conserved := fun i g items hg hi ha hd =>
      ((hk.lives hg hi).flows_of_acquired ha).whole hd
    opened := fun i before after ht => not_closed_of_acquired h ht
    ended := fun i items hi ho => over_of_run h hi ho }

end

theorem Run.append {t' : Trace α} (h : Run p t q) (h' : Run q t' q') : Run p (t ++ t') q' := by
  induction h' with
  | nil => rwa [List.append_nil]
  | concat _ hs ih =>
      rw [← List.append_assoc]
      exact ih.concat hs

theorem step_of_step? (h : p.step? = some q) : ∃ i m, Step p (.moved i m) q := by
  obtain ⟨i, -, hi⟩ := List.exists_of_findSome?_eq_some h
  obtain ⟨m, -, hm⟩ := List.exists_of_findSome?_eq_some hi
  exact ⟨i, m, .move hm⟩

/-- Of all the orders in which generations can go on, `settle` takes one. -/
theorem exists_run_settle (p : Pool α) :
    ∃ t, Run p t p.settle ∧ ∀ o ∈ t, ∃ i m, o = .moved i m := by
  rw [settle]
  generalize p.work = fuel
  induction fuel generalizing p with
  | zero => exact ⟨[], .nil, List.forall_mem_nil _⟩
  | succ fuel ih =>
      rw [run]
      cases hs : p.step? with
      | none => exact ⟨[], .nil, List.forall_mem_nil _⟩
      | some q =>
          obtain ⟨i, m, hstep⟩ := step_of_step? hs
          obtain ⟨t, ht, hmoves⟩ := ih q
          refine ⟨[] ++ [.moved i m] ++ t, (Run.nil.concat hstep).append ht, ?_⟩
          exact List.forall_mem_append.2 ⟨List.forall_mem_singleton.2 ⟨i, m, rfl⟩, hmoves⟩

end ChatTurn.Pool
