import Mathlib.Data.List.Infix
import ChatTurn.Scripted.Interleaving

namespace ChatTurn

def Generation.isRunning {α : Type} (g : Generation α) : Bool := g.stage = .running

namespace Pool

variable {α : Type}

inductive Moves (p : Pool α) : Generation α → Move → Generation α → Nat → Prop
  | acquire {unsent buffer : List α} {d : Bool} (hc : p.isClosed = false)
      (ha : 0 < p.available) : Moves p ⟨.waiting, unsent, buffer, d⟩ .acquire
        ⟨.running, unsent, buffer, d⟩ (p.available - 1)
  | refuse {unsent buffer : List α} {d : Bool} (hc : p.isClosed = true) :
      Moves p ⟨.waiting, unsent, buffer, d⟩ .refuse ⟨.ended, [], [p.refusal], d⟩ p.available
  | send {a : α} {rest buffer : List α} (hb : buffer.length < capacity) :
      Moves p ⟨.running, a :: rest, buffer, false⟩ .send
        ⟨.running, rest, buffer ++ [a], false⟩ p.available
  | finish {buffer : List α} {d : Bool} : Moves p ⟨.running, [], buffer, d⟩ .finish
      ⟨.ended, [], buffer, d⟩ (p.available + 1)
  | cancel {st : Stage} {unsent buffer : List α} (hst : st ≠ .ended) :
      Moves p ⟨st, unsent, buffer, true⟩ .cancel ⟨.ended, [], [], true⟩
        (if st = .running then p.available + 1 else p.available)

/-- What an occurrence shows of the generation at place `i`. -/
inductive Change (p : Pool α) (i : Nat) :
    Occurrence α → Generation α → Generation α → Nat → Prop
  | move {g g' : Generation α} {m : Move} {n : Nat} (h : Moves p g m g' n) :
      Change p i (.moved i m) g g' n
  | item {g : Generation α} {a : α} {rest : List α} (hd : g.isDropped = false)
      (hb : g.buffer = a :: rest) :
      Change p i (.read i (.item a)) g { g with buffer := rest } p.available
  | wait {g : Generation α} : Change p i (.read i .pending) g g p.available
  | ended {g : Generation α} (hd : g.isDropped = false) (hb : g.buffer = [])
      (hst : g.stage = .ended) : Change p i (.read i .over) g g p.available
  | drop {g : Generation α} :
      Change p i (.dropped i) g { g with isDropped := true, buffer := [] } p.available

variable {p : Pool α} {g g' : Generation α} {m : Move} {n i : Nat} {o : Occurrence α}

theorem moves_of_moved? (h : p.moved? g m = some (g', n)) : Moves p g m g' n := by
  obtain ⟨st, unsent, buffer, d⟩ := g
  cases m with
  | acquire =>
      obtain ⟨⟨rfl, hc, ha⟩, he⟩ := Option.ite_none_right_eq_some.1 h
      cases he
      exact .acquire (Bool.eq_false_iff.2 hc) ha
  | refuse =>
      obtain ⟨⟨rfl, hc⟩, he⟩ := Option.ite_none_right_eq_some.1 h
      cases he
      exact .refuse hc
  | send =>
      cases unsent with
      | nil => cases h
      | cons a rest =>
          obtain ⟨⟨rfl, hd, hb⟩, he⟩ := Option.ite_none_right_eq_some.1 h
          obtain rfl := Bool.eq_false_iff.2 hd
          cases he
          exact .send hb
  | finish =>
      obtain ⟨⟨rfl, hu⟩, he⟩ := Option.ite_none_right_eq_some.1 h
      obtain rfl := List.isEmpty_iff.1 hu
      cases he
      exact .finish
  | cancel =>
      obtain ⟨⟨rfl, hst⟩, he⟩ := Option.ite_none_right_eq_some.1 h
      cases he
      exact .cancel hst

theorem Moves.permits (h : Moves p g m g' n) :
    n + g'.isRunning.toNat = p.available + g.isRunning.toNat := by
  cases h with
  | acquire hc ha => exact Nat.sub_add_cancel ha
  | refuse | send | finish => rfl
  | @cancel st => cases st <;> rfl

theorem Change.permits (h : Change p i o g g' n) :
    n + g'.isRunning.toNat = p.available + g.isRunning.toNat := by
  cases h with
  | move h => exact h.permits
  | item | wait | ended | drop => rfl

inductive Course : List Move → Stage → Prop
  | start : Course [] .waiting
  | acquire {ms : List Move} (h : Course ms .waiting) : Course (ms ++ [.acquire]) .running
  | refuse {ms : List Move} (h : Course ms .waiting) : Course (ms ++ [.refuse]) .ended
  | send {ms : List Move} (h : Course ms .running) : Course (ms ++ [.send]) .running
  | finish {ms : List Move} (h : Course ms .running) : Course (ms ++ [.finish]) .ended
  | cancel {ms : List Move} {st : Stage} (h : Course ms st) (hst : st ≠ .ended) :
      Course (ms ++ [.cancel]) .ended

namespace Course

variable {ms : List Move} {st : Stage}

theorem eq_nil (h : Course ms .waiting) : ms = [] := by
  cases h
  rfl

theorem running_iff (h : Course ms st) :
    st = .running ↔ .acquire ∈ ms ∧ .finish ∉ ms ∧ .cancel ∉ ms := by
  induction h with
  | start => simp
  | acquire h | refuse h => simp [h.eq_nil]
  | send h ih => simpa using ih
  | finish | cancel => simp

theorem ended_iff (h : Course ms st) :
    st = .ended ↔ .finish ∈ ms ∨ .cancel ∈ ms ∨ .refuse ∈ ms := by
  induction h with
  | start => simp
  | acquire h => simp [h.eq_nil]
  | send h ih => simpa using ih
  | refuse | finish | cancel => simp

theorem eq_of_refused (h : Course ms st) (hr : .refuse ∈ ms) : ms = [.refuse] := by
  cases h with
  | start => cases hr
  | refuse h => rw [h.eq_nil]; rfl
  | acquire h | send h | finish h | cancel h hst =>
      have hm : Move.refuse ∈ _ := (List.mem_append.1 hr).resolve_right (by simp)
      exact absurd (h.ended_iff.2 (.inr (.inr hm))) (by first | assumption | exact nofun)

theorem acquired_of_finished (h : Course ms st) (hf : .finish ∈ ms) : .acquire ∈ ms := by
  cases h with
  | start => cases hf
  | acquire => simp
  | finish h => exact List.mem_append_left _ (h.running_iff.1 rfl).1
  | refuse h | send h | cancel h hst =>
      have hm : Move.finish ∈ _ := (List.mem_append.1 hf).resolve_right (by simp)
      exact absurd (h.ended_iff.2 (.inl hm)) (by first | assumption | exact nofun)

end Course

/-- Where the items of a stream are. -/
structure Flows (items got : List α) (g : Generation α) : Prop where
  first : got <+: items
  whole : g.isDropped = false → got ++ (g.buffer ++ g.unsent) = items
  fits : g.buffer.length ≤ capacity

/-- What holds of a generation after its moves `ms`, when its reader has `got` so much. -/
structure Life (refusal : α) (items : List α) (ms : List Move) (got : List α)
    (g : Generation α) : Prop where
  course : Course ms g.stage
  flows : Flows (if .refuse ∈ ms then [refusal] else items) got g
  untouched : .acquire ∉ ms → .refuse ∉ ms → got = [] ∧ g.buffer = []
  spent : g.stage = .ended → g.unsent = []
  left : .cancel ∈ ms → g.isDropped = true

theorem life_new (refusal : α) (items : List α) :
    Life refusal items [] [] { unsent := items } :=
  ⟨.start, ⟨List.nil_prefix, fun _ => rfl, Nat.zero_le _⟩, fun _ _ => ⟨rfl, rfl⟩, nofun, nofun⟩

namespace Life

variable {refusal : α} {items got : List α} {ms : List Move}

theorem move (h : Life p.refusal items ms got g) (hm : Moves p g m g' n) :
    Life p.refusal items (ms ++ [m]) got g' := by
  obtain ⟨hc, hf, hu, hs, hl⟩ := h
  have hflows : m ≠ .refuse →
      Flows (if .refuse ∈ ms ++ [m] then [p.refusal] else items) got g := fun hne => by
    simpa [hne.symm] using hf
  have hleft : m ≠ .cancel → .cancel ∈ ms ++ [m] → g.isDropped = true := fun hne hk =>
    hl ((List.mem_append.1 hk).resolve_right fun he => hne (List.mem_singleton.1 he).symm)
  -- A generation that runs has acquired its permit.
  have hran : g.stage = .running → .acquire ∈ ms ++ [m] := fun hst =>
    List.mem_append_left _ (hc.running_iff.1 hst).1
  cases hm with
  | acquire =>
      have hf := hflows nofun
      exact ⟨hc.acquire, ⟨hf.first, hf.whole, hf.fits⟩, fun ha => absurd (by simp) ha, nofun,
        hleft nofun⟩
  | refuse =>
      obtain ⟨rfl, -⟩ := hu (by simp [hc.eq_nil]) (by simp [hc.eq_nil])
      refine ⟨hc.refuse, ?_, fun _ hr => absurd (by simp) hr, fun _ => rfl, hleft nofun⟩
      rw [if_pos (by simp)]
      exact ⟨List.nil_prefix, fun _ => rfl, (by decide : 1 ≤ capacity)⟩
  | send hb =>
      have hf := hflows nofun
      refine ⟨hc.send, ⟨hf.first, fun _ => ?_, ?_⟩, fun ha => absurd (hran rfl) ha, nofun,
        hleft nofun⟩
      · rw [← hf.whole rfl]
        simp
      · rw [List.length_append]
        exact hb
  | finish =>
      have hf := hflows nofun
      exact ⟨hc.finish, ⟨hf.first, hf.whole, hf.fits⟩, fun ha => absurd (hran rfl) ha,
        fun _ => rfl, hleft nofun⟩
  | cancel hst =>
      have hf := hflows nofun
      refine ⟨hc.cancel hst, ⟨hf.first, nofun, Nat.zero_le _⟩, fun ha hr => ⟨?_, rfl⟩,
        fun _ => rfl, fun _ => rfl⟩
      exact (hu (fun hm => ha (List.mem_append_left _ hm))
        fun hm => hr (List.mem_append_left _ hm)).1

theorem item {a : α} {rest : List α} (h : Life refusal items ms got g) (hd : g.isDropped = false)
    (hb : g.buffer = a :: rest) :
    Life refusal items ms (got ++ [a]) { g with buffer := rest } := by
  have hw := h.flows.whole hd
  have hfits := h.flows.fits
  rw [hb] at hw hfits
  have he : (got ++ [a]) ++ (rest ++ g.unsent) = _ := (by simp : _ = _).trans hw
  refine ⟨h.course, ⟨⟨_, he⟩, fun _ => he, Nat.le_of_succ_le hfits⟩, fun ha hr => ?_, h.spent,
    h.left⟩
  cases hb.symm.trans (h.untouched ha hr).2

theorem drop (h : Life refusal items ms got g) :
    Life refusal items ms got { g with isDropped := true, buffer := [] } :=
  ⟨h.course, ⟨h.flows.first, nofun, Nat.zero_le _⟩, fun ha hr => ⟨(h.untouched ha hr).1, rfl⟩,
    h.spent, fun _ => rfl⟩

/-- Each step goes on with the life of the generation that it is about. -/
theorem change (h : Life p.refusal items ms got g) (hc : Change p i o g g' n) :
    Life p.refusal items (ms ++ (o.move? i).toList) (got ++ (o.item? i).toList) g' := by
  cases hc with
  | move hm => simpa [Occurrence.move?, Occurrence.item?] using h.move hm
  | item hd hb => simpa [Occurrence.move?, Occurrence.item?] using h.item hd hb
  | wait | ended => simpa [Occurrence.move?, Occurrence.item?] using h
  | drop => simpa [Occurrence.move?, Occurrence.item?] using h.drop

theorem flows_of_acquired (h : Life refusal items ms got g) (ha : .acquire ∈ ms) :
    Flows items got g := by
  have hr : .refuse ∉ ms := fun hr => by
    rw [h.course.eq_of_refused hr] at ha
    cases List.mem_singleton.1 ha
  simpa [hr] using h.flows

theorem received_of_not_acquired (h : Life refusal items ms got g) (ha : .acquire ∉ ms) :
    got = [] ∨ (ms = [.refuse] ∧ got = [refusal]) := by
  by_cases hr : .refuse ∈ ms
  · have hf := h.flows.first
    rw [if_pos hr] at hf
    rcases List.prefix_cons_iff.1 hf with hn | ⟨rest, rfl, hp⟩
    · exact .inl hn
    · rw [List.prefix_nil.1 hp]
      exact .inr ⟨h.course.eq_of_refused hr, rfl⟩
  · exact .inl (h.untouched ha hr).1

theorem all_of_over (h : Life refusal items ms got g) (hd : g.isDropped = false)
    (hb : g.buffer = []) (hst : g.stage = .ended) :
    (.acquire ∈ ms ∧ got = items) ∨ (ms = [.refuse] ∧ got = [refusal]) := by
  have hw := h.flows.whole hd
  rw [hb, h.spent hst, List.append_nil, List.append_nil] at hw
  by_cases hr : .refuse ∈ ms
  · rw [if_pos hr] at hw
    exact .inr ⟨h.course.eq_of_refused hr, hw⟩
  · rw [if_neg hr] at hw
    rcases h.course.ended_iff.1 hst with hf | hk | hk
    · exact .inl ⟨h.course.acquired_of_finished hf, hw⟩
    · rw [h.left hk] at hd
      cases hd
    · exact absurd hk hr

end Life

end Pool

end ChatTurn
