import Mathlib.Logic.Function.Basic
import ChatTurn.Proofs.Aggregator.Ids

namespace ChatTurn

def ToolCall.rename (ρ : String → String) (c : ToolCall) : ToolCall := { c with id := ρ c.id }

def Delta.rename (ρ : String → String) : Delta → Delta
  | text s => text s
  | toolCall ⟨.text s, status⟩ => toolCall ⟨.text s, status⟩
  | toolCall ⟨.call c, status⟩ => toolCall ⟨.call (c.rename ρ), status⟩

namespace Event

def callId? (e : Event) : Option String := e.delta.call?.map (·.id)

def rename (ρ : String → String) (e : Event) : Event := { e with delta := e.delta.rename ρ }

end Event

def callIds (items : List StreamItem) : List String :=
  items.filterMap fun item => item.toOption.bind Event.callId?

/-- The same turn but for ids: what has one id in one of them has one id in the other. -/
def SameButIds (items items' : List StreamItem) : Prop :=
  ∃ ρ : String → String, (∀ x ∈ callIds items, ∀ y ∈ callIds items, ρ x = ρ y → x = y) ∧
    items' = items.map (·.map (Event.rename ρ))

/-- No id of the supply is an id of a call in the items. -/
def IsFresh (ids : IdSupply) (items : List StreamItem) : Prop := ∀ n, ids n ∉ callIds items

namespace Aggregator

/-- The same turn so far under other ids, for calls with ids among those known. -/
structure Renamed (known : List String) (ρ : String → String) (a b : Aggregator) : Prop
    extends Alike a b where
  pending : a.pending = b.pending
  held_iff : ∀ id ∈ known, (a.calls.any (·.id = id)) = b.calls.any (·.id = ρ id)

def RenamedResult (known : List String) (ρ : String → String) (x y : Aggregator × Outcome) : Prop :=
  Renamed known ρ x.1 y.1 ∧ x.2 = y.2

variable {known : List String} {ρ : String → String} {a b : Aggregator} {ids ids' : IdSupply}

def andThen (x : Aggregator × Outcome) (f : Aggregator → Aggregator × Outcome) :
    Aggregator × Outcome :=
  match x with
  | (a, .error err) => (a, .error err)
  | (a, .ok ()) => f a

theorem RenamedResult.andThen {x y : Aggregator × Outcome} (h : RenamedResult known ρ x y)
    {f g : Aggregator → Aggregator × Outcome}
    (hfg : ∀ {a b}, Renamed known ρ a b → RenamedResult known ρ (f a) (g b)) :
    RenamedResult known ρ (Aggregator.andThen x f) (Aggregator.andThen y g) := by
  obtain ⟨a, r⟩ := x
  obtain ⟨b, r'⟩ := y
  obtain ⟨hs, hr⟩ := h
  cases hr
  cases r with
  | error err => exact ⟨hs, rfl⟩
  | ok => exact hfg hs

namespace Renamed

theorem withPending (h : Renamed known ρ a b) (s : String) :
    Renamed known ρ { a with pending := s } { b with pending := s } :=
  ⟨⟨h.phase, h.content, h.calls, h.uncovered⟩, rfl, h.held_iff⟩

theorem withPhase (h : Renamed known ρ a b) (p : Phase) :
    Renamed known ρ { a with phase := p } { b with phase := p } :=
  ⟨⟨rfl, h.content, h.calls, h.uncovered⟩, h.pending, h.held_iff⟩

theorem close (h : Renamed known ρ a b) (e : Event) :
    Renamed known ρ (a.close e) (b.close (e.rename ρ)) := by
  obtain ⟨kind, delta, stop⟩ := e
  cases kind with
  | start | progress => exact h
  | complete =>
      cases stop with
      | none => exact h
      | some s => exact h.withPhase (.complete s)

theorem deliver (hρ : ∀ x ∈ known, ∀ y ∈ known, ρ x = ρ y → x = y) (h : Renamed known ρ a b)
    {c : ToolCall} (hc : c.id ∈ known) :
    Renamed known ρ (a.deliver c) (b.deliver (c.rename ρ)) := by
  have hh := h.held_iff c.id hc
  rw [Aggregator.deliver, Aggregator.deliver, hh]
  show Renamed known ρ _ (if b.calls.any (·.id = ρ c.id) then _ else _)
  split
  · exact h
  · refine ⟨⟨h.phase, h.content, ?_, ?_⟩, h.pending, fun id hid => ?_⟩
    · rw [List.map_append, List.map_append, h.calls]
      rfl
    · rw [List.map_append, List.map_append, h.uncovered]
      rfl
    · rw [List.any_append, List.any_append, h.held_iff id hid]
      have he : decide (c.id = id) = decide (ρ c.id = ρ id) :=
        decide_eq_decide.2 ⟨congrArg ρ, hρ _ hc _ hid⟩
      simp [ToolCall.rename, he]

theorem restate (hids : ∀ n, ids n ∉ known) (hids' : ∀ n, ∀ id ∈ known, ids' n ≠ ρ id)
    (h : Renamed known ρ a b) (i : Invocation) :
    Renamed known ρ (a.restate ids i) (b.restate ids' i) := by
  have halike := h.toAlike.restate ids ids' i
  rw [Aggregator.restate, Aggregator.restate, h.any_uncovered] at halike ⊢
  split at halike
  · next hc =>
      rw [if_pos hc, if_pos hc]
      exact ⟨halike, h.pending, h.held_iff⟩
  · next hc =>
      rw [if_neg hc, if_neg hc]
      refine ⟨halike, h.pending, fun id hid => ?_⟩
      have hne : ids a.issued ≠ id := fun he => hids _ (he ▸ hid)
      rw [List.any_append, List.any_append, h.held_iff id hid]
      simp [Invocation.withId, hne, hids' b.issued id hid]

theorem foldl_restate (hids : ∀ n, ids n ∉ known) (hids' : ∀ n, ∀ id ∈ known, ids' n ≠ ρ id)
    (h : Renamed known ρ a b) (is : List Invocation) :
    Renamed known ρ (is.foldl (Aggregator.restate ids) a) (is.foldl (Aggregator.restate ids') b) := by
  induction is generalizing a b with
  | nil => exact h
  | cons i is ih => exact ih (h.restate hids hids' i)

end Renamed

section

variable (hρ : ∀ x ∈ known, ∀ y ∈ known, ρ x = ρ y → x = y)
  (hids : ∀ n, ids n ∉ known) (hids' : ∀ n, ∀ id ∈ known, ids' n ≠ ρ id)

include hids hids'

theorem renamed_resolvePending (h : Renamed known ρ a b) :
    RenamedResult known ρ (a.resolvePending ids) (b.resolvePending ids') := by
  have he := h.withPending ""
  rw [resolvePending, resolvePending, h.pending]
  split
  · exact ⟨he, rfl⟩
  · cases CallText.parse b.pending.toList with
    | error e => exact ⟨he, rfl⟩
    | ok calls => exact ⟨he.foldl_restate hids hids' calls, rfl⟩

theorem renamed_applyStop (h : Renamed known ρ a b) (stop : Option StopReason) :
    RenamedResult known ρ (a.applyStop ids stop) (b.applyStop ids' stop) := by
  cases stop with
  | none => exact ⟨h, rfl⟩
  | some s => exact renamed_resolvePending hids hids' h

include hρ

theorem renamed_applyDelta (h : Renamed known ρ a b) {e : Event}
    (he : ∀ id, e.callId? = some id → id ∈ known) :
    RenamedResult known ρ (a.applyDelta ids e.delta) (b.applyDelta ids' (e.rename ρ).delta) := by
  obtain ⟨kind, delta, stop⟩ := e
  cases delta with
  | text s =>
      refine ⟨⟨⟨h.phase, ?_, h.calls, h.uncovered⟩, h.pending, h.held_iff⟩, rfl⟩
      exact congrArg (· ++ s) h.content
  | toolCall d =>
      obtain ⟨payload, status⟩ := d
      cases payload with
      | text s =>
          have hp : Renamed known ρ { a with pending := a.pending ++ s }
              { b with pending := b.pending ++ s } := by
            rw [h.pending]
            exact h.withPending _
          cases status with
          | started | inProgress => exact ⟨hp, rfl⟩
          | failure =>
              refine ⟨h.withPending "", ?_⟩
              simp only [applyDelta, applyCall, Event.rename, Delta.rename, h.pending]
          | success => exact renamed_resolvePending hids hids' hp
      | call c =>
          have hc : c.id ∈ known := he c.id rfl
          cases status with
          | started | inProgress => exact ⟨h.deliver hρ hc, rfl⟩
          | failure =>
              refine ⟨h.withPending "", ?_⟩
              simp only [applyDelta, applyCall, Event.rename, Delta.rename, h.pending]
          | success => exact ⟨(h.withPending "").deliver hρ hc, rfl⟩

theorem renamed_proceed (h : Renamed known ρ a b) {e : Event}
    (he : ∀ id, e.callId? = some id → id ∈ known) :
    RenamedResult known ρ (a.proceed ids e) (b.proceed ids' (e.rename ρ)) :=
  (renamed_applyDelta hρ hids hids' h he).andThen fun h =>
    (renamed_applyStop hids hids' h e.stop).andThen fun h => ⟨h.close e, rfl⟩

theorem renamed_push (h : Renamed known ρ a b) {e : Event}
    (he : ∀ id, e.callId? = some id → id ∈ known) :
    RenamedResult known ρ (a.push ids e) (b.push ids' (e.rename ρ)) := by
  have hkind : (e.rename ρ).kind = e.kind := rfl
  have hstop : (e.rename ρ).stop = e.stop := rfl
  rw [push, push, ← h.phase, hkind, hstop]
  cases a.phase with
  | awaiting =>
      cases e.kind with
      | start => exact renamed_applyDelta hρ hids hids' (h.withPhase .streaming) he
      | progress | complete => exact ⟨h, rfl⟩
  | complete stop => exact ⟨h, rfl⟩
  | streaming =>
      cases e.kind with
      | start => exact ⟨h, rfl⟩
      | progress => exact renamed_proceed hρ hids hids' h he
      | complete =>
          cases e.stop with
          | none => exact ⟨h, rfl⟩
          | some stop => exact renamed_proceed hρ hids hids' h he

theorem anonymous_drain {items : List StreamItem} (hitems : ∀ id ∈ callIds items, id ∈ known)
    (h : Renamed known ρ a b) : anonymous (drain ids a items) =
      anonymous (drain ids' b (items.map (·.map (Event.rename ρ)))) := by
  induction items generalizing a b with
  | nil => exact h.toAlike.finish ids ids'
  | cons item items ih =>
      cases item with
      | error e => rfl
      | ok e =>
          have he : ∀ id, e.callId? = some id → id ∈ known := fun id hid => by
            refine hitems id ?_
            rw [callIds, List.filterMap_cons]
            simp [Except.toOption, hid]
          have hrest : ∀ id ∈ callIds items, id ∈ known := fun id hid => by
            refine hitems id ?_
            rw [callIds, List.filterMap_cons]
            split
            · exact hid
            · exact List.mem_cons_of_mem _ hid
          obtain ⟨hs, hr⟩ := renamed_push hρ hids hids' h he
          rw [List.map_cons, Except.map, drain, drain]
          generalize a.push ids e = x at hs hr ⊢
          generalize b.push ids' (e.rename ρ) = y at hs hr ⊢
          obtain ⟨a, r⟩ := x
          obtain ⟨b, r'⟩ := y
          cases hr
          cases r with
          | error err => rfl
          | ok => exact ih hrest hs

end

end Aggregator

theorem callIds_rename (ρ : String → String) (items : List StreamItem) :
    callIds (items.map (·.map (Event.rename ρ))) = (callIds items).map ρ := by
  rw [callIds, callIds, List.filterMap_map, List.map_filterMap]
  congr 1
  funext item
  obtain e | ⟨kind, delta, stop⟩ := item
  · rfl
  · cases delta with
    | text s => rfl
    | toolCall d =>
        obtain ⟨payload, status⟩ := d
        cases payload <;> rfl

/-- Turns that differ in ids alone, aggregated under any fresh ids, come to messages that differ in
ids alone, or to the same error. -/
theorem anonymous_aggregateStream {items items' : List StreamItem} {ids ids' : IdSupply}
    (h : SameButIds items items') (hids : IsFresh ids items) (hids' : IsFresh ids' items') :
    anonymous (aggregateStream ids items) = anonymous (aggregateStream ids' items') := by
  obtain ⟨ρ, hρ, rfl⟩ := h
  refine Aggregator.anonymous_drain hρ hids (fun n id hid he => hids' n ?_) (fun _ => id)
    ⟨⟨rfl, rfl, rfl, rfl⟩, rfl, fun _ _ => rfl⟩
  rw [callIds_rename, he]
  exact List.mem_map_of_mem hid

structure IdSupply.IsNew (own : String → Prop) (ids : IdSupply) : Prop where
  injective : Function.Injective ids
  not_own : ∀ n, ¬ own (ids n)

namespace IdSupply.IsNew

variable {own : String → Prop} {ids : IdSupply}

theorem even (h : IsNew own ids) : IsNew own ids.even :=
  ⟨fun _ _ he => Nat.eq_of_mul_eq_mul_left Nat.two_pos (h.injective he),
    fun n => h.not_own (2 * n)⟩

theorem even_ne_odd (h : IsNew own ids) (n m : Nat) : ids.even n ≠ ids.odd m := fun he => by
  have hn : 2 * n = 2 * m + 1 := h.injective he
  omega

end IdSupply.IsNew

/-- Every id is one of the turn's `own` or the supply's, and nothing else depends on the supply. -/
def IsNatural (own : String → Prop) (f : IdSupply → Except Error (List StreamItem)) : Prop :=
  ∀ (ids ids' : IdSupply) (ρ : String → String), (∀ n, ρ (ids n) = ids' n) →
    (∀ s, own s → ρ s = s) → f ids' = (f ids).map (·.map (·.map (Event.rename ρ)))

namespace IsNatural

variable {own : String → Prop} {f : IdSupply → Except Error (List StreamItem)}
  {ids ids' agg : IdSupply} {items items' : List StreamItem}

theorem of_mem_callIds (h : IsNatural own f) (hf : f ids = .ok items) {id : String}
    (hid : id ∈ callIds items) : own id ∨ ∃ n, ids n = id := by
  classical
  by_cases hk : own id ∨ ∃ n, ids n = id
  · exact hk
  · -- A renaming of every other id changes nothing.
    let ρ : String → String := fun s => if own s ∨ ∃ n, ids n = s then s else s ++ "_"
    have hρ := h ids ids ρ (fun n => if_pos (.inr ⟨n, rfl⟩)) fun s hs => if_pos (.inl hs)
    rw [hf] at hρ
    have hsame := congrArg callIds (Except.ok.inj hρ)
    rw [callIds_rename, ← List.map_id (callIds items), List.map_map, List.map_inj_left] at hsame
    have he : id = id ++ "_" := (hsame id hid).trans (if_neg hk)
    have hlen := congrArg String.length he
    simp at hlen

theorem isFresh (h : IsNatural own f) (hf : f ids = .ok items) (ho : ∀ n, ¬ own (agg n))
    (hagg : ∀ n m, ids n ≠ agg m) : IsFresh agg items := by
  intro m hm
  rcases h.of_mem_callIds hf hm with hown | ⟨n, hn⟩
  · exact ho m hown
  · exact hagg n m hn

theorem sameButIds (h : IsNatural own f) (hf : f ids = .ok items) (hf' : f ids' = .ok items')
    (hids : ids.IsNew own) (hids' : ids'.IsNew own) : SameButIds items items' := by
  classical
  -- The id that one supply issues goes to the one that the other issues in its place.
  let ρ : String → String := fun s => if own s then s else ids' (Function.invFun ids s)
  have hown : ∀ s, own s → ρ s = s := fun s hs => if_pos hs
  have hnew : ∀ n, ρ (ids n) = ids' n := fun n => by
    show (if own (ids n) then ids n else ids' (Function.invFun ids (ids n))) = ids' n
    rw [if_neg (hids.not_own n), Function.leftInverse_invFun hids.injective n]
  refine ⟨ρ, fun x hx y hy he => ?_, ?_⟩
  · rcases h.of_mem_callIds hf hx with hxo | ⟨n, rfl⟩
    · rcases h.of_mem_callIds hf hy with hyo | ⟨m, rfl⟩
      · rwa [hown x hxo, hown y hyo] at he
      · rw [hown x hxo, hnew] at he
        exact absurd (he ▸ hxo) (hids'.not_own m)
    · rcases h.of_mem_callIds hf hy with hyo | ⟨m, rfl⟩
      · rw [hown y hyo, hnew] at he
        exact absurd (he ▸ hyo) (hids'.not_own n)
      · rw [hnew, hnew] at he
        rw [hids'.injective he]
  · have hmap := h ids ids' ρ hnew hown
    rw [hf, hf'] at hmap
    exact Except.ok.inj hmap

end IsNatural

end ChatTurn
