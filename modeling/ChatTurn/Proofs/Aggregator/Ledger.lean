import ChatTurn.Proofs.Aggregator.Delivery
import ChatTurn.Proofs.Aggregator.Ids
import ChatTurn.Proofs.Aggregator.Pairing
import ChatTurn.Proofs.Tool.Reading
import Mathlib.Data.List.Nodup

namespace ChatTurn

def taggedCalls (text : List Char) : List Invocation :=
  match FunctionTag.extract text with
  | .ok (_, calls) => calls
  | .error _ => []

/-- All that a turn records; the calls in the tags of its prose come last. -/
def history (es : List Event) : List Entry :=
  journal es ++ (taggedCalls (Event.prose es)).map .parsed

/-- One more entry, unless it is a call that came whole under an id used before. -/
def enter (log : List Entry) (e : Entry) : List Entry :=
  match e with
  | .delivered c => if c.id ∈ (wholeCalls log).map (·.id) then log else log ++ [e]
  | .parsed _ => log ++ [e]

def ledger (es : List Event) : List Entry := (history es).foldl enter []

def Event.carried (es : List Event) : List ToolCall := es.filterMap (·.delta.call?)

/-- The arguments are proper, and an id that the call came with is none of the supply. -/
def Entry.Sound (ids : IdSupply) (e : Entry) : Prop :=
  e.invocation.Proper ∧ ∀ c, e.delivered? = some c → ∀ k, c.id ≠ ids k

namespace Invocation

variable {x i : Invocation} {is js : List Invocation}

theorem copies_nil (x : Invocation) : x.copies [] = 0 := rfl

theorem copies_append : x.copies (is ++ js) = x.copies is + x.copies js := List.countP_append

theorem copies_cons (x i : Invocation) (is : List Invocation) :
    x.copies (i :: is) = x.copies [i] + x.copies is := by
  rw [← copies_append, List.singleton_append]

theorem copies_of_same (h : i.same x = true) : x.copies [i] = 1 := by
  simp [copies, h]

theorem copies_of_not_same (h : i.same x = false) : x.copies [i] = 0 := by
  simp [copies, h]

theorem copies_congr {j : Invocation} (hi : i.Proper) (hj : j.Proper) (h : i.same j = true) :
    x.copies [i] = x.copies [j] := by
  simp [copies, hi.same_congr hj h x]

theorem copies_eraseP (hx : ∀ u ∈ is, u.Proper) (hi : i.Proper)
    (h : is.any (·.same i) = true) :
    x.copies (is.eraseP (·.same i)) + x.copies [i] = x.copies is := by
  obtain ⟨u, hu, hs⟩ := List.any_eq_true.1 h
  obtain ⟨v, l, r, -, hv, rfl, he⟩ := List.exists_of_eraseP (p := (·.same i)) hu hs
  have hvp : v.Proper := hx v (List.mem_append_right _ List.mem_cons_self)
  rw [he, ← copies_congr hvp hi hv, copies_append, copies_append, copies_cons x v r]
  omega

theorem any_iff_copies_pos : is.any (·.same i) = true ↔ 0 < i.copies is := by
  rw [copies, List.countP_pos_iff, List.any_eq_true]

theorem copies_eq_of_same (hx : x.Proper) (hi : i.Proper) (hs : i.same x = true)
    (hu : ∀ u ∈ is, u.Proper) : i.copies is = x.copies is :=
  List.countP_congr fun u hm =>
    ⟨fun h => (hu u hm).same_trans h hs, fun h => (hu u hm).same_trans h (hi.same_symm hx hs)⟩

theorem copies_of_not_any (hx : x.Proper) (hi : i.Proper) (hs : i.same x = true)
    (hu : ∀ u ∈ is, u.Proper) (h : ¬ is.any (·.same i) = true) : x.copies is = 0 := by
  rw [← copies_eq_of_same hx hi hs hu]
  exact Nat.eq_zero_of_not_pos fun hp => h (any_iff_copies_pos.2 hp)

end Invocation

variable {ids : IdSupply} {log : List Entry} {e : Entry} {es : List Event} {c : ToolCall}

theorem mem_of_mem_enter {d : Entry} (h : d ∈ enter log e) : d ∈ log ∨ d = e := by
  cases e with
  | delivered c =>
      rw [enter] at h
      split at h
      · exact .inl h
      · exact (List.mem_append.1 h).imp_right List.mem_singleton.1
  | parsed i => exact (List.mem_append.1 h).imp_right List.mem_singleton.1

theorem sound_enter (h : ∀ d ∈ log, d.Sound ids) (he : e.Sound ids) :
    ∀ d ∈ enter log e, d.Sound ids := by
  intro d hd
  rcases mem_of_mem_enter hd with hm | rfl
  · exact h d hm
  · exact he

theorem sound_foldl_enter {ds : List Entry} (h : ∀ d ∈ log, d.Sound ids)
    (hds : ∀ d ∈ ds, d.Sound ids) : ∀ d ∈ ds.foldl enter log, d.Sound ids := by
  induction ds generalizing log with
  | nil => exact h
  | cons d ds ih =>
      obtain ⟨hd, hds⟩ := List.forall_mem_cons.1 hds
      exact ih (sound_enter h hd) hds

theorem mem_wholeCalls : c ∈ wholeCalls log ↔ .delivered c ∈ log := by
  rw [wholeCalls, List.mem_filterMap]
  constructor
  · rintro ⟨e, he, hc⟩
    cases e with
    | delivered d => exact Option.some.inj hc ▸ he
    | parsed i => cases hc
  · exact fun h => ⟨_, h, rfl⟩

theorem proper_callsIn (text : List Char) : ∀ i ∈ callsIn text, i.Proper := by
  rw [callsIn]
  split
  · exact List.forall_mem_nil _
  · split
    · next hp => exact CallText.proper_of_parse hp
    · exact List.forall_mem_nil _

theorem proper_taggedCalls (text : List Char) : ∀ i ∈ taggedCalls text, i.Proper := by
  rw [taggedCalls]
  split
  · next he => exact FunctionTag.proper_of_extract he
  · exact List.forall_mem_nil _

theorem sound_parsed {is : List Invocation} (h : ∀ i ∈ is, i.Proper) :
    ∀ d ∈ is.map Entry.parsed, d.Sound ids :=
  List.forall_mem_map.2 fun i hi => ⟨h i hi, fun _ hc => nomatch hc⟩

theorem sound_journalFrom (before : List Event)
    (hfresh : ∀ c ∈ Event.carried es, ∀ k, c.id ≠ ids k)
    (hproper : ∀ c ∈ Event.carried es, c.toInvocation.Proper) :
    ∀ d ∈ journalFrom before es, d.Sound ids := by
  induction es generalizing before with
  | nil => exact List.forall_mem_nil _
  | cons e es ih =>
      have hsub : Event.carried es ⊆ Event.carried (e :: es) :=
        (List.sublist_cons_self e es).filterMap _ |>.subset
      rw [journalFrom, Event.entries]
      refine List.forall_mem_append.2 ⟨List.forall_mem_append.2 ⟨?_, ?_⟩, ?_⟩
      · refine List.forall_mem_map.2 fun c hc => ?_
        have hm : c ∈ Event.carried (e :: es) :=
          List.mem_filterMap.2 ⟨e, List.mem_cons_self, Option.mem_toList.1 hc⟩
        refine ⟨hproper c hm, fun d hd => ?_⟩
        cases hd
        exact hfresh c hm
      · exact sound_parsed (proper_callsIn _)
      · exact ih _ (fun c hc => hfresh c (hsub hc)) fun c hc => hproper c (hsub hc)

theorem sound_history (hfresh : ∀ c ∈ Event.carried es, ∀ k, c.id ≠ ids k)
    (hproper : ∀ c ∈ Event.carried es, c.toInvocation.Proper) :
    ∀ d ∈ history es, d.Sound ids :=
  List.forall_mem_append.2 ⟨sound_journalFrom [] hfresh hproper,
    sound_parsed (proper_taggedCalls _)⟩

theorem foldl_enter_parsed (log : List Entry) (is : List Invocation) :
    (is.map Entry.parsed).foldl enter log = log ++ is.map .parsed := by
  induction is generalizing log with
  | nil => simp
  | cons i is ih => rw [List.map_cons, List.foldl_cons, ih, enter, List.append_assoc]; rfl

theorem wholeCalls_append_parsed (log : List Entry) (is : List Invocation) :
    wholeCalls (log ++ is.map .parsed) = wholeCalls log := by
  have hnil : (is.map Entry.parsed).filterMap Entry.delivered? = [] :=
    List.filterMap_eq_nil_iff.2 (List.forall_mem_map.2 fun _ _ => rfl)
  rw [wholeCalls, List.filterMap_append, hnil, List.append_nil]
  rfl

theorem wholeCalls_ledger (es : List Event) :
    wholeCalls (ledger es) = wholeCalls ((journal es).foldl enter []) := by
  rw [ledger, history, List.foldl_append, foldl_enter_parsed, wholeCalls_append_parsed]

theorem invocations_concat (cs : List ToolCall) (c : ToolCall) :
    invocations (cs ++ [c]) = invocations cs ++ [c.toInvocation] := List.map_append

theorem proper_invocations (h : ∀ d ∈ log, d.Sound ids) {cs : List ToolCall}
    (hc : cs.Sublist (wholeCalls log)) : ∀ i ∈ invocations cs, i.Proper :=
  List.forall_mem_map.2 fun _ hm => (h _ (mem_wholeCalls.1 (hc.subset hm))).1

namespace Aggregator

variable {a : Aggregator} {x i : Invocation}

/-- The state after the entries of a ledger. -/
structure Keeps (ids : IdSupply) (log : List Entry) (a : Aggregator) : Prop where
  whole : (wholeCalls log).Sublist a.calls
  origin : ∀ c ∈ a.calls, c ∈ wholeCalls log ∨ ∃ k, k < a.issued ∧ c.id = ids k
  distinct : (a.calls.map (·.id)).Nodup
  uncovered : a.uncovered.Sublist (wholeCalls log)
  counts : ∀ x : Invocation, x.Proper → ∃ k, IsGreatest (pairable x log) k ∧
    x.copies (invocations a.uncovered) + k = x.copies (invocations (wholeCalls log)) ∧
    x.copies (invocations a.calls) + k =
      x.copies (invocations (wholeCalls log)) + x.copies (foundCalls log)

theorem keeps_nil (ids : IdSupply) : Keeps ids [] {} :=
  ⟨.refl _, List.forall_mem_nil _, List.nodup_nil, .refl _,
    fun x _ => ⟨0, isGreatest_nil x, rfl, rfl⟩⟩

theorem Keeps.mem_ids_iff (h : Keeps ids log a) (hf : ∀ k, c.id ≠ ids k) :
    c.id ∈ a.calls.map (·.id) ↔ c.id ∈ (wholeCalls log).map (·.id) := by
  constructor
  · intro hm
    obtain ⟨d, hd, he⟩ := List.mem_map.1 hm
    rcases h.origin d hd with hd | ⟨k, -, hk⟩
    · exact List.mem_map.2 ⟨d, hd, he⟩
    · exact absurd (he.symm.trans hk) (hf k)
  · exact fun hm => (h.whole.map _).subset hm

theorem deliver_of_old (h : c.id ∈ a.calls.map (·.id)) : deliver a c = a := by
  obtain ⟨d, hd, he⟩ := List.mem_map.1 h
  rw [deliver, if_pos (List.any_eq_true.2 ⟨d, hd, decide_eq_true he⟩)]

theorem nodup_concat_id {cs : List ToolCall} (h : (cs.map (·.id)).Nodup)
    (hc : c.id ∉ cs.map (·.id)) : ((cs ++ [c]).map (·.id)).Nodup := by
  rw [List.map_append, List.map_singleton, ← List.concat_eq_append]
  exact List.Nodup.concat hc h

theorem Keeps.deliver (h : Keeps ids log a) (hf : ∀ k, c.id ≠ ids k) :
    Keeps ids (enter log (.delivered c)) (deliver a c) := by
  by_cases hm : c.id ∈ (wholeCalls log).map (·.id)
  · rw [enter, if_pos hm, deliver_of_old ((h.mem_ids_iff hf).2 hm)]
    exact h
  · have hnew : c.id ∉ a.calls.map (·.id) := fun hc => hm ((h.mem_ids_iff hf).1 hc)
    rw [enter, if_neg hm, deliver_of_new hnew]
    have hwhole := wholeCalls_concat_delivered log c
    refine ⟨?_, ?_, nodup_concat_id h.distinct hnew, ?_, ?_⟩
    · rw [hwhole]
      exact h.whole.append (.refl _)
    · rw [hwhole]
      refine List.forall_mem_append.2 ⟨fun d hd => ?_, ?_⟩
      · exact (h.origin d hd).imp_left (List.mem_append_left _)
      · exact List.forall_mem_singleton.2 (.inl (List.mem_append_right _ List.mem_cons_self))
    · rw [hwhole]
      exact h.uncovered.append (.refl _)
    · intro x hx
      obtain ⟨k, hk, hu, hc⟩ := h.counts x hx
      refine ⟨k, ?_, ?_, ?_⟩
      · rw [pairable_concat_of_not fun i hi => by cases hi]
        exact hk
      · rw [hwhole, invocations_concat, invocations_concat, Invocation.copies_append,
          Invocation.copies_append]
        omega
      · rw [hwhole, foundCalls_concat_delivered, invocations_concat, invocations_concat,
          Invocation.copies_append, Invocation.copies_append]
        omega

theorem invocations_eraseP (cs : List ToolCall) (i : Invocation) :
    invocations (cs.eraseP (·.toInvocation.same i)) = (invocations cs).eraseP (·.same i) :=
  map_eraseP_same cs i

theorem restate_of_any (h : (invocations a.uncovered).any (·.same i) = true) :
    restate ids a i =
      { a with uncovered := a.uncovered.eraseP (·.toInvocation.same i) } := by
  rw [restate, any_same]
  exact if_pos h

theorem restate_of_not_any (h : ¬ (invocations a.uncovered).any (·.same i) = true) :
    restate ids a i =
      { a with calls := a.calls ++ [i.withId (ids a.issued)], issued := a.issued + 1 } := by
  rw [restate, any_same]
  exact if_neg h

theorem Keeps.restate_covered (h : Keeps ids log a) (hs : ∀ d ∈ log, d.Sound ids) (hi : i.Proper)
    (hany : (invocations a.uncovered).any (·.same i) = true) :
    Keeps ids (log ++ [.parsed i])
      { a with uncovered := a.uncovered.eraseP (·.toInvocation.same i) } := by
  have hwhole := wholeCalls_concat_parsed log i
  have herase := List.eraseP_sublist (l := a.uncovered) (p := (·.toInvocation.same i))
  refine ⟨hwhole ▸ h.whole, hwhole ▸ h.origin, h.distinct, hwhole ▸ herase.trans h.uncovered, ?_⟩
  intro x hx
  obtain ⟨k, hk, hu, hc⟩ := h.counts x hx
  have hcopies := Invocation.copies_eraseP (x := x) (proper_invocations hs h.uncovered) hi hany
  dsimp only
  rw [hwhole, foundCalls_concat_parsed, invocations_eraseP, Invocation.copies_append]
  cases hix : i.same x with
  | true =>
      -- the call taken was in the class, so that fewer than all of the class were paired
      rw [Invocation.copies_of_same hix] at hcopies ⊢
      exact ⟨k + 1, isGreatest_concat_of_lt hk hix (by omega), by omega, by omega⟩
  | false =>
      rw [Invocation.copies_of_not_same hix] at hcopies ⊢
      refine ⟨k, ?_, by omega, by omega⟩
      rw [pairable_concat_of_not fun j hj => by cases hj; exact hix]
      exact hk

theorem Keeps.restate_new (h : Keeps ids log a) (hids : Function.Injective ids)
    (hs : ∀ d ∈ log, d.Sound ids) (hi : i.Proper)
    (hany : ¬ (invocations a.uncovered).any (·.same i) = true) :
    Keeps ids (log ++ [.parsed i])
      { a with calls := a.calls ++ [i.withId (ids a.issued)], issued := a.issued + 1 } := by
  have hwhole := wholeCalls_concat_parsed log i
  refine ⟨?_, ?_, ?_, hwhole ▸ h.uncovered, ?_⟩
  · rw [hwhole]
    exact h.whole.trans (List.sublist_append_left _ _)
  · rw [hwhole]
    refine List.forall_mem_append.2 ⟨fun c hc => ?_, ?_⟩
    · exact (h.origin c hc).imp_right fun ⟨k, hk, he⟩ => ⟨k, Nat.lt_succ_of_lt hk, he⟩
    · exact List.forall_mem_singleton.2 (.inr ⟨a.issued, Nat.lt_succ_self _, rfl⟩)
  · refine nodup_concat_id h.distinct fun hm => ?_
    obtain ⟨c, hc, he⟩ := List.mem_map.1 hm
    rcases h.origin c hc with hw | ⟨k, hk, hck⟩
    · exact (hs _ (mem_wholeCalls.1 hw)).2 c rfl a.issued he
    · exact absurd (hids (hck.symm.trans he)) (Nat.ne_of_lt hk)
  · intro x hx
    obtain ⟨k, hk, hu, hc⟩ := h.counts x hx
    have hcalls : invocations (a.calls ++ [i.withId (ids a.issued)]) = invocations a.calls ++ [i] :=
      invocations_concat _ _
    dsimp only
    rw [hwhole, foundCalls_concat_parsed, hcalls, Invocation.copies_append,
      Invocation.copies_append]
    refine ⟨k, ?_, hu, by omega⟩
    cases hix : i.same x with
    | true =>
        -- none of the class is uncovered, so that all of it is paired
        have hu := proper_invocations hs h.uncovered
        have hzero := Invocation.copies_of_not_any hx hi hix hu hany
        exact isGreatest_concat_of_eq hk (by omega)
    | false =>
        rw [pairable_concat_of_not fun j hj => by cases hj; exact hix]
        exact hk

theorem Keeps.record (h : Keeps ids log a) (hids : Function.Injective ids)
    (hs : ∀ d ∈ log, d.Sound ids) (he : e.Sound ids) :
    Keeps ids (enter log e) (record ids a e) := by
  cases e with
  | delivered c => exact h.deliver (he.2 c rfl)
  | parsed i =>
      change Keeps ids (log ++ [.parsed i]) (restate ids a i)
      by_cases hany : (invocations a.uncovered).any (·.same i) = true
      · rw [restate_of_any hany]
        exact h.restate_covered hs he.1 hany
      · rw [restate_of_not_any hany]
        exact h.restate_new hids hs he.1 hany

theorem Keeps.foldl_record (h : Keeps ids log a) (hids : Function.Injective ids)
    (hs : ∀ d ∈ log, d.Sound ids) {ds : List Entry} (hds : ∀ d ∈ ds, d.Sound ids) :
    Keeps ids (ds.foldl enter log) (ds.foldl (Aggregator.record ids) a) := by
  induction ds generalizing log a with
  | nil => exact h
  | cons d ds ih =>
      have hd := hds d List.mem_cons_self
      exact ih (h.record hids hs hd) (sound_enter hs hd) fun d hd =>
        hds d (List.mem_cons_of_mem _ hd)

end Aggregator

end ChatTurn
