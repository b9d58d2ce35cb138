import ChatTurn.Proofs.Aggregator.Journal
import ChatTurn.Proofs.Tool.Same
import Mathlib.Data.List.Perm.Subperm
import Mathlib.Order.Bounds.Basic

namespace ChatTurn

def Invocation.copies (x : Invocation) (is : List Invocation) : Nat := is.countP (·.same x)

def invocations (cs : List ToolCall) : List Invocation := cs.map (·.toInvocation)

namespace Entry

def delivered? : Entry → Option ToolCall
  | delivered c => some c
  | parsed _ => none

def parsed? : Entry → Option Invocation
  | delivered _ => none
  | parsed i => some i

def invocation : Entry → Invocation
  | delivered c => c.toInvocation
  | parsed i => i

end Entry

def wholeCalls (log : List Entry) : List ToolCall := log.filterMap Entry.delivered?

def foundCalls (log : List Entry) : List Invocation := log.filterMap Entry.parsed?

theorem wholeCalls_concat_delivered (log : List Entry) (c : ToolCall) :
    wholeCalls (log ++ [.delivered c]) = wholeCalls log ++ [c] := List.filterMap_append

theorem wholeCalls_concat_parsed (log : List Entry) (i : Invocation) :
    wholeCalls (log ++ [.parsed i]) = wholeCalls log :=
  List.filterMap_append.trans (List.append_nil _)

theorem foundCalls_concat_delivered (log : List Entry) (c : ToolCall) :
    foundCalls (log ++ [.delivered c]) = foundCalls log :=
  List.filterMap_append.trans (List.append_nil _)

theorem foundCalls_concat_parsed (log : List Entry) (i : Invocation) :
    foundCalls (log ++ [.parsed i]) = foundCalls log ++ [i] := List.filterMap_append

/-- Pairs of places in a record. At each is a call in the class of `x`: at the first one that came
whole, at the second a later one that was found in text. No place is in two pairs. -/
structure Pairing (x : Invocation) (log : List Entry) (pairs : List (Nat × Nat)) : Prop where
  whole : ∀ p ∈ pairs, ∃ c, log[p.1]? = some (.delivered c) ∧ c.toInvocation.same x = true
  found : ∀ p ∈ pairs, ∃ i, log[p.2]? = some (.parsed i) ∧ i.same x = true
  earlier : ∀ p ∈ pairs, p.1 < p.2
  firsts : (pairs.map Prod.fst).Nodup
  seconds : (pairs.map Prod.snd).Nodup

def pairable (x : Invocation) (log : List Entry) : Set Nat :=
  {n | ∃ pairs, Pairing x log pairs ∧ pairs.length = n}

variable {x : Invocation} {log : List Entry} {e : Entry} {pairs : List (Nat × Nat)} {k : Nat}

def isWhole (x : Invocation) : Entry → Bool
  | .delivered c => c.toInvocation.same x
  | .parsed _ => false

def wholePlaces (x : Invocation) (log : List Entry) : List Nat := log.findIdxs (isWhole x)

theorem mem_wholePlaces {n : Nat} : n ∈ wholePlaces x log ↔
    ∃ c, log[n]? = some (.delivered c) ∧ c.toInvocation.same x = true := by
  rw [wholePlaces, List.mem_findIdxs_iff_exists_getElem_pos]
  constructor
  · rintro ⟨hn, hw⟩
    cases he : log[n] with
    | delivered c =>
        rw [he] at hw
        exact ⟨c, List.getElem?_eq_some_iff.2 ⟨hn, he⟩, hw⟩
    | parsed i =>
        rw [he] at hw
        cases hw
  · rintro ⟨c, hc, hs⟩
    obtain ⟨hn, he⟩ := List.getElem?_eq_some_iff.1 hc
    refine ⟨hn, ?_⟩
    rw [he]
    exact hs

theorem length_wholePlaces (x : Invocation) (log : List Entry) :
    (wholePlaces x log).length = x.copies (invocations (wholeCalls log)) := by
  rw [wholePlaces, List.length_findIdxs, Invocation.copies, invocations, List.countP_map,
    wholeCalls, List.countP_filterMap]
  refine List.countP_congr fun e _ => ?_
  cases e <;> simp [isWhole, Entry.delivered?]

theorem nodup_wholePlaces (x : Invocation) (log : List Entry) : (wholePlaces x log).Nodup :=
  List.nodup_findIdxs

theorem Pairing.length_le (h : Pairing x log pairs) :
    pairs.length ≤ x.copies (invocations (wholeCalls log)) := by
  have hs : pairs.map Prod.fst ⊆ wholePlaces x log :=
    List.forall_mem_map.2 fun p hp => mem_wholePlaces.2 (h.whole p hp)
  have hl := (h.firsts.subperm hs).length_le
  rwa [List.length_map, length_wholePlaces] at hl

/-- Fewer pairs than there are calls in the class leave one of them. -/
theorem exists_free
    (hl : pairs.length < x.copies (invocations (wholeCalls log))) :
    ∃ n ∈ wholePlaces x log, n ∉ pairs.map Prod.fst := by
  by_contra hn
  push Not at hn
  have hle := ((nodup_wholePlaces x log).subperm hn).length_le
  rw [length_wholePlaces, List.length_map] at hle
  omega

theorem getElem?_append_of_some {n : Nat} {d : Entry} (h : log[n]? = some d) (es : List Entry) :
    (log ++ es)[n]? = some d := by
  obtain ⟨hn, -⟩ := List.getElem?_eq_some_iff.1 h
  rw [List.getElem?_append_left hn, h]

theorem Pairing.append (h : Pairing x log pairs) (es : List Entry) :
    Pairing x (log ++ es) pairs := by
  refine ⟨fun p hp => ?_, fun p hp => ?_, h.earlier, h.firsts, h.seconds⟩
  · obtain ⟨c, hc, hs⟩ := h.whole p hp
    exact ⟨c, getElem?_append_of_some hc es, hs⟩
  · obtain ⟨i, hi, hs⟩ := h.found p hp
    exact ⟨i, getElem?_append_of_some hi es, hs⟩

theorem Pairing.sublist {qs : List (Nat × Nat)} (h : Pairing x log pairs) (hs : qs.Sublist pairs) :
    Pairing x log qs :=
  ⟨fun p hp => h.whole p (hs.subset hp), fun p hp => h.found p (hs.subset hp),
    fun p hp => h.earlier p (hs.subset hp), h.firsts.sublist (hs.map _),
    h.seconds.sublist (hs.map _)⟩

theorem Pairing.of_concat (h : Pairing x (log ++ [e]) pairs)
    (hl : ∀ p ∈ pairs, p.2 ≠ log.length) : Pairing x log pairs := by
  have hlt : ∀ p ∈ pairs, p.2 < log.length := by
    intro p hp
    obtain ⟨i, hi, -⟩ := h.found p hp
    obtain ⟨hn, -⟩ := List.getElem?_eq_some_iff.1 hi
    have hne := hl p hp
    rw [List.length_append, List.length_singleton] at hn
    omega
  refine ⟨fun p hp => ?_, fun p hp => ?_, h.earlier, h.firsts, h.seconds⟩
  · obtain ⟨c, hc, hs⟩ := h.whole p hp
    rw [List.getElem?_append_left ((h.earlier p hp).trans (hlt p hp))] at hc
    exact ⟨c, hc, hs⟩
  · obtain ⟨i, hi, hs⟩ := h.found p hp
    rw [List.getElem?_append_left (hlt p hp)] at hi
    exact ⟨i, hi, hs⟩

theorem pairable_concat_of_not (h : ∀ i, e = .parsed i → i.same x = false) :
    pairable x (log ++ [e]) = pairable x log := by
  ext n
  constructor
  · rintro ⟨pairs, hp, hn⟩
    refine ⟨pairs, hp.of_concat fun p hm hl => ?_, hn⟩
    obtain ⟨i, hi, hs⟩ := hp.found p hm
    rw [hl, List.getElem?_concat_length] at hi
    rw [h i (Option.some.inj hi)] at hs
    cases hs
  · rintro ⟨pairs, hp, hn⟩
    exact ⟨pairs, hp.append [e], hn⟩

theorem Pairing.drop_last (h : Pairing x (log ++ [e]) pairs) :
    ∃ qs, Pairing x log qs ∧ pairs.length ≤ qs.length + 1 := by
  refine ⟨pairs.filter (·.2 != log.length), ?_, ?_⟩
  · refine (h.sublist List.filter_sublist).of_concat fun p hp => ?_
    simpa using (List.mem_filter.1 hp).2
  · -- the last place is second in at most one pair
    have hone := List.nodup_iff_count.1 h.seconds log.length
    have hsum := List.length_eq_countP_add_countP (fun p : Nat × Nat => p.2 != log.length)
      (l := pairs)
    rw [List.count, List.countP_map] at hone
    rw [← List.countP_eq_length_filter]
    have heq : pairs.countP (fun p => decide ¬ (p.2 != log.length) = true) =
        pairs.countP ((· == log.length) ∘ Prod.snd) :=
      List.countP_congr fun p _ => by simp
    omega

/-- A call found in text while a delivered one is left makes one more pair. -/
theorem isGreatest_concat_of_lt {i : Invocation} (h : IsGreatest (pairable x log) k)
    (hi : i.same x = true) (hk : k < x.copies (invocations (wholeCalls log))) :
    IsGreatest (pairable x (log ++ [.parsed i])) (k + 1) := by
  obtain ⟨⟨pairs, hp, rfl⟩, hmax⟩ := h
  constructor
  · -- the free place and the last one are the new pair
    obtain ⟨n, hn, hfree⟩ := exists_free hk
    obtain ⟨c, hc, hs⟩ := mem_wholePlaces.1 hn
    obtain ⟨hlt, -⟩ := List.getElem?_eq_some_iff.1 hc
    have hp' := hp.append [.parsed i]
    refine ⟨(n, log.length) :: pairs, ⟨?_, ?_, ?_, ?_, ?_⟩, rfl⟩
    · exact List.forall_mem_cons.2 ⟨⟨c, getElem?_append_of_some hc _, hs⟩, hp'.whole⟩
    · exact List.forall_mem_cons.2 ⟨⟨i, List.getElem?_concat_length, hi⟩, hp'.found⟩
    · exact List.forall_mem_cons.2 ⟨hlt, hp.earlier⟩
    · exact List.nodup_cons.2 ⟨hfree, hp.firsts⟩
    · refine List.nodup_cons.2 ⟨fun hm => ?_, hp.seconds⟩
      obtain ⟨p, hm, hl⟩ := List.mem_map.1 hm
      obtain ⟨j, hj, -⟩ := hp.found p hm
      obtain ⟨hlen, -⟩ := List.getElem?_eq_some_iff.1 hj
      omega
  · rintro n ⟨ps, hps, rfl⟩
    obtain ⟨qs, hqs, hle⟩ := hps.drop_last
    exact hle.trans (Nat.succ_le_succ (hmax ⟨qs, hqs, rfl⟩))

/-- Where no delivered call is left, a call found in text is in no further pair. -/
theorem isGreatest_concat_of_eq {i : Invocation} (h : IsGreatest (pairable x log) k)
    (hk : k = x.copies (invocations (wholeCalls log))) :
    IsGreatest (pairable x (log ++ [.parsed i])) k := by
  obtain ⟨⟨pairs, hp, hl⟩, -⟩ := h
  refine ⟨⟨pairs, hp.append _, hl⟩, ?_⟩
  rintro n ⟨ps, hps, rfl⟩
  have hle := hps.length_le
  rw [wholeCalls_concat_parsed] at hle
  exact hk ▸ hle

theorem isGreatest_nil (x : Invocation) : IsGreatest (pairable x []) 0 := by
  refine ⟨⟨[], ⟨?_, ?_, ?_, List.nodup_nil, List.nodup_nil⟩, rfl⟩, ?_⟩
  · exact List.forall_mem_nil _
  · exact List.forall_mem_nil _
  · exact List.forall_mem_nil _
  · rintro n ⟨ps, hps, rfl⟩
    exact hps.length_le

end ChatTurn
