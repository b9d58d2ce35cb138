import ChatTurn.Proofs.Json.Value

namespace ChatTurn.Ordered

variable {α : Type} {d before after : Ordered α} {k k' : String} {v w : α}

theorem get?_eq_none_iff : get? k d = none ↔ k ∉ keys d := by
  induction d with
  | nil => simp [get?, keys]
  | cons entry d ih =>
      obtain ⟨k', v'⟩ := entry
      rw [keys] at ih
      by_cases h : k' = k
      · simp [get?, keys, h]
      · simp [get?, keys, h, Ne.symm h, ih]

theorem put_of_not_mem (h : k ∉ keys d) : put k v d = d ++ [(k, v)] := by
  induction d with
  | nil => rfl
  | cons entry d ih =>
      obtain ⟨k', v'⟩ := entry
      rw [keys, List.map_cons, List.mem_cons, not_or] at h
      rw [put, if_neg (Ne.symm h.1), ih h.2, List.cons_append]

theorem eq_or_mem_of_mem_put {e : String × α} (h : e ∈ put k v d) : e.2 = v ∨ e ∈ d := by
  induction d with
  | nil => exact .inl (List.mem_singleton.1 h ▸ rfl)
  | cons entry d ih =>
      rw [put] at h
      split at h
      · rcases List.mem_cons.1 h with rfl | h
        · exact .inl rfl
        · exact .inr (List.mem_cons_of_mem _ h)
      · rcases List.mem_cons.1 h with rfl | h
        · exact .inr List.mem_cons_self
        · exact (ih h).imp_right (List.mem_cons_of_mem _)

theorem ofList_of_nodup {es : List (String × α)} (h : (keys es).Nodup) : ofList es = es := by
  induction es using List.reverseRecOn with
  | nil => rfl
  | append_singleton es e ih =>
      rw [keys, List.map_append, List.nodup_append] at h
      have he : e.1 ∉ keys es := fun hm => h.2.2 _ hm _ List.mem_cons_self rfl
      rw [ofList_concat, ih h.1, put_of_not_mem he]

theorem exists_of_get? (h : get? k d = some v) : ∃ before after,
    d = before ++ (k, v) :: after ∧ ∀ w, put k w d = before ++ (k, w) :: after := by
  induction d with
  | nil => cases h
  | cons entry d ih =>
      obtain ⟨k', v'⟩ := entry
      rw [get?] at h
      split at h
      · next hk =>
          cases h
          exact ⟨[], d, by rw [hk]; rfl, fun w => by rw [put, if_pos hk, hk]; rfl⟩
      · next hk =>
          obtain ⟨before, after, rfl, hput⟩ := ih h
          exact ⟨(k', v') :: before, after, rfl, fun w => by rw [put, if_neg hk, hput]; rfl⟩

theorem get?_map {β : Type} (f : α → β) (k : String) (d : Ordered α) :
    get? k (d.map fun (k, v) => (k, f v)) = (get? k d).map f := by
  induction d with
  | nil => rfl
  | cons entry d ih =>
      by_cases h : entry.1 = k
      · simp [get?, h]
      · simpa [get?, h] using ih

theorem put_map {β : Type} (f : α → β) (k : String) (v : α) (d : Ordered α) :
    put k (f v) (d.map fun (k, v) => (k, f v)) = (put k v d).map fun (k, v) => (k, f v) := by
  induction d with
  | nil => rfl
  | cons entry d ih =>
      by_cases h : entry.1 = k
      · simp [put, h]
      · simpa [put, h] using ih

theorem get?_append_cons (h : k ∉ keys before) : get? k (before ++ (k, v) :: after) = some v := by
  induction before with
  | nil => rw [List.nil_append, get?, if_pos rfl]
  | cons entry before ih =>
      rw [keys, List.map_cons, List.mem_cons, not_or] at h
      rw [List.cons_append, get?, if_neg (Ne.symm h.1), ih h.2]

theorem get?_append_cons_of_ne (h : k' ≠ k) :
    get? k (before ++ (k', v) :: after) = get? k (before ++ after) := by
  induction before with
  | nil => rw [List.nil_append, get?, if_neg h, List.nil_append]
  | cons entry before ih =>
      rw [List.cons_append, List.cons_append, get?, get?]
      split
      · rfl
      · exact ih

theorem put_append_cons (h : k ∉ keys before) :
    put k w (before ++ (k, v) :: after) = before ++ (k, w) :: after := by
  induction before with
  | nil => rw [List.nil_append, put, if_pos rfl, List.nil_append]
  | cons entry before ih =>
      rw [keys, List.map_cons, List.mem_cons, not_or] at h
      rw [List.cons_append, put, if_neg (Ne.symm h.1), ih h.2, List.cons_append]

theorem exists_put_of_ne (hne : k' ≠ k) (h : k ∉ keys before) (w : α) (after : Ordered α) :
    ∃ before' after', k ∉ keys before' ∧
      ∀ v, put k' w (before ++ (k, v) :: after) = before' ++ (k, v) :: after' := by
  induction before with
  | nil =>
      refine ⟨[], put k' w after, h, fun v => ?_⟩
      rw [List.nil_append, put, if_neg hne.symm, List.nil_append]
  | cons entry before ih =>
      obtain ⟨k₁, v₁⟩ := entry
      rw [keys, List.map_cons, List.mem_cons, not_or] at h
      by_cases hk : k₁ = k'
      · refine ⟨(k₁, w) :: before, after, ?_, fun v => ?_⟩
        · rw [keys, List.map_cons, List.mem_cons, not_or]
          exact h
        · rw [List.cons_append, put, if_pos hk, List.cons_append]
      · obtain ⟨before', after', hb, hput⟩ := ih h.2
        refine ⟨(k₁, v₁) :: before', after', ?_, fun v => ?_⟩
        · rw [keys, List.map_cons, List.mem_cons, not_or]
          exact ⟨h.1, hb⟩
        · rw [List.cons_append, put, if_neg hk, hput, List.cons_append]

theorem exists_put (k : String) (d : Ordered α) :
    ∃ before after, k ∉ keys before ∧ ∀ w, put k w d = before ++ (k, w) :: after := by
  induction d with
  | nil => exact ⟨[], [], List.not_mem_nil, fun w => rfl⟩
  | cons entry d ih =>
      obtain ⟨k₁, v₁⟩ := entry
      by_cases hk : k₁ = k
      · refine ⟨[], d, List.not_mem_nil, fun w => ?_⟩
        rw [put, if_pos hk, hk, List.nil_append]
      · obtain ⟨before, after, hb, hput⟩ := ih
        refine ⟨(k₁, v₁) :: before, after, ?_, fun w => ?_⟩
        · rw [keys, List.map_cons, List.mem_cons, not_or]
          exact ⟨Ne.symm hk, hb⟩
        · rw [put, if_neg hk, hput, List.cons_append]

def sorted (d : Ordered α) : Ordered α := d.mergeSort fun a b => a.1 ≤ b.1

theorem filter_sorted (d : Ordered α) (k : String) :
    (sorted d).filter (·.1 = k) = d.filter (·.1 = k) := by
  have hsub : (d.filter (·.1 = k)).Sublist (sorted d) := by
    refine List.sublist_mergeSort ?_ ?_ ?_ List.filter_sublist
    · intro a b c hab hbc
      simp only [decide_eq_true_eq] at hab hbc ⊢
      exact String.le_trans hab hbc
    · intro a b
      simpa using String.le_total a.1 b.1
    · refine List.pairwise_of_forall_mem_list fun a ha b hb => ?_
      have ha' := List.of_mem_filter ha
      have hb' := List.of_mem_filter hb
      simp only [decide_eq_true_eq] at ha' hb' ⊢
      exact ha'.trans hb'.symm ▸ String.le_refl _
  have hperm : ((sorted d).filter (·.1 = k)).Perm (d.filter (·.1 = k)) :=
    (List.mergeSort_perm d _).filter _
  have hfilter := hsub.filter (·.1 = k)
  rw [List.filter_filter] at hfilter
  simp only [Bool.and_self] at hfilter
  exact (hfilter.eq_of_length hperm.length_eq.symm).symm

theorem sorted_map {β : Type} (f : α → β) (d : Ordered α) :
    sorted (d.map fun e => (e.1, f e.2)) = (sorted d).map fun e => (e.1, f e.2) := by
  rw [sorted, sorted, List.map_mergeSort]
  exact fun _ _ _ _ => rfl

theorem filter_append_cons (h : k ∉ keys before) (v : α) (after : Ordered α) :
    (before ++ (k, v) :: after).filter (·.1 = k) = (k, v) :: after.filter (·.1 = k) := by
  have hb : before.filter (·.1 = k) = [] :=
    List.filter_eq_nil_iff.2 fun e he hk => h (List.mem_map.2 ⟨e, he, of_decide_eq_true hk⟩)
  rw [List.filter_append, hb, List.nil_append, List.filter_cons_of_pos (by simp)]

theorem notMem_keys_of_filter {rest : Ordered α} (hv : (k, v) ∉ before)
    (h : (before ++ (k, v) :: after).filter (·.1 = k) = (k, v) :: rest) : k ∉ keys before := by
  intro hk
  obtain ⟨e, he, hek⟩ := List.mem_map.1 hk
  rw [List.filter_append] at h
  cases hb : before.filter (·.1 = k) with
  | nil => exact absurd (decide_eq_true hek) (List.filter_eq_nil_iff.1 hb e he)
  | cons x xs =>
      rw [hb, List.cons_append] at h
      have hx : x ∈ before.filter (·.1 = k) := hb ▸ List.mem_cons_self
      rw [(List.cons.inj h).1] at hx
      exact hv (List.mem_of_mem_filter hx)

theorem map_getD {d : Ordered (Option α)} (hd : ∀ e ∈ d, ∃ u, e.2 = some u) (v : α) :
    (d.map fun e => (e.1, e.2.getD v)) = d.filterMap fun e => e.2.map fun u => (e.1, u) := by
  rw [← List.filterMap_eq_map]
  refine List.filterMap_congr fun e he => ?_
  obtain ⟨u, hu⟩ := hd e he
  rw [Function.comp_apply, hu]
  rfl

theorem exists_sorted (h : k ∉ keys before) (after : Ordered α) : ∃ before' after',
    k ∉ keys before' ∧ ∀ v, sorted (before ++ (k, v) :: after) = before' ++ (k, v) :: after' := by
  -- The entry is sorted without its value, which is then put in its place.
  obtain ⟨bs, hbs⟩ : ∃ bs : Ordered (Option α), bs = before.map fun e => (e.1, some e.2) := ⟨_, rfl⟩
  obtain ⟨as, has⟩ : ∃ as : Ordered (Option α), as = after.map fun e => (e.1, some e.2) := ⟨_, rfl⟩
  have hvalue : ∀ v, before ++ (k, v) :: after =
      (bs ++ (k, none) :: as).map fun e => (e.1, e.2.getD v) := by
    intro v
    simp [hbs, has, Function.comp_def]
  have hperm : (sorted (bs ++ (k, none) :: as)).Perm (bs ++ (k, none) :: as) := List.mergeSort_perm _ _
  obtain ⟨mb, ma, hs, hnone⟩ := List.eq_append_cons_of_mem
    (hperm.mem_iff.2 (List.mem_append_right bs List.mem_cons_self))
  have hrest : ∀ e ∈ mb ++ ma, ∃ u, e.2 = some u := by
    intro e he
    rw [hs] at hperm
    have hcancel := (List.perm_middle.symm.trans (hperm.trans List.perm_middle)).cons_inv
    rw [hcancel.mem_iff, hbs, has, ← List.map_append] at he
    obtain ⟨e', -, rfl⟩ := List.mem_map.1 he
    exact ⟨e'.2, rfl⟩
  rw [List.forall_mem_append] at hrest
  refine ⟨mb.filterMap fun e => e.2.map fun u => (e.1, u),
    ma.filterMap fun e => e.2.map fun u => (e.1, u), ?_, fun v => ?_⟩
  · have hk : k ∉ keys bs := by simpa [hbs, keys, Function.comp_def] using h
    have hfilter := filter_sorted (bs ++ (k, none) :: as) k
    rw [hs, filter_append_cons hk] at hfilter
    intro hm
    obtain ⟨e, he, rfl⟩ := List.mem_map.1 hm
    obtain ⟨e', he', heq⟩ := List.mem_filterMap.1 he
    obtain ⟨u, -, rfl⟩ := Option.map_eq_some_iff.1 heq
    exact notMem_keys_of_filter hnone hfilter (List.mem_map_of_mem he')
  · rw [hvalue, sorted_map (fun o : Option α => o.getD v), hs, List.map_append, List.map_cons,
      map_getD hrest.1, map_getD hrest.2]
    rfl

end ChatTurn.Ordered
