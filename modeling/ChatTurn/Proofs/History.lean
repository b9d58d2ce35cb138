namespace ChatTurn

variable {α β : Type} {l before after : List α} {a b c : α} {i k : Nat}

theorem cut_concat (h : l ++ [b] = before ++ a :: after) :
    (after = [] ∧ l = before ∧ b = a) ∨
      ∃ rest, after = rest ++ [b] ∧ l = before ++ a :: rest := by
  rcases List.eq_nil_or_concat after with rfl | ⟨rest, d, rfl⟩
  · obtain ⟨rfl, he⟩ := List.append_inj' h rfl
    exact .inl ⟨rfl, rfl, List.head_eq_of_cons_eq he⟩
  · rw [List.concat_eq_append, ← List.cons_append, ← List.append_assoc] at h
    obtain ⟨rfl, he⟩ := List.append_inj' h rfl
    obtain rfl := List.head_eq_of_cons_eq he
    exact .inr ⟨rest, List.concat_eq_append, rfl⟩

theorem mem_or_suffix_of_cut {before' after' : List α}
    (h : before ++ a :: after = before' ++ b :: after') : b ∈ before ∨ after' <:+ after := by
  rcases List.append_eq_append_iff.1 h with ⟨bs, rfl, hbs⟩ | ⟨bs, rfl, hbs⟩
  · cases bs with
    | nil =>
        obtain ⟨rfl, rfl⟩ := List.cons.inj hbs
        exact .inr (List.suffix_refl _)
    | cons d bs =>
        obtain ⟨rfl, rfl⟩ := List.cons.inj hbs
        exact .inr ⟨bs ++ [b], List.append_assoc _ _ _⟩
  · cases bs with
    | nil =>
        obtain ⟨rfl, rfl⟩ := List.cons.inj hbs
        exact .inr (List.suffix_refl _)
    | cons d bs =>
        obtain ⟨rfl, rfl⟩ := List.cons.inj hbs
        exact .inl (List.mem_append_right _ List.mem_cons_self)

theorem filterMap_concat {f : α → Option β} :
    (l ++ [b]).filterMap f = l.filterMap f ++ (f b).toList := by
  rw [List.filterMap_append, List.filterMap_cons, List.filterMap_nil]
  cases f b <;> rfl

theorem getElem?_concat_eq_some :
    (l ++ [b])[i]? = some c ↔ l[i]? = some c ∨ (i = l.length ∧ b = c) := by
  rcases Nat.lt_trichotomy i l.length with h | rfl | h
  · simp [List.getElem?_append_left h, Nat.ne_of_lt h]
  · simp
  · have hn : (l ++ [b])[i]? = none := List.getElem?_eq_none (by simp; omega)
    simp [hn, List.getElem?_eq_none (Nat.le_of_lt h), Nat.ne_of_gt h]

theorem getElem?_set_eq_some (h : l[i]? = some a) :
    (l.set i b)[k]? = some c ↔ (k = i ∧ b = c) ∨ (k ≠ i ∧ l[k]? = some c) := by
  have hlt : i < l.length := (List.getElem?_eq_some_iff.1 h).1
  rw [List.getElem?_set]
  by_cases hk : i = k
  · subst hk
    simp [hlt]
  · simp [hk, Ne.symm hk]

end ChatTurn
