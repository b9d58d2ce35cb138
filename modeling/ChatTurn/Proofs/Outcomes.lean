import Mathlib.Data.List.Forall2

namespace ChatTurn

variable {ε δ α β : Type}

theorem map_eq_ok_iff {f : α → β} {r : Except ε α} {b : β} :
    r.map f = .ok b ↔ ∃ a, r = .ok a ∧ f a = b := by
  cases r <;> simp [Except.map]

theorem mapError_eq_ok_iff {f : ε → δ} {r : Except ε α} {a : α} :
    r.mapError f = .ok a ↔ r = .ok a := by
  cases r <;> simp [Except.mapError]

theorem bind_eq_ok_iff {f : α → Except ε β} {r : Except ε α} {b : β} :
    r >>= f = .ok b ↔ ∃ a, r = .ok a ∧ f a = .ok b := by
  cases r <;> simp [bind, Except.bind]

theorem forall_mem_of_mapM {f : α → Except ε β} {p : β → Prop} {as : List α} {bs : List β}
    (h : as.mapM f = .ok bs) (hf : ∀ a b, f a = .ok b → p b) : ∀ b ∈ bs, p b := by
  induction as generalizing bs with
  | nil =>
      cases h
      exact List.forall_mem_nil _
  | cons a as ih =>
      rw [List.mapM_cons, bind_eq_ok_iff] at h
      obtain ⟨b, hb, h⟩ := h
      obtain ⟨cs, hcs, h⟩ := bind_eq_ok_iff.1 h
      cases h
      exact List.forall_mem_cons.2 ⟨hf a b hb, ih hcs⟩

theorem mapM_eq_ok_iff {f : α → Except ε β} {as : List α} {bs : List β} :
    as.mapM f = .ok bs ↔ List.Forall₂ (fun a b => f a = .ok b) as bs := by
  induction as generalizing bs with
  | nil =>
      rw [List.mapM_nil, List.forall₂_nil_left_iff]
      exact ⟨fun h => by cases h; rfl, fun h => by rw [h]; rfl⟩
  | cons a as ih =>
      rw [List.mapM_cons, bind_eq_ok_iff, List.forall₂_cons_left_iff]
      constructor
      · rintro ⟨b, hb, h⟩
        obtain ⟨cs, hcs, h⟩ := bind_eq_ok_iff.1 h
        cases h
        exact ⟨b, cs, hb, ih.1 hcs, rfl⟩
      · rintro ⟨b, cs, hb, hcs, rfl⟩
        exact ⟨b, hb, bind_eq_ok_iff.2 ⟨cs, ih.2 hcs, rfl⟩⟩

/-- The first failure is the one that shows. -/
theorem mapM_eq_error_iff {f : α → Except ε β} {as : List α} {e : ε} :
    as.mapM f = .error e ↔ ∃ before a after, as = before ++ a :: after ∧
      (∀ x ∈ before, ∃ b, f x = .ok b) ∧ f a = .error e := by
  induction as with
  | nil =>
      constructor
      · intro h
        cases h
      · rintro ⟨before, a, after, h, -⟩
        cases before <;> cases h
  | cons a as ih =>
      rw [List.mapM_cons]
      cases ha : f a with
      | error d =>
          constructor
          · intro h
            cases h
            exact ⟨[], a, as, rfl, List.forall_mem_nil _, ha⟩
          · rintro ⟨_ | ⟨x, before⟩, b, after, h, hb, he⟩
            · cases h
              rw [ha] at he
              cases he
              rfl
            · cases h
              obtain ⟨c, hc⟩ := hb a List.mem_cons_self
              rw [ha] at hc
              cases hc
      | ok b =>
          have hrest : (do let b ← Except.ok b; let bs ← as.mapM f; pure (b :: bs)) =
              (Except.error e : Except ε (List β)) ↔ as.mapM f = .error e := by
            cases as.mapM f <;> simp [bind, Except.bind, pure, Except.pure]
          rw [hrest, ih]
          constructor
          · rintro ⟨before, x, after, rfl, hb, he⟩
            exact ⟨a :: before, x, after, rfl, List.forall_mem_cons.2 ⟨⟨b, ha⟩, hb⟩, he⟩
          · rintro ⟨_ | ⟨x, before⟩, y, after, h, hb, he⟩
            · cases h
              rw [ha] at he
              cases he
            · cases h
              exact ⟨before, y, after, rfl, (List.forall_mem_cons.1 hb).2, he⟩

theorem exists_mapM_eq_error_iff {f : α → Except ε β} {as : List α} :
    (∃ e, as.mapM f = .error e) ↔ ∃ a ∈ as, ∃ e, f a = .error e := by
  constructor
  · rintro ⟨e, h⟩
    obtain ⟨before, a, after, rfl, -, ha⟩ := mapM_eq_error_iff.1 h
    exact ⟨a, List.mem_append_right _ List.mem_cons_self, e, ha⟩
  · rintro ⟨a, ha, e, he⟩
    cases h : as.mapM f with
    | error d => exact ⟨d, rfl⟩
    | ok bs =>
        obtain ⟨before, after, rfl⟩ := List.append_of_mem ha
        rw [List.mapM_append, List.mapM_cons, he] at h
        cases hb : before.mapM f <;> rw [hb] at h <;> cases h

variable {γ : Type} {f : α → Option β} {a : α} {before after as : List α} {bs : List β}

theorem exists_of_mapM_append (h : (before ++ a :: after).mapM f = some bs) : ∃ xs y zs,
    before.mapM f = some xs ∧ f a = some y ∧ after.mapM f = some zs ∧ bs = xs ++ y :: zs := by
  rw [List.mapM_append, List.mapM_cons] at h
  obtain ⟨xs, hxs, h⟩ := Option.bind_eq_some_iff.1 h
  obtain ⟨ys, hys, h⟩ := Option.bind_eq_some_iff.1 h
  obtain ⟨y, hy, hys⟩ := Option.bind_eq_some_iff.1 hys
  obtain ⟨zs, hzs, hys⟩ := Option.bind_eq_some_iff.1 hys
  cases hys
  cases h
  exact ⟨xs, y, zs, hxs, hy, hzs, rfl⟩

theorem exists_of_mapM_differ {a' : α} {bs' : List β} (h : (before ++ a :: after).mapM f = some bs)
    (h' : (before ++ a' :: after).mapM f = some bs') : ∃ xs y y' zs, before.mapM f = some xs ∧
      f a = some y ∧ f a' = some y' ∧ bs = xs ++ y :: zs ∧ bs' = xs ++ y' :: zs := by
  obtain ⟨xs, y, zs, hxs, hy, hzs, rfl⟩ := exists_of_mapM_append h
  obtain ⟨xs', y', zs', hxs', hy', hzs', rfl⟩ := exists_of_mapM_append h'
  cases hxs.symm.trans hxs'
  cases hzs.symm.trans hzs'
  exact ⟨xs, y, y', zs, hxs, hy, hy', rfl, rfl⟩

theorem map_of_mapM {g : β → γ} {k : α → γ} (h : as.mapM f = some bs)
    (hf : ∀ a b, f a = some b → g b = k a) : bs.map g = as.map k := by
  induction as generalizing bs with
  | nil =>
      cases h
      rfl
  | cons a as ih =>
      rw [List.mapM_cons] at h
      obtain ⟨b, hb, h⟩ := Option.bind_eq_some_iff.1 h
      obtain ⟨bs, hbs, h⟩ := Option.bind_eq_some_iff.1 h
      cases h
      rw [List.map_cons, List.map_cons, hf a b hb, ih hbs]

theorem length_of_mapM (h : as.mapM f = some bs) : bs.length = as.length := by
  have hmap := congrArg List.length (map_of_mapM h (g := fun _ => ()) (k := fun _ => ()) fun _ _ _ => rfl)
  rwa [List.length_map, List.length_map] at hmap

end ChatTurn
