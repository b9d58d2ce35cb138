import Mathlib.Data.List.Basic

namespace ChatTurn.Toml.Parser

variable {α β γ : Type} {f : List Char → Option (α × List Char)} {cs rest t x y : List Char}

/-- A reader takes its text off the front. Where it stops before a double quote or earlier, what
stands behind that quote makes no difference to it. -/
structure IsLocal (f : List Char → Option (α × List Char)) : Prop where
  suffix : ∀ {cs a rest}, f cs = some (a, rest) → rest <:+ cs
  ahead : ∀ {x t a y}, f (x ++ '"' :: t) = some (a, y ++ '"' :: t) →
    ∀ t', f (x ++ '"' :: t') = some (a, y ++ '"' :: t')

def passing (f : List Char → Option (List Char)) (cs : List Char) : Option (Unit × List Char) :=
  (f cs).map fun rest => ((), rest)

def branch (c : Char) (g k : List Char → Option (α × List Char)) (cs : List Char) :
    Option (α × List Char) :=
  if cs.head? = some c then g cs.tail else k cs

theorem branch_of_ne {c : Char} {g k : List Char → Option (α × List Char)}
    (h : ∀ rest, cs = c :: rest → False) : branch c g k cs = k cs := by
  refine if_neg fun hc => ?_
  obtain ⟨rest, rfl⟩ := List.head?_eq_some_iff.1 hc
  exact h rest rfl

theorem not_suffix (y t : List Char) (c : Char) : ¬ y ++ c :: t <:+ t := by
  intro h
  have hl := h.length_le
  rw [List.length_append, List.length_cons] at hl
  omega

namespace IsLocal

theorem pure (a : α) : IsLocal fun cs => some (a, cs) where
  suffix h := by
    cases h
    exact List.suffix_refl _
  ahead h t' := by
    obtain ⟨rfl, hr⟩ := Prod.mk.inj (Option.some.inj h)
    rw [List.append_cancel_right hr]

theorem fail : IsLocal fun _ => (none : Option (α × List Char)) where
  suffix h := by cases h
  ahead h := by cases h

theorem bind {g : α → List Char → Option (β × List Char)} (hf : IsLocal f) (hg : ∀ a, IsLocal (g a)) :
    IsLocal fun cs => (f cs).bind fun p => g p.1 p.2 where
  suffix h := by
    obtain ⟨p, hp, h⟩ := Option.bind_eq_some_iff.1 h
    exact ((hg _).suffix h).trans (hf.suffix hp)
  ahead h t' := by
    obtain ⟨⟨a, r⟩, hp, h⟩ := Option.bind_eq_some_iff.1 h
    obtain ⟨z, rfl⟩ := (hg a).suffix h
    rw [← List.append_assoc] at hp h
    rw [hf.ahead hp t', Option.bind_some]
    exact (hg a).ahead h t'

theorem map {g : α → β} (hf : IsLocal f) : IsLocal fun cs => (f cs).map fun p => (g p.1, p.2) := by
  have h := hf.bind fun a => pure (g a)
  simpa only [Option.map_eq_bind, Function.comp_def] using h

theorem filterMap (hf : IsLocal f) (g : α → Option β) :
    IsLocal fun cs => (f cs).bind fun p => (g p.1).map fun b => (b, p.2) :=
  hf.bind (g := fun a cs => (g a).map fun b => (b, cs)) fun a => by
    cases g a with
    | none => exact .fail
    | some b => exact .pure b

theorem bind_passing {f : List Char → Option (List Char)} {g : List Char → Option (β × List Char)}
    (hf : IsLocal (passing f)) (hg : IsLocal g) : IsLocal fun cs => (f cs).bind g := by
  have h := hf.bind fun _ => hg
  simpa only [passing, Option.bind_map, Function.comp_def] using h

theorem map_passing {f : List Char → Option (List Char)} (hf : IsLocal (passing f)) (a : α) :
    IsLocal fun cs => (f cs).map fun rest => (a, rest) := by
  have h := hf.map (g := fun _ => a)
  simpa only [passing, Option.map_map, Function.comp_def] using h

theorem congr {g : List Char → Option (α × List Char)} (hf : IsLocal f) (h : ∀ cs, g cs = f cs) :
    IsLocal g := by
  obtain rfl : g = f := funext h
  exact hf

theorem of_head {g k : List Char → Option (α × List Char)} (c : Char)
    (hc : ∀ cs, f (c :: cs) = g cs) (hn : ∀ cs, cs.head? ≠ some c → f cs = k cs)
    (hg : IsLocal g) (hk : IsLocal k) : IsLocal f where
  suffix := by
    intro cs a rest h
    by_cases hcs : cs.head? = some c
    · obtain ⟨cs, rfl⟩ := List.head?_eq_some_iff.1 hcs
      rw [hc] at h
      exact (hg.suffix h).trans (List.suffix_cons c cs)
    · rw [hn cs hcs] at h
      exact hk.suffix h
  ahead := by
    intro x t a y h t'
    -- The first character is the quote or stands before it, whatever is behind the quote.
    have hhead : ∀ t, (x ++ '"' :: t).head? = some (x.head?.getD '"') := by
      intro t
      cases x <;> rfl
    by_cases hx : x.head?.getD '"' = c
    · cases x with
      | nil =>
          obtain rfl : '"' = c := hx
          rw [List.nil_append, hc] at h
          exact absurd (hg.suffix h) (not_suffix y t '"')
      | cons d x =>
          obtain rfl : d = c := hx
          rw [List.cons_append, hc] at h ⊢
          exact hg.ahead h t'
    · have hne : ∀ t, (x ++ '"' :: t).head? ≠ some c := by
        intro t he
        rw [hhead, Option.some.injEq] at he
        exact hx he
      rw [hn _ (hne t)] at h
      rw [hn _ (hne t')]
      exact hk.ahead h t'

theorem branch {g k : List Char → Option (α × List Char)} (c : Char) (hg : IsLocal g)
    (hk : IsLocal k) : IsLocal (Parser.branch c g k) :=
  .of_head c (fun _ => if_pos rfl) (fun _ hcs => if_neg hcs) hg hk

theorem of_cons (hnil : f [] = none) (hcons : ∀ c, IsLocal fun cs => f (c :: cs)) : IsLocal f where
  suffix := by
    intro cs a rest h
    cases cs with
    | nil =>
        rw [hnil] at h
        cases h
    | cons c cs => exact ((hcons c).suffix h).trans (List.suffix_cons c cs)
  ahead := by
    intro x t a y h t'
    cases x with
    | nil => exact absurd ((hcons '"').suffix h) (not_suffix y t '"')
    | cons c x => exact (hcons c).ahead h t'

theorem of_test {p : List Char → γ} {g : γ → List Char → Option (α × List Char)}
    (hp : ∀ y t t', p (y ++ '"' :: t) = p (y ++ '"' :: t')) (hg : ∀ o, IsLocal (g o)) :
    IsLocal fun cs => g (p cs) cs where
  suffix h := (hg _).suffix h
  ahead {x t a y} h t' := by
    rw [hp x t' t]
    exact (hg _).ahead h t'

theorem orElse {e : List Char → Option (List Char)} {g k : List Char → Option (α × List Char)}
    (he : IsLocal (passing e))
    (hsome : ∀ y t t', (e (y ++ '"' :: t)).isSome = (e (y ++ '"' :: t')).isSome)
    (hg : IsLocal g) (hk : IsLocal k) :
    IsLocal fun cs => match e cs with
      | some rest => g rest
      | none => k cs where
  suffix := by
    intro cs a rest h
    cases hcs : e cs with
    | none =>
        rw [hcs] at h
        exact hk.suffix h
    | some r =>
        rw [hcs] at h
        exact (hg.suffix h).trans (he.suffix (congrArg (Option.map ((), ·)) hcs))
  ahead := by
    intro x t a y h t'
    cases hcs : e (x ++ '"' :: t) with
    | none =>
        rw [hcs] at h
        have hnone : e (x ++ '"' :: t') = none := by
          rw [← Option.not_isSome_iff_eq_none, hsome x t' t, hcs]
          exact Bool.false_ne_true
        rw [hnone]
        exact hk.ahead h t'
    | some r =>
        rw [hcs] at h
        obtain ⟨z, rfl⟩ := hg.suffix h
        rw [← List.append_assoc] at hcs h
        obtain ⟨r, hr, hp⟩ := Option.map_eq_some_iff.1
          (he.ahead (congrArg (Option.map ((), ·)) hcs) t')
        cases hp
        rw [hr]
        exact hg.ahead h t'

/-- Fuel that grows with the text is enough everywhere, if it is anywhere. -/
theorem of_fuel {f : Nat → List Char → Option (α × List Char)} (hf : ∀ n, IsLocal (f n))
    (henough : ∀ {n m cs r}, f n cs = some r → cs.length < m → f m cs = some r) :
    IsLocal fun cs => f (cs.length + 1) cs where
  suffix h := (hf _).suffix h
  ahead h t' := henough ((hf _).ahead h t') (Nat.lt_succ_self _)

end IsLocal

theorem dropWhile_ahead {p : Char → Bool} (h : (x ++ '"' :: t).dropWhile p = y ++ '"' :: t)
    (t' : List Char) : (x ++ '"' :: t').takeWhile p = (x ++ '"' :: t).takeWhile p ∧
      (x ++ '"' :: t').dropWhile p = y ++ '"' :: t' := by
  induction x with
  | nil =>
      rw [List.nil_append] at h ⊢
      cases hq : p '"' with
      | true =>
          rw [List.dropWhile_cons_of_pos hq] at h
          exact absurd (h ▸ List.dropWhile_suffix p) (not_suffix y t '"')
      | false =>
          have hneg : ¬ p '"' = true := Bool.eq_false_iff.1 hq
          rw [List.dropWhile_cons_of_neg hneg] at h
          obtain rfl : [] = y := List.append_cancel_right (show [] ++ '"' :: t = y ++ '"' :: t from h)
          rw [List.nil_append, List.takeWhile_cons_of_neg hneg, List.takeWhile_cons_of_neg hneg,
            List.dropWhile_cons_of_neg hneg]
          exact ⟨rfl, rfl⟩
  | cons c x ih =>
      rw [List.cons_append] at h
      rw [List.cons_append, List.cons_append]
      by_cases hc : p c = true
      · rw [List.dropWhile_cons_of_pos hc] at h
        rw [List.takeWhile_cons_of_pos hc, List.takeWhile_cons_of_pos hc,
          List.dropWhile_cons_of_pos hc, (ih h).1]
        exact ⟨rfl, (ih h).2⟩
      · rw [List.dropWhile_cons_of_neg hc, ← List.cons_append] at h
        obtain rfl : c :: x = y := List.append_cancel_right h
        rw [List.takeWhile_cons_of_neg hc, List.takeWhile_cons_of_neg hc,
          List.dropWhile_cons_of_neg hc]
        exact ⟨rfl, rfl⟩

theorem isLocal_takeWhile (p : Char → Bool) :
    IsLocal fun cs => some (cs.takeWhile p, cs.dropWhile p) where
  suffix h := by
    cases h
    exact List.dropWhile_suffix p
  ahead h t' := by
    obtain ⟨rfl, hr⟩ := Prod.mk.inj (Option.some.inj h)
    obtain ⟨h₁, h₂⟩ := dropWhile_ahead hr t'
    rw [h₁, h₂]

end ChatTurn.Toml.Parser
