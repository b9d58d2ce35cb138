import ChatTurn.Text.Search
import ChatTurn.Text.White

namespace ChatTurn.Text

variable {pat cs before after : List Char}

theorem startsWith_iff : startsWith pat cs = true ↔ pat <+: cs := by
  rw [startsWith, Option.isSome_iff_exists]
  constructor
  · rintro ⟨rest, h⟩
    exact ⟨rest, (stripStart?_eq_some_iff.1 h).symm⟩
  · rintro ⟨rest, h⟩
    exact ⟨rest, stripStart?_eq_some_iff.2 h.symm⟩

theorem endsWith_iff : endsWith pat cs = true ↔ pat <:+ cs := by
  rw [endsWith, stripEnd?, Option.isSome_map, ← List.reverse_prefix]
  exact startsWith_iff

theorem stripStart?_eq_none_iff : stripStart? pat cs = none ↔ ¬ pat <+: cs := by
  rw [← startsWith_iff, startsWith, Option.not_isSome_iff_eq_none]

theorem startsWith_of_ne {p c : Char} (h : p ≠ c) (pat cs : List Char) :
    startsWith (p :: pat) (c :: cs) = false := by
  simp [startsWith, stripStart?, h]

theorem stripEnd?_append (pat cs : List Char) : stripEnd? pat (cs ++ pat) = some cs := by
  simp [stripEnd?, List.reverse_append, stripStart?_eq_some_iff]

theorem cut?_eq_none_iff : cut? pat cs = none ↔ ¬ pat <:+: cs := by
  induction cs with
  | nil =>
      rw [cut?, Option.map_eq_none_iff, stripStart?_eq_none_iff, List.infix_nil, List.prefix_nil]
  | cons c cs ih =>
      rw [List.infix_cons_iff, not_or, ← stripStart?_eq_none_iff, ← ih]
      cases h : stripStart? pat (c :: cs) with
      | some rest => simp [cut?, h]
      | none => simp [cut?, h]

theorem isInfix_of_cut? (h : cut? pat cs = some (before, after)) : pat <:+: cs :=
  ⟨before, after, (eq_of_cut? h).symm⟩

theorem exists_cut? (h : pat <:+: cs) : ∃ before after, cut? pat cs = some (before, after) := by
  cases hc : cut? pat cs with
  | none => exact absurd h (cut?_eq_none_iff.1 hc)
  | some p => exact ⟨p.1, p.2, rfl⟩

theorem cut?_cons_of_not_startsWith {c : Char} (h : ¬ pat <+: c :: cs) :
    cut? pat (c :: cs) = (cut? pat cs).map fun p => (c :: p.1, p.2) := by
  rw [cut?, stripStart?_eq_none_iff.2 h]

theorem cut?_of_prefix (rest : List Char) : cut? pat (pat ++ rest) = some ([], rest) := by
  have h : stripStart? pat (pat ++ rest) = some rest := stripStart?_eq_some_iff.2 rfl
  cases he : pat ++ rest with
  | nil =>
      rw [he] at h
      simp [cut?, h]
  | cons c cs =>
      rw [he] at h
      simp [cut?, h]

theorem cut?_append_of_eq_some (h : cut? pat cs = some (before, after)) (more : List Char) :
    cut? pat (cs ++ more) = some (before, after ++ more) := by
  induction cs generalizing before with
  | nil =>
      have he : [] = before ++ pat ++ after := eq_of_cut? h
      simp only [List.nil_eq, List.append_eq_nil_iff] at he
      obtain ⟨⟨rfl, rfl⟩, rfl⟩ := he
      exact cut?_of_prefix more
  | cons c cs ih =>
      by_cases hp : pat <+: c :: cs
      · obtain ⟨rest, hr⟩ := hp
        rw [← hr, cut?_of_prefix, Option.some.injEq, Prod.mk.injEq] at h
        obtain ⟨rfl, rfl⟩ := h
        rw [← hr, List.append_assoc, cut?_of_prefix]
      · rw [cut?_cons_of_not_startsWith hp, Option.map_eq_some_iff] at h
        obtain ⟨⟨b, a⟩, hc, he⟩ := h
        simp only [Prod.mk.injEq] at he
        obtain ⟨rfl, rfl⟩ := he
        -- The pattern fits into `cs`, so it cannot reach from `c` into the new text.
        have hn : ¬ pat <+: c :: (cs ++ more) := by
          intro hm
          apply hp
          apply List.prefix_of_prefix_length_le hm (List.prefix_append (c :: cs) more)
          have hl := (isInfix_of_cut? hc).length_le
          simp only [List.length_cons]
          omega
        rw [List.cons_append, cut?_cons_of_not_startsWith hn, ih hc]
        rfl

theorem cut?_append_of_head_not_mem {c : Char} (h : c ∉ before) (pat after : List Char) :
    cut? (c :: pat) (before ++ after) =
      (cut? (c :: pat) after).map fun p => (before ++ p.1, p.2) := by
  induction before with
  | nil => exact Option.map_id'.symm
  | cons b before ih =>
      obtain ⟨hb, h⟩ := not_or.1 (mt List.mem_cons.2 h)
      have hn : ¬ c :: pat <+: b :: (before ++ after) :=
        fun hp => hb (List.cons_prefix_cons.1 hp).1
      rw [List.cons_append, cut?_cons_of_not_startsWith hn, ih h, Option.map_map]
      rfl

theorem cut?_append_of_not_mem {c : Char} (h : c ∉ before) (pat after : List Char) :
    cut? (c :: pat) (before ++ (c :: pat ++ after)) = some (before, after) := by
  rw [cut?_append_of_head_not_mem h, cut?_of_prefix, Option.map_some, List.append_nil]

/-- A pattern that has its first character only once does not overlap itself. -/
theorem cut?_append_self {c : Char} {tail : List Char} (he : pat = c :: tail) (hc : c ∉ tail)
    (h : ¬ pat <:+: before) (after : List Char) :
    cut? pat (before ++ (pat ++ after)) = some (before, after) := by
  subst he
  induction before with
  | nil => exact cut?_of_prefix after
  | cons b before ih =>
      obtain ⟨hb, h⟩ := not_or.1 (mt List.infix_cons_iff.2 h)
      have hn : ¬ c :: tail <+: b :: (before ++ (c :: tail ++ after)) := by
        intro hp
        obtain ⟨rfl, hpat⟩ := List.cons_prefix_cons.1 hp
        rcases List.prefix_or_prefix_of_prefix hpat (List.prefix_append before _) with hq | ⟨t, rfl⟩
        · exact hb (List.cons_prefix_cons.2 ⟨rfl, hq⟩)
        · cases t with
          | nil =>
              rw [List.append_nil] at hb
              exact hb List.prefix_rfl
          | cons d t =>
              have hd := (List.prefix_append_right_inj before).1 hpat
              obtain ⟨rfl, -⟩ := List.cons_prefix_cons.1 hd
              exact hc (List.mem_append_right before List.mem_cons_self)
      rw [List.cons_append, cut?_cons_of_not_startsWith hn, ih h]
      rfl

theorem cut?_singleton {c : Char} (h : c ∉ before) (after : List Char) :
    cut? [c] (before ++ c :: after) = some (before, after) :=
  cut?_append_of_not_mem h [] after

/-- A cut is at the first of all occurrences. -/
theorem cut?_eq_some_iff : cut? pat cs = some (before, after) ↔
    cs = before ++ pat ++ after ∧ ∀ u v, cs = u ++ pat ++ v → before.length ≤ u.length := by
  have hfirst : ∀ {u v b a : List Char}, cut? pat (u ++ pat ++ v) = some (b, a) →
      b.length ≤ u.length := by
    intro u v b a h
    obtain ⟨b', a', hc⟩ := exists_cut? (List.suffix_append u pat).isInfix
    have hl := length_of_cut? hc
    rw [cut?_append_of_eq_some hc v, Option.some.injEq, Prod.mk.injEq] at h
    rw [List.length_append] at hl
    rw [← h.1]
    omega
  constructor
  · intro h
    refine ⟨eq_of_cut? h, fun u v he => ?_⟩
    rw [he] at h
    exact hfirst h
  · rintro ⟨he, hmin⟩
    obtain ⟨b, a, hc⟩ := exists_cut? ⟨before, after, he.symm⟩
    have hle := hmin b a (eq_of_cut? hc)
    have hge : b.length ≤ before.length := by
      rw [he] at hc
      exact hfirst hc
    have hb : before ++ (pat ++ after) = b ++ (pat ++ a) := by
      rw [← List.append_assoc, ← List.append_assoc, ← he, ← eq_of_cut? hc]
    obtain ⟨rfl, ha⟩ := List.append_inj hb (Nat.le_antisymm hle hge)
    rw [hc, List.append_cancel_left ha]

theorem cut?_of_part (xs ys : List Char)
    (h : cut? pat (xs ++ (before ++ pat ++ after) ++ ys) = some (xs ++ before, after ++ ys)) :
    cut? pat (before ++ pat ++ after) = some (before, after) := by
  rw [cut?_eq_some_iff] at h ⊢
  refine ⟨rfl, fun u v he => ?_⟩
  have hle := h.2 (xs ++ u) (v ++ ys) (by simp only [he, List.append_assoc])
  rw [List.length_append, List.length_append] at hle
  exact Nat.le_of_add_le_add_left hle

theorem not_isInfix_before (hp : pat ≠ []) (h : cut? pat cs = some (before, after)) :
    ¬ pat <:+: before := by
  rw [← cut?_eq_none_iff]
  cases hb : cut? pat before with
  | none => rfl
  | some p =>
      obtain ⟨b, a⟩ := p
      have he : cut? pat cs = some (b, a ++ (pat ++ after)) := by
        rw [eq_of_cut? h, List.append_assoc]
        exact cut?_append_of_eq_some hb _
      rw [he, Option.some.injEq, Prod.mk.injEq] at h
      have hl := length_of_cut? hb
      have := List.length_pos_iff.2 hp
      rw [h.1] at hl
      omega

theorem isInfix_append_iff_of_not_mem {c : Char} (h : c ∉ before) :
    c :: pat <:+: before ++ after ↔ c :: pat <:+: after := by
  constructor
  · intro hi
    obtain ⟨b, a, hc⟩ := exists_cut? hi
    rw [cut?_append_of_head_not_mem h] at hc
    obtain ⟨p, hp, -⟩ := Option.map_eq_some_iff.1 hc
    exact isInfix_of_cut? hp
  · exact List.infix_append_of_infix_right

theorem isInfix_append_cons_iff {c : Char} (hp : pat ≠ []) (h : c ∉ pat) :
    pat <:+: before ++ c :: after ↔ pat <:+: before ∨ pat <:+: after := by
  constructor
  · intro hi
    rcases List.infix_append_iff_ne_nil.1 hi with hi | hi | ⟨a, b, -, hb, rfl, -, hbp⟩
    · exact .inl hi
    · rcases List.infix_cons_iff.1 hi with hi | hi
      · obtain ⟨d, pat, rfl⟩ := List.exists_cons_of_ne_nil hp
        obtain ⟨rfl, -⟩ := List.cons_prefix_cons.1 hi
        exact absurd List.mem_cons_self h
      · exact .inr hi
    · obtain ⟨d, b, rfl⟩ := List.exists_cons_of_ne_nil hb
      obtain ⟨rfl, -⟩ := List.cons_prefix_cons.1 hbp
      exact absurd (List.mem_append_right a List.mem_cons_self) h
  · rintro (hi | hi)
    · exact List.infix_append_of_infix_left hi
    · exact List.infix_append_of_infix_right (List.infix_cons hi)

end ChatTurn.Text
