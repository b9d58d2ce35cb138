import ChatTurn.Text.Search

namespace ChatTurn.Text

variable {pat b : List Char} {ps : List (List Char)}

/-- The pattern begins in one piece and ends in a later one, and those between are all in it. -/
def Spliced (pat : List Char) (ps : List (List Char)) : Prop :=
  ∃ before p mid q after, ps = before ++ p :: (mid ++ q :: after) ∧
    ∃ a b, a ≠ [] ∧ b ≠ [] ∧ a <:+ p ∧ b <+: q ∧ pat = a ++ (mid.flatten ++ b)

theorem exists_prefix_of_flatten (hb : b ≠ []) (h : b <+: ps.flatten) :
    ∃ mid q after b', ps = mid ++ q :: after ∧ b' ≠ [] ∧ b' <+: q ∧ b = mid.flatten ++ b' := by
  induction ps generalizing b with
  | nil => exact absurd (List.prefix_nil.1 h) hb
  | cons p ps ih =>
      rw [List.flatten_cons] at h
      rcases List.prefix_or_prefix_of_prefix h (List.prefix_append p _) with hp | ⟨c, rfl⟩
      · exact ⟨[], p, ps, b, rfl, hb, hp, rfl⟩
      · by_cases hc : c = []
        · rw [hc, List.append_nil] at hb ⊢
          exact ⟨[], p, ps, p, rfl, hb, List.prefix_rfl, rfl⟩
        · obtain ⟨mid, q, after, b', rfl, hb', hq, rfl⟩ :=
            ih hc ((List.prefix_append_right_inj p).1 h)
          exact ⟨p :: mid, q, after, b', rfl, hb', hq, (List.append_assoc _ _ _).symm⟩

theorem isInfix_flatten_iff (hne : pat ≠ []) (hn : ∀ p ∈ ps, ¬ pat <:+: p) :
    pat <:+: ps.flatten ↔ Spliced pat ps := by
  constructor
  · intro h
    induction ps with
    | nil => exact absurd (List.infix_nil.1 h) hne
    | cons p ps ih =>
        obtain ⟨hp, hn⟩ := List.forall_mem_cons.1 hn
        rw [List.flatten_cons, List.infix_append_iff_ne_nil] at h
        rcases h with h | h | ⟨a, b, ha, hb, rfl, hap, hbp⟩
        · exact absurd h hp
        · obtain ⟨before, p', mid, q, after, rfl, hs⟩ := ih hn h
          exact ⟨p :: before, p', mid, q, after, rfl, hs⟩
        · obtain ⟨mid, q, after, b', rfl, hb', hq, rfl⟩ := exists_prefix_of_flatten hb hbp
          exact ⟨[], p, mid, q, after, rfl, a, b', ha, hb', hap, hq, rfl⟩
  · rintro ⟨before, p, mid, q, after, rfl, a, b, -, -, ⟨u, rfl⟩, ⟨v, rfl⟩, rfl⟩
    exact ⟨before.flatten ++ u, v ++ after.flatten, by simp⟩

end ChatTurn.Text
