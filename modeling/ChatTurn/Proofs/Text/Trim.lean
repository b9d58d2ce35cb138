import ChatTurn.Text.White

namespace ChatTurn

theorem isWhite_of_visible {c : Char} (h : 0x20 < c.toNat ∧ c.toNat < 0x7F) :
    isWhite c = false := by
  rw [Bool.eq_false_iff]
  intro hw
  simp only [isWhite, Bool.or_eq_true, Bool.and_eq_true, decide_eq_true_eq, beq_iff_eq] at hw
  omega

namespace Text

variable {cs : List Char} {c : Char}

theorem isBlank_iff : isBlank cs = true ↔ ∀ c ∈ cs, isWhite c = true := List.all_eq_true

theorem trimStart_eq_nil_iff : trimStart cs = [] ↔ isBlank cs = true := by
  rw [isBlank_iff]
  induction cs with
  | nil => simp [trimStart]
  | cons c cs ih =>
      rw [trimStart] at ih ⊢
      by_cases h : isWhite c = true
      · simp [h, ih]
      · simp [h]

theorem trim_of_isBlank (h : isBlank cs = true) : trim cs = [] := by
  rw [trim, trimStart_eq_nil_iff.2 h]
  rfl

theorem trimStart_append {rest : List Char} (h : trimStart cs = c :: rest) (more : List Char) :
    trimStart (cs ++ more) = c :: rest ++ more := by
  induction cs with
  | nil => cases h
  | cons d cs ih =>
      rw [trimStart] at h ih ⊢
      by_cases hd : isWhite d = true
      · rw [List.dropWhile_cons_of_pos hd] at h
        rw [List.cons_append, List.dropWhile_cons_of_pos hd]
        exact ih h
      · rw [List.dropWhile_cons_of_neg hd] at h
        rw [← h, List.cons_append, List.dropWhile_cons_of_neg hd]

theorem trimStart_eq_self (h : ∀ c ∈ cs.head?, isWhite c = false) : trimStart cs = cs := by
  cases cs with
  | nil => rfl
  | cons c cs => exact List.dropWhile_cons_of_neg (by simp [h c rfl])

theorem trimEnd_eq_self (h : ∀ c ∈ cs.getLast?, isWhite c = false) : trimEnd cs = cs := by
  have hr : trimStart cs.reverse = cs.reverse := trimStart_eq_self (by rwa [List.head?_reverse])
  rw [trimStart] at hr
  rw [trimEnd, hr, List.reverse_reverse]

theorem count_dropWhile (hc : isWhite c = false) (cs : List Char) :
    (cs.dropWhile isWhite).count c = cs.count c := by
  induction cs with
  | nil => rfl
  | cons d cs ih =>
      by_cases hd : isWhite d = true
      · have hne : d ≠ c := by
          rintro rfl
          rw [hd] at hc
          cases hc
        rw [List.dropWhile_cons_of_pos hd, ih, List.count_cons_of_ne hne]
      · rw [List.dropWhile_cons_of_neg hd]

theorem count_trimEnd (hc : isWhite c = false) (cs : List Char) :
    (trimEnd cs).count c = cs.count c := by
  rw [trimEnd, List.count_reverse, count_dropWhile hc, List.count_reverse]

theorem exists_eq_trimEnd_append (cs : List Char) :
    ∃ white, cs = trimEnd cs ++ white ∧ ∀ c ∈ white, isWhite c = true := by
  refine ⟨(cs.reverse.takeWhile isWhite).reverse, ?_, fun c hc => ?_⟩
  · rw [trimEnd, ← List.reverse_append, List.takeWhile_append_dropWhile, List.reverse_reverse]
  · exact List.all_eq_true.1 List.all_takeWhile c (List.mem_reverse.1 hc)

theorem exists_eq_append_trim (cs : List Char) : ∃ before after, cs = before ++ (trim cs ++ after) ∧
    (∀ c ∈ before, isWhite c = true) ∧ ∀ c ∈ after, isWhite c = true := by
  obtain ⟨after, he, ha⟩ := exists_eq_trimEnd_append (trimStart cs)
  refine ⟨cs.takeWhile isWhite, after, ?_, fun c hc => List.all_eq_true.1 List.all_takeWhile c hc, ha⟩
  rw [trim, ← he, trimStart, List.takeWhile_append_dropWhile]

/-- What ends in no white space is found in a text just where it is found in the trimmed text. -/
theorem isInfix_trimEnd_iff (hc : isWhite c = false) (pat : List Char) :
    pat ++ [c] <:+: trimEnd cs ↔ pat ++ [c] <:+: cs := by
  obtain ⟨white, he, hw⟩ := exists_eq_trimEnd_append cs
  have hnot : c ∉ white := fun hm => by
    rw [hw c hm] at hc
    cases hc
  constructor
  · intro h
    rw [he]
    exact List.infix_append_of_infix_left h
  · intro h
    rw [he, List.infix_append_iff_ne_nil] at h
    rcases h with h | h | ⟨a, b, -, hb, hab, -, hbw⟩
    · exact h
    · exact absurd (h.subset (List.mem_concat_self)) hnot
    · have hlast := congrArg List.getLast? hab
      rw [List.getLast?_concat, List.getLast?_append, List.getLast?_eq_some_getLast hb,
        Option.some_or, Option.some.injEq] at hlast
      exact absurd (hbw.subset (hlast ▸ List.getLast_mem hb)) hnot

/-- A text whose ends are no white space, so that trimming leaves it as it is. -/
structure IsTight (cs : List Char) : Prop where
  head : ∃ c, cs.head? = some c ∧ isWhite c = false
  last : ∃ c, cs.getLast? = some c ∧ isWhite c = false

namespace IsTight

theorem trim_around {before after : List Char} (h : IsTight cs)
    (hbefore : ∀ c ∈ before, isWhite c = true) (hafter : ∀ c ∈ after, isWhite c = true) :
    Text.trim (before ++ (cs ++ after)) = cs := by
  obtain ⟨a, ha, hwa⟩ := h.head
  obtain ⟨b, hb, hwb⟩ := h.last
  have hstart : trimStart (before ++ (cs ++ after)) = cs ++ after := by
    rw [trimStart, List.dropWhile_append_of_pos hbefore]
    refine trimStart_eq_self ?_
    rw [List.head?_append, ha, Option.some_or]
    rintro c ⟨⟩
    exact hwa
  have hend : trimEnd (cs ++ after) = trimEnd cs := by
    rw [trimEnd, List.reverse_append,
      List.dropWhile_append_of_pos fun c hc => hafter c (List.mem_reverse.1 hc), trimEnd]
  rw [Text.trim, hstart, hend, trimEnd_eq_self]
  rw [hb]
  rintro c ⟨⟩
  exact hwb

theorem trim (h : IsTight cs) : Text.trim cs = cs := by
  have ht := h.trim_around (List.forall_mem_nil _) (List.forall_mem_nil _)
  rwa [List.nil_append, List.append_nil] at ht

theorem isBlank_eq_false (h : IsTight cs) : isBlank cs = false := by
  obtain ⟨a, ha, hwa⟩ := h.head
  rw [Bool.eq_false_iff, ne_eq, isBlank_iff]
  intro hb
  rw [hb a (List.mem_of_mem_head? ha)] at hwa
  cases hwa

theorem of_forall (hne : cs ≠ []) (h : ∀ c ∈ cs, isWhite c = false) : IsTight cs := by
  refine ⟨⟨cs.head hne, List.head?_eq_some_head hne, h _ (List.head_mem hne)⟩, ?_⟩
  exact ⟨cs.getLast hne, List.getLast?_eq_some_getLast hne, h _ (List.getLast_mem hne)⟩

theorem around {ds : List Char} (hc : IsTight cs) (hd : IsTight ds) (mid : List Char) :
    IsTight (cs ++ (mid ++ ds)) := by
  obtain ⟨a, ha, hwa⟩ := hc.head
  obtain ⟨b, hb, hwb⟩ := hd.last
  refine ⟨⟨a, ?_, hwa⟩, ⟨b, ?_, hwb⟩⟩
  · rw [List.head?_append, ha, Option.some_or]
  · rw [List.getLast?_append, List.getLast?_append, hb, Option.some_or, Option.some_or]

theorem singleton (h : isWhite c = false) : IsTight [c] :=
  .of_forall (List.cons_ne_nil c []) (List.forall_mem_singleton.2 h)

end IsTight

end Text

end ChatTurn
