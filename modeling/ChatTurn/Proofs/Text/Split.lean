import ChatTurn.Text.Split

namespace ChatTurn.Text

theorem exists_splitOn_cons (sep : Char) (cs : List Char) :
    ∃ part parts, splitOn sep cs = part :: parts :=
  List.exists_cons_of_ne_nil (splitOn_ne_nil sep cs)

theorem notMem_of_mem_splitOn {sep : Char} {cs part : List Char} (h : part ∈ splitOn sep cs) :
    sep ∉ part := by
  induction cs generalizing part with
  | nil =>
      rw [splitOn, List.mem_singleton] at h
      rw [h]
      exact List.not_mem_nil
  | cons c cs ih =>
      obtain ⟨p, ps, hs⟩ := exists_splitOn_cons sep cs
      rw [hs] at ih
      rw [splitOn, hs] at h
      dsimp only at h
      split at h
      · rcases List.mem_cons.1 h with rfl | h
        · exact List.not_mem_nil
        · exact ih h
      · next hc =>
          rcases List.mem_cons.1 h with rfl | h
          · rw [List.mem_cons]
            rintro (rfl | hm)
            · exact hc rfl
            · exact ih List.mem_cons_self hm
          · exact ih (List.mem_cons_of_mem _ h)

theorem splitOn_of_notMem {sep : Char} {part : List Char} (h : sep ∉ part) :
    splitOn sep part = [part] := by
  induction part with
  | nil => rfl
  | cons c cs ih =>
      rw [List.mem_cons, not_or] at h
      rw [splitOn, ih h.2]
      exact if_neg (Ne.symm h.1)

theorem splitOn_append_cons {sep : Char} {part : List Char} (h : sep ∉ part) (cs : List Char) :
    splitOn sep (part ++ sep :: cs) = part :: splitOn sep cs := by
  induction part with
  | nil =>
      obtain ⟨p, ps, hs⟩ := exists_splitOn_cons sep cs
      rw [List.nil_append, splitOn, hs]
      exact if_pos rfl
  | cons c part ih =>
      rw [List.mem_cons, not_or] at h
      rw [List.cons_append, splitOn, ih h.2]
      exact if_neg (Ne.symm h.1)

theorem splitOn_joinWith {sep : Char} {parts : List (List Char)} (hne : parts ≠ [])
    (h : ∀ part ∈ parts, sep ∉ part) : splitOn sep (joinWith sep parts) = parts := by
  induction parts with
  | nil => exact absurd rfl hne
  | cons part parts ih =>
      obtain ⟨hp, hps⟩ := List.forall_mem_cons.1 h
      cases parts with
      | nil => exact splitOn_of_notMem hp
      | cons p ps =>
          rw [joinWith, splitOn_append_cons hp, ih (List.cons_ne_nil _ _) hps]
          exact List.cons_ne_nil _ _

theorem joinWith_cons {parts : List (List Char)} (h : parts ≠ []) (sep : Char) (part : List Char) :
    joinWith sep (part :: parts) = part ++ sep :: joinWith sep parts := by
  obtain ⟨p, ps, rfl⟩ := List.exists_cons_of_ne_nil h
  rfl

theorem joinWith_append_cons (sep : Char) (parts parts' : List (List Char)) (l m r : List Char) :
    joinWith sep (parts ++ (l ++ m ++ r) :: parts') =
      joinWith sep (parts ++ [l]) ++ m ++ joinWith sep (r :: parts') := by
  induction parts with
  | nil => cases parts' <;> simp [joinWith]
  | cons part parts ih =>
      rw [List.cons_append, List.cons_append, joinWith_cons (List.append_ne_nil_of_right_ne_nil _ (by simp)),
        joinWith_cons (List.append_ne_nil_of_right_ne_nil _ (by simp)), ih]
      simp

end ChatTurn.Text
