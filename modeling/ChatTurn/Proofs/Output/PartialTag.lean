import ChatTurn.Output.Decoder
import ChatTurn.Proofs.Text.Occurrence

namespace ChatTurn.Decoder

open FunctionTag (opening)

/-- The beginning of a function tag, short of all of it. -/
def IsPartialTag (cs : List Char) : Prop := cs.length < opening.length ∧ cs <+: opening

theorem IsPartialTag.nil : IsPartialTag [] := ⟨by decide, List.nil_prefix⟩

theorem IsPartialTag.of_append {cs more : List Char} (h : IsPartialTag (cs ++ more)) :
    IsPartialTag cs := by
  refine ⟨?_, (List.prefix_append cs more).trans h.2⟩
  have hl := h.1
  rw [List.length_append] at hl
  omega

theorem IsPartialTag.cut? {cs : List Char} (h : IsPartialTag cs) :
    Text.cut? opening cs = none := by
  rw [Text.cut?_eq_none_iff]
  intro hi
  have hl := hi.length_le
  have := h.1
  omega

theorem splitPartialTag_of_partial {cs : List Char} (h : IsPartialTag cs) :
    splitPartialTag cs = ([], cs) := by
  cases cs with
  | nil => rfl
  | cons c cs =>
      have hs : Text.startsWith (c :: cs) opening = true := Text.startsWith_iff.2 h.2
      have hl : cs.length + 1 < opening.length := h.1
      simp [splitPartialTag, hs, hl]

theorem splitPartialTag_cons {c : Char} {cs : List Char} (h : ¬ IsPartialTag (c :: cs)) :
    splitPartialTag (c :: cs) = (c :: (splitPartialTag cs).1, (splitPartialTag cs).2) := by
  have hf : ¬ (cs.length + 1 < opening.length ∧ Text.startsWith (c :: cs) opening = true) := by
    rw [Text.startsWith_iff]
    exact h
  simp only [splitPartialTag, Bool.and_eq_true, decide_eq_true_eq]
  rw [if_neg hf]

theorem append_splitPartialTag (cs : List Char) :
    (splitPartialTag cs).1 ++ (splitPartialTag cs).2 = cs := by
  induction cs with
  | nil => rfl
  | cons c cs ih =>
      by_cases h : IsPartialTag (c :: cs)
      · rw [splitPartialTag_of_partial h, List.nil_append]
      · rw [splitPartialTag_cons h, List.cons_append, ih]

theorem isPartialTag_held (cs : List Char) : IsPartialTag (splitPartialTag cs).2 := by
  induction cs with
  | nil => exact .nil
  | cons c cs ih =>
      by_cases h : IsPartialTag (c :: cs)
      · rw [splitPartialTag_of_partial h]
        exact h
      · rw [splitPartialTag_cons h]
        exact ih

/-- What is held after more text depends on what was held before and not on what was passed on. -/
theorem splitPartialTag_append (cs more : List Char) :
    splitPartialTag (cs ++ more) =
      ((splitPartialTag cs).1 ++ (splitPartialTag ((splitPartialTag cs).2 ++ more)).1,
        (splitPartialTag ((splitPartialTag cs).2 ++ more)).2) := by
  induction cs with
  | nil => rfl
  | cons c cs ih =>
      by_cases h : IsPartialTag (c :: cs)
      · rw [splitPartialTag_of_partial h, List.nil_append]
      · have hm : ¬ IsPartialTag (c :: (cs ++ more)) := fun hm => h (IsPartialTag.of_append hm)
        rw [splitPartialTag_cons h, List.cons_append, splitPartialTag_cons hm, ih]
        rfl

theorem cut?_append_of_held {cs : List Char} (h : Text.cut? opening cs = none)
    (more : List Char) :
    Text.cut? opening (cs ++ more) =
      (Text.cut? opening ((splitPartialTag cs).2 ++ more)).map
        fun p => ((splitPartialTag cs).1 ++ p.1, p.2) := by
  induction cs with
  | nil => simp [splitPartialTag]
  | cons c cs ih =>
      by_cases hp : IsPartialTag (c :: cs)
      · simp [splitPartialTag_of_partial hp]
      · have hn : ¬ opening <+: c :: (cs ++ more) := by
          intro hm
          rcases List.prefix_or_prefix_of_prefix hm (List.prefix_append (c :: cs) more) with ho | ho
          · exact Text.cut?_eq_none_iff.1 h ho.isInfix
          · apply hp
            refine ⟨Nat.lt_of_not_le fun hl => ?_, ho⟩
            have he : c :: cs = opening := ho.eq_of_length_le hl
            rw [he] at h
            exact Text.cut?_eq_none_iff.1 h List.infix_rfl
        have hc : Text.cut? opening cs = none := by
          rw [Text.cut?_eq_none_iff] at h ⊢
          exact fun hi => h (hi.trans (List.suffix_cons c cs).isInfix)
        rw [List.cons_append, Text.cut?_cons_of_not_startsWith hn, ih hc, splitPartialTag_cons hp,
          Option.map_map]
        rfl

end ChatTurn.Decoder
