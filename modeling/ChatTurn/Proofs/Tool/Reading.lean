import ChatTurn.Proofs.Json.Value
import ChatTurn.Proofs.Outcomes
import ChatTurn.Tool.CallText

namespace ChatTurn

theorem Arguments.proper_of_parse {cs : List Char} {as : Arguments}
    (h : Arguments.parse cs = .ok as) : (Argument.map as).Proper := by
  simp only [Arguments.parse] at h
  split at h
  · cases h
    exact Argument.proper_map_nil
  · split at h
    · next hv =>
        cases h
        exact Json.proper_of_parseValue? hv
    · cases h
    · cases h

namespace JsonCall

variable {members : List (String × Json.Value)}

theorem proper_arguments {as : Arguments} (hm : (Argument.ofValue (.object members)).Proper)
    (h : arguments members = .ok as) : (Argument.map as).Proper := by
  rw [arguments] at h
  split at h
  · cases h
    exact Argument.proper_map_nil
  · next hg =>
      cases h
      rcases Option.or_eq_some_iff.1 hg with hg | ⟨-, hg⟩
      · exact Argument.proper_of_get? hm hg
      · exact Argument.proper_of_get? hm hg
  · exact Arguments.proper_of_parse h
  · cases h

theorem proper_of_parse {cs : List Char} {i : Invocation} (h : parse cs = .ok i) : i.Proper := by
  rw [parse, mapError_eq_ok_iff] at h
  split at h
  · cases h
  · next hv =>
      simp only [ofMembers] at h
      split at h
      · split at h
        · obtain ⟨as, has, rfl⟩ := map_eq_ok_iff.1 h
          exact proper_arguments (Json.proper_of_parseValue? hv) has
        · cases h
      · cases h
  · cases h

end JsonCall

namespace Literal

theorem toLower_of_isNumeric {c : Char} (h : isNumeric c = true) : c.toLower ≠ 'n' := by
  simp only [isNumeric, Double.isDigit, Bool.or_eq_true, decide_eq_true_eq, beq_iff_eq] at h
  rcases h with ((((h | rfl) | rfl) | rfl) | rfl) | rfl
  · have hc : ¬ (c.val ≥ 'A'.val ∧ c.val ≤ 'Z'.val) := by
      rintro ⟨hA, -⟩
      exact absurd (UInt32.le_trans hA h.2) (by decide)
    have hl : c.toLower = c := dif_neg hc
    rw [hl]
    rintro rfl
    exact absurd h.2 (by decide)
  all_goals decide

theorem mem_of_mem_takeSign {cs : List Char} {c : Char} (h : c ∈ (Double.takeSign cs).2) :
    c ∈ cs := by
  unfold Double.takeSign at h
  split at h
  · exact List.mem_cons_of_mem _ h
  · exact List.mem_cons_of_mem _ h
  · exact h

theorem isNaN_of_parse? {cs : List Char} {x : Double} (hn : cs.all isNumeric = true)
    (h : Double.parse? cs = some x) : x.isNaN = false := by
  simp only [Double.parse?] at h
  split at h
  · cases h
    exact Double.isNaN_ofMagnitude _ (Nat.le_refl _)
  · split at h
    · next hb =>
        obtain ⟨c, hc, hl⟩ := List.mem_map.1 (hb ▸ (by decide : 'n' ∈ "nan".toList))
        exact absurd hl (toLower_of_isNumeric (List.all_eq_true.1 hn c (mem_of_mem_takeSign hc)))
    · exact Double.isNaN_of_ofDigits? h

theorem proper_of_number? {cs : List Char} {a : Argument} (h : number? cs = some a) :
    a.Proper := by
  rw [number?] at h
  split at h
  · cases h
  · next hn =>
      split at h
      · cases h
        exact .integer _
      · obtain ⟨x, hx, rfl⟩ := Option.map_eq_some_iff.1 h
        rw [Bool.or_eq_true, not_or, Bool.not_eq_true, Bool.not_eq_true, Bool.not_eq_false'] at hn
        exact .float (isNaN_of_parse? hn.2 hx)

theorem proper_of_constant? {cs : List Char} {a : Argument} (h : constant? cs = some a) :
    a.Proper := by
  rw [constant?] at h
  split at h
  · cases h
    exact .bool _
  · split at h
    · cases h
      exact .bool _
    · split at h
      · cases h
        exact .null
      · cases h

theorem proper_of_value {fuel : Nat} {cs : List Char} {a : Argument}
    (h : value fuel cs = .ok a) : a.Proper := by
  induction fuel generalizing cs a with
  | zero => cases h
  | succ fuel ih =>
      simp only [value] at h
      split at h
      · cases h
      · split at h
        · obtain ⟨s, -, rfl⟩ := map_eq_ok_iff.1 h
          exact .string _
        · split at h
          · next hc =>
              cases h
              exact proper_of_constant? hc
          · obtain ⟨items, -, h⟩ := bind_eq_ok_iff.1 h
            obtain ⟨as, has, h⟩ := bind_eq_ok_iff.1 h
            cases h
            exact .list (forall_mem_of_mapM has fun _ _ => ih)
          · split at h
            · split at h
              · next hv =>
                  cases h
                  exact Json.proper_of_parseValue? hv
              · cases h
            · split at h
              · next hn =>
                  cases h
                  exact proper_of_number? hn
              · cases h

end Literal

namespace CallExpression

theorem proper_addPairs {given as : Arguments} {parts : List (List Char)}
    (hg : (Argument.map given).Proper) (h : addPairs given parts = .ok as) :
    (Argument.map as).Proper := by
  induction parts generalizing given with
  | nil =>
      cases h
      exact hg
  | cons part rest ih =>
      simp only [addPairs] at h
      split at h
      · exact ih hg h
      · split at h
        · cases h
        · split at h
          · cases h
          · split at h
            · cases h
            · next hv =>
                split at h
                · cases h
                · exact ih (Argument.proper_put hg _ (Literal.proper_of_value hv)) h

theorem proper_keywordArguments {cs : List Char} {as : Arguments}
    (h : keywordArguments cs = .ok as) : (Argument.map as).Proper := by
  obtain ⟨parts, -, h⟩ := bind_eq_ok_iff.1 h
  exact proper_addPairs Argument.proper_map_nil h

theorem proper_code (cs : List Char) : (code cs).Proper :=
  Argument.proper_put Argument.proper_map_nil _ (.string _)

theorem proper_of_builtin {cs : List Char} {i : Invocation} (h : builtin cs = .ok i) :
    i.Proper := by
  simp only [builtin] at h
  split at h
  · split at h
    · cases h
    · obtain ⟨as, has, rfl⟩ := map_eq_ok_iff.1 (mapError_eq_ok_iff.1 h)
      exact proper_keywordArguments has
  · split at h
    · cases h
    · cases h
      exact proper_code _

theorem proper_of_named {cs : List Char} {i : Invocation} (h : named cs = .ok i) : i.Proper := by
  simp only [named] at h
  split at h
  · cases h
  · split at h
    · cases h
    · split at h
      · cases h
      · obtain ⟨as, has, rfl⟩ := map_eq_ok_iff.1 h
        exact proper_keywordArguments has

theorem proper_of_list {cs : List Char} {is : List Invocation} (h : list cs = .ok is) :
    ∀ i ∈ is, i.Proper := by
  simp only [list] at h
  split at h
  · cases h
  · split at h
    · cases h
    · cases h
    · next hp =>
        cases h
        obtain ⟨parts, -, hp⟩ := bind_eq_ok_iff.1 hp
        exact forall_mem_of_mapM hp fun _ _ => proper_of_named

end CallExpression

namespace FunctionTag

theorem proper_of_parse {tag : List Char} {i : Invocation} (h : parse tag = .ok i) : i.Proper := by
  rw [parse, mapError_eq_ok_iff] at h
  split at h
  · cases h
  · simp only [ofInner] at h
    split at h
    · cases h
    · split at h
      · cases h
      · obtain ⟨as, has, rfl⟩ := map_eq_ok_iff.1 h
        exact Arguments.proper_of_parse has

theorem proper_of_scan {cs prose : List Char} {is : List Invocation}
    (h : scan cs = .ok (prose, is)) : ∀ i ∈ is, i.Proper := by
  fun_induction scan cs generalizing prose is with
  | case1 cs hn =>
      cases h
      exact List.forall_mem_nil _
  | case2 cs e hn => cases h
  | case3 cs before tag rest hn _ e he => cases h
  | case4 cs before tag rest hn _ i hi ih =>
      obtain ⟨⟨prose', is'⟩, hs, he⟩ := map_eq_ok_iff.1 h
      cases he
      exact List.forall_mem_cons.2 ⟨proper_of_parse hi, ih hs⟩

theorem proper_of_extract {cs prose : List Char} {is : List Invocation}
    (h : extract cs = .ok (prose, is)) : ∀ i ∈ is, i.Proper := by
  obtain ⟨⟨prose', is'⟩, hs, he⟩ := map_eq_ok_iff.1 h
  cases he
  exact proper_of_scan hs

end FunctionTag

theorem CallText.proper_of_parse {cs : List Char} {is : List Invocation}
    (h : CallText.parse cs = .ok is) : ∀ i ∈ is, i.Proper := by
  simp only [CallText.parse] at h
  split at h
  · cases h
  · split at h
    · split at h
      · cases h
      · next he =>
          split at h
          · cases h
            exact FunctionTag.proper_of_extract he
          · cases h
    · split at h
      · obtain ⟨i, hi, rfl⟩ := map_eq_ok_iff.1 h
        exact List.forall_mem_singleton.2 (JsonCall.proper_of_parse hi)
      · split at h
        · exact CallExpression.proper_of_list h
        · obtain ⟨i, hi, rfl⟩ := map_eq_ok_iff.1 h
          exact List.forall_mem_singleton.2 (CallExpression.proper_of_builtin hi)

end ChatTurn
