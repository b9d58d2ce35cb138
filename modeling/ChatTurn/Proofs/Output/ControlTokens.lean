import ChatTurn.Output.Token
import ChatTurn.Proofs.Text.Occurrence

namespace ChatTurn

namespace Text

variable {a b : Char} {w rest : List Char}

theorem cut?_append_of_pair (hw : ¬ [a, b] <:+: w) (hr : rest.head? ≠ some b) :
    cut? [a, b] (w ++ rest) = (cut? [a, b] rest).map fun p => (w ++ p.1, p.2) := by
  induction w with
  | nil => exact Option.map_id'.symm
  | cons c w ih =>
      obtain ⟨hc, hw⟩ := not_or.1 (mt List.infix_cons_iff.2 hw)
      have hn : ¬ [a, b] <+: c :: (w ++ rest) := by
        intro hp
        obtain ⟨rfl, hb⟩ := List.cons_prefix_cons.1 hp
        cases w with
        | nil =>
            obtain ⟨v, he⟩ := hb
            rw [List.nil_append] at he
            exact hr (he ▸ rfl)
        | cons d w =>
            obtain ⟨rfl, -⟩ := List.cons_prefix_cons.1 hb
            exact hc ⟨w, rfl⟩
      rw [List.cons_append, cut?_cons_of_not_startsWith hn, ih hw, Option.map_map]
      rfl

end Text

namespace Token

variable {cs u v after inner rest : List Char}

/-- The control tokens of a text, and whether a start without an end is left. -/
structure Pairing where
  tokens : List (List Char)
  isOpen : Bool

def pairing (cs : List Char) : Pairing :=
  match hc : Text.cut? controlStart cs with
  | none => ⟨[], false⟩
  | some (_, after) =>
    match he : Text.cut? controlEnd ('|' :: after) with
    | none => ⟨[], true⟩
    | some (inner, rest) =>
      have : rest.length < cs.length := by
        have hstart := Text.length_of_cut? hc
        have hend := Text.length_of_cut? he
        simp only [controlStart, controlEnd, List.length_cons, List.length_nil] at hstart hend
        omega
      ⟨('<' :: inner ++ controlEnd) :: (pairing rest).tokens, (pairing rest).isOpen⟩
termination_by cs.length

theorem pairing_of_none (h : Text.cut? controlStart cs = none) : pairing cs = ⟨[], false⟩ := by
  rw [pairing]
  split
  · rfl
  · next he => cases h.symm.trans he

theorem pairing_of_open (h : Text.cut? controlStart cs = some (u, after))
    (he : Text.cut? controlEnd ('|' :: after) = none) : pairing cs = ⟨[], true⟩ := by
  rw [pairing]
  split
  · next hn => cases h.symm.trans hn
  · next hs =>
      cases h.symm.trans hs
      split
      · rfl
      · next hs => cases he.symm.trans hs

theorem pairing_of_closed (h : Text.cut? controlStart cs = some (u, after))
    (he : Text.cut? controlEnd ('|' :: after) = some (inner, rest)) :
    pairing cs = ⟨('<' :: inner ++ controlEnd) :: (pairing rest).tokens, (pairing rest).isOpen⟩ := by
  rw [pairing]
  split
  · next hn => cases h.symm.trans hn
  · next hs =>
      cases h.symm.trans hs
      split
      · next hn => cases he.symm.trans hn
      · next hs =>
          cases he.symm.trans hs
          rfl

theorem pairing_word (hw : ¬ controlStart <:+: u) (hr : v.head? ≠ some '|') :
    pairing (u ++ v) = pairing v := by
  have hcut : Text.cut? controlStart (u ++ v) =
      (Text.cut? controlStart v).map fun p => (u ++ p.1, p.2) := Text.cut?_append_of_pair hw hr
  cases hv : Text.cut? controlStart v with
  | none =>
      rw [hv] at hcut
      rw [pairing_of_none hcut, pairing_of_none hv]
  | some p =>
      rw [hv] at hcut
      cases he : Text.cut? controlEnd ('|' :: p.2) with
      | none => rw [pairing_of_open hcut he, pairing_of_open hv he]
      | some q => rw [pairing_of_closed hcut he, pairing_of_closed hv he]

/-- The starts of a text that leaves none open have nothing to do with what follows. -/
theorem pairing_append_of_closed (h : (pairing u).isOpen = false) (hv : v.head? ≠ some '|') :
    pairing (u ++ v) =
      ⟨(pairing u).tokens ++ (pairing v).tokens, (pairing v).isOpen⟩ := by
  fun_induction pairing u with
  | case1 cs hc => exact pairing_word (Text.cut?_eq_none_iff.1 hc) hv
  | case2 cs b after hc he => cases h
  | case3 cs b after hc inner rest he hlt ih =>
      have hstart := Text.cut?_append_of_eq_some hc v
      have hend : Text.cut? controlEnd ('|' :: (after ++ v)) = some (inner, rest ++ v) :=
        Text.cut?_append_of_eq_some he v
      rw [pairing_of_closed hstart hend, ih h]
      rfl

/-- A start that is left open takes the end of a control token that follows, which is then none. -/
theorem pairing_append_of_open (h : (pairing u).isOpen = true) (hv : v.head? = some '<')
    (hend : Text.cut? controlEnd v = some (inner, [])) (rest : List Char) :
    ∃ token, v.length < token.length ∧ pairing (u ++ (v ++ rest)) =
      ⟨(pairing u).tokens ++ token :: (pairing rest).tokens, (pairing rest).isOpen⟩ := by
  have hv' : (v ++ rest).head? ≠ some '>' := by simp [List.head?_append, hv]
  fun_induction pairing u with
  | case1 cs hc => cases h
  | case2 cs b after hc he =>
      have hstart := Text.cut?_append_of_eq_some hc (v ++ rest)
      have hfound : Text.cut? controlEnd ('|' :: (after ++ (v ++ rest))) =
          (Text.cut? controlEnd (v ++ rest)).map fun p => ('|' :: after ++ p.1, p.2) :=
        Text.cut?_append_of_pair (Text.cut?_eq_none_iff.1 he) hv'
      rw [Text.cut?_append_of_eq_some hend] at hfound
      refine ⟨_, ?_, pairing_of_closed hstart hfound⟩
      have hl := Text.length_of_cut? hend
      simp only [List.length_append, List.length_cons, List.length_nil] at hl ⊢
      omega
  | case3 cs b after hc inner' rest' he hlt ih =>
      obtain ⟨token, hlength, ih⟩ := ih h
      have hstart := Text.cut?_append_of_eq_some hc (v ++ rest)
      have hfound : Text.cut? controlEnd ('|' :: (after ++ (v ++ rest))) =
          some (inner', rest' ++ (v ++ rest)) := Text.cut?_append_of_eq_some he (v ++ rest)
      refine ⟨token, hlength, ?_⟩
      rw [pairing_of_closed hstart hfound, ih]
      rfl

theorem drop_length_takeWhile (p : Char → Bool) (cs : List Char) :
    cs.drop (cs.takeWhile p).length = cs.dropWhile p :=
  List.append_cancel_left
    ((List.prefix_iff_eq_append.1 (List.takeWhile_prefix p)).trans List.takeWhile_append_dropWhile.symm)

theorem head?_drop_word (cs : List Char) :
    (cs.drop (cs.takeWhile (!isWhite ·)).length).head? ≠ some '|' := by
  intro he
  have hn := List.head?_dropWhile_not (!isWhite ·) cs
  rw [← drop_length_takeWhile, he] at hn
  exact absurd hn (by decide)

/-- A word ends before the next start of a control token. -/
theorem wordLength_spec (h : ¬ controlStart <+: cs) :
    ¬ controlStart <:+: cs.take (wordLength cs) ∧ (cs.drop (wordLength cs)).head? ≠ some '|' := by
  have hhead := head?_drop_word (cs.drop (cs.takeWhile isWhite).length)
  rw [List.drop_drop] at hhead
  rw [wordLength]
  generalize (cs.takeWhile isWhite).length + _ = n at hhead ⊢
  split
  · next c before after hc =>
      have he := Text.eq_of_cut? hc
      have hcs : cs = c :: before ++ (controlStart ++ after ++ cs.drop n) := by
        rw [← List.append_assoc, ← List.append_assoc, ← he, List.take_append_drop]
      constructor
      · rw [hcs, ← List.length_cons, List.take_left]
        exact Text.not_isInfix_before (by decide) hc
      · rw [hcs, ← List.length_cons, List.drop_left]
        intro he
        exact absurd (Option.some.inj he) (by decide)
  · next hc =>
      refine ⟨?_, hhead⟩
      rw [← Text.cut?_eq_none_iff]
      cases hcut : Text.cut? controlStart (cs.take n) with
      | none => rfl
      | some p =>
          obtain ⟨before, after⟩ := p
          cases before with
          | cons c before => exact absurd hcut (hc c before after)
          | nil =>
              have hp : controlStart <+: cs.take n := ⟨after, (Text.eq_of_cut? hcut).symm⟩
              exact absurd (hp.trans (List.take_prefix n cs)) h

theorem isControl_eq_true_iff : isControl cs = true ↔ controlStart <+: cs ∧ controlEnd <:+ cs := by
  rw [isControl, Bool.and_eq_true, Text.startsWith_iff, Text.endsWith_iff]

theorem cut?_controlStart_append (after : List Char) :
    Text.cut? controlEnd (controlStart ++ after) =
      (Text.cut? controlEnd ('|' :: after)).map fun p => ('<' :: p.1, p.2) :=
  Text.cut?_cons_of_not_startsWith fun hp =>
    absurd (List.cons_prefix_cons.1 hp).1 (by decide)

theorem length_of_closed (h : Text.cut? controlEnd ('|' :: after) = some (inner, rest)) :
    isControl ('<' :: inner ++ controlEnd) = true ∧
      controlStart ++ after = '<' :: inner ++ controlEnd ++ rest ∧
      length (controlStart ++ after) = ('<' :: inner ++ controlEnd).length := by
  have hcut : Text.cut? controlEnd (controlStart ++ after) = some ('<' :: inner, rest) := by
    rw [cut?_controlStart_append, h]
    rfl
  have heq := Text.eq_of_cut? hcut
  have hstart : controlStart <+: '<' :: inner ++ controlEnd := by
    refine List.prefix_of_prefix_length_le (List.prefix_append controlStart after) ?_ ?_
    · exact heq ▸ List.prefix_append _ rest
    · simp [controlStart, controlEnd]
  refine ⟨isControl_eq_true_iff.2 ⟨hstart, List.suffix_append _ _⟩, heq, ?_⟩
  rw [length, if_pos (Text.startsWith_iff.2 (List.prefix_append controlStart after)), hcut]
  simp [controlEnd]

theorem pairing_of_not_end (h : ¬ controlEnd <:+: cs) : (pairing cs).tokens = [] := by
  cases hc : Text.cut? controlStart cs with
  | none => rw [pairing_of_none hc]
  | some p =>
      obtain ⟨before, after⟩ := p
      have hs : '|' :: after <:+ cs := ⟨before ++ ['<'], by simp [Text.eq_of_cut? hc, controlStart]⟩
      have he : Text.cut? controlEnd ('|' :: after) = none :=
        Text.cut?_eq_none_iff.2 fun hi => h (hi.trans hs.isInfix)
      rw [pairing_of_open hc he]

theorem filter_isControl_split (cs : List Char) :
    (split cs).filter isControl = (pairing cs).tokens := by
  fun_induction split cs with
  | case1 => rw [pairing_of_none rfl, List.filter_nil]
  | case2 cs h ih =>
      by_cases hstart : controlStart <+: cs
      · obtain ⟨after, rfl⟩ := hstart
        cases hend : Text.cut? controlEnd ('|' :: after) with
        | none =>
            have hcut := cut?_controlStart_append after
            rw [hend, Option.map_none, Text.cut?_eq_none_iff] at hcut
            rw [pairing_of_not_end hcut, List.filter_cons_of_neg, ih, pairing_of_not_end]
            · exact fun hi => hcut (hi.trans (List.drop_suffix _ _).isInfix)
            · intro hc
              have hi := (isControl_eq_true_iff.1 hc).2.isInfix
              exact hcut (hi.trans (List.take_prefix _ _).isInfix)
        | some p =>
            obtain ⟨hc, heq, hlength⟩ := length_of_closed hend
            have hdrop : (controlStart ++ after).drop (length (controlStart ++ after)) = p.2 := by
              rw [hlength, heq, List.drop_left]
            have htake : (controlStart ++ after).take (length (controlStart ++ after)) =
                '<' :: p.1 ++ controlEnd := by rw [hlength, heq, List.take_left]
            rw [pairing_of_closed (Text.cut?_of_prefix after) hend, htake,
              List.filter_cons_of_pos hc, ih, hdrop]
      · obtain ⟨hword, hhead⟩ := wordLength_spec hstart
        have hlength : length cs = wordLength cs := by
          rw [length, if_neg (mt Text.startsWith_iff.1 hstart)]
        rw [hlength] at ih ⊢
        have hcs := pairing_word hword hhead
        rw [List.take_append_drop] at hcs
        rw [List.filter_cons_of_neg, ih, hcs]
        intro hc
        exact hword (isControl_eq_true_iff.1 hc).1.isInfix

end Token

end ChatTurn
