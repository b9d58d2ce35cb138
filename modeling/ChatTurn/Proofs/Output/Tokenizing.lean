import ChatTurn.Proofs.Output.ControlTokens
import Mathlib.Data.List.TakeWhile

namespace ChatTurn.Token

variable {cs t rest u v w s : List Char} {ts : List (List Char)}

/-- What opens as a control token, and closes at its end and nowhere before. -/
structure IsControlToken (t : List Char) : Prop where
  opens : controlStart <+: t
  closes : controlEnd <:+ t
  once : ∀ u v, t = u ++ controlEnd ++ v → v = []

/-- White space, and then none. -/
def IsRun (t : List Char) : Prop := ∃ white visible, t = white ++ visible ∧
  (∀ c ∈ white, isWhite c = true) ∧ ∀ c ∈ visible, isWhite c = false

def Resumes (t rest : List Char) : Prop := ∃ u c d v,
  t = u ++ [c] ∧ isWhite c = false ∧ rest = d :: v ∧ isWhite d = true

/-- A word with the white space before it, where `rest` is the text after it. -/
structure IsWord (t rest : List Char) : Prop where
  shape : IsRun t
  unclosed : controlStart <:+: t → controlStart <+: t ∧ ¬ controlEnd <:+: t ++ rest
  ends : rest = [] ∨ Resumes t rest ∨ (controlStart <+: rest ∧ ¬ controlStart <+: t)

def IsToken (t rest : List Char) : Prop := t ≠ [] ∧ (IsControlToken t ∨ IsWord t rest)

/-- Each is a token where it stands. -/
def AreTokens (ts : List (List Char)) : Prop :=
  ∀ before t after, ts = before ++ t :: after → IsToken t after.flatten

theorem areTokens_nil : AreTokens [] := by
  intro before t after h
  simp at h

theorem areTokens_cons_iff : AreTokens (t :: ts) ↔ IsToken t ts.flatten ∧ AreTokens ts := by
  constructor
  · intro h
    exact ⟨h [] t ts rfl, fun before u after he => h (t :: before) u after (by rw [he]; rfl)⟩
  · rintro ⟨ht, hts⟩ before u after he
    cases before with
    | nil =>
        cases he
        exact ht
    | cons b before =>
        cases he
        exact hts before u after rfl

def run (cs : List Char) : List Char :=
  cs.takeWhile isWhite ++ (cs.dropWhile isWhite).takeWhile (!isWhite ·)

def afterRun (cs : List Char) : List Char := (cs.dropWhile isWhite).dropWhile (!isWhite ·)

theorem run_append_afterRun (cs : List Char) : run cs ++ afterRun cs = cs := by
  rw [run, afterRun, List.append_assoc, List.takeWhile_append_dropWhile,
    List.takeWhile_append_dropWhile]

theorem isRun_run (cs : List Char) : IsRun (run cs) :=
  ⟨_, _, rfl, fun _ hc => List.mem_takeWhile_imp hc, fun _ hc => by
    simpa using List.mem_takeWhile_imp hc⟩

theorem IsRun.append (h : IsRun t) (hv : ∀ c ∈ v, isWhite c = false) : IsRun (t ++ v) := by
  obtain ⟨white, visible, rfl, hw, hvisible⟩ := h
  exact ⟨white, visible ++ v, List.append_assoc _ _ _, hw, List.forall_mem_append.2 ⟨hvisible, hv⟩⟩

theorem IsRun.of_append (h : IsRun (u ++ v)) : IsRun u := by
  obtain ⟨white, visible, he, hw, hv⟩ := h
  rcases List.append_eq_append_iff.1 he with ⟨a, rfl, -⟩ | ⟨a, rfl, rfl⟩
  · exact ⟨u, [], (List.append_nil u).symm, (List.forall_mem_append.1 hw).1, List.forall_mem_nil _⟩
  · exact ⟨white, a, rfl, hw, (List.forall_mem_append.1 hv).1⟩

theorem IsRun.isWhite_eq_false {c d : Char} (h : IsRun (u ++ [c] ++ d :: v))
    (hc : isWhite c = false) : isWhite d = false := by
  obtain ⟨white, visible, he, hw, hv⟩ := h
  rcases List.append_eq_append_iff.1 he with ⟨a, rfl, -⟩ | ⟨a, hu, rfl⟩
  · have hwhite := hw c (List.mem_append_left _ (List.mem_append_right u List.mem_cons_self))
    rw [hc] at hwhite
    cases hwhite
  · exact hv d (List.mem_append_right a List.mem_cons_self)

theorem IsRun.prefix_run (h : IsRun t) (rest : List Char) : t <+: run (t ++ rest) := by
  obtain ⟨white, visible, rfl, hw, hv⟩ := h
  cases visible with
  | nil =>
      rw [List.append_nil, run, List.takeWhile_append_of_pos hw, List.append_assoc]
      exact List.prefix_append _ _
  | cons c visible =>
      have hc : ¬ isWhite c = true := by simp [hv c List.mem_cons_self]
      have hv' : ∀ d ∈ c :: visible, (!isWhite d) = true := fun d hd => by rw [hv d hd]; rfl
      rw [List.append_assoc, run, List.takeWhile_append_of_pos hw, List.dropWhile_append_of_pos hw,
        List.cons_append, List.takeWhile_cons_of_neg hc, List.dropWhile_cons_of_neg hc,
        List.append_nil, ← List.cons_append, List.takeWhile_append_of_pos hv', ← List.append_assoc]
      exact List.prefix_append _ _

theorem run_ends (cs : List Char) : afterRun cs = [] ∨ Resumes (run cs) (afterRun cs) := by
  cases hd : afterRun cs with
  | nil => exact .inl rfl
  | cons d r =>
      have hwhite : isWhite d = true := by
        have hn := List.head?_dropWhile_not (!isWhite ·) (cs.dropWhile isWhite)
        rw [← afterRun, hd] at hn
        simpa using hn
      rcases List.eq_nil_or_concat ((cs.dropWhile isWhite).takeWhile (!isWhite ·)) with hv | ⟨u, c, hv⟩
      · -- Were the run all white, it would have gone on with `d`.
        have hn := List.head?_dropWhile_not isWhite cs
        have hsame : cs.dropWhile isWhite = d :: r := by
          have happend := List.takeWhile_append_dropWhile (p := (!isWhite ·)) (l := cs.dropWhile isWhite)
          rw [hv, List.nil_append, ← afterRun, hd] at happend
          exact happend.symm
        rw [hsame] at hn
        exact absurd hwhite (by simpa using hn)
      · rw [List.concat_eq_append] at hv
        have hmem : c ∈ (cs.dropWhile isWhite).takeWhile (!isWhite ·) :=
          hv ▸ List.mem_append_right u List.mem_cons_self
        refine .inr ⟨cs.takeWhile isWhite ++ u, c, d, r, ?_, ?_, rfl, hwhite⟩
        · rw [run, hv, List.append_assoc]
        · simpa using List.mem_takeWhile_imp hmem

/-- A word is the longest run, cut where a control token may begin in it. -/
theorem wordLength_eq (cs : List Char) : wordLength cs =
    match Text.cut? controlStart (run cs) with
    | some (_ :: before, _) => before.length + 1
    | _ => (run cs).length := by
  have hprefix : run cs <+: cs := ⟨afterRun cs, run_append_afterRun cs⟩
  have hlength : (run cs).length = (cs.takeWhile isWhite).length +
      ((cs.drop (cs.takeWhile isWhite).length).takeWhile (!isWhite ·)).length := by
    rw [drop_length_takeWhile, run, List.length_append]
  have htake := List.prefix_iff_eq_take.1 hprefix
  rw [hlength] at htake ⊢
  rw [htake]
  rfl

theorem wordLength_of_cut? {after : List Char}
    (h : Text.cut? controlStart (run cs) = some (w, after)) (hw : w ≠ []) :
    wordLength cs = w.length := by
  obtain ⟨c, w, rfl⟩ := List.exists_cons_of_ne_nil hw
  rw [wordLength_eq, h]
  rfl

theorem wordLength_of_start (h : controlStart <:+: run cs → controlStart <+: run cs) :
    wordLength cs = (run cs).length := by
  rw [wordLength_eq]
  cases hc : Text.cut? controlStart (run cs) with
  | none => rfl
  | some p =>
      obtain ⟨r, hr⟩ := h (Text.isInfix_of_cut? hc)
      rw [← hr, Text.cut?_of_prefix, Option.some.injEq] at hc
      rw [← hc]

theorem length_of_not_closed (h : controlStart <+: cs → ¬ controlEnd <:+: cs) :
    length cs = wordLength cs := by
  rw [length]
  split
  · next hs =>
      split
      · next hc => exact absurd (Text.isInfix_of_cut? hc) (h (Text.startsWith_iff.1 hs))
      · rfl
  · rfl

theorem exists_word (h : controlStart <+: cs → ¬ controlEnd <:+: cs) :
    ∃ t rest, cs = t ++ rest ∧ t.length = wordLength cs ∧ IsWord t rest := by
  have hcs := run_append_afterRun cs
  have hprefix : run cs <+: cs := ⟨_, hcs⟩
  by_cases hs : controlStart <:+: run cs → controlStart <+: run cs
  · refine ⟨run cs, afterRun cs, hcs.symm, (wordLength_of_start hs).symm, isRun_run cs, ?_, ?_⟩
    · intro hi
      rw [hcs]
      exact ⟨hs hi, h ((hs hi).trans hprefix)⟩
    · exact (run_ends cs).imp_right .inl
  · obtain ⟨hi, hn⟩ := Classical.not_imp.1 hs
    obtain ⟨w, after, hc⟩ := Text.exists_cut? hi
    have hw : w ≠ [] := by
      rintro rfl
      exact hn ⟨after, (Text.eq_of_cut? hc).symm⟩
    have hfree : ¬ controlStart <:+: w := Text.not_isInfix_before (by decide) hc
    have hrun : run cs = w ++ (controlStart ++ after) := by
      rw [Text.eq_of_cut? hc, List.append_assoc]
    refine ⟨w, controlStart ++ after ++ afterRun cs, ?_, (wordLength_of_cut? hc hw).symm, ?_, ?_, ?_⟩
    · rw [← List.append_assoc, ← hrun, hcs]
    · exact IsRun.of_append (hrun ▸ isRun_run cs)
    · exact fun hi => absurd hi hfree
    · refine .inr (.inr ⟨?_, fun hp => hfree hp.isInfix⟩)
      rw [List.append_assoc]
      exact List.prefix_append _ _

theorem exists_token (hne : cs ≠ []) :
    ∃ t rest, cs = t ++ rest ∧ t.length = length cs ∧ IsToken t rest := by
  by_cases h : controlStart <+: cs → ¬ controlEnd <:+: cs
  · obtain ⟨t, rest, hcs, ht, hw⟩ := exists_word h
    rw [← length_of_not_closed h] at ht
    refine ⟨t, rest, hcs, ht, List.length_pos_iff.1 ?_, .inr hw⟩
    rw [ht]
    exact length_pos hne
  · obtain ⟨hs, he⟩ := Classical.not_imp.1 h
    obtain ⟨b, rest, hc⟩ := Text.exists_cut? (Classical.not_not.1 he)
    obtain ⟨hcs, hfirst⟩ := Text.cut?_eq_some_iff.1 hc
    have hlength : (b ++ controlEnd).length = length cs := by
      rw [length, if_pos (Text.startsWith_iff.2 hs), hc, List.length_append]
      rfl
    refine ⟨b ++ controlEnd, rest, hcs, hlength, by simp [controlEnd], .inl ⟨?_, List.suffix_append _ _, ?_⟩⟩
    · refine List.prefix_of_prefix_length_le hs ⟨rest, hcs.symm⟩ ?_
      simp [controlStart, controlEnd]
    · intro u v he
      have hle := hfirst u (v ++ rest) (by rw [hcs, he]; simp only [List.append_assoc])
      have hl := congrArg List.length he
      simp only [List.length_append] at hl
      exact List.length_eq_zero_iff.1 (by omega)

theorem IsWord.prefix_of_append (h : IsWord (u ++ v) rest) (hv : v ≠ [])
    (hs : controlStart <+: v ++ rest) : controlStart <+: v := by
  obtain ⟨c, v, rfl⟩ := List.exists_cons_of_ne_nil hv
  obtain ⟨rfl, hbar⟩ := List.cons_prefix_cons.1 hs
  cases v with
  | cons d v =>
      obtain ⟨rfl, -⟩ := List.cons_prefix_cons.1 hbar
      exact ⟨v, rfl⟩
  | nil =>
      obtain ⟨r, rfl⟩ : ['|'] <+: rest := hbar
      rcases h.ends with he | ⟨-, -, d, w, -, -, he, hd⟩ | ⟨hp, -⟩
      · cases he
      · obtain ⟨rfl, -⟩ := List.cons_eq_cons.1 he
        exact absurd hd (by decide)
      · exact absurd (List.cons_prefix_cons.1 hp).1 (by decide)

theorem IsWord.wordLength_eq (h : IsWord t rest) (hne : t ≠ []) :
    t.length = wordLength (t ++ rest) := by
  obtain ⟨r, hr⟩ := h.shape.prefix_run rest
  have hrest : r <+: rest := by
    rw [← List.prefix_append_right_inj t, hr]
    exact ⟨_, run_append_afterRun _⟩
  have hend : r = [] → t.length = wordLength (t ++ rest) := by
    rintro rfl
    rw [List.append_nil] at hr
    rw [wordLength_of_start] <;> rw [← hr]
    exact fun hi => (h.unclosed hi).1
  rcases h.ends with rfl | ⟨u, c, d, v, rfl, hc, rfl, hd⟩ | ⟨⟨rest, rfl⟩, hn⟩
  · exact hend (List.prefix_nil.1 hrest)
  · cases r with
    | nil => exact hend rfl
    | cons e r =>
        obtain ⟨rfl, -⟩ := List.cons_prefix_cons.1 hrest
        have hwhite := IsRun.isWhite_eq_false (hr ▸ isRun_run _) hc
        rw [hd] at hwhite
        cases hwhite
  · have hvisible : ∀ c ∈ controlStart, isWhite c = false :=
      List.forall_mem_cons.2 ⟨by decide, List.forall_mem_singleton.2 (by decide)⟩
    obtain ⟨after, ha⟩ := (h.shape.append hvisible).prefix_run rest
    rw [List.append_assoc, List.append_assoc] at ha
    have hcut : Text.cut? controlStart (run (t ++ (controlStart ++ rest))) = some (t, after) := by
      rw [← ha]
      exact Text.cut?_append_self rfl (by decide) (fun hi => hn (h.unclosed hi).1) after
    rw [wordLength_of_cut? hcut hne]

theorem IsControlToken.eq_of_append (hs : IsControlToken s) (ht : controlEnd <:+ t)
    (hone : ∀ u v, t = u ++ controlEnd ++ v → v = []) (he : t ++ rest = s ++ v) : t = s := by
  obtain ⟨b, rfl⟩ := ht
  obtain ⟨d, hd⟩ := hs.closes
  rcases List.append_eq_append_iff.1 he with ⟨w, rfl, -⟩ | ⟨w, hw, -⟩
  · rw [hs.once b w rfl, List.append_nil]
  · rw [← hd] at hw
    rw [hw, hone d w hw, List.append_nil, hd]

theorem IsControlToken.length_eq (h : IsControlToken t) (rest : List Char) :
    t.length = length (t ++ rest) := by
  obtain ⟨b, hb⟩ := h.closes
  have hstart : Text.startsWith controlStart (t ++ rest) = true :=
    Text.startsWith_iff.2 (h.opens.trans (List.prefix_append t rest))
  have hcut : Text.cut? controlEnd (t ++ rest) = some (b, rest) := by
    refine Text.cut?_eq_some_iff.2 ⟨by rw [hb], fun u v he => ?_⟩
    by_contra hlt
    have hp : u ++ controlEnd <+: t := by
      refine List.prefix_of_prefix_length_le ⟨v, he.symm⟩ (List.prefix_append t rest) ?_
      rw [← hb, List.length_append, List.length_append]
      omega
    obtain ⟨w, hw⟩ := hp
    have hl := congrArg List.length hw
    rw [h.once u w hw.symm, ← hb, List.append_nil, List.length_append, List.length_append] at hl
    omega
  rw [length, if_pos hstart, hcut, ← hb, List.length_append]
  rfl

theorem IsToken.length_eq (h : IsToken t rest) : t.length = length (t ++ rest) := by
  obtain ⟨hne, ht | hw⟩ := h
  · exact ht.length_eq rest
  · rw [length_of_not_closed, hw.wordLength_eq hne]
    intro hs
    have hword : IsWord ([] ++ t) rest := hw
    exact (hw.unclosed (hword.prefix_of_append hne hs).isInfix).2

theorem areTokens_split (cs : List Char) : AreTokens (split cs) := by
  fun_induction split cs with
  | case1 => exact areTokens_nil
  | case2 cs h ih =>
      obtain ⟨t, rest, hcs, ht, htoken⟩ := exists_token h
      refine areTokens_cons_iff.2 ⟨?_, ih⟩
      rw [flatten_split, ← ht, hcs, List.take_left, List.drop_left]
      exact htoken

theorem AreTokens.split_flatten (h : AreTokens ts) : split ts.flatten = ts := by
  induction ts with
  | nil => rw [split, dif_pos List.flatten_nil]
  | cons t ts ih =>
      obtain ⟨ht, hts⟩ := areTokens_cons_iff.1 h
      have hne : (t :: ts).flatten ≠ [] := fun he => ht.1 (List.append_eq_nil_iff.1 he).1
      rw [split, dif_neg hne, List.flatten_cons, ← ht.length_eq, List.take_left, List.drop_left,
        ih hts]

theorem IsToken.eq_of_append (h : IsToken (u ++ t) rest) (ht : t ≠ []) (hs : IsControlToken s)
    (he : t ++ rest = s ++ v) : t = s := by
  have hopen : controlStart <+: t ++ rest := he ▸ hs.opens.trans (List.prefix_append s v)
  obtain ⟨-, hc | hw⟩ := h
  · refine hs.eq_of_append ?_ (fun a b hab => ?_) he
    · rcases List.suffix_or_suffix_of_suffix hc.closes (List.suffix_append u t) with hp | hp
      · exact hp
      · -- Too short to be more than the end of a mark, it would not begin with one.
        obtain ⟨c, t, rfl⟩ := List.exists_cons_of_ne_nil ht
        have hm := hp.subset List.mem_cons_self
        rw [← (List.cons_prefix_cons.1 hopen).1] at hm
        exact absurd hm (by decide)
    · exact hc.once (u ++ a) b (by rw [hab]; simp only [List.append_assoc])
  · have hi : controlStart <:+: u ++ t :=
      (hw.prefix_of_append ht hopen).isInfix.trans (List.suffix_append u t).isInfix
    refine absurd ?_ (hw.unclosed hi).2
    rw [List.append_assoc, he]
    exact hs.closes.isInfix.trans ⟨u, v, by simp only [List.append_assoc]⟩

theorem AreTokens.exists_of_controlToken (h : AreTokens ts) (hs : IsControlToken s)
    (he : ts.flatten = u ++ s ++ v) :
    ∃ before l after, ts = before ++ (l ++ s) :: after ∧ u = before.flatten ++ l := by
  induction ts generalizing u with
  | nil =>
      obtain ⟨r, rfl⟩ := hs.opens
      simp [controlStart] at he
  | cons t ts ih =>
      obtain ⟨ht, hts⟩ := areTokens_cons_iff.1 h
      have hlater : ∀ w, u = t ++ w → ts.flatten = w ++ s ++ v → ∃ before l after,
          t :: ts = before ++ (l ++ s) :: after ∧ u = before.flatten ++ l := by
        rintro w rfl hw
        obtain ⟨before, l, after, rfl, rfl⟩ := ih hts hw
        exact ⟨t :: before, l, after, rfl, by simp⟩
      rw [List.flatten_cons, List.append_assoc] at he
      rcases List.append_eq_append_iff.1 he with ⟨w, rfl, hw⟩ | ⟨w, rfl, hw⟩
      · exact hlater w rfl (by rw [hw, List.append_assoc])
      · by_cases hne : w = []
        · exact hlater [] (by simp [hne]) (by simp [hw, hne])
        · obtain rfl := ht.eq_of_append hne hs hw.symm
          exact ⟨[], u, ts, rfl, rfl⟩

/-- Every step of the cutting takes something off the text. The tokens that come of it are the only
ones that the text is made of, and a control token in the text stands whole at the end of one. -/
theorem split_eq_iff (cs : List Char) :
    (cs ≠ [] → 0 < length cs ∧ split cs = cs.take (length cs) :: split (cs.drop (length cs))) ∧
    (∀ ts, split cs = ts ↔ ts.flatten = cs ∧ AreTokens ts) ∧
    ∀ u s v, cs = u ++ s ++ v → IsControlToken s →
      ∃ before l after, split cs = before ++ (l ++ s) :: after ∧ u = before.flatten ++ l := by
  refine ⟨fun h => ⟨length_pos h, ?_⟩, fun ts => ⟨?_, ?_⟩, fun u s v he hs => ?_⟩
  · exact (split.eq_def cs).trans (dif_neg h)
  · rintro rfl
    exact ⟨flatten_split cs, areTokens_split cs⟩
  · rintro ⟨rfl, h⟩
    exact h.split_flatten
  · exact (areTokens_split cs).exists_of_controlToken hs (by rw [flatten_split, he])

end ChatTurn.Token
