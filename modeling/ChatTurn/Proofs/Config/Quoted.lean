import ChatTurn.Proofs.Config.Expansion
import Mathlib.Logic.Function.Basic

namespace ChatTurn.Placeholder

variable {env : Environment} {s : Segment} {segments : List Segment} {lines : List (List Segment)}
  {name v : String} {text out out' pre pre' post post' cs : List Char} {outs : List (List Char)}

theorem Segment.Become.unique (h : Segment.Become env segments out)
    (h' : Segment.Become env segments out') : out = out' :=
  Except.ok.inj ((values_eq_ok_iff.2 h).symm.trans (values_eq_ok_iff.2 h'))

theorem become_plain (env : Environment) (cs : List Char) : Segment.Become env (cs.map .plain) cs :=
  values_eq_ok_iff.1 (values_plain env cs)

theorem exists_of_forall₂_append_cons {α β : Type} {R : α → β → Prop} {as bs : List α} {a : α}
    {ys : List β} (h : List.Forall₂ R (as ++ a :: bs) ys) : ∃ xs y zs,
    List.Forall₂ R as xs ∧ R a y ∧ List.Forall₂ R bs zs ∧ ys = xs ++ y :: zs := by
  induction as generalizing ys with
  | nil =>
      obtain ⟨y, zs, ha, hbs, rfl⟩ := List.forall₂_cons_left_iff.1 h
      exact ⟨[], y, zs, .nil, ha, hbs, rfl⟩
  | cons a' as ih =>
      obtain ⟨x, ys, ha', has, rfl⟩ := List.forall₂_cons_left_iff.1 h
      obtain ⟨xs, y, zs, hxs, hy, hzs, rfl⟩ := ih has
      exact ⟨x :: xs, y, zs, .cons ha' hxs, hy, hzs, rfl⟩

inductive Segment.Names (name : String) : Segment → Prop
  | place {default : Option (List Char)} {written : List Char} :
      Names name (.place ⟨"env.".toList ++ name.toList, default⟩ written)

theorem Segment.Becomes.eq_value {default : Option (List Char)} {written : List Char}
    (h : (Segment.place ⟨"env.".toList ++ name.toList, default⟩ written).Becomes env cs)
    (hv : env name = some v) : cs = v.toList := by
  generalize hs : Segment.place _ written = s at h
  cases h with
  | plain c => cases hs
  | value hn hv' =>
      rw [Segment.place.injEq, Placeholder.mk.injEq, List.append_cancel_left_eq] at hs
      rw [← hs.1.1, String.ofList_toList, hv] at hv'
      rw [Option.some.inj hv']
  | default hn hv' =>
      rw [Segment.place.injEq, Placeholder.mk.injEq, List.append_cancel_left_eq] at hs
      rw [← hs.1.1, String.ofList_toList, hv] at hv'
      cases hv'

theorem Segment.Becomes.update (h : s.Becomes env cs) (hs : ¬ s.Names name) (o : Option String) :
    s.Becomes (Function.update env name o) cs := by
  have hsame : ∀ {n written : List Char} {default : Option (List Char)},
      s = .place ⟨"env.".toList ++ n, default⟩ written →
      Function.update env name o (String.ofList n) = env (String.ofList n) := by
    intro n written default he
    refine Function.update_of_ne (fun hn => hs ?_) _ _
    rw [he, ← hn, ← String.toList_ofList (l := n), String.ofList_toList]
    exact .place
  cases h with
  | plain c => exact .plain c
  | value hn hv => exact .value hn ((hsame rfl).trans hv)
  | default hn hv => exact .default hn ((hsame rfl).trans hv)

theorem Segment.Become.update (h : Segment.Become env segments out)
    (hs : ∀ s ∈ segments, ¬ s.Names name) (o : Option String) :
    Segment.Become (Function.update env name o) segments out := by
  obtain ⟨vs, hvs, rfl⟩ := h
  exact ⟨vs, (List.forall₂_and_left _ _ |>.2 ⟨hs, hvs⟩).imp fun _ _ ⟨hs, h⟩ => h.update hs o, rfl⟩

theorem become_forall₂_update (h : List.Forall₂ (Segment.Become env) lines outs)
    (hs : ∀ s ∈ lines.flatten, ¬ s.Names name) (o : Option String) :
    List.Forall₂ (Segment.Become (Function.update env name o)) lines outs := by
  have hl : ∀ l ∈ lines, ∀ s ∈ l, ¬ s.Names name := fun l hl s hm =>
    hs s (List.mem_flatten.2 ⟨l, hl, hm⟩)
  exact (List.forall₂_and_left _ _ |>.2 ⟨hl, h⟩).imp fun _ _ ⟨hs, h⟩ => h.update hs o

theorem read?_of_ne {c : Char} (h : c ≠ '\x7b') (cs : List Char) : read? (c :: cs) = none := by
  rw [read?, Text.stripStart?, if_neg (Ne.symm h)]
  rfl

theorem IsCut.plain_append {rest : List Char} (h : '\x7b' ∉ cs) (hc : IsCut rest segments) :
    IsCut (cs ++ rest) (cs.map .plain ++ segments) := by
  induction cs with
  | nil => exact hc
  | cons c cs ih =>
      rw [List.mem_cons, not_or] at h
      exact isCut_plain_iff.2 ⟨read?_of_ne (Ne.symm h.1) _, ih h.2⟩

theorem isCut_plain (h : '\x7b' ∉ cs) : IsCut cs (cs.map .plain) := by
  simpa using isCut_nil.plain_append h

theorem readsLine_plain (h : '\x7b' ∉ cs) : ReadsLine cs (cs.map .plain) := by
  by_cases hc : isComment cs = true
  · exact .comment hc
  · exact .other (Bool.eq_false_iff.2 hc) (isCut_plain h)

theorem reads_of_plain {before after : List (List Char)} {left right written : List Char}
    {p : Placeholder} (hp : Spells p written) (hn : '\n' ∉ written)
    (hb : ∀ line ∈ before ++ after, '\x7b' ∉ line) (hbn : ∀ line ∈ before ++ after, '\n' ∉ line)
    (hl : '\x7b' ∉ left ++ right) (hln : '\n' ∉ left ++ right)
    (hc : isComment (left ++ (written ++ right)) = false) :
    Reads (Text.joinWith '\n' (before ++ (left ++ (written ++ right)) :: after))
      (before.map (·.map .plain) ++ (left.map .plain ++ .place p written :: right.map .plain) ::
        after.map (·.map .plain)) := by
  rw [List.mem_append, not_or] at hl hln
  rw [List.forall_mem_append] at hb hbn
  have hplain : ∀ lines : List (List Char), (∀ line ∈ lines, '\x7b' ∉ line) →
      List.Forall₂ ReadsLine lines (lines.map (·.map .plain)) := by
    intro lines h
    rw [List.forall₂_map_right_iff, List.forall₂_same]
    exact fun line hm => readsLine_plain (h line hm)
  refine .lines (List.append_ne_nil_of_right_ne_nil _ (List.cons_ne_nil _ _)) ?_ ?_
  · rw [List.forall_mem_append, List.forall_mem_cons]
    refine ⟨hbn.1, ?_, hbn.2⟩
    simp only [List.mem_append, hn, hln, or_self, not_false_iff]
  · refine List.rel_append (hplain _ hb.1) (.cons (.other hc ?_) (hplain _ hb.2))
    exact .plain_append hl.1 (isCut_place_iff.2 ⟨hp, right, rfl, isCut_plain hl.2⟩)

/-- A reading of a text in which a placeholder for a variable stands between double quotes. -/
structure Quoted (name : String) (text : List Char) where
  before : List (List Segment)
  left : List Segment
  default : Option (List Char)
  written : List Char
  right : List Segment
  after : List (List Segment)
  reads : Reads text (before ++ (left ++ .plain '"' ::
    .place ⟨"env.".toList ++ name.toList, default⟩ written :: .plain '"' :: right) :: after)

namespace Quoted

variable {q : Quoted name text}

def others (q : Quoted name text) : List Segment :=
  q.before.flatten ++ q.left ++ q.right ++ q.after.flatten

/-- No other placeholder is for the same variable. -/
def IsSole (q : Quoted name text) : Prop := ∀ s ∈ q.others, ¬ s.Names name

/-- What stands before the first quote in the expansion, and what stands behind the second. -/
inductive Around (q : Quoted name text) (env : Environment) : List Char → List Char → Prop
  | intro {outs outs' : List (List Char)} {l r : List Char}
      (hb : List.Forall₂ (Segment.Become env) q.before outs) (hl : Segment.Become env q.left l)
      (hr : Segment.Become env q.right r) (ha : List.Forall₂ (Segment.Become env) q.after outs') :
      Around q env (Text.joinWith '\n' (outs ++ [l])) (Text.joinWith '\n' (r :: outs'))

theorem Around.unique (h : q.Around env pre post) (h' : q.Around env pre' post') :
    pre = pre' ∧ post = post' := by
  obtain ⟨hb, hl, hr, ha⟩ := h
  obtain ⟨hb', hl', hr', ha'⟩ := h'
  rw [become_forall₂_iff] at hb hb' ha ha'
  cases hb.symm.trans hb'
  cases ha.symm.trans ha'
  rw [hl.unique hl', hr.unique hr']
  exact ⟨rfl, rfl⟩

theorem Around.update (h : q.Around env pre post) (hq : q.IsSole) (o : Option String) :
    q.Around (Function.update env name o) pre post := by
  obtain ⟨hb, hl, hr, ha⟩ := h
  unfold IsSole others at hq
  simp only [List.forall_mem_append] at hq
  exact ⟨become_forall₂_update hb hq.1.1.1 o, hl.update hq.1.1.2 o, hr.update hq.1.2 o,
    become_forall₂_update ha hq.2 o⟩

theorem exists_around (q : Quoted name text) (hv : env name = some v) (h : expand env text = .ok out) :
    ∃ pre post, q.Around env pre post ∧ out = pre ++ '"' :: (v.toList ++ '"' :: post) := by
  obtain ⟨outs, hlines, rfl⟩ := (expand_eq_ok_iff q.reads).1 h
  obtain ⟨before, line, after, hb, ⟨vs, hline, rfl⟩, ha, rfl⟩ := exists_of_forall₂_append_cons hlines
  obtain ⟨left, first, rest, hleft, hfirst, hrest, rfl⟩ := exists_of_forall₂_append_cons hline
  obtain ⟨value, rest', hvalue, hrest', rfl⟩ := List.forall₂_cons_left_iff.1 hrest
  obtain ⟨last, right, hlast, hright, rfl⟩ := List.forall₂_cons_left_iff.1 hrest'
  cases hfirst
  cases hlast
  obtain rfl := hvalue.eq_value hv
  refine ⟨_, _, ⟨hb, ⟨left, hleft, rfl⟩, ⟨right, hright, rfl⟩, ha⟩, ?_⟩
  have hline : (left ++ ['"'] :: v.toList :: ['"'] :: right).flatten =
      left.flatten ++ ('"' :: (v.toList ++ ['"'])) ++ right.flatten := by simp
  rw [hline, Text.joinWith_append_cons]
  simp

end Quoted

end ChatTurn.Placeholder
