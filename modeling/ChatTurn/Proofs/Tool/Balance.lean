import ChatTurn.Proofs.Outcomes
import ChatTurn.Proofs.Tool.Spelling

namespace ChatTurn.Literal

variable {cs bare body t : List Char} {ts : List (List Char)} {c q : Char} {d : Nat}

/-- What stands between a quote and the next of its kind that has no backslash before it. -/
inductive Quoted (q : Char) : List Char → Prop
  | nil : Quoted q []
  | escaped {cs : List Char} (c : Char) (h : Quoted q cs) : Quoted q ('\\' :: c :: cs)
  | plain {c : Char} {cs : List Char} (hb : c ≠ '\\') (hq : c ≠ q) (h : Quoted q cs) :
      Quoted q (c :: cs)

/-- The text has all its quotes closed, and `bare` is left of it without what is quoted. -/
inductive Bares : List Char → List Char → Prop
  | nil : Bares [] []
  | plain {c : Char} {cs bare : List Char} (hc : ¬ IsQuote c) (h : Bares cs bare) :
      Bares (c :: cs) (c :: bare)
  | quoted {q : Char} {body cs bare : List Char} (hq : IsQuote q) (hbody : Quoted q body)
      (h : Bares cs bare) : Bares (q :: (body ++ q :: cs)) bare

def opened (cs : List Char) : Nat := cs.countP (· ∈ ['(', '[', '{'])

def closed (cs : List Char) : Nat := cs.countP (· ∈ [')', ']', '}'])

/-- Within `d` brackets, none closes before it opens and none is open at the end. -/
structure Balances (d : Nat) (bare : List Char) : Prop where
  nested : ∀ p, p <+: bare → closed p ≤ d + opened p
  even : closed bare = d + opened bare

def Enclosed (d : Nat) (bare : List Char) : Prop :=
  ∀ p, p ++ [','] <+: bare → closed p < d + opened p

def IsBalanced (cs : List Char) : Prop := ∃ bare, Bares cs bare ∧ Balances 0 bare

/-- A balanced text without a comma outside quotes and brackets. -/
def IsPart (cs : List Char) : Prop := ∃ bare, Bares cs bare ∧ Balances 0 bare ∧ Enclosed 0 bare

theorem opened_cons (c : Char) (cs : List Char) : opened (c :: cs) = opened [c] + opened cs := by
  rw [opened, opened, opened, ← List.countP_append, List.singleton_append]

theorem closed_cons (c : Char) (cs : List Char) : closed (c :: cs) = closed [c] + closed cs := by
  rw [closed, closed, closed, ← List.countP_append, List.singleton_append]

def depthAfter (d : Nat) (c : Char) : Nat := d + opened [c] - closed [c]

theorem balances_nil_iff : Balances d [] ↔ d = 0 := by
  constructor
  · rintro ⟨-, he⟩
    exact he.symm
  · rintro rfl
    refine ⟨fun p hp => ?_, rfl⟩
    rw [List.prefix_nil.1 hp]
    exact Nat.le_refl _

theorem balances_cons_iff :
    Balances d (c :: bare) ↔ closed [c] ≤ d + opened [c] ∧ Balances (depthAfter d c) bare := by
  constructor
  · rintro ⟨hn, he⟩
    have hc := hn [c] (List.prefix_append [c] bare)
    refine ⟨hc, fun p hp => ?_, ?_⟩
    · have hp := hn (c :: p) (List.cons_prefix_cons.2 ⟨rfl, hp⟩)
      rw [opened_cons, closed_cons] at hp
      rw [depthAfter]
      omega
    · rw [opened_cons, closed_cons] at he
      rw [depthAfter]
      omega
  · rintro ⟨hc, hn, he⟩
    rw [depthAfter] at hn he
    refine ⟨fun p hp => ?_, ?_⟩
    · cases p with
      | nil => exact Nat.zero_le _
      | cons e p =>
          obtain ⟨rfl, hprefix⟩ := List.cons_prefix_cons.1 hp
          have hrest := hn p hprefix
          rw [opened_cons, closed_cons]
          omega
    · rw [opened_cons, closed_cons]
      omega

theorem enclosed_nil : Enclosed d [] := by
  intro p hp
  cases p <;> cases List.prefix_nil.1 hp

theorem enclosed_cons_iff (hc : closed [c] ≤ d + opened [c]) :
    Enclosed d (c :: bare) ↔ (c = ',' → 0 < d) ∧ Enclosed (depthAfter d c) bare := by
  constructor
  · intro h
    refine ⟨?_, fun p hp => ?_⟩
    · rintro rfl
      exact h [] (List.prefix_append [','] bare)
    · have hp := h (c :: p) (List.cons_prefix_cons.2 ⟨rfl, hp⟩)
      rw [opened_cons, closed_cons] at hp
      rw [depthAfter]
      omega
  · rintro ⟨hcomma, h⟩ p hp
    cases p with
    | nil => exact hcomma (List.cons_prefix_cons.1 hp).1.symm
    | cons e p =>
        obtain ⟨rfl, hprefix⟩ := List.cons_prefix_cons.1 hp
        have hrest := h p hprefix
        rw [depthAfter] at hrest
        rw [opened_cons, closed_cons]
        omega

theorem takes_body (h : Quoted q body) : Takes (within q d) body (within q d) := by
  induction h with
  | nil => exact .nil
  | escaped c _ ih => exact (takes_escaped c).append ih
  | plain hb hq _ ih => exact (takes_quoted hb hq).append ih

theorem takes_char (hq : ¬ IsQuote c) (hc : closed [c] ≤ d + opened [c]) (hcomma : c = ',' → 0 < d) :
    Takes (outside d) [c] (outside (depthAfter d c)) := by
  by_cases hopen : c ∈ ['(', '[', '{']
  · have h := takes_opening (d := d) hopen
    simp only [List.mem_cons, List.not_mem_nil, or_false] at hopen
    rcases hopen with rfl | rfl | rfl <;> exact h
  by_cases hclose : c ∈ [')', ']', '}']
  · cases d with
    | zero =>
        simp only [List.mem_cons, List.not_mem_nil, or_false] at hclose
        rcases hclose with rfl | rfl | rfl <;> exact absurd hc (by decide)
    | succ d =>
        have h := takes_closing (d := d) hclose
        simp only [List.mem_cons, List.not_mem_nil, or_false] at hclose
        rcases hclose with rfl | rfl | rfl <;> exact h
  by_cases he : c = ','
  · subst he
    obtain ⟨e, rfl⟩ := Nat.exists_eq_succ_of_ne_zero (Nat.ne_of_gt (hcomma rfl))
    exact takes_comma
  · have hmarks : c ∉ marks := by
      simp only [List.mem_cons, List.not_mem_nil, or_false, not_or] at hopen hclose
      obtain ⟨hdouble, hsingle⟩ := not_or.1 hq
      simp [marks, hdouble, hsingle, hopen, hclose, he]
    have hopened : opened [c] = 0 :=
      List.countP_cons_of_neg (by rw [decide_eq_true_eq]; exact hopen)
    have hclosed : closed [c] = 0 :=
      List.countP_cons_of_neg (by rw [decide_eq_true_eq]; exact hclose)
    have hdepth : depthAfter d c = d := by rw [depthAfter, hopened, hclosed, Nat.add_zero, Nat.sub_zero]
    rw [hdepth]
    exact takes_plain hmarks

theorem takes_stretch (hq : IsQuote q) (h : Quoted q body) :
    Takes (outside d) (q :: (body ++ [q])) (outside d) :=
  (takes_open hq).append ((takes_body h).append (takes_close hq))

theorem stretch_append (q : Char) (body cs : List Char) :
    q :: (body ++ q :: cs) = q :: (body ++ [q]) ++ cs := by
  rw [List.cons_append, List.append_assoc, List.singleton_append]

theorem exists_parts (h : Bares cs bare) (hb : Balances d bare) (whole : String) :
    ∃ p, parts whole (outside d) cs = .ok p := by
  induction h generalizing d with
  | nil =>
      obtain rfl := balances_nil_iff.1 hb
      exact ⟨_, rfl⟩
  | @quoted q body cs bare hq hbody h ih =>
      obtain ⟨p, hp⟩ := ih hb
      rw [stretch_append, takes_stretch hq hbody, hp]
      exact ⟨_, rfl⟩
  | @plain c cs bare hc h ih =>
      obtain ⟨hclosed, hb⟩ := balances_cons_iff.1 hb
      obtain ⟨p, hp⟩ := ih hb
      by_cases hcut : c = ',' ∧ d = 0
      · obtain ⟨rfl, rfl⟩ := hcut
        have hp : parts whole (outside 0) cs = .ok p := hp
        rw [parts_comma, hp]
        exact ⟨_, rfl⟩
      · have hcomma : c = ',' → 0 < d := fun hc => Nat.pos_of_ne_zero fun hd => hcut ⟨hc, hd⟩
        rw [← List.singleton_append, takes_char hc hclosed hcomma, hp]
        exact ⟨_, rfl⟩

theorem takes_of_enclosed (h : Bares cs bare) (hb : Balances d bare) (he : Enclosed d bare) (e : Nat) :
    Takes (outside (d + e)) cs (outside e) := by
  induction h generalizing d with
  | nil =>
      obtain rfl := balances_nil_iff.1 hb
      rw [Nat.zero_add]
      exact .nil
  | quoted hq hbody h ih =>
      rw [stretch_append]
      exact (takes_stretch hq hbody).append (ih hb he)
  | @plain c cs bare hc h ih =>
      obtain ⟨hclosed, hb⟩ := balances_cons_iff.1 hb
      obtain ⟨hcomma, he⟩ := (enclosed_cons_iff hclosed).1 he
      have hdepth : depthAfter (d + e) c = depthAfter d c + e := by
        rw [depthAfter, depthAfter]
        omega
      have htakes : Takes (outside (d + e)) [c] (outside (depthAfter d c + e)) := by
        rw [← hdepth]
        exact takes_char hc (by omega) fun hc => Nat.add_pos_left (hcomma hc) e
      exact htakes.append (ih hb he)

theorem IsPart.closed (h : IsPart cs) : Closed cs := by
  obtain ⟨bare, hbare, hb, he⟩ := h
  intro d
  have htakes := takes_of_enclosed hbare hb he d
  rwa [Nat.zero_add] at htakes

structure Found (d : Nat) (cs t : List Char) (ts : List (List Char)) : Prop where
  joined : Text.joinWith ',' (t :: ts) = cs
  whole : ∃ bare, Bares cs bare ∧ Balances d bare
  first : ∃ bare, Bares t bare ∧ Balances d bare ∧ Enclosed d bare
  others : ∀ u ∈ ts, IsPart u

theorem joinWith_append (sep : Char) (u t : List Char) (ts : List (List Char)) :
    Text.joinWith sep ((u ++ t) :: ts) = u ++ Text.joinWith sep (t :: ts) := by
  cases ts with
  | nil => rfl
  | cons v ts => exact List.append_assoc u t _

theorem found_nil : Found 0 [] [] [] := by
  have hb : Balances 0 [] := balances_nil_iff.2 rfl
  exact ⟨rfl, ⟨[], .nil, hb⟩, ⟨[], .nil, hb, enclosed_nil⟩, List.forall_mem_nil _⟩

theorem Found.plain (h : Found (depthAfter d c) cs t ts) (hq : ¬ IsQuote c)
    (hc : closed [c] ≤ d + opened [c]) (hcomma : c = ',' → 0 < d) :
    Found d (c :: cs) (c :: t) ts := by
  obtain ⟨hjoined, ⟨bare, hbare, hb⟩, ⟨first, hfirst, hfb, hfe⟩, hothers⟩ := h
  refine ⟨?_, ⟨c :: bare, .plain hq hbare, balances_cons_iff.2 ⟨hc, hb⟩⟩,
    ⟨c :: first, .plain hq hfirst, balances_cons_iff.2 ⟨hc, hfb⟩,
      (enclosed_cons_iff hc).2 ⟨hcomma, hfe⟩⟩, hothers⟩
  rw [← hjoined]
  exact joinWith_append ',' [c] t ts

theorem Found.quoted (h : Found d cs t ts) (hq : IsQuote q) (hbody : Quoted q body) :
    Found d (q :: (body ++ q :: cs)) (q :: (body ++ q :: t)) ts := by
  obtain ⟨hjoined, ⟨bare, hbare, hb⟩, ⟨first, hfirst, hfb, hfe⟩, hothers⟩ := h
  refine ⟨?_, ⟨bare, .quoted hq hbody hbare, hb⟩, ⟨first, .quoted hq hbody hfirst, hfb, hfe⟩, hothers⟩
  rw [stretch_append q body t, joinWith_append, hjoined, ← stretch_append]

theorem not_isQuote_comma : ¬ IsQuote ',' := by
  rintro (h | h) <;> exact absurd h (by decide)

theorem Found.comma (h : Found 0 cs t ts) : Found 0 (',' :: cs) [] (t :: ts) := by
  obtain ⟨hjoined, ⟨bare, hbare, hb⟩, hfirst, hothers⟩ := h
  have hnil : Balances 0 [] := balances_nil_iff.2 rfl
  refine ⟨?_, ⟨',' :: bare, .plain not_isQuote_comma hbare, ?_⟩, ⟨[], .nil, hnil, enclosed_nil⟩, ?_⟩
  · rw [joinWith_cons_cons, hjoined]
    rfl
  · exact balances_cons_iff.2 ⟨Nat.zero_le _, hb⟩
  · exact List.forall_mem_cons.2 ⟨hfirst, hothers⟩

def FoundWithin (q : Char) (d : Nat) (cs t : List Char) (ts : List (List Char)) : Prop :=
  ∃ body cs' t', cs = body ++ q :: cs' ∧ t = body ++ q :: t' ∧ Quoted q body ∧ Found d cs' t' ts

theorem Takes.exists_of_ok {s s' : Nesting} (h : Takes s [c] s') {whole : String}
    (hp : parts whole s (c :: cs) = .ok (t, ts)) :
    ∃ u, t = c :: u ∧ parts whole s' cs = .ok (u, ts) := by
  rw [← List.singleton_append, h] at hp
  obtain ⟨⟨u, us⟩, hu, he⟩ := map_eq_ok_iff.1 hp
  cases he
  exact ⟨u, rfl, hu⟩

/-- The three states that the splitter can be in, of which each goes on in another. -/
structure Finds (whole : String) (cs : List Char) : Prop where
  outside : ∀ {d t ts}, parts whole (outside d) cs = .ok (t, ts) → Found d cs t ts
  within : ∀ {q d t ts}, IsQuote q → parts whole (within q d) cs = .ok (t, ts) →
    FoundWithin q d cs t ts
  escaped : ∀ {q d t ts}, IsQuote q → parts whole ⟨some q, true, d⟩ cs = .ok (t, ts) →
    ∃ c cs' u, cs = c :: cs' ∧ t = c :: u ∧ FoundWithin q d cs' u ts

theorem exists_parts_error (h : ¬ closed [c] ≤ d + opened [c]) (whole : String) (cs : List Char) :
    ∃ e, parts whole (outside d) (c :: cs) = .error e := by
  have hclosing : c ∈ [')', ']', '}'] := by
    by_contra hn
    have hzero : closed [c] = 0 := List.countP_cons_of_neg (by rw [decide_eq_true_eq]; exact hn)
    exact h (hzero ▸ Nat.zero_le _)
  have hone : closed [c] ≤ 1 := List.countP_le_length
  obtain rfl : d = 0 := by omega
  simp only [List.mem_cons, List.not_mem_nil, or_false] at hclosing
  rcases hclosing with rfl | rfl | rfl <;> exact ⟨_, rfl⟩

theorem found_outside {whole : String} (hcs : Finds whole cs)
    (h : parts whole (outside d) (c :: cs) = .ok (t, ts)) : Found d (c :: cs) t ts := by
  by_cases hq : IsQuote c
  · obtain ⟨u, rfl, hu⟩ := (takes_open hq).exists_of_ok h
    obtain ⟨body, cs', t', rfl, rfl, hbody, hfound⟩ := hcs.within hq hu
    exact hfound.quoted hq hbody
  by_cases hc : closed [c] ≤ d + opened [c]
  · by_cases hcut : c = ',' ∧ d = 0
    · obtain ⟨rfl, rfl⟩ := hcut
      rw [parts_comma] at h
      obtain ⟨⟨u, us⟩, hu, he⟩ := map_eq_ok_iff.1 h
      cases he
      exact (hcs.outside hu).comma
    · have hcomma : c = ',' → 0 < d := fun hc => Nat.pos_of_ne_zero fun hd => hcut ⟨hc, hd⟩
      obtain ⟨u, rfl, hu⟩ := (takes_char hq hc hcomma).exists_of_ok h
      exact (hcs.outside hu).plain hq hc hcomma
  · obtain ⟨e, he⟩ := exists_parts_error hc whole cs
    rw [he] at h
    cases h

theorem found_within {whole : String} (hcs : Finds whole cs) (hq : IsQuote q)
    (h : parts whole (within q d) (c :: cs) = .ok (t, ts)) : FoundWithin q d (c :: cs) t ts := by
  by_cases hb : c = '\\'
  · subst hb
    obtain ⟨u, rfl, hu⟩ := takes_backslash.exists_of_ok h
    obtain ⟨c, cs', u', rfl, rfl, body, cs'', t', rfl, rfl, hbody, hfound⟩ := hcs.escaped hq hu
    exact ⟨'\\' :: c :: body, cs'', t', rfl, rfl, .escaped c hbody, hfound⟩
  by_cases hc : c = q
  · subst hc
    obtain ⟨u, rfl, hu⟩ := (takes_close hq).exists_of_ok h
    exact ⟨[], cs, u, rfl, rfl, .nil, hcs.outside hu⟩
  · obtain ⟨u, rfl, hu⟩ := (takes_quoted hb hc).exists_of_ok h
    obtain ⟨body, cs', t', rfl, rfl, hbody, hfound⟩ := hcs.within hq hu
    exact ⟨c :: body, cs', t', rfl, rfl, .plain hb hc hbody, hfound⟩

theorem finds (whole : String) (cs : List Char) : Finds whole cs := by
  induction cs with
  | nil =>
      refine ⟨fun {d t ts} h => ?_, (fun _ h => nomatch h), (fun _ h => nomatch h)⟩
      cases d with
      | zero =>
          cases h
          exact found_nil
      | succ d => cases h
  | cons c cs ih =>
      refine ⟨found_outside ih, found_within ih, fun hq h => ?_⟩
      obtain ⟨u, rfl, hu⟩ := (takes_after_backslash c).exists_of_ok h
      exact ⟨c, cs, u, rfl, rfl, ih.within hq hu⟩

/-- The splitter and the unquoter agree on where a quoted text ends. -/
theorem exists_unquote_iff (hq : IsQuote q) (whole : String) (cs : List Char) :
    (∃ s, unquote whole q cs = .ok s) ↔ ∃ body, Quoted q body ∧ cs = body ++ [q] := by
  have hb : q ≠ '\\' := by
    rintro rfl
    rcases hq with h | h <;> exact absurd h (by decide)
  constructor
  · rintro ⟨s, h⟩
    fun_induction unquote whole q cs generalizing s with
    | case1 => cases h
    | case2 => cases h
    | case3 c cs ih =>
        obtain ⟨u, hu, -⟩ := map_eq_ok_iff.1 h
        obtain ⟨body, hbody, rfl⟩ := ih u hu
        exact ⟨'\\' :: c :: body, .escaped c hbody, rfl⟩
    | case4 cs he _ _ =>
        exact ⟨[], .nil, by rw [List.isEmpty_iff.1 he]; rfl⟩
    | case5 => cases h
    | case6 c cs hone htwo hc ih =>
        have hescape : c ≠ '\\' := by
          rintro rfl
          cases cs with
          | nil => exact hone rfl rfl
          | cons d cs => exact htwo d cs rfl rfl
        obtain ⟨u, hu, -⟩ := map_eq_ok_iff.1 h
        obtain ⟨body, hbody, rfl⟩ := ih u hu
        exact ⟨c :: body, .plain hescape hc hbody, rfl⟩
  · rintro ⟨body, hbody, rfl⟩
    induction hbody with
    | nil => exact ⟨[], unquote_quoted whole hq []⟩
    | escaped c _ ih =>
        obtain ⟨s, hs⟩ := ih
        exact ⟨_, (unquote_escaped whole q c _).trans (map_eq_ok_iff.2 ⟨s, hs, rfl⟩)⟩
    | plain hc hne _ ih =>
        obtain ⟨s, hs⟩ := ih
        exact ⟨_, (unquote_plain hc hne whole _).trans (map_eq_ok_iff.2 ⟨s, hs, rfl⟩)⟩

/-- The splitter refuses a text unless its brackets and quotes are closed. Of any other it gives the
only parts that are closed in the same way, have no comma of their own, and joined make up the text;
these are at least one, as there is one part where there is no comma. -/
theorem splitTopLevel_iff (cs : List Char) :
    ((∃ ts, splitTopLevel cs = .ok ts) ↔ IsBalanced cs) ∧
    ∀ ts, splitTopLevel cs = .ok ts ↔
      ts ≠ [] ∧ Text.joinWith ',' ts = cs ∧ ∀ t ∈ ts, IsPart t := by
  have hfound : ∀ {ts}, splitTopLevel cs = .ok ts →
      ∃ t us, ts = t :: us ∧ Found 0 cs t us := by
    intro ts h
    obtain ⟨⟨t, us⟩, hp, rfl⟩ := map_eq_ok_iff.1 h
    exact ⟨t, us, rfl, (finds _ cs).outside hp⟩
  refine ⟨⟨?_, ?_⟩, fun ts => ⟨fun h => ?_, ?_⟩⟩
  · rintro ⟨ts, h⟩
    obtain ⟨t, us, -, hf⟩ := hfound h
    exact hf.whole
  · rintro ⟨bare, hbare, hb⟩
    obtain ⟨p, hp⟩ := exists_parts hbare hb (String.ofList cs)
    exact ⟨_, map_eq_ok_iff.2 ⟨p, hp, rfl⟩⟩
  · obtain ⟨t, us, rfl, hf⟩ := hfound h
    exact ⟨List.cons_ne_nil t us, hf.joined, List.forall_mem_cons.2 ⟨hf.first, hf.others⟩⟩
  · rintro ⟨hne, rfl, h⟩
    exact splitTopLevel_joinWith hne fun t ht => (h t ht).closed

end ChatTurn.Literal
