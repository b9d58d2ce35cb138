import ChatTurn.Proofs.Json.Locality
import ChatTurn.Proofs.Tool.Splitting

namespace ChatTurn.Literal

open Json.Parser (Piece skip isBlank isDigit digits? whole? fraction? exponent? pieces)

/-- The reader has gone from `cs` on to `rest`, and the splitter passes over what lies between. -/
def Passes (s s' : Nat → Nesting) (cs rest : List Char) : Prop :=
  ∃ t, cs = t ++ rest ∧ ∀ d, Takes (s d) t (s' d)

def inside (d : Nat) : Nesting := outside (d + 1)

variable {s s' s'' : Nat → Nesting} {cs rest rest' ds : List Char} {c : Char}

theorem Passes.refl : Passes s s cs cs := ⟨[], rfl, fun _ => .nil⟩

theorem Passes.trans (h : Passes s s' cs rest) (h' : Passes s' s'' rest rest') :
    Passes s s'' cs rest' := by
  obtain ⟨t, rfl, ht⟩ := h
  obtain ⟨u, rfl, hu⟩ := h'
  exact ⟨t ++ u, (List.append_assoc ..).symm, fun d => (ht d).append (hu d)⟩

theorem Passes.inside (h : Passes outside outside cs rest) :
    Passes Literal.inside Literal.inside cs rest := by
  obtain ⟨t, rfl, ht⟩ := h
  exact ⟨t, rfl, fun d => ht (d + 1)⟩

theorem Closed.passes (h : Closed ds) (rest : List Char) :
    Passes outside outside (ds ++ rest) rest := ⟨ds, rfl, h⟩

theorem passes_plain (h : marks.contains c = false) (cs : List Char) :
    Passes outside outside (c :: cs) cs := by
  have hc : Closed [c] := by
    apply closed_of_all
    rw [List.all_cons, h]
    rfl
  exact hc.passes cs

theorem passes_open (h : c ∈ ['(', '[', '\x7b']) : Passes outside inside (c :: cs) cs :=
  ⟨[c], rfl, fun _ => takes_opening h⟩

theorem passes_close (h : c ∈ [')', ']', '\x7d']) : Passes inside outside (c :: cs) cs :=
  ⟨[c], rfl, fun _ => takes_closing h⟩

theorem passes_comma : Passes inside inside (',' :: cs) cs := ⟨[','], rfl, inner_comma⟩

theorem not_mem_marks_of_isBlank (h : isBlank c = true) : c ∉ marks := by
  simp only [isBlank, Bool.or_eq_true, beq_iff_eq] at h
  rcases h with ((rfl | rfl) | rfl) | rfl <;> decide

theorem not_mem_marks_of_isDigit (h : isDigit c = true) : c ∉ marks := by
  intro hm
  have hall : marks.all (!isDigit ·) = true := rfl
  have hn := List.all_eq_true.1 hall c hm
  rw [h] at hn
  cases hn

theorem passes_skip (cs : List Char) : Passes outside outside cs (skip cs) := by
  have hc : Closed (cs.takeWhile isBlank) :=
    closed_of_plain fun c hc => not_mem_marks_of_isBlank (List.mem_takeWhile_imp hc)
  have h := hc.passes (skip cs)
  rwa [skip, List.takeWhile_append_dropWhile] at h

theorem passes_digits? (h : digits? cs = some (ds, rest)) : Passes outside outside cs rest := by
  rw [digits?] at h
  split at h
  · cases h
  · cases h
    have hc : Closed (cs.takeWhile isDigit) :=
      closed_of_plain fun c hc => not_mem_marks_of_isDigit (List.mem_takeWhile_imp hc)
    have h := hc.passes (cs.dropWhile isDigit)
    rwa [List.takeWhile_append_dropWhile] at h

theorem passes_whole? (h : whole? cs = some (ds, rest)) : Passes outside outside cs rest := by
  obtain ⟨⟨ds', rest'⟩, hd, h⟩ := Option.bind_eq_some_iff.1 h
  simp only at h
  split at h
  · cases h
  · cases h
    exact passes_digits? hd

theorem passes_fraction? {f : Option (List Char)} (h : fraction? cs = some (f, rest)) :
    Passes outside outside cs rest := by
  by_cases hc : ∃ t, cs = '.' :: t
  · obtain ⟨t, rfl⟩ := hc
    obtain ⟨⟨ds, rest'⟩, hd, he⟩ := Option.map_eq_some_iff.1 h
    cases he
    exact (passes_plain rfl t).trans (passes_digits? hd)
  · rw [Json.Parser.fraction?_of_ne (not_exists.1 hc)] at h
    cases h
    exact .refl

theorem passes_takeSign (cs : List Char) :
    Passes outside outside cs (Double.takeSign cs).2 := by
  rw [Double.takeSign.eq_def]
  split
  · next t => exact passes_plain rfl t
  · next t => exact passes_plain rfl t
  · exact .refl

theorem passes_exponent? {e : Option (Bool × List Char)} (h : exponent? cs = some (e, rest)) :
    Passes outside outside cs rest := by
  cases cs with
  | nil =>
      cases h
      exact .refl
  | cons c cs =>
      rw [exponent?] at h
      split at h
      · next hc =>
          have hplain : marks.contains c = false := by
            simp only [Bool.or_eq_true, decide_eq_true_eq] at hc
            rcases hc with rfl | rfl <;> rfl
          obtain ⟨⟨ds, rest'⟩, hd, he⟩ := Option.map_eq_some_iff.1 h
          cases he
          exact (passes_plain hplain cs).trans ((passes_takeSign cs).trans (passes_digits? hd))
      · cases h
        exact .refl

theorem passes_number {l : Json.Literal} (h : Json.Parser.number cs = some (l, rest)) :
    Passes outside outside cs rest := by
  rw [Json.Parser.number_eq] at h
  obtain ⟨⟨w, t⟩, hw, h⟩ := Option.bind_eq_some_iff.1 h
  obtain ⟨⟨f, u⟩, hf, h⟩ := Option.bind_eq_some_iff.1 h
  obtain ⟨⟨e, v⟩, he, h⟩ := Option.bind_eq_some_iff.1 h
  cases h
  have hsign : Passes outside outside cs (if cs.head? = some '-' then cs.tail else cs) := by
    split
    · next hm =>
        cases cs with
        | nil => cases hm
        | cons c cs =>
            cases hm
            exact passes_plain rfl cs
    · exact .refl
  exact hsign.trans ((passes_whole? hw).trans ((passes_fraction? hf).trans (passes_exponent? he)))

theorem passes_escaped (c : Char) : Passes (within '"') (within '"') ('\\' :: c :: cs) cs :=
  ⟨['\\', c], rfl, fun _ => takes_escaped c⟩

theorem passes_quoted (hb : c ≠ '\\') (hq : c ≠ '"') :
    Passes (within '"') (within '"') (c :: cs) cs :=
  ⟨[c], rfl, fun _ => takes_quoted hb hq⟩

theorem passes_hexDigit {n : Nat} (h : Json.Parser.hexDigit? c = some n) :
    Passes (within '"') (within '"') (c :: cs) cs := by
  apply passes_quoted
  · rintro rfl
    cases h
  · rintro rfl
    cases h

theorem passes_unit {e f g : Char} {n : Nat} (h : Json.Parser.hexUnit? c e f g = some n) :
    Passes (within '"') (within '"') ('\\' :: 'u' :: c :: e :: f :: g :: cs) cs := by
  obtain ⟨k, hk, h⟩ := Option.bind_eq_some_iff.1 h
  obtain ⟨l, hl, h⟩ := Option.bind_eq_some_iff.1 h
  obtain ⟨m, hm, h⟩ := Option.bind_eq_some_iff.1 h
  obtain ⟨o, ho, -⟩ := Option.bind_eq_some_iff.1 h
  exact (passes_escaped 'u').trans ((passes_hexDigit hk).trans ((passes_hexDigit hl).trans
    ((passes_hexDigit hm).trans (passes_hexDigit ho))))

theorem passes_pieces {ps : List Piece} (h : pieces cs = some (ps, rest)) :
    Passes (within '"') outside cs rest := by
  fun_induction pieces cs generalizing ps with
  | case1 => cases h
  | case2 cs =>
      cases h
      exact ⟨['"'], rfl, fun _ => takes_close (.inl rfl)⟩
  | case3 a b c d cs ih =>
      obtain ⟨n, hn, h⟩ := Option.bind_eq_some_iff.1 h
      obtain ⟨⟨ps', rest'⟩, hp, h⟩ := Option.bind_eq_some_iff.1 h
      cases h
      exact (passes_unit hn).trans (ih hp)
  | case4 e cs _ ih =>
      obtain ⟨c, -, h⟩ := Option.bind_eq_some_iff.1 h
      obtain ⟨⟨ps', rest'⟩, hp, h⟩ := Option.bind_eq_some_iff.1 h
      cases h
      exact (passes_escaped e).trans (ih hp)
  | case5 => cases h
  | case6 c cs hq _ _ hc ih =>
      rw [Bool.or_eq_true, not_or, beq_iff_eq] at hc
      obtain ⟨⟨ps', rest'⟩, hp, h⟩ := Option.bind_eq_some_iff.1 h
      cases h
      exact (passes_quoted hc.2 hq).trans (ih hp)

theorem passes_string {k : Option String} (h : Json.Parser.string cs = some (k, rest)) :
    Passes outside outside ('"' :: cs) rest := by
  obtain ⟨⟨ps, rest'⟩, hp, h⟩ := Option.bind_eq_some_iff.1 h
  cases h
  have hopen : Passes outside (within '"') ('"' :: cs) cs :=
    ⟨['"'], rfl, fun _ => takes_open (.inl rfl)⟩
  exact hopen.trans (passes_pieces hp)

/-- With this fuel, the splitter passes over whatever the reader takes. -/
structure PassesAt (fuel : Nat) : Prop where
  value : ∀ {cs rest n}, Json.Parser.value fuel cs = some (n, rest) →
    Passes outside outside cs rest
  items : ∀ {cs rest ns}, Json.Parser.items fuel cs = some (ns, rest) →
    Passes inside outside cs rest
  members : ∀ {cs rest ms}, Json.Parser.members fuel cs = some (ms, rest) →
    Passes inside outside cs rest

theorem passes_value {fuel : Nat} {n : Json.Node} (hfuel : PassesAt fuel)
    (h : Json.Parser.value (fuel + 1) cs = some (n, rest)) : Passes outside outside cs rest := by
  have hskip := passes_skip cs
  rw [Json.Parser.value] at h
  refine hskip.trans ?_
  -- The cases are about what follows the blanks, which needs a name of its own for them.
  generalize skip cs = ds at h ⊢
  split at h
  · cases h
    have hc : Closed ['n', 'u', 'l', 'l'] := closed_of_all rfl
    exact hc.passes _
  · cases h
    have hc : Closed ['t', 'r', 'u', 'e'] := closed_of_all rfl
    exact hc.passes _
  · cases h
    have hc : Closed ['f', 'a', 'l', 's', 'e'] := closed_of_all rfl
    exact hc.passes _
  · next t =>
      obtain ⟨⟨k, rest'⟩, hk, he⟩ := Option.map_eq_some_iff.1 h
      cases he
      exact passes_string hk
  · next t =>
      refine (passes_open (by decide)).trans ?_
      refine (passes_skip t).inside.trans ?_
      generalize skip t = u at h ⊢
      split at h
      · cases h
        exact passes_close (by decide)
      · obtain ⟨⟨ns, rest'⟩, hn, he⟩ := Option.map_eq_some_iff.1 h
        cases he
        exact hfuel.items hn
  · next t =>
      refine (passes_open (by decide)).trans ?_
      refine (passes_skip t).inside.trans ?_
      generalize skip t = u at h ⊢
      split at h
      · cases h
        exact passes_close (by decide)
      · obtain ⟨⟨ns, rest'⟩, hn, he⟩ := Option.map_eq_some_iff.1 h
        cases he
        exact hfuel.members hn
  · obtain ⟨⟨l, rest'⟩, hl, he⟩ := Option.map_eq_some_iff.1 h
    cases he
    exact passes_number hl

theorem passes_items {fuel : Nat} {ns : List Json.Node} (hfuel : PassesAt fuel)
    (h : Json.Parser.items (fuel + 1) cs = some (ns, rest)) : Passes inside outside cs rest := by
  rw [Json.Parser.items] at h
  split at h
  · cases h
  · next n t hv =>
      refine (hfuel.value hv).inside.trans ((passes_skip t).inside.trans ?_)
      generalize skip t = u at h ⊢
      split at h
      · obtain ⟨⟨ns', rest'⟩, hn, he⟩ := Option.map_eq_some_iff.1 h
        cases he
        exact passes_comma.trans (hfuel.items hn)
      · cases h
        exact passes_close (by decide)
      · cases h

theorem passes_members {fuel : Nat} {ms : List (Option String × Json.Node)} (hfuel : PassesAt fuel)
    (h : Json.Parser.members (fuel + 1) cs = some (ms, rest)) : Passes inside outside cs rest := by
  rw [Json.Parser.members] at h
  refine (passes_skip cs).inside.trans ?_
  generalize skip cs = ds at h ⊢
  split at h
  · split at h
    · cases h
    · next k t hk =>
        refine (passes_string hk).inside.trans ((passes_skip t).inside.trans ?_)
        generalize skip t = u at h ⊢
        split at h
        · next v =>
            refine (passes_plain rfl v).inside.trans ?_
            split at h
            · cases h
            · next n w hv =>
                refine (hfuel.value hv).inside.trans ((passes_skip w).inside.trans ?_)
                generalize skip w = x at h ⊢
                split at h
                · obtain ⟨⟨ms', rest'⟩, hm, he⟩ := Option.map_eq_some_iff.1 h
                  cases he
                  exact passes_comma.trans (hfuel.members hm)
                · cases h
                  exact passes_close (by decide)
                · cases h
        · cases h
  · cases h

theorem passesAt (fuel : Nat) : PassesAt fuel := by
  -- The three readers call each other with less fuel, so they go together.
  induction fuel with
  | zero => exact ⟨nofun, nofun, nofun⟩
  | succ fuel ih => exact ⟨passes_value ih, passes_items ih, passes_members ih⟩

theorem closed_of_parse? {n : Json.Node} (h : Json.parse? cs = some n) : Closed cs := by
  rw [Json.parse?] at h
  split at h
  · next m rest hv =>
      split at h
      · next hs =>
          obtain ⟨t, he, ht⟩ := ((passesAt _).value hv).trans (passes_skip rest)
          rw [List.isEmpty_iff.1 hs, List.append_nil] at he
          rw [he]
          exact ht
      · cases h
  · cases h

end ChatTurn.Literal
