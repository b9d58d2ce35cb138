import ChatTurn.Proofs.Json.Number
import ChatTurn.Proofs.Text.Trim
import Mathlib.Data.List.DropRight

namespace ChatTurn.Json

namespace Parser

variable {α : Type} {b cs ds rest r t u v w x : List Char} {f : Nat} {c : Char}

theorem skip_append (hb : ∀ c ∈ b, isBlank c = true) (cs : List Char) :
    skip (b ++ cs) = skip cs := List.dropWhile_append_of_pos hb

theorem exists_skip (cs : List Char) : ∃ b, (∀ c ∈ b, isBlank c = true) ∧ cs = b ++ skip cs :=
  ⟨cs.takeWhile isBlank, fun _ hc => List.mem_takeWhile_imp hc,
    List.takeWhile_append_dropWhile.symm⟩

theorem skip_skip (cs : List Char) : skip (skip cs) = skip cs :=
  List.dropWhile_idempotent _ _

theorem isDigit_of_isBlank (h : isBlank c = true) : isDigit c = false := by
  rw [Bool.eq_false_iff]
  intro hd
  rw [isBlank_of_isDigit hd] at h
  cases h

theorem stops_append (hb : ∀ c ∈ b, isBlank c = true) (hr : Stops r) : Stops (b ++ r) := by
  cases b with
  | nil => exact hr
  | cons c b =>
      have hc := hb c List.mem_cons_self
      refine stops_cons ⟨isDigit_of_isBlank hc, ?_⟩
      refine ⟨?_, ?_, ?_⟩ <;>
        · rintro rfl
          cases hc

theorem exists_of_digits? (h : digits? cs = some (ds, rest)) :
    cs = ds ++ rest ∧ ds ≠ [] ∧ ∀ c ∈ ds, isDigit c = true := by
  rw [digits?] at h
  split at h
  · cases h
  · next hne =>
      cases h
      exact ⟨List.takeWhile_append_dropWhile.symm, fun he => hne (by rw [he]; rfl),
        fun c hc => List.mem_takeWhile_imp hc⟩

theorem exists_of_whole? (h : whole? cs = some (ds, rest)) : cs = ds ++ rest ∧ ds ≠ [] ∧
    ∀ r : List Char, (∀ c ∈ r.head?, isDigit c = false) → whole? (ds ++ r) = some (ds, r) := by
  obtain ⟨⟨ds', rest'⟩, hd, h⟩ := Option.bind_eq_some_iff.1 h
  simp only at h
  split at h
  · cases h
  · next hzero =>
      cases h
      obtain ⟨hcs, hne, hdigits⟩ := exists_of_digits? hd
      refine ⟨hcs, hne, fun r hr => ?_⟩
      rw [whole?, digits?_of_digits hdigits hne hr]
      exact if_neg hzero

theorem exists_of_fraction? {o : Option (List Char)} (h : fraction? cs = some (o, rest)) :
    ∃ t, cs = t ++ rest ∧ ∀ r : List Char, (∀ c ∈ r.head?, isDigit c = false ∧ c ≠ '.') →
      fraction? (t ++ r) = some (o, r) ∧ ∀ c ∈ (t ++ r).head?, isDigit c = false := by
  by_cases hdot : ∃ t, cs = '.' :: t
  · obtain ⟨t, rfl⟩ := hdot
    obtain ⟨⟨ds, rest'⟩, hd, he⟩ := Option.map_eq_some_iff.1 h
    cases he
    obtain ⟨rfl, hne, hdigits⟩ := exists_of_digits? hd
    refine ⟨'.' :: ds, rfl, fun r hr => ⟨?_, fun c hc => ?_⟩⟩
    · rw [List.cons_append, fraction?, digits?_of_digits hdigits hne fun c hc => (hr c hc).1]
      rfl
    · cases hc
      rfl
  · rw [fraction?_of_ne (not_exists.1 hdot)] at h
    cases h
    refine ⟨[], rfl, fun r hr => ⟨fraction?_of_ne ?_, fun c hc => (hr c hc).1⟩⟩
    rintro t rfl
    exact (hr '.' rfl).2 rfl

theorem exists_of_takeSign {negative : Bool} (hne : ds ≠ []) (hd : ∀ c ∈ ds, isDigit c = true)
    (h : Double.takeSign cs = (negative, ds ++ rest)) :
    ∃ t, cs = t ++ rest ∧ ∀ r, Double.takeSign (t ++ r) = (negative, ds ++ r) := by
  rw [Double.takeSign.eq_def] at h
  split at h
  · obtain ⟨rfl, rfl⟩ := Prod.mk.inj h
    exact ⟨'-' :: ds, rfl, fun r => rfl⟩
  · obtain ⟨rfl, rfl⟩ := Prod.mk.inj h
    exact ⟨'+' :: ds, rfl, fun r => rfl⟩
  · obtain ⟨rfl, hcs⟩ := Prod.mk.inj h
    obtain ⟨d, ds, rfl⟩ := List.exists_cons_of_ne_nil hne
    have hdigit := hd d List.mem_cons_self
    refine ⟨d :: ds, hcs, fun r => ?_⟩
    rw [Double.takeSign.eq_def]
    split
    · next he =>
        cases he
        cases hdigit
    · next he =>
        cases he
        cases hdigit
    · rfl

theorem exponent?_of_stops (h : Stops r) : exponent? r = some (none, r) := by
  cases r with
  | nil => rfl
  | cons c r =>
      have hc := (h c rfl).2.2
      rw [exponent?, if_neg (by simp [hc.1, hc.2])]

theorem exists_of_exponent? {o : Option (Bool × List Char)} (h : exponent? cs = some (o, rest)) :
    ∃ t, cs = t ++ rest ∧ ∀ r, Stops r → exponent? (t ++ r) = some (o, r) ∧
      ∀ c ∈ (t ++ r).head?, isDigit c = false ∧ c ≠ '.' := by
  have hnone : ∀ r, Stops r → exponent? ([] ++ r) = some (none, r) ∧
      ∀ c ∈ ([] ++ r).head?, isDigit c = false ∧ c ≠ '.' := fun r hr =>
    ⟨exponent?_of_stops hr, fun c hc => ⟨(hr c hc).1, (hr c hc).2.1⟩⟩
  cases cs with
  | nil =>
      cases h
      exact ⟨[], rfl, hnone⟩
  | cons e cs =>
      rw [exponent?] at h
      split at h
      · next he =>
          have hhead : isDigit e = false ∧ e ≠ '.' := by
            simp only [Bool.or_eq_true, decide_eq_true_eq] at he
            rcases he with rfl | rfl <;> decide
          cases hs : Double.takeSign cs with
          | mk negative signed =>
              rw [hs] at h
              obtain ⟨⟨ds, rest'⟩, hd, ho⟩ := Option.map_eq_some_iff.1 h
              cases ho
              obtain ⟨rfl, hne, hdigits⟩ := exists_of_digits? hd
              obtain ⟨t, rfl, ht⟩ := exists_of_takeSign hne hdigits hs
              refine ⟨e :: t, rfl, fun r hr => ⟨?_, ?_⟩⟩
              · rw [List.cons_append, exponent?, if_pos he, ht]
                simp only [digits?_of_digits hdigits hne fun c hc => (hr c hc).1, Option.map_some]
              · rintro c ⟨⟩
                exact hhead
      · cases h
        exact ⟨[], rfl, hnone⟩

theorem exists_of_number {l : Literal} (h : number cs = some (l, rest)) :
    ∃ t, cs = t ++ rest ∧ ∀ r, Stops r → number (t ++ r) = some (l, r) := by
  rw [number_eq] at h
  obtain ⟨⟨ds, t⟩, hw, h⟩ := Option.bind_eq_some_iff.1 h
  obtain ⟨⟨o, u⟩, hf, h⟩ := Option.bind_eq_some_iff.1 h
  obtain ⟨⟨p, v⟩, he, h⟩ := Option.bind_eq_some_iff.1 h
  cases h
  obtain ⟨hcs, hne, hds⟩ := exists_of_whole? hw
  obtain ⟨t, rfl, ht⟩ := exists_of_fraction? hf
  obtain ⟨u, rfl, hu⟩ := exists_of_exponent? he
  -- what the parts are read from, whatever stands behind them
  have hparts : ∀ r, Stops r → whole? (ds ++ (t ++ (u ++ r))) = some (ds, t ++ (u ++ r)) ∧
      fraction? (t ++ (u ++ r)) = some (o, u ++ r) ∧ exponent? (u ++ r) = some (p, r) := by
    intro r hr
    obtain ⟨hexp, hexpHead⟩ := hu r hr
    obtain ⟨hfrac, hfracHead⟩ := ht (u ++ r) hexpHead
    exact ⟨hds _ hfracHead, hfrac, hexp⟩
  by_cases hm : cs.head? = some '-'
  · obtain ⟨cs, rfl⟩ := List.head?_eq_some_iff.1 hm
    rw [if_pos hm, List.tail_cons] at hcs
    refine ⟨'-' :: (ds ++ (t ++ u)), by simp [hcs], fun r hr => ?_⟩
    obtain ⟨hwhole, hfrac, hexp⟩ := hparts r hr
    rw [number_eq]
    simp [hwhole, hfrac, hexp]
  · rw [if_neg hm] at hcs
    refine ⟨ds ++ (t ++ u), by simp [hcs], fun r hr => ?_⟩
    obtain ⟨hwhole, hfrac, hexp⟩ := hparts r hr
    have hhead : (ds ++ (t ++ (u ++ r))).head? ≠ some '-' := by
      obtain ⟨d, ds, rfl⟩ := List.exists_cons_of_ne_nil hne
      rw [hcs] at hm
      exact hm
    rw [number_eq, List.append_assoc, List.append_assoc, if_neg hhead, decide_eq_false hhead,
      decide_eq_false hm]
    simp [hwhole, hfrac, hexp]

theorem pieces_letter {e c : Char} (h : escape? e = some c) (he : e ≠ 'u')
    (rest : List Char) : pieces ('\\' :: e :: rest) =
      (pieces rest).map fun q => (.char c :: q.1, q.2) := by
  rw [pieces, h]
  · cases pieces rest <;> rfl
  · rintro a b c d cs he' -
    exact he he'

theorem pieces_unit {a b c d : Char} {n : Nat} (h : hexUnit? a b c d = some n)
    (rest : List Char) : pieces ('\\' :: 'u' :: a :: b :: c :: d :: rest) =
      (pieces rest).map fun q => (.unit n :: q.1, q.2) := by
  rw [pieces, h]
  cases pieces rest <;> rfl

theorem pieces_plain {c : Char} (hq : c ≠ '"') (hb : c ≠ '\\') (hc : ¬ c.toNat < 0x20)
    (rest : List Char) : pieces (c :: rest) =
      (pieces rest).map fun q => (.char c :: q.1, q.2) := by
  rw [pieces.eq_def]
  split
  · next h => cases h
  · next h => exact absurd (List.cons.inj h).1 hq
  · next h => exact absurd (List.cons.inj h).1 hb
  · next h => exact absurd (List.cons.inj h).1 hb
  · next h =>
      cases h
      rw [if_neg (by simp [hc, hb])]
      cases pieces rest <;> rfl

theorem exists_of_pieces {ps : List Piece} (h : pieces cs = some (ps, rest)) :
    ∃ t, cs = t ++ rest ∧ ∀ r, pieces (t ++ r) = some (ps, r) := by
  fun_induction pieces cs generalizing ps with
  | case1 => cases h
  | case2 cs =>
      cases h
      exact ⟨['"'], rfl, fun r => rfl⟩
  | case3 a b c d cs ih =>
      obtain ⟨n, hn, h⟩ := Option.bind_eq_some_iff.1 h
      obtain ⟨⟨ps', rest'⟩, hp, h⟩ := Option.bind_eq_some_iff.1 h
      cases h
      obtain ⟨t, rfl, ht⟩ := ih hp
      refine ⟨'\\' :: 'u' :: a :: b :: c :: d :: t, rfl, fun r => ?_⟩
      simp only [List.cons_append, pieces_unit hn, ht, Option.map_some]
  | case4 e cs _ ih =>
      obtain ⟨c, hc, h⟩ := Option.bind_eq_some_iff.1 h
      obtain ⟨⟨ps', rest'⟩, hp, h⟩ := Option.bind_eq_some_iff.1 h
      cases h
      obtain ⟨t, rfl, ht⟩ := ih hp
      have he : e ≠ 'u' := by
        rintro rfl
        cases hc
      refine ⟨'\\' :: e :: t, rfl, fun r => ?_⟩
      simp only [List.cons_append, pieces_letter hc he, ht, Option.map_some]
  | case5 => cases h
  | case6 c cs hq _ _ hc ih =>
      rw [Bool.or_eq_true, not_or, beq_iff_eq, decide_eq_true_eq] at hc
      obtain ⟨⟨ps', rest'⟩, hp, h⟩ := Option.bind_eq_some_iff.1 h
      cases h
      obtain ⟨t, rfl, ht⟩ := ih hp
      refine ⟨c :: t, rfl, fun r => ?_⟩
      simp only [List.cons_append, pieces_plain hq hc.2 hc.1, ht, Option.map_some]

theorem exists_of_string {s : Option String} (h : string cs = some (s, rest)) :
    ∃ t, cs = t ++ rest ∧ ∀ r, string (t ++ r) = some (s, r) := by
  obtain ⟨⟨ps, rest'⟩, hp, h⟩ := Option.bind_eq_some_iff.1 h
  cases h
  obtain ⟨t, rfl, ht⟩ := exists_of_pieces hp
  refine ⟨t, rfl, fun r => ?_⟩
  rw [string, ht]
  rfl

variable {n : Node} {ns : List Node} {k : Option String} {ms : List (Option String × Node)}

theorem value_skip (f : Nat) (cs : List Char) : value f (skip cs) = value f cs := by
  cases f with
  | zero => rfl
  | succ f => rw [value, value, skip_skip]

theorem items_skip (f : Nat) (cs : List Char) : items f (skip cs) = items f cs := by
  cases f with
  | zero => rfl
  | succ f => rw [items, items, value_skip]

theorem members_skip (f : Nat) (cs : List Char) : members f (skip cs) = members f cs := by
  cases f with
  | zero => rfl
  | succ f => rw [members, members, skip_skip]

def itemEnd (f : Nat) (n : Node) (u : List Char) : Option (List Node × List Char) :=
  match skip u with
  | ',' :: v => (items f v).map fun (ns, rest) => (n :: ns, rest)
  | ']' :: v => some ([n], v)
  | _ => none

def memberEnd (f : Nat) (k : Option String) (n : Node) (u : List Char) :
    Option (List (Option String × Node) × List Char) :=
  match skip u with
  | ',' :: v => (members f v).map fun (ms, rest) => ((k, n) :: ms, rest)
  | '\x7d' :: v => some ([(k, n)], v)
  | _ => none

theorem items_step (h : value f cs = some (n, u)) : items (f + 1) cs = itemEnd f n u := by
  simp only [items, h]
  rfl

theorem members_step (hcs : skip cs = '"' :: t) (ht : string t = some (k, u))
    (hu : skip u = ':' :: v) (hv : value f v = some (n, w)) :
    members (f + 1) cs = memberEnd f k n w := by
  simp only [members, hcs, ht, hu, hv]
  rfl

theorem value_bracket (f : Nat) (cs : List Char) : value (f + 1) ('[' :: cs) =
    match skip cs with
    | ']' :: cs => some (.array [], cs)
    | cs => (items f cs).map fun (ns, rest) => (.array ns, rest) := rfl

theorem value_brace (f : Nat) (cs : List Char) : value (f + 1) ('\x7b' :: cs) =
    match skip cs with
    | '\x7d' :: cs => some (.object [], cs)
    | cs => (members f cs).map fun (ms, rest) => (.object ms, rest) := rfl

theorem value_array (h : items f cs = some (ns, rest)) :
    value (f + 1) ('[' :: cs) = some (.array ns, rest) := by
  rw [← items_skip] at h
  rw [value_bracket]
  split
  · next he =>
      rw [he] at h
      rcases f with _ | _ | f <;> cases h
  · rw [h]
    rfl

theorem value_object (h : members f cs = some (ms, rest)) :
    value (f + 1) ('\x7b' :: cs) = some (.object ms, rest) := by
  rw [← members_skip] at h
  rw [value_brace]
  split
  · next he =>
      rw [he] at h
      cases f <;> cases h
  · rw [h]
    rfl

/-- The reader takes `t` from the front of every text that does not go on with a number, if it has
two steps for each character of `t` and `more`. -/
def Takes (read : Nat → List Char → Option (α × List Char)) (more : Nat) (t : List Char) (a : α) :
    Prop := ∀ k r, 2 * t.length + more ≤ k → Stops r → read k (t ++ r) = some (a, r)

/-- With this fuel, what the reader takes from some text it takes from others too. The text of
members ends with the brace that closes them. -/
structure TakesAt (fuel : Nat) : Prop where
  value : ∀ {cs rest n}, value fuel cs = some (n, rest) → ∃ t, cs = t ++ rest ∧ Takes value 0 t n
  items : ∀ {cs rest ns}, items fuel cs = some (ns, rest) →
    ∃ t, cs = t ++ rest ∧ Takes items 1 t ns
  members : ∀ {cs rest ms}, members fuel cs = some (ms, rest) →
    ∃ t, cs = t ++ '\x7d' :: rest ∧ Takes members 1 (t ++ ['\x7d']) ms

theorem Takes.blank (h : Takes value 0 t n) (hb : ∀ c ∈ b, isBlank c = true) :
    Takes value 0 (b ++ t) n := by
  intro k r hk hr
  rw [List.length_append] at hk
  rw [← value_skip, List.append_assoc, skip_append hb, value_skip]
  exact h k r (by omega) hr

theorem takes_of_succ {c : Char}
    (h : ∀ k r, 2 * t.length + 1 ≤ k → Stops r → value (k + 1) (c :: (t ++ r)) = some (n, r)) :
    Takes value 0 (c :: t) n := by
  intro k r hk hr
  rw [List.length_cons] at hk
  obtain ⟨k, rfl⟩ := Nat.exists_eq_add_one.2 (show 0 < k by omega)
  exact h k r (by omega) hr

theorem stops_separator (hb : ∀ c ∈ b, isBlank c = true) {c : Char}
    (hc : c ∈ [',', ']', '\x7d']) (r : List Char) : Stops (b ++ c :: r) := by
  refine stops_append hb (stops_cons ?_)
  rcases List.mem_cons.1 hc with rfl | hc
  · decide
  · rcases List.mem_pair.1 hc with rfl | rfl <;> decide

theorem Takes.items_separator (ht : Takes value 0 t n) {k : Nat} (hk : 2 * t.length ≤ k)
    (hb : ∀ c ∈ b, isBlank c = true) {c : Char} (hc : c ∈ [',', ']', '\x7d']) (r : List Char) :
    items (k + 1) (t ++ (b ++ c :: r)) = itemEnd k n (c :: r) := by
  rw [items_step (ht k _ hk (stops_separator hb hc r)), itemEnd, skip_append hb, ← itemEnd]

theorem exists_of_brace {fuel : Nat} (hfuel : TakesAt fuel)
    (h : value (fuel + 1) ('\x7b' :: cs) = some (n, rest)) :
    ∃ t, cs = t ++ '\x7d' :: rest ∧ Takes value 0 ('\x7b' :: (t ++ ['\x7d'])) n := by
  obtain ⟨b, hb, hcs⟩ := exists_skip cs
  rw [value_brace] at h
  generalize skip cs = ds at h hcs
  subst hcs
  split at h
  · cases h
    refine ⟨b, rfl, takes_of_succ fun k r _ _ => ?_⟩
    rw [List.append_assoc, value_brace, skip_append hb]
    rfl
  · obtain ⟨⟨ms, rest'⟩, hm, he⟩ := Option.map_eq_some_iff.1 h
    cases he
    obtain ⟨t, rfl, ht⟩ := hfuel.members hm
    refine ⟨b ++ t, (List.append_assoc ..).symm, takes_of_succ fun k r hk hr => value_object ?_⟩
    rw [List.append_assoc, List.length_append] at hk
    rw [← members_skip, List.append_assoc, List.append_assoc, skip_append hb, members_skip,
      ← List.append_assoc]
    exact ht k r (by omega) hr

theorem exists_of_bracket {fuel : Nat} (hfuel : TakesAt fuel)
    (h : value (fuel + 1) ('[' :: cs) = some (n, rest)) :
    ∃ t, cs = t ++ rest ∧ Takes value 0 ('[' :: t) n := by
  obtain ⟨b, hb, hcs⟩ := exists_skip cs
  rw [value_bracket] at h
  generalize skip cs = ds at h hcs
  subst hcs
  split at h
  · next cs =>
      cases h
      refine ⟨b ++ [']'], by simp, takes_of_succ fun k r _ _ => ?_⟩
      rw [List.append_assoc, value_bracket, skip_append hb]
      rfl
  · obtain ⟨⟨ns, rest'⟩, hn, he⟩ := Option.map_eq_some_iff.1 h
    cases he
    obtain ⟨t, rfl, ht⟩ := hfuel.items hn
    refine ⟨b ++ t, (List.append_assoc ..).symm, takes_of_succ fun k r hk hr => value_array ?_⟩
    rw [List.length_append] at hk
    rw [← items_skip, List.append_assoc, skip_append hb, items_skip]
    exact ht k r (by omega) hr

theorem takes_value {fuel : Nat} (hfuel : TakesAt fuel)
    (h : value (fuel + 1) cs = some (n, rest)) : ∃ t, cs = t ++ rest ∧ Takes value 0 t n := by
  obtain ⟨b, hb, hcs⟩ := exists_skip cs
  rw [← value_skip] at h
  have hskip := skip_skip cs
  generalize skip cs = ds at h hcs hskip
  subst hcs
  suffices hds : ∃ t, ds = t ++ rest ∧ Takes value 0 t n by
    obtain ⟨t, rfl, ht⟩ := hds
    exact ⟨b ++ t, (List.append_assoc ..).symm, ht.blank hb⟩
  have hvalue := h
  rw [value, hskip] at h
  split at h
  · cases h
    exact ⟨_ :: ['u', 'l', 'l'], rfl, takes_of_succ fun k r _ _ => rfl⟩
  · cases h
    exact ⟨_ :: ['r', 'u', 'e'], rfl, takes_of_succ fun k r _ _ => rfl⟩
  · cases h
    exact ⟨_ :: ['a', 'l', 's', 'e'], rfl, takes_of_succ fun k r _ _ => rfl⟩
  · next ds =>
      obtain ⟨⟨s, rest'⟩, hs, he⟩ := Option.map_eq_some_iff.1 h
      cases he
      obtain ⟨t, rfl, ht⟩ := exists_of_string hs
      refine ⟨'"' :: t, rfl, takes_of_succ fun k r _ _ => ?_⟩
      rw [value, skip_cons rfl]
      simp only [ht, Option.map_some]
  · obtain ⟨t, rfl, ht⟩ := exists_of_bracket hfuel hvalue
    exact ⟨_, rfl, ht⟩
  · obtain ⟨t, rfl, ht⟩ := exists_of_brace hfuel hvalue
    exact ⟨_, by simp, ht⟩
  · obtain ⟨⟨l, rest'⟩, hl, he⟩ := Option.map_eq_some_iff.1 h
    cases he
    obtain ⟨t, rfl, ht⟩ := exists_of_number hl
    refine ⟨t, rfl, fun k r hk hr => ?_⟩
    obtain ⟨c, u, hc, -⟩ := head_of_number (ht [] stops_nil)
    rw [List.append_nil] at hc
    rw [hc, List.length_cons] at hk
    obtain ⟨k, rfl⟩ := Nat.exists_eq_add_one.2 (show 0 < k by omega)
    exact value_number (ht r hr) k

theorem takes_items {fuel : Nat} (hfuel : TakesAt fuel)
    (h : items (fuel + 1) cs = some (ns, rest)) : ∃ t, cs = t ++ rest ∧ Takes items 1 t ns := by
  cases hv : value fuel cs with
  | none => simp only [items, hv, reduceCtorEq] at h
  | some q =>
      obtain ⟨n, u⟩ := q
      obtain ⟨t, rfl, ht⟩ := hfuel.value hv
      obtain ⟨b, hb, hu⟩ := exists_skip u
      rw [items_step hv, itemEnd] at h
      generalize skip u = v at h hu
      subst hu
      split at h
      · obtain ⟨⟨ns', rest'⟩, hn, he⟩ := Option.map_eq_some_iff.1 h
        cases he
        obtain ⟨w, rfl, hw⟩ := hfuel.items hn
        refine ⟨t ++ (b ++ ',' :: w), by simp, fun k r hk hr => ?_⟩
        simp only [List.length_append, List.length_cons] at hk
        obtain ⟨k, rfl⟩ := Nat.exists_eq_add_one.2 (show 0 < k by omega)
        rw [List.append_assoc, List.append_assoc, List.cons_append,
          ht.items_separator (by omega) hb (by decide), itemEnd, skip_cons rfl]
        simp only [hw k r (by omega) hr, Option.map_some]
      · cases h
        refine ⟨t ++ (b ++ [']']), by simp, fun k r hk hr => ?_⟩
        simp only [List.length_append, List.length_cons] at hk
        obtain ⟨k, rfl⟩ := Nat.exists_eq_add_one.2 (show 0 < k by omega)
        rw [List.append_assoc, List.append_assoc, List.singleton_append,
          ht.items_separator (by omega) hb (by decide), itemEnd, skip_cons rfl]
        rfl
      · cases h

theorem exists_member {fuel : Nat} (hfuel : TakesAt fuel)
    (h : members (fuel + 1) cs = some (ms, rest)) :
    ∃ t k n u, cs = t ++ u ∧ memberEnd fuel k n u = some (ms, rest) ∧
      ∀ j r, 2 * t.length ≤ j → Stops r → members (j + 1) (t ++ r) = memberEnd j k n r := by
  have hfirst := h
  obtain ⟨b, hb, hcs⟩ := exists_skip cs
  rw [members] at h
  generalize hds : skip cs = ds at h hcs
  split at h
  · next ds =>
      split at h
      · cases h
      · next key u hs =>
          obtain ⟨b', hb', hu⟩ := exists_skip u
          generalize huv : skip u = v at h hu
          split at h
          · next v =>
              split at h
              · cases h
              · next n w hv =>
                  rw [members_step hds hs huv hv] at hfirst
                  obtain ⟨t, rfl, ht⟩ := exists_of_string hs
                  obtain ⟨v, rfl, ht'⟩ := hfuel.value hv
                  subst hu
                  refine ⟨b ++ '"' :: (t ++ (b' ++ ':' :: v)), key, n, w, by simp [hcs], hfirst,
                    fun j r hj hr => ?_⟩
                  simp only [List.length_append, List.length_cons] at hj
                  simp only [List.append_assoc, List.cons_append]
                  refine members_step ?_ (ht (b' ++ ':' :: (v ++ r))) ?_ (ht' j r (by omega) hr)
                  · rw [skip_append hb, skip_cons rfl]
                  · rw [skip_append hb', skip_cons rfl]
          · cases h
  · cases h

theorem takes_members {fuel : Nat} (hfuel : TakesAt fuel)
    (h : members (fuel + 1) cs = some (ms, rest)) :
    ∃ t, cs = t ++ '\x7d' :: rest ∧ Takes members 1 (t ++ ['\x7d']) ms := by
  obtain ⟨t, k, n, u, rfl, hend, ht⟩ := exists_member hfuel h
  obtain ⟨b, hb, hu⟩ := exists_skip u
  rw [memberEnd] at hend
  generalize skip u = v at hend hu
  subst hu
  split at hend
  · obtain ⟨⟨ms', rest'⟩, hm, he⟩ := Option.map_eq_some_iff.1 hend
    cases he
    obtain ⟨w, rfl, hw⟩ := hfuel.members hm
    refine ⟨t ++ (b ++ ',' :: w), by simp, fun j r hj hr => ?_⟩
    simp only [List.length_append, List.length_cons] at hj
    obtain ⟨j, rfl⟩ := Nat.exists_eq_add_one.2 (show 0 < j by omega)
    have hmore := hw j r (by simp only [List.length_append, List.length_cons]; omega) hr
    have hstop := stops_separator (c := ',') hb (by decide) (w ++ ['\x7d'] ++ r)
    rw [show t ++ (b ++ ',' :: w) ++ ['\x7d'] ++ r = t ++ (b ++ ',' :: (w ++ ['\x7d'] ++ r)) by simp,
      ht j _ (by omega) hstop, memberEnd, skip_append hb, skip_cons rfl]
    simp only [hmore, Option.map_some]
  · cases hend
    refine ⟨t ++ b, by simp, fun j r hj hr => ?_⟩
    simp only [List.length_append, List.length_cons] at hj
    obtain ⟨j, rfl⟩ := Nat.exists_eq_add_one.2 (show 0 < j by omega)
    have hstop := stops_separator (c := '\x7d') hb (by decide) r
    rw [show t ++ b ++ ['\x7d'] ++ r = t ++ (b ++ '\x7d' :: r) by simp,
      ht j _ (by omega) hstop, memberEnd, skip_append hb, skip_cons rfl]
    rfl
  · cases hend

theorem takesAt (fuel : Nat) : TakesAt fuel := by
  -- The three readers call each other with less fuel, so they go together.
  induction fuel with
  | zero => exact ⟨nofun, nofun, nofun⟩
  | succ fuel ih => exact ⟨takes_value ih, takes_items ih, takes_members ih⟩

theorem exists_of_object {fuel : Nat} (h : value fuel cs = some (.object ms, rest)) :
    ∃ b t, (∀ c ∈ b, isBlank c = true) ∧ cs = b ++ ('\x7b' :: (t ++ ['\x7d']) ++ rest) ∧
      Takes value 0 ('\x7b' :: (t ++ ['\x7d'])) (.object ms) := by
  cases fuel with
  | zero => cases h
  | succ fuel =>
      obtain ⟨b, hb, hcs⟩ := exists_skip cs
      rw [← value_skip] at h
      have hvalue := h
      rw [value, skip_skip] at h
      generalize skip cs = ds at h hvalue hcs
      split at h
      case h_6 =>
        obtain ⟨t, rfl, ht⟩ := exists_of_brace (takesAt fuel) hvalue
        exact ⟨b, t, hb, by simp [hcs], ht⟩
      case h_5 =>
        split at h
        · cases h
        · obtain ⟨_, -, he⟩ := Option.map_eq_some_iff.1 h
          cases he
      case h_4 | h_7 =>
        obtain ⟨_, -, he⟩ := Option.map_eq_some_iff.1 h
        cases he
      all_goals cases h

theorem isWhite_of_isBlank (h : isBlank c = true) : isWhite c = true := by
  simp only [isBlank, Bool.or_eq_true, beq_iff_eq] at h
  rcases h with ((rfl | rfl) | rfl) | rfl <;> rfl

end Parser

variable {cs : List Char} {ms : List (Option String × Node)}

/-- White space around the text of an object makes no difference. -/
theorem parse?_trim (h : parse? cs = some (.object ms)) :
    parse? (Text.trim cs) = some (.object ms) ∧ Text.trim cs ≠ [] := by
  rw [parse?] at h
  split at h
  · next n rest hv =>
      split at h
      · next hrest =>
          cases h
          obtain ⟨b, t, hb, rfl, ht⟩ := Parser.exists_of_object hv
          have htight : Text.IsTight ('\x7b' :: (t ++ ['\x7d'])) :=
            (Text.IsTight.singleton (c := '\x7b') rfl).around (.singleton (c := '\x7d') rfl) t
          have hskip : ∀ c ∈ rest, Parser.isBlank c = true :=
            List.dropWhile_eq_nil_iff.1 (List.isEmpty_iff.1 hrest)
          rw [htight.trim_around (fun c hc => Parser.isWhite_of_isBlank (hb c hc))
            fun c hc => Parser.isWhite_of_isBlank (hskip c hc), parse?]
          have hvalue := ht (2 * ('\x7b' :: (t ++ ['\x7d'])).length + 2) [] (by omega) Parser.stops_nil
          rw [List.append_nil] at hvalue
          rw [hvalue]
          exact ⟨rfl, List.cons_ne_nil _ _⟩
      · cases h
  · cases h

end ChatTurn.Json
