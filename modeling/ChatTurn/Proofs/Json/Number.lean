import ChatTurn.Json.Parser
import ChatTurn.Json.Writer
import Mathlib.Data.List.TakeWhile

namespace ChatTurn.Json

def Literal.tailText (l : Literal) : List Char :=
  ((l.fraction.map ('.' :: ·)).getD []) ++
    (l.exponent.map fun e => 'e' :: (if e.1 then '-' else '+') :: e.2).getD []

/-- One text of the literal, with a sign before every exponent. -/
def Literal.text (l : Literal) : List Char :=
  (if l.negative then ['-'] else []) ++ (l.whole ++ l.tailText)

/-- Every part has its digits, and the integer part no zero before them. -/
structure Literal.IsSound (l : Literal) : Prop where
  whole : ∀ c ∈ l.whole, Parser.isDigit c = true
  nonempty : l.whole ≠ []
  leading : l.whole.head? = some '0' → l.whole = ['0']
  fraction : ∀ ds ∈ l.fraction, ds ≠ [] ∧ ∀ c ∈ ds, Parser.isDigit c = true
  exponent : ∀ e ∈ l.exponent, e.2 ≠ [] ∧ ∀ c ∈ e.2, Parser.isDigit c = true

namespace Parser

variable {cs ds rest r : List Char} {l : Literal}

theorem isDigit_eq (c : Char) : isDigit c = c.isDigit := by
  rw [Bool.eq_iff_iff, isDigit, Char.isDigit, decide_eq_true_iff, Bool.and_eq_true,
    decide_eq_true_iff, decide_eq_true_iff]
  rfl

def Stops (r : List Char) : Prop :=
  ∀ c ∈ r.head?, isDigit c = false ∧ c ≠ '.' ∧ c ≠ 'e' ∧ c ≠ 'E'

theorem stops_nil : Stops [] := nofun

theorem stops_cons {c : Char} (h : isDigit c = false ∧ c ≠ '.' ∧ c ≠ 'e' ∧ c ≠ 'E') :
    Stops (c :: r) := by
  intro c' hc
  cases hc
  exact h

theorem dropWhile_append_of_stops (h : Stops r) :
    (cs ++ r).dropWhile isDigit = cs.dropWhile isDigit ++ r := by
  induction cs with
  | nil =>
      cases r with
      | nil => rfl
      | cons c r => rw [List.nil_append, List.dropWhile_cons_of_neg (by simp [(h c rfl).1])]; rfl
  | cons c cs ih =>
      by_cases hc : isDigit c = true
      · rw [List.cons_append, List.dropWhile_cons_of_pos hc, List.dropWhile_cons_of_pos hc, ih]
      · rw [List.cons_append, List.dropWhile_cons_of_neg hc, List.dropWhile_cons_of_neg hc,
          List.cons_append]

theorem takeWhile_append_of_stops (h : Stops r) :
    (cs ++ r).takeWhile isDigit = cs.takeWhile isDigit := by
  induction cs with
  | nil =>
      cases r with
      | nil => rfl
      | cons c r => rw [List.nil_append, List.takeWhile_cons_of_neg (by simp [(h c rfl).1])]; rfl
  | cons c cs ih =>
      by_cases hc : isDigit c = true
      · rw [List.cons_append, List.takeWhile_cons_of_pos hc, List.takeWhile_cons_of_pos hc, ih]
      · rw [List.cons_append, List.takeWhile_cons_of_neg hc, List.takeWhile_cons_of_neg hc]

theorem digits?_append (h : digits? cs = some (ds, rest)) (hr : Stops r) :
    digits? (cs ++ r) = some (ds, rest ++ r) := by
  rw [digits?] at h ⊢
  rw [takeWhile_append_of_stops hr, dropWhile_append_of_stops hr]
  split at h
  · cases h
  · next he =>
      cases h
      exact if_neg he

theorem whole?_append (h : whole? cs = some (ds, rest)) (hr : Stops r) :
    whole? (cs ++ r) = some (ds, rest ++ r) := by
  obtain ⟨⟨es, rest'⟩, hd, h⟩ := Option.bind_eq_some_iff.1 h
  rw [whole?, digits?_append hd hr]
  simp only [bind, Option.bind] at h ⊢
  split at h
  · cases h
  · next he =>
      cases h
      exact if_neg he

theorem fraction?_of_ne (h : ∀ t, cs ≠ '.' :: t) : fraction? cs = some (none, cs) := by
  rw [fraction?.eq_def]
  split
  · next t => exact absurd rfl (h t)
  · rfl

theorem fraction?_append {f : Option (List Char)} (h : fraction? cs = some (f, rest))
    (hr : Stops r) : fraction? (cs ++ r) = some (f, rest ++ r) := by
  rw [fraction?.eq_def] at h
  split at h
  · next t =>
      obtain ⟨⟨es, rest'⟩, hd, he⟩ := Option.map_eq_some_iff.1 h
      cases he
      rw [List.cons_append, fraction?, digits?_append hd hr]
      rfl
  · next hne =>
      cases h
      refine fraction?_of_ne fun t ht => ?_
      cases cs with
      | nil => exact (hr '.' (by rw [← List.nil_append r, ht]; rfl)).2.1 rfl
      | cons c cs =>
          cases ht
          exact hne cs rfl

theorem takeSign_append (h : cs ≠ []) :
    Double.takeSign (cs ++ r) = ((Double.takeSign cs).1, (Double.takeSign cs).2 ++ r) := by
  cases cs with
  | nil => exact absurd rfl h
  | cons c cs =>
      by_cases hm : c = '-'
      · subst hm
        rfl
      · by_cases hp : c = '+'
        · subst hp
          rfl
        · simp [Double.takeSign, hm, hp]

theorem exponent?_append {e : Option (Bool × List Char)} (h : exponent? cs = some (e, rest))
    (hr : Stops r) : exponent? (cs ++ r) = some (e, rest ++ r) := by
  cases cs with
  | nil =>
      cases h
      cases r with
      | nil => rfl
      | cons c r =>
          obtain ⟨-, -, he, hE⟩ := hr c rfl
          simp [exponent?, he, hE]
  | cons c cs =>
      rw [exponent?] at h
      rw [List.cons_append, exponent?]
      split at h
      · next hc =>
          have hne : cs ≠ [] := by
            rintro rfl
            cases h
          rw [if_pos hc, takeSign_append hne]
          generalize Double.takeSign cs = signed at h ⊢
          obtain ⟨⟨ds, rest'⟩, hd, he⟩ := Option.map_eq_some_iff.1 h
          cases he
          simp only [digits?_append hd hr, Option.map_some]
      · next hc =>
          cases h
          rw [if_neg hc]
          rfl

theorem number_eq (cs : List Char) : number cs = (do
    let (whole, t) ← whole? (if cs.head? = some '-' then cs.tail else cs)
    let (fraction, t) ← fraction? t
    let (exponent, t) ← exponent? t
    some (⟨decide (cs.head? = some '-'), whole, fraction, exponent⟩, t)) := by
  unfold number
  cases cs with
  | nil => rfl
  | cons c cs =>
      by_cases hc : c = '-'
      · subst hc
        rfl
      · simp [hc]

theorem number_append (h : number cs = some (l, rest)) (hr : Stops r) :
    number (cs ++ r) = some (l, rest ++ r) := by
  rw [number_eq] at h ⊢
  have hne : cs ≠ [] := by
    rintro rfl
    cases h
  have hsign : (if (cs ++ r).head? = some '-' then (cs ++ r).tail else cs ++ r) =
      (if cs.head? = some '-' then cs.tail else cs) ++ r := by
    cases cs with
    | nil => exact absurd rfl hne
    | cons c cs =>
        rw [List.cons_append, List.head?_cons, List.head?_cons]
        split <;> rfl
  have hhead : (cs ++ r).head? = cs.head? := by
    cases cs with
    | nil => exact absurd rfl hne
    | cons c cs => rfl
  obtain ⟨⟨w, t⟩, hw, h⟩ := Option.bind_eq_some_iff.1 h
  obtain ⟨⟨f, u⟩, hf, h⟩ := Option.bind_eq_some_iff.1 h
  obtain ⟨⟨e, v⟩, he, h⟩ := Option.bind_eq_some_iff.1 h
  cases h
  rw [hsign, hhead, whole?_append hw hr]
  simp only [bind, Option.bind, fraction?_append hf hr, exponent?_append he hr]

theorem isDigit_head_of_digits? (h : digits? cs = some (ds, rest)) :
    ∃ c t, cs = c :: t ∧ isDigit c = true := by
  rw [digits?] at h
  cases cs with
  | nil => cases h
  | cons c t =>
      refine ⟨c, t, rfl, Decidable.byContradiction fun hc => ?_⟩
      rw [List.takeWhile_cons_of_neg hc] at h
      cases h

theorem head_of_number (h : number cs = some (l, rest)) :
    ∃ c t, cs = c :: t ∧ (c = '-' ∨ isDigit c = true) := by
  rw [number_eq] at h
  obtain ⟨⟨w, t⟩, hw, -⟩ := Option.bind_eq_some_iff.1 h
  obtain ⟨⟨ds, u⟩, hd, -⟩ := Option.bind_eq_some_iff.1 hw
  obtain ⟨c, v, hc, hdigit⟩ := isDigit_head_of_digits? hd
  split at hc
  · next hm =>
      cases cs with
      | nil => cases hm
      | cons c' cs =>
          cases hm
          exact ⟨'-', cs, rfl, .inl rfl⟩
  · exact ⟨c, v, hc, .inr hdigit⟩

theorem digits?_of_digits (hd : ∀ c ∈ ds, isDigit c = true) (hne : ds ≠ [])
    (hr : ∀ c ∈ r.head?, isDigit c = false) : digits? (ds ++ r) = some (ds, r) := by
  have htake : (ds ++ r).takeWhile isDigit = ds := by
    rw [List.takeWhile_append_of_pos hd]
    cases r with
    | nil => simp
    | cons c r => rw [List.takeWhile_cons_of_neg (by simp [hr c rfl]), List.append_nil]
  have hdrop : (ds ++ r).dropWhile isDigit = r := by
    rw [List.dropWhile_append_of_pos hd]
    cases r with
    | nil => rfl
    | cons c r => exact List.dropWhile_cons_of_neg (by simp [hr c rfl])
  rw [digits?, htake, hdrop]
  exact if_neg (by simpa using hne)

theorem fraction?_tailText (h : l.IsSound) : ∃ t, fraction? l.tailText = some (l.fraction, t) ∧
    exponent? t = some (l.exponent, []) := by
  have hexponent : ∀ e ∈ l.exponent, digits? e.2 = some (e.2, []) := fun e he => by
    obtain ⟨hne, hd⟩ := h.exponent e he
    simpa using digits?_of_digits (r := []) hd hne nofun
  rw [Literal.tailText]
  refine ⟨(l.exponent.map fun e => 'e' :: (if e.1 then '-' else '+') :: e.2).getD [], ?_, ?_⟩
  · cases hf : l.fraction with
    | none => cases l.exponent <;> rfl
    | some ds =>
        obtain ⟨hne, hd⟩ := h.fraction ds hf
        have hdigits := digits?_of_digits
          (r := (l.exponent.map fun e => 'e' :: (if e.1 then '-' else '+') :: e.2).getD []) hd hne
          (by cases l.exponent <;> simp [isDigit])
        rw [Option.map_some, Option.getD_some, List.cons_append, fraction?, hdigits]
        rfl
  · cases he : l.exponent with
    | none => rfl
    | some e =>
        obtain ⟨negative, ds⟩ := e
        have hd : digits? ds = some (ds, []) := hexponent _ he
        cases negative <;> simp [exponent?, Double.takeSign, hd]

/-- The text of a literal is read as that literal. -/
theorem number_text (h : l.IsSound) : number l.text = some (l, []) := by
  obtain ⟨c, ds, hw⟩ := List.exists_cons_of_ne_nil h.nonempty
  have hc : isDigit c = true := h.whole c (hw ▸ List.mem_cons_self)
  have hm : c ≠ '-' := by
    rintro rfl
    cases hc
  have hsign : (if l.text.head? = some '-' then l.text.tail else l.text) = l.whole ++ l.tailText ∧
      decide (l.text.head? = some '-') = l.negative := by
    rw [Literal.text]
    cases l.negative <;> simp [hw, hm]
  have htail : ∀ d ∈ l.tailText.head?, isDigit d = false := by
    rw [Literal.tailText]
    cases l.fraction <;> cases l.exponent <;> simp [isDigit]
  obtain ⟨t, hf, he⟩ := fraction?_tailText h
  have hwhole : whole? (l.whole ++ l.tailText) = some (l.whole, l.tailText) := by
    rw [whole?, digits?_of_digits h.whole h.nonempty htail]
    exact if_neg fun hz => hz.2 (h.leading hz.1)
  rw [number_eq, hsign.1, hsign.2, hwhole]
  simp only [bind, Option.bind, hf, he]

theorem isDigit_of_mem_text {n : Nat} {c : Char} (h : c ∈ Decimal.text n) :
    isDigit c = true := by
  rw [isDigit_eq]
  rw [Decimal.text, Nat.toList_repr] at h
  exact Nat.isDigit_of_mem_toDigits (by decide) (by decide) h

theorem head?_toDigits {n : Nat} (h : (Nat.toDigits 10 n).head? = some '0') : n = 0 := by
  induction n using Nat.strongRecOn with
  | ind n ih =>
      by_cases hn : n < 10
      · rw [Nat.toDigits_of_lt_base hn] at h
        exact Nat.digitChar_eq_zero.1 (Option.some.inj h)
      · rw [Nat.toDigits_of_base_le (by decide) (Nat.not_lt.1 hn), List.head?_append,
          List.head?_eq_some_head Nat.toDigits_ne_nil, Option.some_or,
          ← List.head?_eq_some_head] at h
        have := ih (n / 10) (by omega) h
        omega

theorem head?_text {n : Nat} (h : (Decimal.text n).head? = some '0') : n = 0 :=
  head?_toDigits (by rwa [Decimal.text, Nat.toList_repr] at h)

theorem text_ne_nil (n : Nat) : Decimal.text n ≠ [] := by
  simp [Decimal.text]

theorem number_integer (i : Int) : number (Number.text (.integer i)) =
    some (⟨decide (i < 0), Decimal.text i.natAbs, none, none⟩, []) := by
  have hsound : Literal.IsSound ⟨decide (i < 0), Decimal.text i.natAbs, none, none⟩ := by
    refine ⟨fun c => isDigit_of_mem_text, text_ne_nil _, fun h => ?_, nofun, nofun⟩
    rw [head?_text h]
    rfl
  have htext : Number.text (.integer i) =
      Literal.text ⟨decide (i < 0), Decimal.text i.natAbs, none, none⟩ := by
    simp [Number.text, Literal.text, Literal.tailText]
  rw [htext, number_text hsound]

end Parser

def Number.literal (n : Number) : Literal :=
  ((Parser.number n.text).map Prod.fst).getD ⟨false, [], none, none⟩

theorem accumulate_eq {n : Nat} {cs : List Char} (h : Nat.ofDigitChars 10 cs n < UInt64.size) :
    accumulate n cs = (Nat.ofDigitChars 10 cs n, []) := by
  induction cs generalizing n with
  | nil => rfl
  | cons c cs ih =>
      rw [Nat.ofDigitChars_cons] at h ⊢
      rw [accumulate]
      have hnext : 10 * n + (c.toNat - 48) < UInt64.size := by
        rw [Nat.ofDigitChars_eq_ofDigitChars_zero] at h
        exact Nat.lt_of_le_of_lt (Nat.le_trans (Nat.le_mul_of_pos_left _
          (Nat.pow_pos (by decide))) (Nat.le_add_right _ _)) h
      rw [if_pos hnext]
      exact ih h

theorem number?_integer {i : Int} (hlow : -(1 <<< 63 : Nat) ≤ i) (hhigh : i < UInt64.size) :
    (Number.literal (.integer i)).number? = some (.integer i) := by
  have hsize : (UInt64.size : Int) = 18446744073709551616 := rfl
  have hshift : (1 <<< 63 : Nat) = 9223372036854775808 := rfl
  have hdigits : Nat.ofDigitChars 10 (Decimal.text i.natAbs) 0 = i.natAbs := by
    rw [Decimal.text, Nat.toList_repr, Nat.ofDigitChars_ten_toDigits]
  have haccumulate : accumulate 0 (Decimal.text i.natAbs) = (i.natAbs, []) := by
    rw [accumulate_eq, hdigits]
    rw [hdigits]
    omega
  rw [Number.literal, Parser.number_integer, Literal.number?]
  simp only [Option.map_some, Option.getD_some, haccumulate, List.isEmpty_nil, Option.isNone_none,
    Bool.and_self, if_true]
  by_cases hi : i < 0
  · have hn : 0 < i.natAbs ∧ i.natAbs ≤ 1 <<< 63 := by omega
    simp only [hi, decide_true, Bool.not_true, Bool.false_eq_true, if_false, decide_eq_true hn.1,
      decide_eq_true hn.2, Bool.and_self, if_true, Option.some.injEq, Number.integer.injEq]
    omega
  · simp only [hi, decide_false, Bool.not_false, if_true, Option.some.injEq, Number.integer.injEq]
    omega

namespace Parser

theorem isBlank_of_isDigit {c : Char} (h : isDigit c = true) : isBlank c = false := by
  rw [Bool.eq_false_iff]
  intro hb
  simp only [isBlank, Bool.or_eq_true, beq_iff_eq] at hb
  rcases hb with ((rfl | rfl) | rfl) | rfl <;> revert h <;> decide

theorem skip_cons {c : Char} (h : isBlank c = false) (cs : List Char) :
    skip (c :: cs) = c :: cs := List.dropWhile_cons_of_neg (by simp [h])

theorem value_number {cs rest : List Char} {l : Literal} (h : number cs = some (l, rest))
    (f : Nat) : value (f + 1) cs = some (.number l, rest) := by
  obtain ⟨c, t, rfl, hc⟩ := head_of_number h
  have hblank : isBlank c = false := by
    rcases hc with rfl | hc
    · rfl
    · exact isBlank_of_isDigit hc
  have hne : ∀ d t', c :: t = d :: t' → d ≠ '-' → isDigit d = false → False := by
    intro d t' he hm hd
    cases he
    rcases hc with rfl | hc
    · exact hm rfl
    · exact absurd hc (by rw [hd]; exact nofun)
  rw [value, skip_cons hblank]
  split
  case h_7 => rw [h]; rfl
  all_goals
    next he => exact (hne _ _ he (by decide) (by decide)).elim

end Parser

theorem parse?_of_number {cs : List Char} {l : Literal} (h : Parser.number cs = some (l, [])) :
    parse? cs = some (.number l) := by
  rw [parse?, Parser.value_number h]
  rfl

end ChatTurn.Json
