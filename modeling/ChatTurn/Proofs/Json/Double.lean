import ChatTurn.Proofs.Json.Number

namespace ChatTurn

/-- The double is read from the text that it is written as. -/
def Double.ReadsBack (x : Double) : Prop :=
  Json.parseValue? (Json.Number.text (.double x)) = some (.number (.double x))

namespace Double

variable {half : HalfWay} {x : Double} {d : Decimal}

theorem interval_low_pos (h : x.mantissa ≠ 0) : 0 < x.interval.low := by
  simp only [interval]
  split <;> omega

theorem not_holds_zero (h : x.mantissa ≠ 0) {b : Nat} (hb : 0 < b) :
    x.interval.holds 0 b = false := by
  have hlow := Nat.mul_pos (interval_low_pos h) hb
  rw [Interval.holds]
  split
  · exact decide_eq_false fun hle => by omega
  · exact decide_eq_false fun hlt => by omega

theorem digits_of_onGrid (h : x.mantissa ≠ 0) {e : Int} (hd : onGrid half x e = some d) :
    d.digits ≠ 0 := by
  have hb : 0 < Nat.pow 10 (-e).toNat <<< (x.exponent - 2).toNat := by
    rw [Nat.shiftLeft_eq]
    exact Nat.mul_pos (Nat.pow_pos (by decide)) (Nat.pow_pos (by decide))
  simp only [onGrid] at hd
  split_ifs at hd with hupper hlower
  · cases hd
    exact Nat.succ_ne_zero _
  · cases hd
    intro hzero
    simp only at hzero
    rw [hzero, Nat.zero_mul, not_holds_zero h hb] at hlower
    cases hlower

theorem digits_of_onGrids (h : x.mantissa ≠ 0) {p : Int} {k n : Nat}
    (hd : onGrids half x p k n = some d) : d.digits ≠ 0 := by
  induction k generalizing n with
  | zero => cases hd
  | succ k ih =>
      rw [onGrids] at hd
      cases hg : onGrid half x (p - n) with
      | none =>
          rw [hg] at hd
          exact ih hd
      | some c =>
          rw [hg] at hd
          cases hd
          exact digits_of_onGrid h hg

theorem shortest_cases (half : HalfWay) (x : Double) :
    x.shortest half = ⟨0, 0⟩ ∨ (x.shortest half).digits ≠ 0 := by
  rw [shortest]
  split
  · exact .inl rfl
  · next h =>
      cases hd : onGrids half x x.decimalPoint 17 1 with
      | none => exact .inl rfl
      | some d => exact .inr (digits_of_onGrids h hd)

end Double

namespace Decimal

theorem reduce_cases (n : Nat) {d : Decimal} (h : d = ⟨0, 0⟩ ∨ d.digits ≠ 0) :
    reduce n d = ⟨0, 0⟩ ∨ (reduce n d).digits ≠ 0 := by
  induction n generalizing d with
  | zero => exact h
  | succ n ih =>
      rw [reduce]
      split
      · next hd =>
          refine ih (.inr ?_)
          change d.digits / 10 ≠ 0
          omega
      · exact h

end Decimal

namespace Json

open ChatTurn.Json.Parser (isDigit_of_mem_text head?_text text_ne_nil)

variable {d : Decimal}

theorem isDigit_of_mem_zeros {n : Nat} {c : Char} (h : c ∈ List.replicate n '0') :
    Parser.isDigit c = true := by
  rw [(List.mem_replicate.1 h).2]
  rfl

def Literal.IsDouble (l : Literal) : Prop :=
  l.IsSound ∧ (l.fraction.isSome = true ∨ l.exponent.isSome = true)

def Parser.IsUnsigned (body : List Char) : Prop :=
  ∀ negative, ∃ l : Literal, l.IsDouble ∧ l.negative = negative ∧ l.whole ++ l.tailText = body

theorem isUnsigned_fraction (ws ds : List Char) (hw : ∀ c ∈ ws, Parser.isDigit c = true)
    (hwne : ws ≠ []) (hlead : ws.head? = some '0' → ws = ['0'])
    (hd : ∀ c ∈ ds, Parser.isDigit c = true) (hdne : ds ≠ []) :
    Parser.IsUnsigned (ws ++ '.' :: ds) := by
  intro negative
  refine ⟨⟨negative, ws, some ds, none⟩, ⟨⟨hw, hwne, hlead, ?_, nofun⟩, .inl rfl⟩, rfl, ?_⟩
  · intro es he
    cases he
    exact ⟨hdne, hd⟩
  · simp [Literal.tailText]

theorem isUnsigned_positional (h : d = ⟨0, 0⟩ ∨ d.digits ≠ 0) :
    Parser.IsUnsigned (d.positional ['.', '0']) := by
  have hdigit : ∀ c ∈ Decimal.text d.digits, Parser.isDigit c = true := fun c => isDigit_of_mem_text
  have hne := text_ne_nil d.digits
  simp only [Decimal.positional]
  split
  · refine isUnsigned_fraction _ ['0'] ?_ ?_ (fun hz => ?_) ?_ (List.cons_ne_nil _ _)
    · exact List.forall_mem_append.2 ⟨hdigit, fun c => isDigit_of_mem_zeros⟩
    · exact List.append_ne_nil_of_left_ne_nil hne _
    · rcases h with rfl | h
      · rfl
      · rw [List.head?_append, List.head?_eq_some_head hne, Option.some_or,
          ← List.head?_eq_some_head] at hz
        exact absurd (head?_text hz) h
    · exact List.forall_mem_singleton.2 rfl
  · split
    · next he hp =>
        generalize hk : (Decimal.text d.digits).length - (-d.exponent).toNat = k
        have hk0 : 0 < k ∧ k < (Decimal.text d.digits).length := by omega
        refine isUnsigned_fraction _ _ ?_ ?_ (fun hz => ?_) ?_ ?_
        · exact fun c hc => hdigit c (List.mem_of_mem_take hc)
        · rw [Ne, List.take_eq_nil_iff]
          exact fun h0 => h0.elim (Nat.ne_of_gt hk0.1) hne
        · rw [List.head?_take, if_neg (Nat.ne_of_gt hk0.1)] at hz
          rw [head?_text hz, show (Decimal.text 0).length = 1 from rfl] at hk0
          omega
        · exact fun c hc => hdigit c (List.mem_of_mem_drop hc)
        · rw [Ne, List.drop_eq_nil_iff]
          omega
    · refine isUnsigned_fraction ['0'] _ ?_ (List.cons_ne_nil _ _) (fun _ => rfl) ?_ ?_
      · exact List.forall_mem_singleton.2 rfl
      · exact List.forall_mem_append.2 ⟨fun c => isDigit_of_mem_zeros, hdigit⟩
      · exact List.append_ne_nil_of_right_ne_nil _ hne

theorem isUnsigned_scientific (d : Decimal) : Parser.IsUnsigned d.scientific := by
  intro negative
  obtain ⟨c, cs, hc⟩ := List.exists_cons_of_ne_nil (text_ne_nil d.digits)
  have hdigit : ∀ b ∈ c :: cs, Parser.isDigit b = true := fun b hb =>
    isDigit_of_mem_text (hc ▸ hb)
  generalize he : d.exponent + ((c :: cs).length : Nat) - 1 = e
  refine ⟨⟨negative, [c], if cs = [] then none else some cs,
      some (decide (e < 0), Decimal.text e.natAbs)⟩,
    ⟨⟨?_, List.cons_ne_nil _ _, fun hz => ?_, fun ds hds => ?_, fun x hx => ?_⟩, .inr rfl⟩, rfl, ?_⟩
  · exact List.forall_mem_singleton.2 (hdigit c List.mem_cons_self)
  · cases hz
    rfl
  · simp only at hds
    split at hds
    · cases hds
    · next hne =>
        cases hds
        exact ⟨hne, fun b hb => hdigit b (List.mem_cons_of_mem c hb)⟩
  · cases hx
    exact ⟨text_ne_nil _, fun b => isDigit_of_mem_text⟩
  · simp only [Decimal.scientific, hc, he, Literal.tailText]
    cases cs <;> simp

/-- Every double is written as one literal that is not an integer. -/
theorem exists_literal (x : Double) :
    ∃ l : Literal, l.IsDouble ∧ l.text = Number.text (.double x) := by
  have hd := Decimal.reduce_cases 17 (x.shortest_cases doubleLayout.half)
  have hbody : ∀ body, Parser.IsUnsigned body → ∃ l : Literal, l.IsDouble ∧
      l.text = if x.negative then '-' :: body else body := by
    intro body h
    obtain ⟨l, hl, hn, rfl⟩ := h x.negative
    refine ⟨l, hl, ?_⟩
    rw [Literal.text, hn]
    cases x.negative <;> rfl
  apply hbody
  split
  · exact isUnsigned_positional hd
  · exact isUnsigned_scientific _

theorem number_literal (n : Number) : Parser.number n.text = some (n.literal, []) := by
  have hlexed : ∃ l, Parser.number n.text = some (l, []) := by
    cases n with
    | integer i => exact ⟨_, Parser.number_integer i⟩
    | double x =>
        obtain ⟨l, hl, ht⟩ := exists_literal x
        exact ⟨l, ht ▸ Parser.number_text hl.1⟩
  obtain ⟨l, hl⟩ := hlexed
  rw [Number.literal, hl]
  rfl

theorem isDouble_literal (x : Double) : (Number.literal (.double x)).IsDouble := by
  obtain ⟨l, hl, ht⟩ := exists_literal x
  rw [Number.literal, ← ht, Parser.number_text hl.1]
  exact hl

theorem Literal.IsDouble.exists_of_number? {l : Literal} {n : Number} (h : l.IsDouble)
    (hn : l.number? = some n) : ∃ x, n = .double x := by
  have hwhole : (l.fraction.isNone && l.exponent.isNone) = false := by
    obtain ⟨-, h⟩ := h
    cases hf : l.fraction <;> cases he : l.exponent <;> simp_all
  simp only [Literal.number?, Bool.and_assoc, hwhole, Bool.and_false, Bool.false_eq_true, if_false]
    at hn
  obtain ⟨x, -, he⟩ := Option.bind_eq_some_iff.1 hn
  cases he
  exact ⟨_, rfl⟩

end Json

theorem Double.readsBack_iff {x : Double} :
    x.ReadsBack ↔ (Json.Number.literal (.double x)).number? = some (.double x) := by
  rw [ReadsBack, Json.parseValue?, Json.parse?_of_number (Json.number_literal _), Option.bind_some,
    Json.Node.value?]
  cases (Json.Number.literal (.double x)).number? <;> simp

namespace Double

theorem magnitude_ofMagnitude (negative : Bool) {n : Nat} (h : n ≤ infinity) :
    (ofMagnitude negative n).magnitude = n := by
  have hi : infinity = 9218868437227405312 := rfl
  have hs : (1 <<< 63 : Nat) = 9223372036854775808 := rfl
  rw [hi] at h
  rw [magnitude, ofMagnitude, UInt64.toNat_ofNat', hs]
  cases negative
  · simp only [Bool.false_eq_true, if_false]
    omega
  · simp only [if_true]
    omega

theorem magnitude_neg {x : Double} (h : x.isFinite = true) : x.neg.magnitude = x.magnitude :=
  magnitude_ofMagnitude _ (Nat.le_of_lt (of_decide_eq_true h))

theorem isFinite_neg {x : Double} (h : x.isFinite = true) : x.neg.isFinite = true := by
  rw [isFinite, magnitude_neg h]
  exact h

/-- On the grid of `2 ^ q` the quotient has at most 54 bits. -/
theorem divNearest_scaled_le {num den : Nat} {q : Int} (hd : den ≠ 0)
    (hq : (num.log2 : Int) - den.log2 - 53 ≤ q) :
    divNearest (scaled num den q).1 (scaled num den q).2 ≤ 4 <<< 52 := by
  simp only [scaled]
  have hlow : 2 ^ (den.log2 + q.toNat) ≤ den <<< q.toNat := by
    rw [Nat.shiftLeft_eq, Nat.pow_add]
    exact Nat.mul_le_mul_right _ (Nat.log2_self_le hd)
  have hhigh : num <<< (-q).toNat < 2 ^ (num.log2 + 1 + (-q).toNat) := by
    rw [Nat.shiftLeft_eq, Nat.pow_add]
    exact Nat.mul_lt_mul_of_pos_right Nat.lt_log2_self (Nat.pow_pos (by decide))
  have hlt : num <<< (-q).toNat / den <<< q.toNat < 2 ^ 54 := by
    refine Nat.div_lt_of_lt_mul (Nat.lt_of_lt_of_le hhigh ?_)
    calc 2 ^ (num.log2 + 1 + (-q).toNat) ≤ 2 ^ (den.log2 + q.toNat + 54) :=
          Nat.pow_le_pow_right (by decide) (by omega)
      _ = 2 ^ (den.log2 + q.toNat) * 2 ^ 54 := Nat.pow_add _ _ _
      _ ≤ den <<< q.toNat * 2 ^ 54 := Nat.mul_le_mul_right _ hlow
  have hle : ∀ n d, divNearest n d ≤ n / d + 1 := by
    intro n d
    simp only [divNearest]
    split
    · omega
    · split
      · omega
      · split <;> omega
  refine Nat.le_trans (hle _ _) ?_
  have h54 : (4 <<< 52 : Nat) = 2 ^ 54 := rfl
  omega

theorem nearest_le_of_log2 {num den : Nat} (hd : den ≠ 0) {e : Nat}
    (h : num.log2 ≤ den.log2 + e) : nearest num den ≤ (e + 1026) <<< 52 := by
  rw [nearest]
  split
  · exact Nat.zero_le _
  · simp only
    generalize hguess : max ((num.log2 : Int) - den.log2 - 52) (-1074) = guess
    have hle : ∀ q : Int, (num.log2 : Int) - den.log2 - 53 ≤ q → q ≤ e - 52 →
        divNearest (scaled num den q).1 (scaled num den q).2 + (q + 1074).toNat <<< 52 ≤
          (e + 1026) <<< 52 := by
      intro q hlow hhigh
      have hdiv := divNearest_scaled_le hd hlow
      have hexp := Nat.mul_le_mul_right (2 ^ 52) (show (q + 1074).toNat ≤ e + 1022 by omega)
      rw [Nat.shiftLeft_eq] at hdiv ⊢
      rw [Nat.shiftLeft_eq]
      omega
    refine Nat.le_trans (Nat.min_le_left _ _) ?_
    split
    · exact hle _ (by omega) (by omega)
    · exact hle _ (by omega) (by omega)

def IsModerate (x : Double) : Prop := x.magnitude ≤ 1100 <<< 52

theorem IsModerate.isFinite {x : Double} (h : x.IsModerate) : x.isFinite = true :=
  decide_eq_true (Nat.lt_of_le_of_lt h (by decide))

theorem magnitude_ofRatio_le (negative : Bool) {num den e : Nat} (hd : den ≠ 0)
    (h : num.log2 ≤ den.log2 + e) (he : e ≤ 1000) :
    (ofRatio negative num den).magnitude ≤ (e + 1026) <<< 52 := by
  have hle := nearest_le_of_log2 hd h
  rw [ofRatio, magnitude_ofMagnitude]
  · exact hle
  · refine Nat.le_trans hle ?_
    have hi : infinity = 2047 * 2 ^ 52 := rfl
    rw [hi, Nat.shiftLeft_eq]
    exact Nat.mul_le_mul_right _ (by omega)

theorem isModerate_ofRatio (negative : Bool) {n : Nat} (h : n < UInt64.size) :
    (ofRatio negative n 1).IsModerate := by
  have hlog : n.log2 ≤ (1 : Nat).log2 + 63 := by
    by_cases hn : n = 0
    · subst hn
      decide
    · have := (Nat.log2_lt hn).2 (show n < 2 ^ 64 from h)
      omega
  exact Nat.le_trans (magnitude_ofRatio_le negative (by decide) hlog (by decide)) (by decide)

theorem mantissa_lt (x : Double) : x.mantissa < 1 <<< 53 := by
  rw [mantissa]
  split
  · next h => exact Nat.lt_trans h (by decide)
  · have := Nat.mod_lt x.magnitude (show 0 < 1 <<< 52 by decide)
    omega

theorem le_mantissa {x : Double} (h : 1 <<< 52 ≤ x.magnitude) : 1 <<< 52 ≤ x.mantissa := by
  rw [mantissa, if_neg (Nat.not_lt.2 h)]
  omega

theorem magnitude_div_le {x y : Double} (hx : x.IsModerate) {k : Nat} (hk : k ≤ 900)
    (hy : (1075 - k) <<< 52 ≤ y.magnitude) : (x.div y).magnitude ≤ (k + 1051) <<< 52 := by
  have hxe : x.exponent ≤ 25 := by
    rw [IsModerate] at hx
    rw [exponent, Nat.shiftRight_eq_div_pow]
    omega
  have hye : -(k : Int) ≤ y.exponent := by
    rw [Nat.shiftLeft_eq] at hy
    rw [exponent, Nat.shiftRight_eq_div_pow]
    omega
  have hm : 1 <<< 52 ≤ y.mantissa := by
    refine le_mantissa (Nat.le_trans ?_ hy)
    rw [Nat.shiftLeft_eq, Nat.shiftLeft_eq]
    exact Nat.mul_le_mul_right _ (by omega)
  rw [div]
  simp only [scaled]
  have hd : y.mantissa <<< (y.exponent - x.exponent).toNat ≠ 0 := by
    rw [Nat.shiftLeft_eq]
    exact Nat.mul_ne_zero (by omega) (Nat.ne_of_gt (Nat.pow_pos (by decide)))
  have hden : 52 + (y.exponent - x.exponent).toNat ≤
      (y.mantissa <<< (y.exponent - x.exponent).toNat).log2 := by
    rw [Nat.le_log2 hd, Nat.pow_add, Nat.shiftLeft_eq]
    exact Nat.mul_le_mul_right _ hm
  have hnum : (x.mantissa <<< (-(y.exponent - x.exponent)).toNat).log2 ≤
      52 + (-(y.exponent - x.exponent)).toNat := by
    by_cases hn : x.mantissa <<< (-(y.exponent - x.exponent)).toNat = 0
    · rw [hn]
      exact Nat.zero_le _
    · refine Nat.lt_succ_iff.1 ((Nat.log2_lt hn).2 ?_)
      rw [Nat.shiftLeft_eq, show (52 + (-(y.exponent - x.exponent)).toNat).succ =
        53 + (-(y.exponent - x.exponent)).toNat by omega, Nat.pow_add]
      exact Nat.mul_lt_mul_of_pos_right x.mantissa_lt (Nat.pow_pos (by decide))
  have hlog : (x.mantissa <<< (-(y.exponent - x.exponent)).toNat).log2 ≤
      (y.mantissa <<< (y.exponent - x.exponent).toNat).log2 + (k + 25) := by
    omega
  have hle := magnitude_ofRatio_le (x.negative != y.negative) hd hlog (by omega)
  rw [show k + 25 + 1026 = k + 1051 by omega] at hle
  exact hle

end Double

namespace Json

theorem magnitude_powerOfTen :
    ∀ k < 309, (1075 - 52) <<< 52 ≤ (powerOfTen k).magnitude := by
  decide +kernel

theorem magnitude_powerOfTen_308 : (1075 - 0) <<< 52 ≤ (powerOfTen 308).magnitude := by
  decide +kernel

theorem isFinite_of_scale {x y : Double} {e : Int} (hx : x.IsModerate)
    (h : scale x e = some y) : y.isFinite = true := by
  fun_induction scale x e with
  | case1 x e hneg hm => exact Option.some.inj h ▸ hx.isFinite
  | case2 x e hneg hm ih =>
      exact ih (Nat.le_trans (Double.magnitude_div_le hx (by decide) magnitude_powerOfTen_308)
        (by decide)) h
  | case3 x e hneg hneg' =>
      have hle := Double.magnitude_div_le hx (by decide)
        (magnitude_powerOfTen (-e).toNat (by omega))
      exact Option.some.inj h ▸ decide_eq_true (Nat.lt_of_le_of_lt hle (by decide))
  | case4 x e _ _ _ z hz => exact Option.some.inj h ▸ hz
  | case5 => cases h
  | case6 => exact Option.some.inj h ▸ hx.isFinite
  | case7 => cases h

theorem accumulate_lt {n : Nat} (cs : List Char) (h : n < UInt64.size) :
    (accumulate n cs).1 < UInt64.size := by
  induction cs generalizing n with
  | nil => exact h
  | cons c cs ih =>
      rw [accumulate]
      split
      · next hnext => exact ih hnext
      · exact h

theorem Literal.isFinite_of_double? {l : Literal} {significand dropped : Nat} {x : Double}
    (hs : significand < UInt64.size) (h : l.double? significand dropped = some x) :
    x.isFinite = true := by
  have hm : (Double.ofNat (accumulate significand (l.fraction.getD [])).1).IsModerate :=
    Double.isModerate_ofRatio _ (accumulate_lt _ hs)
  simp only [Literal.double?] at h
  split at h
  · exact isFinite_of_scale hm h
  · split at h
    · exact isFinite_of_scale hm h
    · split at h
      · cases h
        decide
      · cases h

def Number.IsReadable : Number → Prop
  | .integer i => -(1 <<< 63 : Nat) ≤ i ∧ i < UInt64.size
  | .double x => x.isFinite = true

theorem Literal.isReadable_of_number? {l : Literal} {n : Number} (h : l.number? = some n) :
    n.IsReadable := by
  have hlt := accumulate_lt l.whole (show 0 < UInt64.size by decide)
  simp only [Literal.number?] at h
  split at h
  · split at h
    · cases h
      exact ⟨by omega, by omega⟩
    · split at h
      · next hs =>
          cases h
          rw [Bool.and_eq_true, decide_eq_true_iff, decide_eq_true_iff] at hs
          exact ⟨by omega, by omega⟩
      · cases h
        exact Double.isFinite_neg (Double.isModerate_ofRatio _ hlt).isFinite
  · obtain ⟨x, hx, he⟩ := Option.bind_eq_some_iff.1 h
    cases he
    have hx := Literal.isFinite_of_double? hlt hx
    rw [Number.IsReadable]
    split
    · exact Double.isFinite_neg hx
    · exact hx

theorem isFinite_of_readsBack {x : Double} (h : x.ReadsBack) : x.isFinite = true :=
  Literal.isReadable_of_number? (Double.readsBack_iff.1 h)

theorem Number.IsReadable.ofInt {i : Int} (h : (Number.integer i).IsReadable) :
    (Double.ofInt i).isFinite = true := by
  have hsize : (UInt64.size : Int) = 18446744073709551616 := rfl
  have hshift : (1 <<< 63 : Nat) = 9223372036854775808 := rfl
  obtain ⟨hlow, hhigh⟩ := h
  exact (Double.isModerate_ofRatio _ (by omega)).isFinite

end Json

end ChatTurn
