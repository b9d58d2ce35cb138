import ChatTurn.Proofs.Json.Value
import Mathlib.Algebra.Order.Field.Rat
import Mathlib.Data.Int.ConditionallyCompleteOrder
import Mathlib.Order.Monotone.Odd
import Mathlib.Tactic.NormNum

namespace ChatTurn.Double

variable {x y a b : Double}

/-- The number that a finite double stands for. -/
def value (x : Double) : ℚ := (if x.negative then -1 else 1) * x.mantissa * 2 ^ x.exponent

def units (n : Nat) : Nat :=
  if n < 1 <<< 52 then n else (n % (1 <<< 52) + (1 <<< 52)) <<< (n >>> 52 - 1)

theorem units_lt_succ (n : Nat) : units n < units (n + 1) := by
  have hM : (1 <<< 52 : Nat) = 4503599627370496 := rfl
  have hM' : (2 ^ 52 : Nat) = 4503599627370496 := rfl
  simp only [units, Nat.shiftLeft_eq _ (_ - _), Nat.shiftRight_eq_div_pow, hM, hM']
  by_cases hn : n < 4503599627370496
  · rw [if_pos hn]
    split
    · exact Nat.lt_succ_self n
    · have he : (n + 1) / 4503599627370496 - 1 = 0 := by omega
      rw [he, Nat.pow_zero, Nat.mul_one]
      omega
  · have hn' : ¬ n + 1 < 4503599627370496 := by omega
    rw [if_neg hn, if_neg hn']
    by_cases hc : n % 4503599627370496 = 4503599627370495
    · -- the mantissa is full, so the next number has twice the least mantissa
      have hm : (n + 1) % 4503599627370496 = 0 := by omega
      have he : (n + 1) / 4503599627370496 - 1 = n / 4503599627370496 - 1 + 1 := by omega
      have hp : 0 < 2 ^ (n / 4503599627370496 - 1) := Nat.pow_pos (by decide)
      rw [hc, hm, he, Nat.pow_succ]
      omega
    · have hm : (n + 1) % 4503599627370496 = n % 4503599627370496 + 1 := by omega
      have he : (n + 1) / 4503599627370496 = n / 4503599627370496 := by omega
      rw [hm, he]
      exact Nat.mul_lt_mul_of_pos_right (by omega) (Nat.pow_pos (by decide))

theorem units_strictMono : StrictMono units := strictMono_nat_of_lt_succ units_lt_succ

def place (z : Int) : Int := z.sign * units z.natAbs

theorem place_natCast (n : Nat) : place n = units n := by
  cases n with
  | zero => rfl
  | succ n =>
      rw [place, Int.natAbs_natCast, Int.sign_natCast_of_ne_zero (Nat.succ_ne_zero n), one_mul]

theorem place_neg (z : Int) : place (-z) = -place z := by
  simp [place]

theorem place_strictMono : StrictMono place := by
  refine strictMono_of_odd_strictMonoOn_nonneg place_neg fun y hy z hz hlt => ?_
  obtain ⟨m, rfl⟩ := Int.eq_ofNat_of_zero_le hy
  obtain ⟨n, rfl⟩ := Int.eq_ofNat_of_zero_le hz
  rw [place_natCast, place_natCast]
  exact Int.ofNat_lt.2 (units_strictMono (Int.ofNat_lt.1 hlt))

theorem mantissa_mul (x : Double) :
    (x.mantissa : ℚ) * 2 ^ x.exponent = units x.magnitude * 2 ^ (-1074 : Int) := by
  have he : x.exponent = ((x.magnitude >>> 52 - 1 : Nat) : Int) + -1074 := by
    rw [exponent]
    omega
  rw [he, zpow_add₀ two_ne_zero, zpow_natCast, ← mul_assoc, mantissa, units]
  split
  · next h =>
      have hz : x.magnitude >>> 52 = 0 := by
        rw [Nat.shiftRight_eq_div_pow]
        exact Nat.div_eq_of_lt h
      rw [hz, Nat.zero_sub, pow_zero, mul_one]
  · rw [Nat.shiftLeft_eq _ (_ - 1), Nat.cast_mul, Nat.cast_pow, Nat.cast_ofNat]

theorem value_eq (x : Double) : x.value = place x.rank * 2 ^ (-1074 : Int) := by
  rw [value, rank, mul_assoc, mantissa_mul, ← mul_assoc]
  cases x.negative with
  | true => simp [place_neg, place_natCast]
  | false => simp [place_natCast]

theorem le_iff (hx : x.isFinite = true) (hy : y.isFinite = true) :
    x.le y = true ↔ x.value ≤ y.value := by
  have hscale : (0 : ℚ) < 2 ^ (-1074 : Int) := zpow_pos two_pos _
  rw [le, isNaN_of_isFinite hx, isNaN_of_isFinite hy, value_eq, value_eq,
    mul_le_mul_iff_left₀ hscale, Int.cast_le, place_strictMono.le_iff_le]
  exact decide_eq_true_iff

theorem lt_iff (hx : x.isFinite = true) (hy : y.isFinite = true) :
    x.lt y = true ↔ x.value < y.value := by
  have hscale : (0 : ℚ) < 2 ^ (-1074 : Int) := zpow_pos two_pos _
  rw [lt, isNaN_of_isFinite hx, isNaN_of_isFinite hy, value_eq, value_eq,
    mul_lt_mul_iff_left₀ hscale, Int.cast_lt, place_strictMono.lt_iff_lt]
  exact decide_eq_true_iff

theorem isFinite_iff_rank : x.isFinite = true ↔ -(infinity : Int) < x.rank ∧ x.rank < infinity := by
  rw [isFinite, decide_eq_true_iff, rank]
  split <;> omega

theorem le_of_lt (h : x.lt y = true) : x.le y = true := by
  simp only [lt, le, Bool.and_eq_true, decide_eq_true_iff] at h ⊢
  exact ⟨h.1, Int.le_of_lt h.2⟩

theorem isFinite_of_between (ha : a.isFinite = true) (hb : b.isFinite = true)
    (hax : a.le x = true) (hxb : x.le b = true) : x.isFinite = true := by
  rw [isFinite_iff_rank] at ha hb ⊢
  simp only [le, Bool.and_eq_true, decide_eq_true_iff] at hax hxb
  omega

theorem isFinite_zero : zero.isFinite = true := by decide +kernel

theorem isFinite_one : (ofNat 1).isFinite = true := by decide +kernel

theorem isFinite_two : (ofNat 2).isFinite = true := by decide +kernel

theorem value_zero : zero.value = 0 := by
  have hm : zero.mantissa = 0 := by decide +kernel
  simp [value, hm]

theorem value_one : (ofNat 1).value = 1 := by
  have hn : (ofNat 1).negative = false := by decide +kernel
  have hm : (ofNat 1).mantissa = 2 ^ 52 := by decide +kernel
  have he : (ofNat 1).exponent = -52 := by decide +kernel
  rw [value, hn, hm, he]
  norm_num

theorem value_two : (ofNat 2).value = 2 := by
  have hn : (ofNat 2).negative = false := by decide +kernel
  have hm : (ofNat 2).mantissa = 2 ^ 52 := by decide +kernel
  have he : (ofNat 2).exponent = -51 := by decide +kernel
  rw [value, hn, hm, he]
  norm_num

end ChatTurn.Double
