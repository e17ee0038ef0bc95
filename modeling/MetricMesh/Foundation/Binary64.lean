import Mathlib.Algebra.Order.Archimedean.Basic
import Mathlib.Data.Int.LeastGreatest
import Mathlib.Data.Int.Log
import MetricMesh.Foundation.Rounding

/-!
# Rounding to 53 significant bits

A quotient is computed as the nearest number that a double can hold, with ties
to even.  The unit of a value is its last bit: 52 places below its first one,
and at least `2 ^ -1074`.  There is no largest number here; a user that comes
near it checks the range first.

Rounding keeps the order of the values.
-/

namespace MetricMesh
namespace Foundation

universe u

variable {K : Type u} [Field K] [LinearOrder K] [IsStrictOrderedRing K] [FloorRing K]

/-- The place of the last bit that a double keeps of the value. -/
def lastBit (x : K) : Int :=
  max (Int.log 2 |x| - 52) (-1074)

/-- The double that is nearest to the value. -/
def toDouble (x : K) : K :=
  roundEven (x / 2 ^ lastBit x) * 2 ^ lastBit x

theorem unit_pos (x : K) : (0 : K) < 2 ^ lastBit x :=
  zpow_pos two_pos _

@[simp] theorem toDouble_zero : toDouble (0 : K) = 0 := by
  have hround : roundEven (0 : K) = 0 := by
    simpa using roundEven_intCast (K := K) 0
  unfold toDouble
  rw [zero_div, hround, Int.cast_zero, zero_mul]

theorem toDouble_le {x : K} (n : Int) (h : x ≤ n * 2 ^ lastBit x) :
    toDouble x ≤ n * 2 ^ lastBit x := by
  have hunit := unit_pos x
  have hscaled : x / 2 ^ lastBit x ≤ n := (div_le_iff₀ hunit).mpr h
  unfold toDouble
  apply mul_le_mul_of_nonneg_right _ hunit.le
  exact_mod_cast roundEven_le_of_le hscaled

theorem le_toDouble {x : K} (n : Int) (h : n * 2 ^ lastBit x ≤ x) :
    n * 2 ^ lastBit x ≤ toDouble x := by
  have hunit := unit_pos x
  have hscaled : n ≤ x / 2 ^ lastBit x := (le_div_iff₀ hunit).mpr h
  unfold toDouble
  apply mul_le_mul_of_nonneg_right _ hunit.le
  exact_mod_cast le_roundEven_of_le hscaled

omit [IsStrictOrderedRing K] in
theorem zpow_eq_mul_unit {x : K} {k : Int} (h : lastBit x ≤ k) :
    (2 : K) ^ k = ((2 ^ (k - lastBit x).toNat : Int) : K) * 2 ^ lastBit x := by
  have hnonneg : 0 ≤ k - lastBit x := by omega
  have hcast : ((2 ^ (k - lastBit x).toNat : Int) : K) = 2 ^ (k - lastBit x) := by
    push_cast
    rw [← zpow_natCast, Int.toNat_of_nonneg hnonneg]
  rw [hcast, ← zpow_add₀ (by norm_num : (2 : K) ≠ 0)]
  congr 1
  omega

theorem toDouble_le_zpow {x : K} {k : Int} (hbit : lastBit x ≤ k) (h : x ≤ 2 ^ k) :
    toDouble x ≤ 2 ^ k := by
  rw [zpow_eq_mul_unit hbit] at h
  rw [zpow_eq_mul_unit hbit]
  exact toDouble_le _ h

theorem zpow_le_toDouble {x : K} {k : Int} (hbit : lastBit x ≤ k) (h : 2 ^ k ≤ x) :
    2 ^ k ≤ toDouble x := by
  rw [zpow_eq_mul_unit hbit] at h
  rw [zpow_eq_mul_unit hbit]
  exact le_toDouble _ h

theorem toDouble_nonneg {x : K} (h : 0 ≤ x) : 0 ≤ toDouble x := by
  have hzero := le_toDouble (x := x) 0 (by simpa using h)
  simpa using hzero

theorem lastBit_mono {x y : K} (hx : 0 < x) (h : x ≤ y) : lastBit x ≤ lastBit y := by
  have hlog : Int.log 2 |x| ≤ Int.log 2 |y| := by
    rw [abs_of_pos hx, abs_of_pos (lt_of_lt_of_le hx h)]
    exact Int.log_mono_right hx h
  unfold lastBit
  omega

/-- Between two values whose units differ there is a power of two. -/
theorem exists_zpow_between {x y : K} (hx : 0 < x) (hy : 0 < y)
    (h : lastBit x < lastBit y) :
    exists k : Int, lastBit x ≤ k ∧ lastBit y ≤ k ∧ x ≤ 2 ^ k ∧ 2 ^ k ≤ y := by
  have hlog : Int.log 2 x < Int.log 2 y := by
    unfold lastBit at h
    rw [abs_of_pos hx, abs_of_pos hy] at h
    omega
  have hbit : lastBit y = Int.log 2 y - 52 := by
    unfold lastBit at h
    unfold lastBit
    rw [abs_of_pos hy] at h
    rw [abs_of_pos hy]
    omega
  refine ⟨Int.log 2 y, by omega, by omega, ?_, ?_⟩
  · have hlt := (Int.lt_zpow_iff_log_lt (b := 2) (by norm_num) hx).mpr hlog
    exact_mod_cast hlt.le
  · exact_mod_cast Int.zpow_log_le_self (b := 2) (by norm_num) hy

theorem toDouble_mono_of_nonneg {x y : K} (hx : 0 ≤ x) (h : x ≤ y) :
    toDouble x ≤ toDouble y := by
  rcases lt_or_eq_of_le hx with hpos | hzero
  · rcases lt_or_eq_of_le (lastBit_mono hpos h) with hlt | heq
    · rcases exists_zpow_between hpos (lt_of_lt_of_le hpos h) hlt with
        ⟨k, hxbit, hybit, hxk, hky⟩
      exact (toDouble_le_zpow hxbit hxk).trans (zpow_le_toDouble hybit hky)
    · have hunit := unit_pos y
      have hscaled : x / 2 ^ lastBit y ≤ y / 2 ^ lastBit y :=
        div_le_div_of_nonneg_right h hunit.le
      unfold toDouble
      rw [heq]
      apply mul_le_mul_of_nonneg_right _ hunit.le
      exact_mod_cast roundEven_mono hscaled
  · rw [← hzero, toDouble_zero]
    exact toDouble_nonneg (hx.trans h)

theorem toDouble_neg (x : K) : toDouble (-x) = -toDouble x := by
  have hbit : lastBit (-x) = lastBit x := by
    unfold lastBit
    rw [abs_neg]
  unfold toDouble
  rw [hbit, neg_div, roundEven_neg]
  push_cast
  ring

theorem toDouble_mono {x y : K} (h : x ≤ y) : toDouble x ≤ toDouble y := by
  rcases le_total 0 x with hx | hx
  · exact toDouble_mono_of_nonneg hx h
  · rcases le_total 0 y with hy | hy
    · have hneg := toDouble_nonneg (neg_nonneg.mpr hx)
      rw [toDouble_neg] at hneg
      exact (neg_nonneg.mp hneg).trans (toDouble_nonneg hy)
    · have hneg := toDouble_mono_of_nonneg (neg_nonneg.mpr hy) (neg_le_neg h)
      rw [toDouble_neg, toDouble_neg] at hneg
      exact neg_le_neg_iff.mp hneg

theorem toDouble_of_multiple {x : K} {n : Int} (h : x = n * 2 ^ lastBit x) :
    toDouble x = x := by
  have hle := toDouble_le n (le_of_eq h)
  have hge := le_toDouble n (le_of_eq h.symm)
  rw [← h] at hle hge
  exact le_antisymm hle hge

theorem toDouble_zpow {k : Int} (h : -1074 ≤ k) : toDouble ((2 : K) ^ k) = 2 ^ k := by
  have hpos : (0 : K) < 2 ^ k := zpow_pos two_pos _
  have hlog : Int.log 2 |(2 : K) ^ k| = k := by
    rw [abs_of_pos hpos]
    exact_mod_cast Int.log_zpow (R := K) (b := 2) (by norm_num) k
  have hbit : lastBit ((2 : K) ^ k) ≤ k := by
    unfold lastBit
    omega
  exact toDouble_of_multiple (zpow_eq_mul_unit hbit)

theorem toDouble_intCast {n : Int} (h : |n| ≤ 2 ^ 53) : toDouble (n : K) = n := by
  rcases eq_or_ne |n| (2 ^ 53) with heq | hne
  · have hpow : toDouble ((2 : K) ^ (53 : Int)) = 2 ^ (53 : Int) := toDouble_zpow (by norm_num)
    have hcast : ((2 ^ 53 : Int) : K) = 2 ^ (53 : Int) := by norm_num
    rcases abs_eq (by norm_num) |>.mp heq with hn | hn
    · rw [hn, hcast, hpow]
    · rw [hn, Int.cast_neg, toDouble_neg, hcast, hpow]
  · have hbit : lastBit (n : K) ≤ 0 := by
      have hlog : Int.log 2 |(n : K)| ≤ 52 := by
        rcases eq_or_ne n 0 with hzero | hnonzero
        · simp [hzero]
        · have hpos : (0 : K) < |(n : K)| := abs_pos.mpr (Int.cast_ne_zero.mpr hnonzero)
          have hlt : |n| < 2 ^ 53 := lt_of_le_of_ne h hne
          have hcast : |(n : K)| < ((2 : Nat) : K) ^ (53 : Int) := by
            rw [← Int.cast_abs]
            exact_mod_cast hlt
          have hlog := (Int.lt_zpow_iff_log_lt (b := 2) (by norm_num) hpos).mp hcast
          omega
      unfold lastBit
      omega
    apply @toDouble_of_multiple K _ _ _ _ (n : K) (n * 2 ^ (0 - lastBit (n : K)).toNat)
    have hunit := zpow_eq_mul_unit (K := K) hbit
    rw [zpow_zero] at hunit
    push_cast at hunit ⊢
    rw [mul_assoc, ← hunit, mul_one]

@[simp] theorem toDouble_one : toDouble (1 : K) = 1 := by
  have hcast := toDouble_intCast (K := K) (n := 1) (by norm_num)
  simpa using hcast

theorem sub_unit_lt_toDouble (x : K) : x - 2 ^ lastBit x < toDouble x := by
  have hunit := unit_pos x
  have hfloor : (⌊x / 2 ^ lastBit x⌋ : K) * 2 ^ lastBit x ≤ x :=
    (le_div_iff₀ hunit).mp (Int.floor_le _)
  have hnext : x < (⌊x / 2 ^ lastBit x⌋ + 1 : K) * 2 ^ lastBit x :=
    (div_lt_iff₀ hunit).mp (Int.lt_floor_add_one _)
  have hle := le_toDouble _ hfloor
  linarith

/-!
# Decimals as doubles

A decimal is stored as its nearest double, so a bound is met by the decimals from
a first one on.
-/

/-- The first decimal whose double is at or above a bound, as a multiple of its unit. -/
def FirstStored (digits : Nat) (bound : K) (n : Int) : Prop :=
  bound ≤ toDouble ((n : K) / 10 ^ digits) ∧
    forall m : Int, bound ≤ toDouble ((m : K) / 10 ^ digits) -> n ≤ m

theorem exists_firstStored (digits : Nat) (bound : K) :
    exists n, FirstStored digits bound n := by
  have hunit : (0 : K) < 10 ^ digits := by positivity
  rcases exists_nat_gt |bound| with ⟨b, hb⟩
  rcases abs_lt.mp hb with ⟨hlow, hhigh⟩
  have hpow : (b : K) < 2 ^ b := by exact_mod_cast Nat.lt_two_pow_self
  have hpower := toDouble_zpow (K := K) (k := (b : Int)) (by omega)
  rw [zpow_natCast] at hpower
  apply Int.exists_least_of_bdd
  · refine ⟨-2 ^ b * 10 ^ digits, ?_⟩
    intro m hm
    by_contra hlt
    -- Below the power every decimal is stored below the bound.
    have hcast : (m : K) ≤ -2 ^ b * 10 ^ digits := by exact_mod_cast le_of_lt (not_le.mp hlt)
    have hstored := toDouble_mono ((div_le_iff₀ hunit).mpr hcast)
    rw [toDouble_neg, hpower] at hstored
    linarith
  · refine ⟨2 ^ b * 10 ^ digits, ?_⟩
    rw [Int.cast_mul, Int.cast_pow, Int.cast_pow, Int.cast_ofNat, Int.cast_ofNat,
      mul_div_cancel_right₀ _ (ne_of_gt hunit), hpower]
    linarith

/-- A value that is rounded to decimals and stored meets the bound from the first on. -/
theorem le_toDouble_roundTo_iff {digits : Nat} {bound : K} {n : Int}
    (h : FirstStored digits bound n) (x : K) :
    bound ≤ toDouble (roundTo digits x) <-> n ≤ roundEven (x * 10 ^ digits) := by
  have hunit : (0 : K) < 10 ^ digits := by positivity
  constructor
  · intro hle
    exact h.2 _ hle
  · intro hle
    refine le_trans h.1 (toDouble_mono ?_)
    apply div_le_div_of_nonneg_right _ (le_of_lt hunit)
    exact_mod_cast hle

theorem le_roundTo_toDouble {digits : Nat} (hdigits : digits ≤ 15) {n : Int} (hpos : 0 < n)
    (hle : n ≤ 10 ^ digits) :
    (n : K) / 10 ^ digits ≤ roundTo digits (toDouble ((n : K) / 10 ^ digits)) := by
  have hunit : (0 : K) < 10 ^ digits := by positivity
  have hnpos : (0 : K) < n := by exact_mod_cast hpos
  have hbig : (10 : K) ^ digits ≤ 10 ^ 15 := pow_le_pow_right₀ (by norm_num) hdigits
  have hone : (n : K) / 10 ^ digits ≤ 1 := by
    rw [div_le_one hunit]
    exact_mod_cast hle
  have hbit : lastBit ((n : K) / 10 ^ digits) ≤ -52 := by
    refine le_trans (lastBit_mono (by positivity) hone) ?_
    unfold lastBit
    simp
  have hlast : (2 : K) ^ lastBit ((n : K) / 10 ^ digits) ≤ 2 ^ (-52 : Int) :=
    zpow_le_zpow_right₀ one_le_two hbit
  have hnear := sub_unit_lt_toDouble ((n : K) / 10 ^ digits)
  have hcancel : (n : K) / 10 ^ digits * 10 ^ digits = n :=
    div_mul_cancel₀ _ (ne_of_gt hunit)
  -- The last bit is worth less than half a unit of the last digit.
  have hloss : (2 : K) ^ (-52 : Int) * 10 ^ digits < 1 / 2 := by
    calc (2 : K) ^ (-52 : Int) * 10 ^ digits ≤ 2 ^ (-52 : Int) * 10 ^ 15 :=
          mul_le_mul_of_nonneg_left hbig (by positivity)
      _ < 1 / 2 := by norm_num
  unfold roundTo
  apply div_le_div_of_nonneg_right _ (le_of_lt hunit)
  have hround : n ≤ roundEven (toDouble ((n : K) / 10 ^ digits) * 10 ^ digits) := by
    rw [le_roundEven_iff]
    left
    have hscaled := mul_lt_mul_of_pos_right hnear hunit
    have hmul := mul_le_mul_of_nonneg_right hlast (le_of_lt hunit)
    rw [sub_mul, hcancel] at hscaled
    linarith
  exact_mod_cast hround

end Foundation
end MetricMesh
