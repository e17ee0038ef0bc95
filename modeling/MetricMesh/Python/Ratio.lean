import Mathlib.Data.Rat.Floor
import MetricMesh.Foundation.Binary64

/-!
# Ratios of counts

A ratio is shown with four decimals.  The quotient of two counts is a double,
and so is the decimal that it is rounded to.
-/

namespace MetricMesh
namespace Python

open Foundation

def roundedQuotient (num den : Nat) : Rat :=
  toDouble (roundTo 4 (toDouble ((num : Rat) / den)))

/-- `round(num / den, 4) if den else None`. -/
def ratio (num den : Nat) : Option Rat :=
  if den = 0 then none else some (roundedQuotient num den)

theorem roundedQuotient_mono {a b c d : Nat} (h : (a : Rat) / b ≤ c / d) :
    roundedQuotient a b ≤ roundedQuotient c d := by
  have hdouble := toDouble_mono h
  exact toDouble_mono (roundTo_mono 4 hdouble)

@[simp] theorem roundedQuotient_zero (den : Nat) : roundedQuotient 0 den = 0 := by
  have hround : roundTo 4 (0 : Rat) = 0 := roundTo_of_grid (n := 0) (by norm_num)
  unfold roundedQuotient
  rw [Nat.cast_zero, zero_div, toDouble_zero, hround, toDouble_zero]

theorem roundedQuotient_self {n : Nat} (h : n ≠ 0) : roundedQuotient n n = 1 := by
  have hround : roundTo 4 (1 : Rat) = 1 := roundTo_of_grid (n := 10000) (by norm_num)
  have hcast : (n : Rat) ≠ 0 := by exact_mod_cast h
  unfold roundedQuotient
  rw [div_self hcast, toDouble_one, hround, toDouble_one]

theorem roundedQuotient_nonneg (num den : Nat) : 0 ≤ roundedQuotient num den := by
  rw [← roundedQuotient_zero den]
  apply roundedQuotient_mono
  rw [Nat.cast_zero, zero_div]
  positivity

theorem roundedQuotient_le_one {num den : Nat} (h : num ≤ den) :
    roundedQuotient num den ≤ 1 := by
  by_cases hden : den = 0
  · have hnum : num = 0 := by omega
    rw [hnum, roundedQuotient_zero]
    exact zero_le_one
  · have hcast : (den : Rat) ≠ 0 := by exact_mod_cast hden
    rw [← roundedQuotient_self hden]
    apply roundedQuotient_mono
    rw [div_self hcast]
    apply div_le_one_of_le₀
    · exact_mod_cast h
    · positivity

theorem ratio_eq_none_iff {num den : Nat} : ratio num den = none <-> den = 0 := by
  unfold ratio
  by_cases hden : den = 0
  · simp [hden]
  · simp [hden]

theorem ratio_of_ne_zero {den : Nat} (h : den ≠ 0) (num : Nat) :
    ratio num den = some (roundedQuotient num den) := by
  unfold ratio
  rw [if_neg h]

end Python
end MetricMesh
