import Mathlib.Algebra.Field.Rat
import Mathlib.Algebra.Order.Field.Basic
import Mathlib.Algebra.Order.Ring.Rat
import Mathlib.Data.Rat.Floor
import Mathlib.Tactic.Positivity
import MetricMesh.Foundation.Binary64

/-!
# Numbers with the special values of a double

A double is a number or one of the three special values.  The numbers are taken
from any ordered field, with exact sums, products and comparisons; the special
values follow the IEEE rules: an undefined combination of infinities is not a
number, and nothing compares with what is not a number.  Zero has no sign.
-/

namespace MetricMesh
namespace Python

universe u

inductive Double (K : Type u) where
  | finite (q : K)
  | nan
  | inf
  | negInf
deriving DecidableEq

namespace Double

variable {K : Type u}

def isNan : Double K -> Bool
  | .nan => true
  | _ => false

/-- A missing value is dropped; an infinity counts as missing in a window. -/
def number? : Double K -> Option K
  | .finite q => some q
  | _ => none

/-!
# Comparisons
-/

section Order

variable [LinearOrder K]

def ltBool : Double K -> Double K -> Bool
  | .finite p, .finite q => decide (p < q)
  | .finite _, .inf => true
  | .negInf, .finite _ => true
  | .negInf, .inf => true
  | _, _ => false

instance : LT (Double K) := ⟨fun x y => ltBool x y = true⟩

instance : LE (Double K) := ⟨fun x y => x < y ∨ (x = y ∧ x ≠ .nan)⟩

instance (x y : Double K) : Decidable (x < y) :=
  inferInstanceAs (Decidable (ltBool x y = true))

instance (x y : Double K) : Decidable (x ≤ y) :=
  inferInstanceAs (Decidable (x < y ∨ (x = y ∧ x ≠ .nan)))

/-- `max(x, y)`, which is the first argument unless the second is greater. -/
def max (x y : Double K) : Double K :=
  if x < y then y else x

def min (x y : Double K) : Double K :=
  if y < x then y else x

/-- `np.maximum(x, y)`, which is not a number when either is not. -/
def maximum (x y : Double K) : Double K :=
  if x.isNan then x else if y.isNan then y else max x y

@[simp] theorem finite_lt_finite (p q : K) :
    Double.finite p < Double.finite q <-> p < q := by
  show decide (p < q) = true <-> p < q
  exact decide_eq_true_iff

@[simp] theorem finite_le_finite (p q : K) :
    Double.finite p ≤ Double.finite q <-> p ≤ q := by
  show (Double.finite p < Double.finite q ∨
    (Double.finite p = Double.finite q ∧ Double.finite p ≠ .nan)) <-> p ≤ q
  rw [finite_lt_finite, le_iff_lt_or_eq]
  simp

@[simp] theorem not_nan_lt (x : Double K) : ¬ Double.nan < x := by
  cases x <;> exact Bool.false_ne_true

@[simp] theorem not_nan_le (x : Double K) : ¬ Double.nan ≤ x := by
  intro h
  rcases h with hlt | ⟨_, hne⟩
  · exact not_nan_lt x hlt
  · exact hne rfl

protected theorem le_trans {x y z : Double K} (hxy : x ≤ y) (hyz : y ≤ z) : x ≤ z := by
  rcases hxy with hlt | ⟨heq, _⟩
  · rcases hyz with hlt' | ⟨heq', _⟩
    · left
      cases x <;> cases y <;> cases z <;> first
        | exact Bool.noConfusion hlt
        | exact Bool.noConfusion hlt'
        | rfl
        | skip
      rw [finite_lt_finite] at hlt hlt' ⊢
      exact hlt.trans hlt'
    · rw [← heq']
      exact Or.inl hlt
  · rw [heq]
    exact hyz

end Order

/-!
# Arithmetic
-/

variable [Field K] [LinearOrder K]

def neg : Double K -> Double K
  | .finite q => .finite (-q)
  | .nan => .nan
  | .inf => .negInf
  | .negInf => .inf

def add : Double K -> Double K -> Double K
  | .finite p, .finite q => .finite (p + q)
  | .nan, _ => .nan
  | _, .nan => .nan
  | .inf, .negInf => .nan
  | .negInf, .inf => .nan
  | .inf, _ => .inf
  | _, .inf => .inf
  | .negInf, _ => .negInf
  | _, .negInf => .negInf

def sub (x y : Double K) : Double K :=
  add x (neg y)

/-- What a number times an infinity is, by the sign of the number. -/
def signedInf (q : K) : Double K :=
  if q = 0 then .nan else if 0 < q then .inf else .negInf

def mul : Double K -> Double K -> Double K
  | .finite p, .finite q => .finite (p * q)
  | .nan, _ => .nan
  | _, .nan => .nan
  | .finite p, .inf => signedInf p
  | .finite p, .negInf => signedInf (-p)
  | .inf, .finite q => signedInf q
  | .negInf, .finite q => signedInf (-q)
  | .inf, .inf => .inf
  | .negInf, .negInf => .inf
  | .inf, .negInf => .negInf
  | .negInf, .inf => .negInf

def div : Double K -> Double K -> Double K
  | .finite p, .finite q => if q = 0 then signedInf p else .finite (p / q)
  | .nan, _ => .nan
  | _, .nan => .nan
  | .finite _, _ => .finite 0
  | .inf, .finite q => if q < 0 then .negInf else .inf
  | .negInf, .finite q => if q < 0 then .inf else .negInf
  | _, _ => .nan

instance : Neg (Double K) := ⟨neg⟩
instance : Add (Double K) := ⟨add⟩
instance : Sub (Double K) := ⟨sub⟩
instance : Mul (Double K) := ⟨mul⟩
instance : Div (Double K) := ⟨div⟩

def abs (x : Double K) : Double K :=
  if x < .finite 0 then -x else x

def clip (x : Double K) : Double K :=
  if x < .finite 0 then .finite 0 else if .finite 1 < x then .finite 1 else x

def fillna (x : Double K) : Double K :=
  if x.isNan then .finite 0 else x

/-- The least positive divisor of the code, `1e-9`. -/
def tiny : Double K :=
  .finite (1 / 10 ^ 9)

/-- `x or 1e-9`. -/
def orTiny (x : Double K) : Double K :=
  if x = .finite 0 then tiny else x

end Double

/-!
# Arithmetic of numbers and of what is not a number
-/

namespace Double

variable {K : Type u} [Field K]

@[simp] theorem finite_sub_finite (p q : K) :
    (Double.finite p - .finite q : Double K) = .finite (p - q) := by
  show Double.finite (p + -q) = .finite (p - q)
  rw [sub_eq_add_neg]

@[simp] theorem finite_add_finite (p q : K) :
    (Double.finite p + .finite q : Double K) = .finite (p + q) := rfl

variable [LinearOrder K]

@[simp] theorem finite_mul_finite (p q : K) :
    (Double.finite p * .finite q : Double K) = .finite (p * q) := rfl

theorem finite_div_finite (p : K) {q : K} (hq : q ≠ 0) :
    (Double.finite p / .finite q : Double K) = .finite (p / q) :=
  if_neg hq

@[simp] theorem nan_div (x : Double K) : (Double.nan / x : Double K) = .nan := by
  cases x <;> rfl

@[simp] theorem abs_nan : (Double.nan : Double K).abs = .nan :=
  if_neg (not_nan_lt _)

theorem abs_finite [IsStrictOrderedRing K] (q : K) :
    (Double.finite q : Double K).abs = .finite |q| := by
  unfold abs
  by_cases hq : q < 0
  · rw [if_pos ((finite_lt_finite q 0).mpr hq), abs_of_neg hq]
    rfl
  · rw [if_neg (fun h => hq ((finite_lt_finite q 0).mp h)), abs_of_nonneg (not_lt.mp hq)]

theorem orTiny_finite [IsStrictOrderedRing K] (q : K) :
    exists d, d ≠ 0 ∧ (Double.finite q : Double K).orTiny = .finite d := by
  unfold orTiny
  by_cases hq : (Double.finite q : Double K) = .finite 0
  · rw [if_pos hq]
    exact ⟨1 / 10 ^ 9, by positivity, rfl⟩
  · rw [if_neg hq]
    exact ⟨q, fun h => hq (by rw [h]), rfl⟩

theorem clip_fillna_unit [IsStrictOrderedRing K] (x : Double K) :
    exists q, 0 ≤ q ∧ q ≤ 1 ∧ x.clip.fillna = .finite q := by
  by_cases hlow : x < .finite 0
  · exact ⟨0, le_refl 0, zero_le_one, by rw [clip, if_pos hlow]; rfl⟩
  · by_cases hhigh : Double.finite 1 < x
    · exact ⟨1, zero_le_one, le_refl 1, by rw [clip, if_neg hlow, if_pos hhigh]; rfl⟩
    · have hclip : x.clip = x := by rw [clip, if_neg hlow, if_neg hhigh]
      rw [hclip]
      cases x with
      | finite q =>
          rw [finite_lt_finite, not_lt] at hlow hhigh
          exact ⟨q, hlow, hhigh, rfl⟩
      | nan => exact ⟨0, le_refl 0, zero_le_one, rfl⟩
      | inf => exact absurd rfl hhigh
      | negInf => exact absurd rfl hlow

end Double

/-!
# Floats

The floats of the host are doubles with their exact values.  Detection computes
with exact numbers, which become floats where the program rounds or stores them.
-/

abbrev PyFloat : Type :=
  Double Rat

/-- The first magnitude that no longer rounds to a finite double. -/
@[irreducible]
def floatLimit : Rat := ((2 ^ 1024 - 2 ^ 970 : Nat) : Rat)

namespace Double

def ofExact (q : Rat) : PyFloat :=
  if floatLimit ≤ q then .inf
  else if q ≤ -floatLimit then .negInf
  else .finite (Foundation.toDouble q)

def nearest : PyFloat -> PyFloat
  | .finite q => ofExact q
  | x => x

/-- `round(x, digits)`, which is in the range of doubles when `x` is. -/
def round (digits : Nat) : PyFloat -> PyFloat
  | .finite q => .finite (Foundation.toDouble (Foundation.roundTo digits q))
  | x => x

theorem one_lt_floatLimit : 1 < floatLimit := by
  decide +kernel

theorem ofExact_of_lt {q : Rat} (hlow : -floatLimit < q) (hhigh : q < floatLimit) :
    ofExact q = .finite (Foundation.toDouble q) := by
  unfold ofExact
  rw [if_neg (not_le_of_gt hhigh), if_neg (not_le_of_gt hlow)]

theorem ofExact_of_unit {q : Rat} (hlow : 0 ≤ q) (hhigh : q ≤ 1) :
    ofExact q = .finite (Foundation.toDouble q) := by
  have hlimit := one_lt_floatLimit
  apply ofExact_of_lt
  · linarith
  · exact lt_of_le_of_lt hhigh hlimit

theorem ofExact_mono {p q : Rat} (h : p ≤ q) : ofExact p ≤ ofExact q := by
  unfold ofExact
  by_cases hq : floatLimit ≤ q
  · rw [if_pos hq]
    split_ifs
    · exact Or.inr ⟨rfl, by simp⟩
    · exact Or.inl rfl
    · exact Or.inl rfl
  · have hp : ¬ floatLimit ≤ p := fun hp => hq (le_trans hp h)
    rw [if_neg hq, if_neg hp]
    by_cases hlow : p ≤ -floatLimit
    · rw [if_pos hlow]
      split_ifs
      · exact Or.inr ⟨rfl, by simp⟩
      · exact Or.inl rfl
    · have hlow' : ¬ q ≤ -floatLimit := fun hq' => hlow (le_trans h hq')
      rw [if_neg hlow, if_neg hlow', finite_le_finite]
      exact Foundation.toDouble_mono h

@[simp] theorem ofExact_zero : ofExact 0 = .finite 0 := by
  rw [ofExact_of_unit (le_refl 0) zero_le_one, Foundation.toDouble_zero]

end Double

/-!
# The shortest text of a double

From `1e16` on a double is an integer, and `repr` prints the fewest digits that are
read back as the same double, followed by an exponent.
-/

/-- The nearest integer with so many zeros, or with fewer, that is read as the double. -/
def shortestFrom (x : Nat) : Nat -> Nat
  | 0 => x
  | zeros + 1 =>
      let unit := 10 ^ (zeros + 1)
      let below := x / unit * unit
      let above := below + unit
      let nearer := 2 * x < below + above ∨ (2 * x = below + above ∧ x / unit % 2 = 0)
      if Foundation.toDouble (below : Rat) = x ∧
          (nearer ∨ Foundation.toDouble (above : Rat) ≠ x) then
        below
      else if Foundation.toDouble (above : Rat) = x then
        above
      else
        shortestFrom x zeros

/-- The integer that the text of a double from `1e16` on stands for. -/
def shortest (q : Rat) : Int :=
  q.num.sign * shortestFrom q.num.natAbs q.num.natAbs.log2

example : shortest 1700000000123456768 = 1700000000123456800 := by decide +kernel

/-- `f"{x:.4f}"`, for any number of digits. -/
def fixedText (digits : Nat) : PyFloat -> String
  | .finite q =>
      let n := (Foundation.roundEven (|q| * 10 ^ digits)).toNat
      let fraction := (n % 10 ^ digits).repr
      (if q < 0 then "-" else "") ++ (n / 10 ^ digits).repr ++ "." ++
        String.ofList (List.replicate (digits - fraction.length) '0') ++ fraction
  | .nan => "nan"
  | .inf => "inf"
  | .negInf => "-inf"

end Python
end MetricMesh
