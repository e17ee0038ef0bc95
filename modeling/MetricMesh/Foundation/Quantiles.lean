import Mathlib.Algebra.Field.Basic
import Mathlib.Algebra.Order.Field.Basic
import Mathlib.Data.List.Sort
import Mathlib.Tactic.FieldSimp
import Mathlib.Tactic.Linarith
import Mathlib.Tactic.Ring

/-!
# Interpolated quantiles

The quantile `num / den` of `n` numbers lies at position `(n - 1) * num / den` of
the numbers in increasing order, and between two positions it is interpolated in
proportion.  Affine maps commute with quantiles: an increasing one keeps the
quantile, and a decreasing one turns it into the complementary quantile.
-/

namespace MetricMesh
namespace Foundation

universe u

variable {K : Type u} [Field K]

/-- What lies at a position of a sorted list; an empty list has no quantiles. -/
def interpolated (num den : Nat) (sorted : List K) : Option K :=
  let position := (sorted.length - 1) * num
  sorted[position / den]?.map fun a =>
    a + ((sorted[position / den + 1]?).getD a - a) * ((position % den : Nat) / (den : K))

def affine (a b x : K) : K :=
  a * x + b

theorem interpolated_map_affine (a b : K) (num den : Nat) (sorted : List K) :
    interpolated num den (sorted.map (affine a b)) =
      (interpolated num den sorted).map (affine a b) := by
  unfold interpolated
  simp only [List.length_map, List.getElem?_map]
  generalize (sorted.length - 1) * num = position
  cases sorted[position / den]? with
  | none =>
      rfl
  | some x =>
      cases sorted[position / den + 1]? with
      | none =>
          simp [affine]
      | some y =>
          simp only [Option.map_some, Option.getD_some, affine, Option.some.injEq]
          ring

/-!
# Counting from the other end
-/

theorem interpolated_of_dvd {num den i : Nat} (hden : 0 < den) {sorted : List K}
    (h : (sorted.length - 1) * num = i * den) :
    interpolated num den sorted = sorted[i]? := by
  unfold interpolated
  simp only [h, Nat.mul_div_cancel i hden, Nat.mul_mod_left, Nat.cast_zero, zero_div, mul_zero,
    add_zero, Option.map_id']

theorem interpolated_of_between {num den i r : Nat} (hr : r < den) {sorted : List K}
    (h : (sorted.length - 1) * num = i * den + r) {x y : K} (hx : sorted[i]? = some x)
    (hy : sorted[i + 1]? = some y) :
    interpolated num den sorted = some (x + (y - x) * (r / (den : K))) := by
  have hden : 0 < den := by omega
  have hdiv : (i * den + r) / den = i := by
    rw [Nat.mul_comm, Nat.mul_add_div hden, Nat.div_eq_of_lt hr, Nat.add_zero]
  have hmod : (i * den + r) % den = r := by
    rw [Nat.mul_comm, Nat.mul_add_mod, Nat.mod_eq_of_lt hr]
  unfold interpolated
  simp only [h, hdiv, hmod, hx, hy, Option.map_some, Option.getD_some]

theorem complement_of_dvd {n num den i : Nat} (hnum : num ≤ den) (h : n * num = i * den) :
    n * (den - num) = (n - i) * den := by
  have hother : n * (den - num) + n * num = n * den := by
    rw [← Nat.mul_add, Nat.sub_add_cancel hnum]
  rw [Nat.sub_mul]
  omega

theorem complement_of_between {n num den i r : Nat} (hnum : num ≤ den) (hr : r < den)
    (hlt : i < n) (h : n * num = i * den + r) :
    n * (den - num) = (n - i - 1) * den + (den - r) := by
  have hother : n * (den - num) + n * num = n * den := by
    rw [← Nat.mul_add, Nat.sub_add_cancel hnum]
  have hexpand : (n - i - 1) * den = n * den - (i + 1) * den := by
    rw [Nat.sub_sub, Nat.sub_mul]
  have hnext : (i + 1) * den ≤ n * den := Nat.mul_le_mul_right _ hlt
  have hsucc : (i + 1) * den = i * den + den := Nat.succ_mul i den
  rw [hexpand]
  omega

omit [Field K] in
theorem getElem?_reverse_of_add {sorted : List K} {i j : Nat}
    (h : i + j + 1 = sorted.length) : sorted.reverse[i]? = sorted[j]? := by
  rw [List.getElem?_reverse (by omega)]
  congr 1
  omega

theorem interpolated_reverse [CharZero K] {num den : Nat} (hden : 0 < den)
    (hnum : num ≤ den) (sorted : List K) :
    interpolated num den sorted.reverse = interpolated (den - num) den sorted := by
  rcases Nat.eq_zero_or_pos sorted.length with hempty | hlength
  · rw [List.eq_nil_of_length_eq_zero hempty]
    rfl
  · have hlast : sorted.length - 1 + 1 = sorted.length := Nat.sub_add_cancel hlength
    have hreverse : sorted.reverse.length - 1 = sorted.length - 1 := by
      rw [List.length_reverse]
    generalize sorted.length - 1 = n at hlast hreverse
    have hsplit := Nat.div_add_mod' (n * num) den
    have hr := Nat.mod_lt (n * num) hden
    generalize n * num / den = i at hsplit
    generalize n * num % den = r at hsplit hr
    have hile : i ≤ n := by
      apply Nat.le_of_mul_le_mul_right _ hden
      have hbound := Nat.mul_le_mul_left n hnum
      omega
    rcases Nat.eq_zero_or_pos r with hzero | hpos
    · rw [hzero, Nat.add_zero] at hsplit
      rw [interpolated_of_dvd (i := i) hden (by rw [hreverse, hsplit]),
        interpolated_of_dvd hden (by rw [← hlast]; exact complement_of_dvd hnum hsplit.symm)]
      exact getElem?_reverse_of_add (by omega)
    · have hlt : i < n := by
        apply Nat.lt_of_mul_lt_mul_right (a := den)
        have hbound := Nat.mul_le_mul_left n hnum
        omega
      have hlower := List.getElem?_eq_getElem (by omega : n - i - 1 < sorted.length)
      have hupper := List.getElem?_eq_getElem (by omega : n - i - 1 + 1 < sorted.length)
      have hnear := (getElem?_reverse_of_add (by omega : i + (n - i - 1 + 1) + 1 =
        sorted.length)).trans hupper
      have hfar := (getElem?_reverse_of_add (by omega : i + 1 + (n - i - 1) + 1 =
        sorted.length)).trans hlower
      rw [interpolated_of_between hr (by rw [hreverse, hsplit]) hnear hfar,
        interpolated_of_between (by omega : den - r < den)
          (by rw [← hlast]; exact complement_of_between hnum hr hlt hsplit.symm) hlower hupper]
      have hcast : ((den - r : Nat) : K) = den - r := Nat.cast_sub hr.le
      have hne : (den : K) ≠ 0 := Nat.cast_ne_zero.mpr hden.ne'
      rw [hcast, Option.some.injEq]
      field_simp
      ring

/-!
# Quantiles of a list in any order
-/

variable [LinearOrder K]

def quantileOf (num den : Nat) (numbers : List K) : Option K :=
  interpolated num den (numbers.insertionSort (fun x y => x ≤ y))

variable [IsStrictOrderedRing K]

theorem quantileOf_affine_pos {a : K} (ha : 0 < a) (b : K) (num den : Nat)
    (numbers : List K) :
    quantileOf num den (numbers.map (affine a b)) =
      (quantileOf num den numbers).map (affine a b) := by
  have hsort : (numbers.map (affine a b)).insertionSort (fun x y => x ≤ y) =
      (numbers.insertionSort (fun x y => x ≤ y)).map (affine a b) := by
    symm
    apply List.map_insertionSort
    intro x _ y _
    simp [affine, ha]
  unfold quantileOf
  rw [hsort, interpolated_map_affine]

/-- A decreasing map reverses the increasing order. -/
theorem quantileOf_affine_neg {a : K} (ha : a < 0) (b : K) {num den : Nat}
    (hden : 0 < den) (hnum : num ≤ den) (numbers : List K) :
    quantileOf num den (numbers.map (affine a b)) =
      (quantileOf (den - num) den numbers).map (affine a b) := by
  have hsort : (numbers.map (affine a b)).insertionSort (fun x y => x ≤ y) =
      ((numbers.insertionSort (fun x y => x ≤ y)).map (affine a b)).reverse := by
    apply List.Perm.eq_of_pairwise' (r := fun x y : K => x ≤ y)
    · exact List.pairwise_insertionSort _ _
    · rw [List.pairwise_reverse, List.pairwise_map]
      apply List.Pairwise.imp _ (List.pairwise_insertionSort (fun x y : K => x ≤ y) numbers)
      intro x y hxy
      unfold affine
      have hmul := mul_le_mul_of_nonpos_left hxy ha.le
      linarith
    · apply (List.perm_insertionSort _ _).trans
      apply List.Perm.trans _ (List.reverse_perm _).symm
      exact (List.perm_insertionSort _ _).symm.map _
  unfold quantileOf
  rw [hsort, interpolated_reverse hden hnum, interpolated_map_affine]

end Foundation
end MetricMesh
