import MetricMesh.Detection.Windows
import MetricMesh.Foundation.Quantiles

/-!
# Columns of numbers and missing values

Without infinities a column is a list of numbers with gaps, and its statistics
are those of the numbers.
-/

namespace MetricMesh
namespace Detection

open Foundation
open Python

universe u

variable {K : Type u}

def Measured (values : List (Double K)) : Prop :=
  forall x, x ∈ values -> x = .nan ∨ exists q, x = .finite q

def numbersOf (values : List (Double K)) : List K :=
  values.filterMap Double.number?

theorem Measured.sublist {part values : List (Double K)} (hpart : part.Sublist values)
    (h : Measured values) : Measured part :=
  fun x hx => h x (hpart.subset hx)

theorem mem_numbersOf {values : List (Double K)} {q : K} :
    q ∈ numbersOf values <-> .finite q ∈ values := by
  unfold numbersOf
  rw [List.mem_filterMap]
  constructor
  · intro h
    rcases h with ⟨x, hx, hq⟩
    cases x with
    | finite p =>
        injection hq with hq
        rw [← hq]
        exact hx
    | nan => cases hq
    | inf => cases hq
    | negInf => cases hq
  · intro h
    exact ⟨.finite q, h, rfl⟩

theorem length_numbersOf {values : List (Double K)}
    (h : forall x, x ∈ values -> exists q, x = .finite q) :
    (numbersOf values).length = values.length := by
  unfold numbersOf
  rw [List.length_filterMap_eq_countP, List.countP_eq_length]
  intro x hx
  rcases h x hx with ⟨q, hq⟩
  rw [hq]
  rfl

theorem dropna_of_measured {values : List (Double K)} (h : Measured values) :
    dropna values = (numbersOf values).map Double.finite := by
  induction values with
  | nil =>
      rfl
  | cons x rest ih =>
      have hrest := ih (h.sublist (List.sublist_cons_self x rest))
      unfold dropna numbersOf at hrest
      unfold dropna numbersOf
      rcases h x List.mem_cons_self with hx | ⟨q, hx⟩
      · rw [hx, List.filter_cons_of_neg Bool.false_ne_true, hrest]
        rfl
      · rw [hx, List.filter_cons_of_pos rfl, hrest]
        rfl

theorem measured_finite (numbers : List K) : Measured (numbers.map Double.finite) := by
  intro x hx
  rcases List.mem_map.mp hx with ⟨q, _, hq⟩
  exact Or.inr ⟨q, hq.symm⟩

theorem numbersOf_finite (numbers : List K) :
    numbersOf (numbers.map Double.finite) = numbers := by
  unfold numbersOf
  rw [List.filterMap_map]
  exact List.filterMap_some

/-!
# Quantiles of a column
-/

section Quantiles

variable [Field K] [LinearOrder K]

def orMissing : Option K -> Double K
  | none => .nan
  | some q => .finite q

theorem lerp_finite (a b t : K) :
    lerp (.finite a) (.finite b) t = .finite (a + (b - a) * t) := by
  unfold lerp
  by_cases ht : t < 1 / 2
  · rw [if_pos ht]
    simp
  · rw [if_neg ht]
    simp only [Double.finite_sub_finite, Double.finite_mul_finite, Double.finite.injEq]
    ring

theorem quantileSorted_finite (num den : Nat) (sorted : List K) :
    quantileSorted num den (sorted.map Double.finite) =
      orMissing (interpolated num den sorted) := by
  unfold quantileSorted interpolated
  simp only [List.length_map, List.getElem?_map]
  generalize (sorted.length - 1) * num = position
  cases sorted[position / den]? with
  | none =>
      rfl
  | some x =>
      cases sorted[position / den + 1]? with
      | none => exact lerp_finite x x _
      | some y => exact lerp_finite x y _

theorem quantile_of_measured (num den : Nat) {values : List (Double K)}
    (h : Measured values) :
    quantile num den values = orMissing (quantileOf num den (numbersOf values)) := by
  have hsort : ((numbersOf values).map Double.finite).insertionSort (fun x y => x ≤ y) =
      ((numbersOf values).insertionSort (fun x y => x ≤ y)).map Double.finite := by
    symm
    apply List.map_insertionSort
    intro x _ y _
    rw [Double.finite_le_finite]
  unfold quantile
  rw [dropna_of_measured h, hsort, quantileSorted_finite]
  rfl

theorem quantileOf_of_quantile {num den : Nat} {values : List (Double K)}
    (h : Measured values) {q : K} (hq : quantile num den (dropna values) = .finite q) :
    quantileOf num den (numbersOf values) = some q := by
  rw [dropna_of_measured h, quantile_of_measured num den (measured_finite _),
    numbersOf_finite] at hq
  cases hnone : quantileOf num den (numbersOf values) with
  | none =>
      rw [hnone] at hq
      cases hq
  | some r =>
      rw [hnone] at hq
      rw [Double.finite.inj hq]

end Quantiles

end Detection
end MetricMesh
