import MetricMesh.Detection.Columns
import MetricMesh.Detection.Statistical

/-!
# What fitting computes

The training slice enters a fit through its numbers only.  A slice without
numbers has no last rolling value and no percentiles, so fitting raises there,
and on every other slice it succeeds.
-/

namespace MetricMesh
namespace Detection

open Foundation
open Python

universe u

variable {K : Type u}

namespace StatisticalDetector

variable [Field K] [LinearOrder K]

def lastWindow (width least : Nat) (statistic : List K -> Double K) (numbers : List K) :
    Double K :=
  if Nat.min width numbers.length < least then .nan
  else statistic (numbers.drop (numbers.length - width))

omit [Field K] [LinearOrder K] in
theorem lastOf_rolling (width least : Nat) (statistic : List K -> Double K)
    {numbers : List K} (hne : numbers ≠ []) :
    lastOf (rolling width least statistic (numbers.map Double.finite)) =
      .ok (lastWindow width least statistic numbers) := by
  have hlength : 0 < numbers.length := List.length_pos_of_ne_nil hne
  have hlast : numbers.length - 1 < (numbers.map (Double.finite : K -> Double K)).length := by
    rw [List.length_map]
    omega
  have hwhole : numbers.length - 1 + 1 = numbers.length := by omega
  have hwindow : ((numbers.map (Double.finite : K -> Double K)).drop
      (numbers.length - width)).filterMap Double.number? =
        numbers.drop (numbers.length - width) := by
    rw [← List.map_drop]
    exact numbersOf_finite _
  unfold lastOf
  rw [List.getLast?_eq_getElem?, length_rolling, List.length_map,
    getElem?_rolling width least statistic hlast, hwhole,
    List.take_of_length_le (by rw [List.length_map]), hwindow]
  have hcount : (numbers.drop (numbers.length - width)).length =
      Nat.min width numbers.length := by
    rw [List.length_drop]
    show numbers.length - (numbers.length - width) = min width numbers.length
    omega
  rw [hcount]
  rfl

def fittedParams (math : Math K) (detector : StatisticalDetector K) (numbers : List K) :
    Dict String (Param K) :=
  match detector.method with
  | .zscore =>
      [("mean", .number (lastWindow detector.window 10 mean numbers)),
       ("std", .number (lastWindow detector.window 10 (std math) numbers))]
  | .iqr =>
      let q1 := orMissing (quantileOf 1 4 numbers)
      let q3 := orMissing (quantileOf 3 4 numbers)
      [("q1", .number q1), ("q3", .number q3), ("iqr", .number (q3 - q1))]
  | .stl => []

theorem fit_of_numbers (math : Math K) {detector : StatisticalDetector K}
    (hwindow : detector.method = .zscore -> 10 ≤ detector.window) {series : Series K}
    (h : Measured series.values) (hne : numbersOf series.values ≠ []) :
    detector.fit math series =
      .ok { detector with
        params := fittedParams math detector (numbersOf series.values) } := by
  unfold fit fittedParams
  simp only [dropna_of_measured h]
  cases hmethod : detector.method with
  | zscore =>
      simp only [if_neg (Nat.not_lt.mpr (hwindow hmethod)), lastOf_rolling _ _ _ hne]
  | iqr =>
      have hclean : (numbersOf series.values).map (Double.finite : K -> Double K) ≠ [] := by
        simpa using hne
      simp only [percentile, if_neg hclean, quantile_of_measured _ _ (measured_finite _),
        numbersOf_finite]
  | stl =>
      rfl

theorem fit_of_no_numbers (math : Math K) {detector : StatisticalDetector K}
    (hwindow : detector.method = .zscore -> 10 ≤ detector.window)
    (hmethod : detector.method ≠ .stl) {series : Series K}
    (h : Measured series.values) (hnone : numbersOf series.values = []) :
    detector.fit math series = .error .indexError := by
  unfold fit
  simp only [dropna_of_measured h, hnone]
  cases hcase : detector.method with
  | zscore =>
      simp only [if_neg (Nat.not_lt.mpr (hwindow hcase))]
      rfl
  | iqr =>
      rfl
  | stl =>
      exact absurd hcase hmethod

end StatisticalDetector

end Detection
end MetricMesh
