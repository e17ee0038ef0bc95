import MetricMesh.Detection.Statistical
import MetricMesh.Foundation.Recent

/-!
# Rolling z-scores entry by entry

The z-score at a position depends on the value there and on the numbers of the
window that ends there.
-/

namespace MetricMesh
namespace Detection

open Foundation
open Python

universe u

variable {K : Type u} [Field K] [LinearOrder K]

namespace StatisticalDetector

theorem zscores_entry (math : Math K) {width i : Nat} {values : List (Double K)}
    {x : Double K} (hx : values[i]? = some x) {numbers : List K}
    (hnumbers : ((values.take (i + 1)).drop (i + 1 - width)).filterMap Double.number? =
      numbers) :
    (zscores math width values)[i]? =
      some (if numbers.length < 5 then ((x - (.nan : Double K)) / Double.nan.orTiny).abs
        else ((x - mean numbers) / (std math numbers).orTiny).abs) := by
  rcases List.getElem?_eq_some_iff.mp hx with ⟨hi, _⟩
  unfold zscores
  simp only [List.getElem?_zipWith, List.zip_eq_zipWith, List.getElem?_map,
    getElem?_rolling _ _ _ hi, hnumbers, hx, Option.map_some]
  by_cases hshort : numbers.length < 5
  · simp [hshort]
  · simp [hshort]

theorem zscores_at [IsStrictOrderedRing K] (math : Math K) {width i : Nat}
    {values : List (Double K)} {x : K} (hx : values[i]? = some (.finite x))
    {numbers : List K}
    (hnumbers : ((values.take (i + 1)).drop (i + 1 - width)).filterMap Double.number? =
      numbers)
    (hlength : 5 ≤ numbers.length) :
    exists d, d ≠ 0 ∧
      (zscores math width values)[i]? = some (.finite |(x - average numbers) / d|) := by
  have hone : ¬ numbers.length ≤ 1 := by omega
  have hshort : ¬ numbers.length < 5 := by omega
  rcases Double.orTiny_finite (math.sqrt (variance numbers)) with ⟨d, hd, htiny⟩
  refine ⟨d, hd, ?_⟩
  rw [zscores_entry math hx hnumbers, if_neg hshort, mean, std, if_neg hone, htiny,
    Double.finite_sub_finite, Double.finite_div_finite _ hd, Double.abs_finite]

/-- A z-score reads its window and nothing else. -/
theorem zscores_congr (math : Math K) {width : Nat} (hwidth : 0 < width)
    {values values' : List (Double K)} {i j : Nat} (hi : i < values.length)
    (hj : j < values'.length) (h : recent width values i = recent width values' j) :
    (zscores math width values)[i]? = (zscores math width values')[j]? := by
  have hvalue := ago_congr hwidth hi hj h
  simp only [ago, Nat.zero_le, if_true, Nat.sub_zero] at hvalue
  have hx := List.getElem?_eq_getElem hi
  rw [zscores_entry math hx rfl, zscores_entry math (hvalue.symm.trans hx) rfl]
  unfold recent at h
  rw [h]

/-!
# Absolute scores
-/

theorem scoreZscore_absolute (math : Math K) {detector : StatisticalDetector K}
    (hwindow : 5 ≤ detector.window) (hmode : detector.scoringMode = .absolute)
    (values : List (Double K)) :
    scoreZscore math detector values =
      .ok ((zscores math detector.window values).map fun z =>
        (z / zscoreAbsSigma).clip.fillna) := by
  unfold scoreZscore
  rw [if_neg (Nat.not_lt.mpr hwindow), hmode]

end StatisticalDetector

end Detection
end MetricMesh
