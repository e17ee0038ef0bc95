import MetricMesh.Detection.IsolationForest
import MetricMesh.Detection.ModelReuse
import MetricMesh.Detection.Zscores

/-!
# Absolute scores and the rest of the batch

Absolute scores are computed row by row.  A z-score reads its rolling window,
and a row of features reads the last sixteen values and the hour, so equal
surroundings give equal scores in any two slices.
-/

namespace MetricMesh
namespace Detection

open Foundation
open Python

universe u

variable {K : Type u} [Field K] [LinearOrder K]

/-!
# The z-score
-/

theorem StatisticalDetector.zscore_absolute_local (math : Math K) (stl : Stl K)
    {detector detector' : StatisticalDetector K} (hmethod : detector.method = .zscore)
    (hmethod' : detector'.method = .zscore) (hmode : detector.scoringMode = .absolute)
    (hmode' : detector'.scoringMode = .absolute) (hwindow : 5 ≤ detector.window)
    (hwindow' : detector'.window = detector.window) {series series' : Series K} {i j : Nat}
    (hi : i < series.length) (hj : j < series'.length)
    (hrows : recent detector.window series.values i =
      recent detector.window series'.values j) :
    exists scores scores' s, detector.score math stl series = .ok scores ∧
      detector'.score math stl series' = .ok scores' ∧ scores[i]? = some s ∧
      scores'[j]? = some s := by
  have hvalues : series.values.length = series.length := List.length_map _
  have hvalues' : series'.values.length = series'.length := List.length_map _
  have hscore : detector.score math stl series =
      scoreZscore math detector series.values := by
    unfold score
    rw [hmethod]
  have hscore' : detector'.score math stl series' =
      scoreZscore math detector' series'.values := by
    unfold score
    rw [hmethod']
  have hz := zscores_congr math (by omega : 0 < detector.window) (by omega) (by omega) hrows
  have hin : i < (zscores math detector.window series.values).length := by
    rw [length_zscores]
    omega
  have hentry : exists z, (zscores math detector.window series.values)[i]? = some z :=
    ⟨_, List.getElem?_eq_getElem hin⟩
  rcases hentry with ⟨z, hentry⟩
  refine ⟨_, _, (z / zscoreAbsSigma).clip.fillna,
    hscore.trans (scoreZscore_absolute math hwindow hmode _),
    hscore'.trans (scoreZscore_absolute math (by omega) hmode' _), ?_, ?_⟩
  · rw [List.getElem?_map, hentry]
    rfl
  · rw [List.getElem?_map, hwindow', ← hz, hentry]
    rfl

/-!
# The features of a row
-/

namespace IsolationForestDetector

omit [LinearOrder K] in
theorem cell_rolling_congr {width n : Nat} (hwidth : width ≤ n) (least : Nat)
    (statistic : List K -> Double K) {values values' : List (Double K)} {i j : Nat}
    (hi : i < values.length) (hj : j < values'.length)
    (h : recent n values i = recent n values' j) :
    cell (rolling width least statistic values) i =
      cell (rolling width least statistic values') j := by
  have hwindow := recent_congr hwidth hi hj h
  unfold recent at hwindow
  unfold cell
  rw [getElem?_rolling width least statistic hi, getElem?_rolling width least statistic hj,
    hwindow]

omit [LinearOrder K] in
theorem getElem?_diff (n : Nat) {values : List (Double K)} {i : Nat} (hi : i < values.length) :
    (diff n values)[i]? =
      some (match ago 0 values i, ago n values i with
        | some x, some y => x - y
        | _, _ => .nan) := by
  have hx := List.getElem?_eq_getElem hi
  unfold diff ago
  by_cases hn : n ≤ i
  · have hmin : Nat.min n values.length = n := Nat.min_eq_left (by omega)
    have hearlier := List.getElem?_eq_getElem (by omega : i - n < values.length)
    rw [List.getElem?_append_right (by rw [List.length_replicate, hmin]; exact hn),
      List.length_replicate, hmin, List.getElem?_zipWith, List.getElem?_drop,
      Nat.add_sub_cancel' hn, if_pos (Nat.zero_le i), if_pos hn, Nat.sub_zero, hx, hearlier]
  · have hin : i < Nat.min n values.length := Nat.lt_min.mpr ⟨by omega, hi⟩
    rw [List.getElem?_append_left (by rw [List.length_replicate]; exact hin),
      List.getElem?_replicate_of_lt hin, if_neg hn]
    simp

omit [LinearOrder K] in
theorem cell_diff_congr {d n : Nat} (hd : d < n) {values values' : List (Double K)}
    {i j : Nat} (hi : i < values.length) (hj : j < values'.length)
    (h : recent n values i = recent n values' j) :
    cell (diff d values) i = cell (diff d values') j := by
  unfold cell
  rw [getElem?_diff d hi, getElem?_diff d hj, ago_congr hd hi hj h,
    ago_congr (by omega : 0 < n) hi hj h]

theorem buildFeatures_congr (math : Math K) {series series' : Series K} {i j : Nat}
    {p p' : Instant × Double K} (hp : series.points[i]? = some p)
    (hp' : series'.points[j]? = some p')
    (hrows : recent 16 series.values i = recent 16 series'.values j)
    (hhour : hourOf p.1 = hourOf p'.1) :
    (buildFeatures math series)[i]? = (buildFeatures math series')[j]? := by
  have hvalue : series.values[i]? = some p.2 := by
    rw [Series.values, List.getElem?_map, hp]
    rfl
  have hvalue' : series'.values[j]? = some p'.2 := by
    rw [Series.values, List.getElem?_map, hp']
    rfl
  rcases List.getElem?_eq_some_iff.mp hvalue with ⟨hi, _⟩
  rcases List.getElem?_eq_some_iff.mp hvalue' with ⟨hj, _⟩
  have hnow := ago_congr (by omega : 0 < 16) hi hj hrows
  simp only [ago, Nat.zero_le, if_true, Nat.sub_zero, hvalue, hvalue',
    Option.some.injEq] at hnow
  have hangle : hourAngle math p.1 = hourAngle math p'.1 := by
    unfold hourAngle
    rw [hhour]
  unfold buildFeatures
  simp only [List.getElem?_mapIdx, hp, hp', Option.map_some, hnow, hangle]
  rw [cell_rolling_congr (by omega : 5 ≤ 16) 1 mean hi hj hrows,
    cell_rolling_congr (by omega : 5 ≤ 16) 1 (std math) hi hj hrows,
    cell_rolling_congr (by omega : 15 ≤ 16) 1 mean hi hj hrows,
    cell_rolling_congr (by omega : 15 ≤ 16) 1 (std math) hi hj hrows,
    cell_rolling_congr (by omega : 15 ≤ 16) 1 greatest hi hj hrows,
    cell_rolling_congr (by omega : 15 ≤ 16) 1 least hi hj hrows,
    cell_diff_congr (by omega : 1 < 16) hi hj hrows,
    cell_diff_congr (by omega : 5 < 16) hi hj hrows,
    cell_diff_congr (by omega : 15 < 16) hi hj hrows]

/-!
# The decisions of a batch
-/

omit [Field K] [LinearOrder K] in
theorem getElem?_decideAll {model : Features K -> Except PyError K} {row : Features K} :
    forall (rows : List (Features K)) (raw : List K) (i : Nat),
      decideAll model rows = .ok raw -> rows[i]? = some row ->
        exists d, model row = .ok d ∧ raw[i]? = some d := by
  intro rows
  induction rows with
  | nil =>
      intro raw i _ hrow
      cases hrow
  | cons first rest ih =>
      intro raw i hraw hrow
      unfold decideAll at hraw
      cases hfirst : model first with
      | error e =>
          simp only [hfirst] at hraw
          cases hraw
      | ok d =>
          cases hrest : decideAll model rest with
          | error e =>
              simp only [hfirst, hrest] at hraw
              cases hraw
          | ok raws =>
              simp only [hfirst, hrest, Except.ok.injEq] at hraw
              subst hraw
              cases i with
              | zero =>
                  injection hrow with hrow
                  subst hrow
                  exact ⟨d, hfirst, rfl⟩
              | succ i =>
                  exact ih raws i hrest hrow

omit [Field K] [LinearOrder K] in
theorem decideAll_total {model : Features K -> Except PyError K}
    (h : forall row, exists d, model row = .ok d) (rows : List (Features K)) :
    exists raw, decideAll model rows = .ok raw := by
  induction rows with
  | nil =>
      exact ⟨[], rfl⟩
  | cons row rest ih =>
      rcases h row with ⟨d, hd⟩
      rcases ih with ⟨raws, hraws⟩
      exact ⟨d :: raws, by simp only [decideAll, hd, hraws]⟩

theorem score_total (math : Math K) {detector : IsolationForestDetector K}
    {model : Features K -> Except PyError K} (hmodel : detector.model = some model)
    (h : forall row, exists d, model row = .ok d) {series : Series K}
    (hne : series.points ≠ []) : exists scores, detector.score math series = .ok scores := by
  rcases decideAll_total h (buildFeatures math series) with ⟨raw, hraw⟩
  unfold score decisionFunction
  simp only [hmodel, if_neg hne, hraw]
  exact ⟨_, rfl⟩

theorem getElem?_score_absolute {math : Math K} {detector : IsolationForestDetector K}
    (hmode : detector.scoringMode = .absolute) {model : Features K -> Except PyError K}
    (hmodel : detector.model = some model) {series : Series K} {scores : Scores K}
    (h : detector.score math series = .ok scores) {row : Features K} {i : Nat}
    (hrow : (buildFeatures math series)[i]? = some row) :
    exists d, model row = .ok d ∧ scores[i]? = some (.finite (sigmoid math d)) := by
  unfold score decisionFunction at h
  simp only [hmodel] at h
  by_cases hempty : series.points = []
  · simp only [if_pos hempty] at h
    cases h
  · simp only [if_neg hempty] at h
    cases hraw : decideAll model (buildFeatures math series) with
    | error e =>
        simp only [hraw] at h
        cases h
    | ok raw =>
        simp only [hraw, Except.ok.injEq] at h
        rcases getElem?_decideAll _ raw i hraw hrow with ⟨d, hd, hentry⟩
        refine ⟨d, hd, ?_⟩
        rw [← h, hmode]
        simp [scoresOf, hentry]

theorem score_absolute_local {math : Math K} {detector : IsolationForestDetector K}
    (hmode : detector.scoringMode = .absolute) {model : Features K -> Except PyError K}
    (hmodel : detector.model = some model) {series series' : Series K} {i j : Nat}
    {p p' : Instant × Double K} (hp : series.points[i]? = some p)
    (hp' : series'.points[j]? = some p')
    (hrows : recent 16 series.values i = recent 16 series'.values j)
    (hhour : hourOf p.1 = hourOf p'.1) {scores scores' : Scores K}
    (hscores : detector.score math series = .ok scores)
    (hscores' : detector.score math series' = .ok scores') :
    exists s, scores[i]? = some s ∧ scores'[j]? = some s := by
  have hfeatures := buildFeatures_congr math hp hp' hrows hhour
  have hrow : exists row, (buildFeatures math series)[i]? = some row := by
    unfold buildFeatures
    rw [List.getElem?_mapIdx, hp]
    exact ⟨_, rfl⟩
  rcases hrow with ⟨row, hrow⟩
  rcases getElem?_score_absolute hmode hmodel hscores hrow with ⟨d, hd, hentry⟩
  rcases getElem?_score_absolute hmode hmodel hscores' (hfeatures.symm.trans hrow) with
    ⟨d', hd', hentry'⟩
  rw [hd] at hd'
  injection hd' with hd'
  rw [← hd'] at hentry'
  exact ⟨_, hentry, hentry'⟩

end IsolationForestDetector

/-!
# Both detectors

The library may refuse a row, and then there are no scores to compare.
-/

theorem absoluteScores_local (math : Math K) (stl : Stl K) {series series' : Series K}
    {i j : Nat} {p p' : Instant × Double K} (hp : series.points[i]? = some p)
    (hp' : series'.points[j]? = some p') :
    (forall detector detector' : StatisticalDetector K,
      detector.method = .zscore -> detector'.method = .zscore ->
      detector.scoringMode = .absolute -> detector'.scoringMode = .absolute ->
      5 ≤ detector.window -> detector'.window = detector.window ->
      recent detector.window series.values i = recent detector.window series'.values j ->
        exists scores scores' s, detector.score math stl series = .ok scores ∧
          detector'.score math stl series' = .ok scores' ∧ scores[i]? = some s ∧
          scores'[j]? = some s) ∧
    (forall (detector : IsolationForestDetector K) (model : Features K -> Except PyError K),
      detector.scoringMode = .absolute -> detector.model = some model ->
      recent 16 series.values i = recent 16 series'.values j ->
      IsolationForestDetector.hourOf p.1 = IsolationForestDetector.hourOf p'.1 ->
        (forall scores scores', detector.score math series = .ok scores ->
          detector.score math series' = .ok scores' ->
            exists s, scores[i]? = some s ∧ scores'[j]? = some s) ∧
        ((forall row, exists d, model row = .ok d) ->
          exists scores scores', detector.score math series = .ok scores ∧
            detector.score math series' = .ok scores')) := by
  rcases List.getElem?_eq_some_iff.mp hp with ⟨hi, _⟩
  rcases List.getElem?_eq_some_iff.mp hp' with ⟨hj, _⟩
  constructor
  · intro detector detector' hmethod hmethod' hmode hmode' hwindow hwindow' hrows
    exact StatisticalDetector.zscore_absolute_local math stl hmethod hmethod' hmode hmode'
      hwindow hwindow' hi hj hrows
  · intro detector model hmode hmodel hrows hhour
    constructor
    · intro scores scores' hscores hscores'
      exact IsolationForestDetector.score_absolute_local hmode hmodel hp hp' hrows hhour
        hscores hscores'
    · intro htotal
      have hne : series.points ≠ [] := List.ne_nil_of_length_pos (by omega)
      have hne' : series'.points ≠ [] := List.ne_nil_of_length_pos (by omega)
      rcases IsolationForestDetector.score_total math hmodel htotal hne with
        ⟨scores, hscores⟩
      rcases IsolationForestDetector.score_total math hmodel htotal hne' with
        ⟨scores', hscores'⟩
      exact ⟨scores, scores', hscores, hscores'⟩

/-! Two slices that swing alike after different first values. -/

def swing (i : Nat) : Rat :=
  if i % 5 = 0 then 0 else if i % 5 % 2 = 1 then 1 else -1

def swings (first : Rat) (n : Nat) : Series Rat where
  points := (List.range n).map fun i : Nat =>
    ((i : Int), .finite (if i = 0 then first else swing i))
  increasing := by
    rw [List.pairwise_map]
    exact List.pairwise_lt_range.imp (fun h => Int.ofNat_lt.mpr h)

def rowForest : IsolationForestDetector Rat :=
  { scoringMode := .absolute
    model := some fun row =>
      match row.value, row.diff1, row.rollingMean5 with
      | .finite value, .finite change, .finite mean => .ok (value + 2 * change - 3 * mean)
      | _, _, _ => .ok 0 }

theorem rowForest_total : forall model, rowForest.model = some model ->
    forall row, exists d, model row = .ok d := by
  intro model hmodel row
  injection hmodel with hmodel
  rw [← hmodel]
  dsimp only
  split
  · exact ⟨_, rfl⟩
  · exact ⟨0, rfl⟩

theorem absoluteScores_local_swings :
    (exists scores scores' s,
      StatisticalDetector.score StatisticalDetector.plainMath StatisticalDetector.noStl
          { method := .zscore, window := 5, scoringMode := .absolute } (swings 0 20) =
        .ok scores ∧
      StatisticalDetector.score StatisticalDetector.plainMath StatisticalDetector.noStl
          { method := .zscore, window := 5, scoringMode := .absolute } (swings 100 26) =
        .ok scores' ∧ scores[18]? = some s ∧ scores'[23]? = some s) ∧
    exists scores scores' s,
      rowForest.score StatisticalDetector.plainMath (swings 0 20) = .ok scores ∧
      rowForest.score StatisticalDetector.plainMath (swings 100 26) = .ok scores' ∧
      scores[18]? = some s ∧ scores'[23]? = some s := by
  have hfive : recent 5 (swings 0 20).values 18 = recent 5 (swings 100 26).values 23 := by
    decide +kernel
  have hsixteen : recent 16 (swings 0 20).values 18 =
      recent 16 (swings 100 26).values 23 := by
    decide +kernel
  rcases @absoluteScores_local Rat _ _ StatisticalDetector.plainMath
    StatisticalDetector.noStl (swings 0 20) (swings 100 26) 18 23 (18, .finite 1)
    (23, .finite 1) (by decide +kernel) (by decide +kernel) with ⟨hzscore, hforest⟩
  constructor
  · exact hzscore _ _ rfl rfl rfl rfl (by decide) rfl hfive
  · rcases hforest rowForest _ rfl rfl hsixteen rfl with ⟨hequal, htotal⟩
    rcases htotal (rowForest_total _ rfl) with ⟨scores, scores', hscores, hscores'⟩
    rcases hequal scores scores' hscores hscores' with ⟨s, hs, hs'⟩
    exact ⟨scores, scores', s, hscores, hscores', hs, hs'⟩

end Detection
end MetricMesh
