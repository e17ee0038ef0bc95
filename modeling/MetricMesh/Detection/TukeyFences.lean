import MetricMesh.Detection.Contract

/-!
# Tukey fences

The interquartile method measures how far a value lies outside the quartiles, in
units of one and a half times their distance.  A threshold moves the fences, and
the choice of a unit for the values moves nothing.
-/

namespace MetricMesh
namespace Detection

open Foundation
open Python

universe u

variable {K : Type u} [Field K] [LinearOrder K]

/-- A value on or beyond the fences of a threshold. -/
def OutsideFences (t q1 q3 : K) (x : Double K) : Prop :=
  x ≠ .nan ∧
    (.finite (q3 + 3 / 2 * t * (q3 - q1)) ≤ x ∨ x ≤ .finite (q1 - 3 / 2 * t * (q3 - q1)))

instance (t q1 q3 : K) (x : Double K) : Decidable (OutsideFences t q1 q3 x) :=
  inferInstanceAs (Decidable (_ ∧ _))

def fenceScore (q1 q3 : K) (x : Double K) : Double K :=
  ((x - .finite q3).maximum (.finite q1 - x) /
    (.finite (3 / 2) * .finite (q3 - q1))).clip.fillna

/-!
# The score of one value
-/

omit [Field K] in
theorem maximum_finite (p q : K) :
    (Double.finite p).maximum (.finite q) = .finite (max p q) := by
  show Double.max (.finite p) (.finite q) = _
  unfold Double.max
  by_cases h : p < q
  · rw [if_pos ((Double.finite_lt_finite p q).mpr h), max_eq_right h.le]
  · rw [if_neg (fun hlt => h ((Double.finite_lt_finite p q).mp hlt)),
      max_eq_left (not_lt.mp h)]

theorem clip_inf_div {fence : K} (h : 0 < fence) :
    (Double.inf / .finite fence : Double K).clip.fillna = .finite 1 := by
  have hdiv : (Double.inf / .finite fence : Double K) = .inf := if_neg (not_lt.mpr h.le)
  rw [hdiv]
  rfl

theorem fenceScore_nan (q1 q3 : K) : fenceScore q1 q3 .nan = .finite 0 := by
  have hdistance : (Double.nan - .finite q3 : Double K).maximum (.finite q1 - .nan) = .nan :=
    rfl
  rw [fenceScore, hdistance, Double.nan_div, Double.clip, if_neg (Double.not_nan_lt _)]
  rfl

theorem le_clip_iff {t y : K} (ht : 0 < t) (hone : t ≤ 1) :
    .finite t ≤ ((Double.finite y : Double K).clip).fillna <-> t ≤ y := by
  unfold Double.clip
  by_cases hlow : y < 0
  · rw [if_pos ((Double.finite_lt_finite y 0).mpr hlow)]
    show Double.finite t ≤ .finite 0 <-> t ≤ y
    rw [Double.finite_le_finite]
    constructor
    · intro h
      exact absurd ht (not_lt.mpr h)
    · intro h
      exact h.trans hlow.le
  · rw [if_neg (fun h => hlow ((Double.finite_lt_finite y 0).mp h))]
    by_cases hhigh : 1 < y
    · rw [if_pos ((Double.finite_lt_finite 1 y).mpr hhigh)]
      show Double.finite t ≤ .finite 1 <-> t ≤ y
      rw [Double.finite_le_finite]
      exact iff_of_true hone (hone.trans hhigh.le)
    · rw [if_neg (fun h => hhigh ((Double.finite_lt_finite 1 y).mp h))]
      exact Double.finite_le_finite t y

variable [IsStrictOrderedRing K]

theorem fence_pos {q1 q3 : K} (h : q1 < q3) : 0 < 3 / 2 * (q3 - q1) := by
  have hdistance := sub_pos.mpr h
  positivity

theorem fenceScore_inf {q1 q3 : K} (h : q1 < q3) : fenceScore q1 q3 .inf = .finite 1 := by
  have hdistance : (Double.inf - .finite q3 : Double K).maximum (.finite q1 - .inf) = .inf :=
    rfl
  rw [fenceScore, hdistance]
  exact clip_inf_div (fence_pos h)

theorem fenceScore_negInf {q1 q3 : K} (h : q1 < q3) :
    fenceScore q1 q3 .negInf = .finite 1 := by
  have hdistance :
      (Double.negInf - .finite q3 : Double K).maximum (.finite q1 - .negInf) = .inf := rfl
  rw [fenceScore, hdistance]
  exact clip_inf_div (fence_pos h)

def excess (q1 q3 v : K) : K :=
  max (v - q3) (q1 - v) / (3 / 2 * (q3 - q1))

theorem fenceScore_finite {q1 q3 : K} (h : q1 < q3) (v : K) :
    fenceScore q1 q3 (.finite v) =
      (Double.finite (excess q1 q3 v) : Double K).clip.fillna := by
  rw [fenceScore, Double.finite_sub_finite, Double.finite_sub_finite, maximum_finite,
    Double.finite_mul_finite, Double.finite_div_finite _ (fence_pos h).ne']
  rfl

theorem le_fenceScore_iff {q1 q3 t : K} (h : q1 < q3) (ht : 0 < t) (hone : t ≤ 1)
    (x : Double K) : .finite t ≤ fenceScore q1 q3 x <-> OutsideFences t q1 q3 x := by
  unfold OutsideFences
  cases x with
  | nan =>
      rw [fenceScore_nan, Double.finite_le_finite]
      exact iff_of_false (not_le.mpr ht) (fun hout => hout.1 rfl)
  | inf =>
      rw [fenceScore_inf h, Double.finite_le_finite]
      exact iff_of_true hone ⟨fun hnan => (by cases hnan), Or.inl (Or.inl rfl)⟩
  | negInf =>
      rw [fenceScore_negInf h, Double.finite_le_finite]
      exact iff_of_true hone ⟨fun hnan => (by cases hnan), Or.inr (Or.inl rfl)⟩
  | finite v =>
      have hnumber : (Double.finite v : Double K) ≠ .nan := fun hnan => by cases hnan
      have hupper : t * (3 / 2 * (q3 - q1)) ≤ v - q3 <->
          q3 + 3 / 2 * t * (q3 - q1) ≤ v := by
        constructor <;> intro hle <;> linarith
      have hlower : t * (3 / 2 * (q3 - q1)) ≤ q1 - v <->
          v ≤ q1 - 3 / 2 * t * (q3 - q1) := by
        constructor <;> intro hle <;> linarith
      rw [fenceScore_finite h, le_clip_iff ht hone, excess, le_div_iff₀ (fence_pos h),
        le_max_iff, hupper, hlower, Double.finite_le_finite, Double.finite_le_finite,
        and_iff_right hnumber]

/-!
# The fitted detector
-/

namespace StatisticalDetector

omit [IsStrictOrderedRing K] in
theorem fit_of_quartiles (math : Math K) {detector : StatisticalDetector K}
    (hmethod : detector.method = .iqr) {training : Series K}
    (hmeasured : Measured training.values) {q1 q3 : K}
    (hq1 : quantileOf 1 4 (numbersOf training.values) = some q1)
    (hq3 : quantileOf 3 4 (numbersOf training.values) = some q3) :
    detector.fit math training =
      .ok { detector with
        params := [("q1", .number (.finite q1)), ("q3", .number (.finite q3)),
          ("iqr", .number (.finite (q3 - q1)))] } := by
  have hnumbers : numbersOf training.values ≠ [] := by
    intro hnil
    rw [hnil] at hq1
    cases hq1
  have hwindow : detector.method = .zscore -> 10 ≤ detector.window := by
    intro hz
    rw [hmethod] at hz
    cases hz
  rw [fit_of_numbers math hwindow hmeasured hnumbers]
  unfold fittedParams
  simp only [hmethod, hq1, hq3, orMissing, Double.finite_sub_finite]

theorem score_of_quartiles (math : Math K) (stl : Stl K) {detector : StatisticalDetector K}
    (hmethod : detector.method = .iqr) {q1 q3 : K} (hlt : q1 < q3) (series : Series K) :
    score math stl
        { detector with
          params := [("q1", .number (.finite q1)), ("q3", .number (.finite q3)),
            ("iqr", .number (.finite (q3 - q1)))] } series =
      .ok (series.values.map (fenceScore q1 q3)) := by
  have hiqr : (Double.finite (q3 - q1) : Double K).orTiny = .finite (q3 - q1) :=
    if_neg (fun h => (sub_pos.mpr hlt).ne' (Double.finite.inj h))
  unfold score
  simp only [hmethod]
  show scoreIqr _ series.values = _
  have hfence : forall x : Double K,
      ((x - .finite q3).maximum (.finite q1 - x) /
        (.finite (3 / 2) * (Double.finite (q3 - q1) : Double K).orTiny)).clip.fillna =
          fenceScore q1 q3 x := by
    intro x
    rw [hiqr]
    rfl
  exact congrArg Except.ok (List.map_congr_left (fun x _ => hfence x))

omit [IsStrictOrderedRing K] in
theorem points_of_detect {math : Math K} {stl : Stl K} {detector : StatisticalDetector K}
    {series : Series K} {f : Double K -> Double K}
    (h : detector.score math stl series = .ok (series.values.map f)) (metricName : String)
    (threshold : Double K) :
    exists anomalies,
      detector.detect math stl series metricName threshold = .ok anomalies ∧
      anomalies.map (fun a => (a.timestamp, a.value)) =
        series.points.filter (fun p => threshold ≤ f p.2) := by
  rcases detect_of_score h metricName threshold with ⟨anomalies, hdetect, hpoints, _⟩
  refine ⟨anomalies, hdetect, ?_⟩
  have hzip : series.points.zip (series.values.map f) =
      series.points.map (fun p => (p, f p.2)) := by
    rw [Series.values, List.map_map]
    exact List.map_prod_left_eq_zip.symm
  have hfst := congrArg (List.map Prod.fst) hpoints
  rw [List.map_map, hzip, List.filter_map, List.map_map] at hfst
  exact hfst.trans (List.map_id _)

end StatisticalDetector

/-!
# A change of unit
-/

/-- Every value `x` becomes `a * x + b`. -/
def rescale (a b : K) (x : Double K) : Double K :=
  .finite a * x + .finite b

def Series.rescaled (a b : K) (series : Series K) : Series K where
  points := series.points.map fun p => (p.1, rescale a b p.2)
  increasing := by
    rw [List.pairwise_map]
    exact series.increasing

omit [IsStrictOrderedRing K] in
theorem values_rescaled (a b : K) (series : Series K) :
    (series.rescaled a b).values = series.values.map (rescale a b) := by
  unfold Series.values Series.rescaled
  rw [List.map_map, List.map_map]
  rfl

omit [IsStrictOrderedRing K] in
theorem rescale_infinite {a : K} (ha : a ≠ 0) (b : K) {x : Double K}
    (hx : x = .inf ∨ x = .negInf) : rescale a b x = .inf ∨ rescale a b x = .negInf := by
  have hsigned : forall c : K, c ≠ 0 ->
      (Double.signedInf c + .finite b : Double K) = .inf ∨
        (Double.signedInf c + .finite b : Double K) = .negInf := by
    intro c hc
    unfold Double.signedInf
    rw [if_neg hc]
    split
    · exact Or.inl rfl
    · exact Or.inr rfl
  rcases hx with hx | hx
  · rw [hx]
    exact hsigned a ha
  · rw [hx]
    exact hsigned (-a) (neg_ne_zero.mpr ha)

omit [IsStrictOrderedRing K] in
theorem number?_rescale {a : K} (ha : a ≠ 0) (b : K) (x : Double K) :
    (rescale a b x).number? = x.number?.map (affine a b) := by
  cases x with
  | finite v => rfl
  | nan => rfl
  | inf => rcases rescale_infinite ha b (Or.inl rfl) with h | h <;> rw [h] <;> rfl
  | negInf => rcases rescale_infinite ha b (Or.inr rfl) with h | h <;> rw [h] <;> rfl

omit [IsStrictOrderedRing K] in
theorem numbersOf_rescale {a : K} (ha : a ≠ 0) (b : K) (values : List (Double K)) :
    numbersOf (values.map (rescale a b)) = (numbersOf values).map (affine a b) := by
  unfold numbersOf
  rw [List.filterMap_map, List.map_filterMap]
  congr 1
  funext x
  exact number?_rescale ha b x

omit [IsStrictOrderedRing K] in
theorem measured_rescale (a b : K) {values : List (Double K)} (h : Measured values) :
    Measured (values.map (rescale a b)) := by
  intro x hx
  rcases List.mem_map.mp hx with ⟨y, hy, hxy⟩
  rw [← hxy]
  rcases h y hy with hnan | ⟨q, hq⟩
  · rw [hnan]
    exact Or.inl rfl
  · rw [hq]
    exact Or.inr ⟨affine a b q, rfl⟩

theorem max_mul_div {c : K} (hc : 0 < c) (p q fence : K) :
    max (c * p) (c * q) / (c * fence) = max p q / fence := by
  rw [← mul_max_of_nonneg p q hc.le, mul_div_mul_left _ _ hc.ne']

theorem excess_rescale_pos {a : K} (ha : 0 < a) (b q1 q3 v : K) :
    excess (affine a b q1) (affine a b q3) (affine a b v) = excess q1 q3 v := by
  unfold excess
  rw [← max_mul_div ha (v - q3) (q1 - v)]
  unfold affine
  congr 1
  · congr 1 <;> ring
  · ring

theorem excess_rescale_neg {a : K} (ha : a < 0) (b q1 q3 v : K) :
    excess (affine a b q3) (affine a b q1) (affine a b v) = excess q1 q3 v := by
  unfold excess
  rw [← max_mul_div (neg_pos.mpr ha) (v - q3) (q1 - v), max_comm]
  unfold affine
  congr 1
  · congr 1 <;> ring
  · ring

/-- In the new unit there are quartiles again, and they measure every number as before. -/
theorem quartiles_rescaled {a : K} (ha : a ≠ 0) (b : K) {training : Series K} {q1 q3 : K}
    (hlt : q1 < q3) (hq1 : quantileOf 1 4 (numbersOf training.values) = some q1)
    (hq3 : quantileOf 3 4 (numbersOf training.values) = some q3) :
    exists r1 r3, r1 < r3 ∧
      quantileOf 1 4 (numbersOf (training.rescaled a b).values) = some r1 ∧
      quantileOf 3 4 (numbersOf (training.rescaled a b).values) = some r3 ∧
      forall v, excess r1 r3 (affine a b v) = excess q1 q3 v := by
  rw [values_rescaled, numbersOf_rescale ha]
  rcases lt_or_gt_of_ne ha with hneg | hpos
  · -- A decreasing map exchanges the quartiles.
    refine ⟨affine a b q3, affine a b q1, ?_, ?_, ?_, excess_rescale_neg hneg b q1 q3⟩
    · exact add_lt_add_left (mul_lt_mul_of_neg_left hlt hneg) b
    · rw [quantileOf_affine_neg hneg b (by omega) (by omega), hq3]
      rfl
    · rw [quantileOf_affine_neg hneg b (by omega) (by omega), hq1]
      rfl
  · refine ⟨affine a b q1, affine a b q3, ?_, ?_, ?_, excess_rescale_pos hpos b q1 q3⟩
    · exact add_lt_add_left (mul_lt_mul_of_pos_left hlt hpos) b
    · rw [quantileOf_affine_pos hpos, hq1]
      rfl
    · rw [quantileOf_affine_pos hpos, hq3]
      rfl

/-- Two fences that measure all numbers alike score all values alike. -/
theorem fenceScore_rescale {a : K} (ha : a ≠ 0) (b : K) {q1 q3 r1 r3 : K} (hq : q1 < q3)
    (hr : r1 < r3) (h : forall v, excess r1 r3 (affine a b v) = excess q1 q3 v)
    (x : Double K) : fenceScore r1 r3 (rescale a b x) = fenceScore q1 q3 x := by
  have hinfinite : forall y : Double K, y = .inf ∨ y = .negInf ->
      fenceScore r1 r3 y = .finite 1 := by
    intro y hy
    rcases hy with hy | hy
    · rw [hy, fenceScore_inf hr]
    · rw [hy, fenceScore_negInf hr]
  cases x with
  | finite v =>
      show fenceScore r1 r3 (.finite (affine a b v)) = _
      rw [fenceScore_finite hr, fenceScore_finite hq, h]
  | nan =>
      show fenceScore r1 r3 .nan = _
      rw [fenceScore_nan, fenceScore_nan]
  | inf => rw [hinfinite _ (rescale_infinite ha b (Or.inl rfl)), fenceScore_inf hq]
  | negInf => rw [hinfinite _ (rescale_infinite ha b (Or.inr rfl)), fenceScore_negInf hq]

namespace StatisticalDetector

omit [IsStrictOrderedRing K] in
theorem times_of_detect {math : Math K} {stl : Stl K}
    {detector detector' : StatisticalDetector K} {series series' : Series K}
    {scores : Scores K} (h : detector.score math stl series = .ok scores)
    (h' : detector'.score math stl series' = .ok scores)
    (htimes : series'.points.map Prod.fst = series.points.map Prod.fst)
    (metricName : String) (threshold : Double K) :
    exists anomalies anomalies',
      detector.detect math stl series metricName threshold = .ok anomalies ∧
      detector'.detect math stl series' metricName threshold = .ok anomalies' ∧
      anomalies'.map AnomalyResult.timestamp = anomalies.map AnomalyResult.timestamp := by
  have hflagged : forall (points : List (Instant × Double K)),
      ((points.zip scores).filter (fun p => threshold ≤ p.2)).map (fun p => p.1.1) =
        (((points.map Prod.fst).zip scores).filter (fun p => threshold ≤ p.2)).map
          Prod.fst := by
    intro points
    rw [List.zip_map_left, List.filter_map, List.map_map]
    rfl
  rcases detect_of_score h metricName threshold with ⟨anomalies, hdetect, hpoints, _⟩
  rcases detect_of_score h' metricName threshold with ⟨anomalies', hdetect', hpoints', _⟩
  refine ⟨anomalies, anomalies', hdetect, hdetect', ?_⟩
  have hfst := congrArg (List.map fun p => p.1.1) hpoints
  have hfst' := congrArg (List.map fun p => p.1.1) hpoints'
  rw [List.map_map, hflagged] at hfst hfst'
  rw [htimes, ← hfst] at hfst'
  exact hfst'

/--
The interquartile method flags what lies on or beyond the fences of the threshold,
and a change of unit changes neither the scores nor the flagged times.
-/
theorem iqr_fences (math : Math K) (stl : Stl K) {detector : StatisticalDetector K}
    (hmethod : detector.method = .iqr) {training : Series K}
    (hmeasured : Measured training.values) {q1 q3 : K}
    (hq1 : quantile 1 4 (dropna training.values) = .finite q1)
    (hq3 : quantile 3 4 (dropna training.values) = .finite q3) (hlt : q1 < q3)
    (heldOut : Series K) :
    exists fitted, detector.fit math training = .ok fitted ∧
      (forall t, 0 < t -> t ≤ 1 -> forall metricName, exists anomalies,
        fitted.detect math stl heldOut metricName (.finite t) = .ok anomalies ∧
        anomalies.map (fun a => (a.timestamp, a.value)) =
          heldOut.points.filter (fun p => OutsideFences t q1 q3 p.2)) ∧
      (forall a b, a ≠ 0 -> exists fitted' scores,
        detector.fit math (training.rescaled a b) = .ok fitted' ∧
        fitted.score math stl heldOut = .ok scores ∧
        fitted'.score math stl (heldOut.rescaled a b) = .ok scores ∧
        forall metricName threshold, exists anomalies anomalies',
          fitted.detect math stl heldOut metricName threshold = .ok anomalies ∧
          fitted'.detect math stl (heldOut.rescaled a b) metricName threshold =
            .ok anomalies' ∧
          anomalies'.map AnomalyResult.timestamp =
            anomalies.map AnomalyResult.timestamp) := by
  have hquartile1 := quantileOf_of_quantile hmeasured hq1
  have hquartile3 := quantileOf_of_quantile hmeasured hq3
  have hscore := score_of_quartiles math stl hmethod hlt heldOut
  refine ⟨_, fit_of_quartiles math hmethod hmeasured hquartile1 hquartile3, ?_, ?_⟩
  · intro t ht hone metricName
    rcases points_of_detect hscore metricName (.finite t) with ⟨anomalies, hdetect, hpoints⟩
    refine ⟨anomalies, hdetect, hpoints.trans ?_⟩
    apply List.filter_congr
    intro p _
    exact decide_eq_decide.mpr (le_fenceScore_iff hlt ht hone p.2)
  · intro a b ha
    have htraining : Measured (training.rescaled a b).values := by
      rw [values_rescaled]
      exact measured_rescale a b hmeasured
    rcases quartiles_rescaled ha b hlt hquartile1 hquartile3 with
      ⟨r1, r3, hless, h1, h3, hexcess⟩
    have hsame : fenceScore r1 r3 ∘ rescale a b = fenceScore q1 q3 :=
      funext (fenceScore_rescale ha b hlt hless hexcess)
    have hscore' := score_of_quartiles math stl hmethod hless (heldOut.rescaled a b)
    rw [values_rescaled, List.map_map, hsame] at hscore'
    refine ⟨_, _, fit_of_quartiles math hmethod htraining h1 h3, hscore, hscore', ?_⟩
    intro metricName threshold
    apply times_of_detect hscore hscore'
    unfold Series.rescaled
    rw [List.map_map]
    rfl

def ramp : Series Rat where
  points :=
    [(0, .finite 0), (1, .finite 1), (2, .finite 2), (3, .finite 3), (4, .finite 4)]
  increasing := by decide

def afterRamp : Series Rat where
  points := [(5, .finite (27 / 5)), (6, .nan), (7, .finite (-2))]
  increasing := by decide

theorem ramp_measured : Measured ramp.values := by
  intro x hx
  simp only [ramp, Series.values, List.map_cons, List.map_nil, List.mem_cons,
    List.not_mem_nil, or_false] at hx
  rcases hx with h | h | h | h | h
  all_goals exact Or.inr ⟨_, h⟩

/-- The threshold 4/5 puts the upper fence at 27/5 and the lower one at -7/5. -/
theorem iqr_fences_ramp :
    exists fitted anomalies,
      fit plainMath { method := .iqr } ramp = .ok fitted ∧
      fitted.detect plainMath noStl afterRamp "cpu_usage" (.finite (4 / 5)) = .ok anomalies ∧
      anomalies.map (fun a => (a.timestamp, a.value)) =
        [(5, .finite (27 / 5)), (7, .finite (-2))] := by
  rcases @iqr_fences Rat _ _ _ plainMath noStl { method := .iqr } rfl ramp ramp_measured 1 3
    (by decide +kernel) (by decide +kernel) (by decide) afterRamp with
    ⟨fitted, hfit, hdetect, _⟩
  rcases hdetect (4 / 5) (by decide +kernel) (by decide +kernel) "cpu_usage" with
    ⟨anomalies, hok, hpoints⟩
  refine ⟨fitted, anomalies, hfit, hok, hpoints.trans ?_⟩
  decide +kernel

end StatisticalDetector

end Detection
end MetricMesh
