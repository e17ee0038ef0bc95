import MetricMesh.Detection.Fitting
import MetricMesh.Detection.ModelReuse

/-!
# The detector contract on a stored series

A detector is fitted on the first part of a series and scores the rest.  The
contract is total: nothing raises, every held-out point has a score in the unit
interval, and the detections are the points whose score reaches the threshold.
-/

namespace MetricMesh
namespace Detection

open Python

universe u

variable {K : Type u}

namespace StatisticalDetector

variable [Field K] [LinearOrder K]

def HonoursContract (math : Math K) (stl : Stl K) (detector : StatisticalDetector K)
    (series : Series K) : Prop :=
  exists fitted scores,
    detector.fit math (series.before (series.split 1)) = .ok fitted ∧
    fitted.score math stl (series.since (series.split 1)) = .ok scores ∧
    scores.length = (series.since (series.split 1)).length ∧
    (forall s, s ∈ scores -> exists q, 0 ≤ q ∧ q ≤ 1 ∧ s = .finite q) ∧
    forall metricName threshold, exists anomalies,
      fitted.detect math stl (series.since (series.split 1)) metricName threshold =
        .ok anomalies ∧
      anomalies.map (fun a => ((a.timestamp, a.value), a.score)) =
        ((series.since (series.split 1)).points.zip scores).filter
          (fun p => threshold ≤ p.2) ∧
      (anomalies.map AnomalyResult.timestamp).Pairwise (fun s t => s < t)

/-!
# What detect returns
-/

omit [Field K] [LinearOrder K] in
theorem pairwise_zip_times {series : Series K} {scores : Scores K}
    (h : scores.length = series.points.length) :
    (series.points.zip scores).Pairwise (fun p q => p.1.1 < q.1.1) := by
  have hordered := series.increasing
  rw [← List.map_fst_zip (le_of_eq h.symm), List.pairwise_map] at hordered
  exact hordered

theorem detect_of_score {math : Math K} {stl : Stl K} {detector : StatisticalDetector K}
    {series : Series K} {scores : Scores K}
    (h : detector.score math stl series = .ok scores) (metricName : String)
    (threshold : Double K) :
    exists anomalies,
      detector.detect math stl series metricName threshold = .ok anomalies ∧
      anomalies.map (fun a => ((a.timestamp, a.value), a.score)) =
        (series.points.zip scores).filter (fun p => threshold ≤ p.2) ∧
      (anomalies.map AnomalyResult.timestamp).Pairwise (fun s t => s < t) := by
  refine ⟨_, detect_eq_ok.mpr ⟨scores, h, rfl⟩, ?_, ?_⟩
  · rw [List.map_map]
    exact List.map_id _
  · rw [List.map_map, List.pairwise_map]
    exact (pairwise_zip_times (length_of_score h)).sublist List.filter_sublist

/-!
# What score returns
-/

variable [IsStrictOrderedRing K]

theorem unit_of_mem_clipped {raw : Double K -> Double K} {values : List (Double K)}
    {s : Double K} (hs : s ∈ values.map fun x => (raw x).clip.fillna) :
    exists q, 0 ≤ q ∧ q ≤ 1 ∧ s = .finite q := by
  rcases List.mem_map.mp hs with ⟨x, _, hx⟩
  rw [← hx]
  exact Double.clip_fillna_unit _

/-- The scores of both methods are clipped, and what is missing scores zero. -/
theorem score_unit {math : Math K} {stl : Stl K} {detector : StatisticalDetector K}
    (hmethod : detector.method ≠ .stl) {series : Series K} {scores : Scores K}
    (h : detector.score math stl series = .ok scores) {s : Double K} (hs : s ∈ scores) :
    exists q, 0 ≤ q ∧ q ≤ 1 ∧ s = .finite q := by
  unfold score at h
  cases hcase : detector.method with
  | zscore =>
      simp only [hcase, scoreZscore] at h
      split at h
      · cases h
      · injection h with h
        rw [← h] at hs
        exact unit_of_mem_clipped hs
  | iqr =>
      simp only [hcase, scoreIqr] at h
      split at h
      · split at h
        · cases h
        · injection h with h
          rw [← h] at hs
          exact unit_of_mem_clipped hs
      · cases h
      · cases h
  | stl =>
      exact absurd hcase hmethod

omit [IsStrictOrderedRing K] in
theorem score_isOk_of_fittedParams (math : Math K) (stl : Stl K)
    {detector : StatisticalDetector K}
    (hwindow : detector.method = .zscore -> 10 ≤ detector.window) (numbers : List K)
    (series : Series K) :
    exists scores,
      score math stl { detector with params := fittedParams math detector numbers } series =
        .ok scores := by
  unfold score fittedParams
  cases hcase : detector.method with
  | zscore =>
      have hwide : ¬ detector.window < 5 := by
        have hten := hwindow hcase
        omega
      exact ⟨_, if_neg hwide⟩
  | iqr =>
      exact ⟨_, rfl⟩
  | stl =>
      exact ⟨_, rfl⟩

/-- The contract holds exactly when the training slice has a value that is not missing. -/
theorem honoursContract_iff (math : Math K) (stl : Stl K) {detector : StatisticalDetector K}
    (hmethod : detector.method ≠ .stl)
    (hwindow : detector.method = .zscore -> 10 ≤ detector.window) {series : Series K}
    (hmeasured : Measured series.values) :
    HonoursContract math stl detector series <->
      exists q, .finite q ∈ (series.before (series.split 1)).values := by
  have htraining : Measured (series.before (series.split 1)).values :=
    hmeasured.sublist ((List.take_sublist _ _).map Prod.snd)
  constructor
  · intro h
    rcases h with ⟨fitted, scores, hfit, _⟩
    by_contra hnone
    have hempty : numbersOf (series.before (series.split 1)).values = [] := by
      apply List.eq_nil_iff_forall_not_mem.mpr
      intro q hq
      exact hnone ⟨q, mem_numbersOf.mp hq⟩
    rw [fit_of_no_numbers math hwindow hmethod htraining hempty] at hfit
    cases hfit
  · intro h
    rcases h with ⟨q, hq⟩
    have hnumbers := List.ne_nil_of_mem (mem_numbersOf.mpr hq)
    have hfit := fit_of_numbers math hwindow htraining hnumbers
    rcases score_isOk_of_fittedParams math stl hwindow
      (numbersOf (series.before (series.split 1)).values)
      (series.since (series.split 1)) with ⟨scores, hscores⟩
    refine ⟨_, scores, hfit, hscores, length_of_score hscores, ?_, ?_⟩
    · intro s hs
      exact score_unit (by exact hmethod) hscores hs
    · exact detect_of_score hscores

def lateStart : Series Rat where
  points := [(0, .nan), (60000000, .finite 5)]
  increasing := by decide

theorem lateStart_measured : Measured lateStart.values := by
  intro x hx
  rcases List.mem_cons.mp hx with h | h
  · exact Or.inl h
  · exact Or.inr ⟨5, List.mem_singleton.mp h⟩

theorem honoursContract_probe :
    HonoursContract plainMath noStl { method := .iqr } (probe 11) := by
  have hmeasured : Measured (probe 11).values := fun x hx => Or.inr (probe_finite hx)
  exact (@honoursContract_iff Rat _ _ _ plainMath noStl { method := .iqr } (by decide)
    (by decide) (probe 11) hmeasured).mpr ⟨1, List.mem_cons_self⟩

/-- Fitting looks for the last value of an empty column. -/
theorem lateStart_raises :
    ¬ forall (math : Math Rat) (stl : Stl Rat) (detector : StatisticalDetector Rat)
        (series : Series Rat),
      detector.method ≠ .stl -> (detector.method = .zscore -> 10 ≤ detector.window) ->
        series.points ≠ [] -> Measured series.values ->
          HonoursContract math stl detector series := by
  intro h
  rcases h plainMath noStl (zscoreOf 60) lateStart (by decide) (by decide)
    (List.cons_ne_nil _ _) lateStart_measured with ⟨fitted, scores, hfit, _⟩
  have hraise : (zscoreOf 60).fit plainMath (lateStart.before (lateStart.split 1)) =
      .error .indexError := rfl
  rw [hraise] at hfit
  cases hfit

end StatisticalDetector

end Detection
end MetricMesh
