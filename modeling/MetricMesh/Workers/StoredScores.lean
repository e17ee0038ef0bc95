import MetricMesh.Workers.DetectorTasks

/-!
# Stored scores and thresholds

The explanation of an alert says that its score is at or above the threshold.
The score it speaks of is the one that was stored, the double of six decimals, and
the isolation forest also reports points for their label alone.  So the sentence
is true of every alert of a task exactly when no point that fires has a score
that is under the threshold, or falls under it by being rounded.
-/

namespace MetricMesh
namespace Workers

open Foundation
open Python
open Alerting
open Api
open Detection

/--
The score is not under the midpoint below the first decimal that is stored at or
above the threshold, and at the midpoint the decimal is even.
-/
def Survives (threshold score : PyFloat) : Prop :=
  match threshold, score with
  | .finite t, .finite s =>
      exists n : Int, FirstStored 6 t n ∧
        ((n : Rat) - 1 / 2 < s * 10 ^ 6 ∨ ((n : Rat) - 1 / 2 = s * 10 ^ 6 ∧ n % 2 = 0))
  | t, s => t ≤ s

theorem le_round_iff (threshold score : PyFloat) :
    threshold ≤ score.round 6 <-> Survives threshold score := by
  cases score with
  | finite s =>
      cases threshold with
      | finite t =>
          rw [Double.round, Double.finite_le_finite]
          rcases exists_firstStored 6 t with ⟨n, hfirst⟩
          rw [le_toDouble_roundTo_iff hfirst, le_roundEven_iff]
          constructor
          · intro h
            exact ⟨n, hfirst, h⟩
          · intro h
            rcases h with ⟨m, hfirst', h⟩
            have hsame : m = n := le_antisymm (hfirst'.2 n hfirst.1) (hfirst.2 m hfirst'.1)
            rw [← hsame]
            exact h
      | nan =>
          exact iff_of_false (Double.not_nan_le _) (Double.not_nan_le _)
      | inf =>
          apply iff_of_false
          · intro h
            rcases h with hlt | ⟨heq, _⟩
            · cases hlt
            · cases heq
          · intro h
            rcases h with hlt | ⟨heq, _⟩
            · cases hlt
            · cases heq
      | negInf =>
          exact iff_of_true (Or.inl rfl) (Or.inl rfl)
  | nan =>
      cases threshold <;> rfl
  | inf =>
      cases threshold <;> rfl
  | negInf =>
      cases threshold <;> rfl

theorem survives_of_grid {n : Int} (hpos : 0 < n) (hone : n ≤ 10 ^ 6) {score : PyFloat}
    (h : .finite (toDouble ((n : Rat) / 10 ^ 6)) ≤ score) :
    Survives (.finite (toDouble ((n : Rat) / 10 ^ 6))) score := by
  rw [← le_round_iff]
  cases score with
  | finite s =>
      rw [Double.finite_le_finite] at h
      rw [Double.round, Double.finite_le_finite]
      exact toDouble_mono
        (le_trans (le_roundTo_toDouble (by decide) hpos hone) (roundTo_mono 6 h))
  | nan =>
      exact h
  | inf =>
      exact h
  | negInf =>
      exact h

variable (lib : Libraries) (settings : Settings)

/--
Every anomaly that a task reports meets the threshold of the task, and is
explained with that threshold.
-/
def Explained (task : Signature) (outcome : Attempt) : Prop :=
  forall report, outcome = .ok report ->
    forall a, a ∈ report.anomalies.getD [] ->
      exists t, taskThreshold lib settings task = .ok t ∧
        ExplainedBy lib.host settings a t

variable {lib settings}

/-- For one dictionary: the score that fired has to survive the rounding. -/
theorem explainedBy_toDict_iff {tenant : String} {r : AnomalyResult Rat}
    {t : PyFloat}
    (h : alertThreshold lib.host settings r.metricName r.detector r.method = .ok t) :
    ExplainedBy lib.host settings (r.toDict lib.host tenant) t <->
      Survives t r.score := by
  rw [← le_round_iff]
  constructor
  · intro hexplained
    rcases hexplained with ⟨_, s, hs, hle⟩
    injection hs with hs
    injection hs with hs
    rw [hs]
    exact hle
  · intro hle
    exact ⟨h, r.score.round 6, rfl, hle⟩

theorem of_mem_detectorTask {δ : Type} {tooFew : Bool} {nothing : DetectorReport}
    {fit : Except PyError δ} {threshold : Except PyError PyFloat}
    {detect : δ -> PyFloat -> Except PyError (List (AnomalyResult Rat))}
    {report : List (AnomalyResult Rat) -> DetectorReport} {host : Host}
    {tenant : String} {out : DetectorReport} {a : Anomaly}
    (hnothing : nothing.anomalies.getD [] = [])
    (hreport : forall anomalies, (report anomalies).anomalies.getD [] =
      anomalies.map (AnomalyResult.toDict host tenant))
    (hrun : detectorTask tooFew nothing fit threshold detect report = .ok out)
    (ha : a ∈ out.anomalies.getD []) :
    tooFew = false ∧ exists detector t anomalies r, fit = .ok detector ∧
      threshold = .ok t ∧ detect detector t = .ok anomalies ∧ r ∈ anomalies ∧
      r.toDict host tenant = a := by
  rcases detectorTask_eq_ok.mp hrun with ⟨_, heq⟩ |
    ⟨hfew, detector, t, anomalies, hfit, hthreshold, hdetect, heq⟩
  · rw [← heq, hnothing] at ha
    cases ha
  · rw [← heq, hreport] at ha
    rcases List.mem_map.mp ha with ⟨r, hr, hdict⟩
    exact ⟨hfew, detector, t, anomalies, r, hfit, hthreshold, hdetect, hr, hdict⟩

theorem explained_detectorTask_iff {task : Signature} {δ : Type} {tooFew : Bool}
    {nothing : DetectorReport} {fit : Except PyError δ}
    {detect : δ -> PyFloat -> Except PyError (List (AnomalyResult Rat))}
    {report : List (AnomalyResult Rat) -> DetectorReport} {tenant : String}
    (hnothing : nothing.anomalies.getD [] = [])
    (hreport : forall anomalies, (report anomalies).anomalies.getD [] =
      anomalies.map (AnomalyResult.toDict lib.host tenant))
    (hsame : forall detector t anomalies, fit = .ok detector ->
      detect detector t = .ok anomalies -> forall r, r ∈ anomalies ->
        alertThreshold lib.host settings r.metricName r.detector r.method =
          taskThreshold lib settings task) :
    Explained lib settings task
        (detectorTask tooFew nothing fit (taskThreshold lib settings task) detect
          report) <->
      (tooFew = false -> forall detector t anomalies, fit = .ok detector ->
        taskThreshold lib settings task = .ok t -> detect detector t = .ok anomalies ->
          forall r, r ∈ anomalies -> Survives t r.score) := by
  constructor
  · intro h hfew detector t anomalies hfit hthreshold hdetect r hr
    have hrun : detectorTask tooFew nothing fit (taskThreshold lib settings task)
        detect report = .ok (report anomalies) :=
      detectorTask_eq_ok.mpr
        (Or.inr ⟨hfew, detector, t, anomalies, hfit, hthreshold, hdetect, rfl⟩)
    have hmem : r.toDict lib.host tenant ∈
        (report anomalies).anomalies.getD [] := by
      rw [hreport]
      exact List.mem_map_of_mem hr
    rcases h _ hrun _ hmem with ⟨t', ht', hexplained⟩
    rw [hthreshold] at ht'
    injection ht' with ht'
    rw [← ht'] at hexplained
    have hresolved := hsame detector t anomalies hfit hdetect r hr
    rw [hthreshold] at hresolved
    exact (explainedBy_toDict_iff hresolved).mp hexplained
  · intro h out hrun a ha
    rcases of_mem_detectorTask hnothing hreport hrun ha with
      ⟨hfew, detector, t, anomalies, r, hfit, hthreshold, hdetect, hr, hdict⟩
    rw [← hdict]
    have hresolved := hsame detector t anomalies hfit hdetect r hr
    rw [hthreshold] at hresolved
    exact ⟨t, hthreshold, (explainedBy_toDict_iff hresolved).mpr
      (h hfew detector t anomalies hfit hthreshold hdetect r hr)⟩

/-!
# The three tasks
-/

theorem fitStatistical_method {stored : StoredModel} {method : String}
    {training : Series Rat} {detector : StatisticalDetector Rat}
    (h : fitStatistical lib settings stored method training = .ok detector) :
    detector.method.name = method := by
  unfold fitStatistical StatisticalDetector.make at h
  cases hname : Method.ofName method with
  | error e =>
      rw [hname] at h
      cases h
  | ok m =>
      rw [hname] at h
      have hmethod : detector.method = m := by
        dsimp only at h
        split at h
        · split at h
          · cases h
          · exact StatisticalDetector.fit_method h
          · split at h
            · rename_i hload
              injection h with h
              rw [← h]
              exact StatisticalDetector.loadState_method hload
            · exact StatisticalDetector.fit_method h
        · exact StatisticalDetector.fit_method h
      rw [hmethod]
      exact Method.name_of_ofName hname

/-!
The threshold that is resolved again from the fields of a result is the one of
the task that reported it.
-/

theorem alertThreshold_of_statistical {stored : StoredModel} {method metricName : String}
    {training series : Series Rat} {detector : StatisticalDetector Rat} {t : PyFloat}
    {anomalies : List (AnomalyResult Rat)} {r : AnomalyResult Rat} (tenant : String)
    (hfit : fitStatistical lib settings stored method training = .ok detector)
    (hdetect : detector.detectWith Double.nearest lib.math lib.stl series metricName t =
      .ok anomalies)
    (hr : r ∈ anomalies) :
    alertThreshold lib.host settings r.metricName r.detector r.method =
      taskThreshold lib settings (.runStatistical metricName method tenant) := by
  rcases StatisticalDetector.detectWith_eq_ok.mp hdetect with ⟨scores, _, heq⟩
  rw [← heq] at hr
  rcases List.mem_map.mp hr with ⟨p, _, hr⟩
  have hkey : resolverKey "statistical" detector.method.name = method := by
    rw [← fitStatistical_method hfit]
    cases detector.method <;> rfl
  rw [← hr]
  unfold alertThreshold
  rw [show resolverKey StatisticalDetector.name detector.method.name = method
    from hkey]
  rfl

theorem alertThreshold_of_prophet {series : Series Rat}
    {detector : ProphetDetector Rat} {metricName : String} {t : PyFloat}
    {anomalies : List (AnomalyResult Rat)} {r : AnomalyResult Rat} (tenant : String)
    (hdetect : detector.detectWith Double.nearest series metricName t = .ok anomalies)
    (hr : r ∈ anomalies) :
    alertThreshold lib.host settings r.metricName r.detector r.method =
      taskThreshold lib settings (.runProphet metricName tenant) := by
  unfold ProphetDetector.detectWith at hdetect
  split at hdetect
  · cases hdetect
  · injection hdetect with heq
    rw [← heq] at hr
    rcases List.mem_map.mp hr with ⟨p, _, hr⟩
    rw [← hr]
    rfl

theorem alertThreshold_of_isolationForest {series : Series Rat}
    {detector : IsolationForestDetector Rat} {metricName : String} {t : PyFloat}
    {anomalies : List (AnomalyResult Rat)} {r : AnomalyResult Rat} (tenant : String)
    (hdetect : detector.detectWith Double.nearest lib.math series metricName t = .ok anomalies)
    (hr : r ∈ anomalies) :
    alertThreshold lib.host settings r.metricName r.detector r.method =
      taskThreshold lib settings (.runIsolationForest metricName tenant) := by
  rcases IsolationForestDetector.detectWith_eq_ok.mp hdetect with ⟨raw, _, heq⟩
  rw [← heq] at hr
  rcases List.mem_map.mp hr with ⟨p, _, hr⟩
  rw [← hr]
  rfl

theorem fitIsolationForest_scoringMode {training : Series Rat}
    {detector : IsolationForestDetector Rat}
    (h : fitIsolationForest lib settings training = .ok detector) :
    detector.scoringMode = settings.scoringMode := by
  unfold fitIsolationForest IsolationForestDetector.fit at h
  split at h
  · cases h
  · injection h with h
    rw [← h]

/--
No score of the held-out slice is lost: none at or above the threshold is rounded
below it, and for the isolation forest none of a row that the library labels is
below it to begin with, or is rounded up to it.
-/
def NoneSlips (lib : Libraries) (settings : Settings) (stored : StoredModel)
    (series : Series Rat) : Signature -> Prop
  | .runStatistical metricName method tenant =>
      forall detector t scores, series.points ≠ [] ->
        fitStatistical lib settings stored method (series.before (series.split 1)) =
          .ok detector ->
        taskThreshold lib settings (.runStatistical metricName method tenant) =
          .ok t ->
        detector.score lib.math lib.stl (series.since (series.split 1)) = .ok scores ->
          forall s, s ∈ scores.map Double.nearest -> t ≤ s -> Survives t s
  | .runProphet _ _ => True
  | .runIsolationForest metricName tenant =>
      forall detector t raw, 10 ≤ series.length ->
        fitIsolationForest lib settings (series.before (series.split 5)) =
          .ok detector ->
        taskThreshold lib settings (.runIsolationForest metricName tenant) = .ok t ->
        detector.decisionFunction lib.math (series.since (series.split 5)) = .ok raw ->
          forall q, q ∈ raw.zip (IsolationForestDetector.scoresOf lib.math
              settings.scoringMode raw) ->
            (t ≤ (Double.finite q.2).nearest -> Survives t (Double.finite q.2).nearest) ∧
              (q.1 < 0 -> Survives t (Double.finite q.2).nearest)

theorem runStatistical_explained_iff (stored : StoredModel) (series : Series Rat)
    (metricName method tenant : String) :
    Explained lib settings (.runStatistical metricName method tenant)
        (runStatistical lib settings stored series metricName method tenant) <->
      NoneSlips lib settings stored series
        (.runStatistical metricName method tenant) := by
  unfold runStatistical
  rw [explained_detectorTask_iff rfl (fun _ => rfl)]
  · unfold NoneSlips
    constructor
    · intro h detector t scores hpoints hfit hthreshold hscore s hs hle
      have hdetect : detector.detectWith Double.nearest lib.math lib.stl
          (series.since (series.split 1)) metricName t = .ok _ :=
        StatisticalDetector.detectWith_eq_ok.mpr ⟨scores, hscore, rfl⟩
      have hlength := StatisticalDetector.length_of_score hscore
      rw [← List.length_map Double.nearest] at hlength
      rcases exists_mem_zip hlength hs with ⟨p, hp⟩
      exact h (decide_eq_false hpoints) detector t _ hfit hthreshold hdetect _
        (List.mem_map_of_mem (mem_pointsAtOrAbove.mpr ⟨hp, hle⟩))
    · intro h hpoints detector t anomalies hfit hthreshold hdetect r hr
      rcases StatisticalDetector.detectWith_eq_ok.mp hdetect with ⟨scores, hscore, heq⟩
      rw [← heq] at hr
      rcases List.mem_map.mp hr with ⟨p, hp, hr⟩
      rcases mem_pointsAtOrAbove.mp hp with ⟨hzip, hle⟩
      rw [← hr]
      exact h detector t scores (of_decide_eq_false hpoints) hfit hthreshold hscore p.2
        (List.of_mem_zip hzip).2 hle
  · intro detector t anomalies hfit hdetect r hr
    exact alertThreshold_of_statistical tenant hfit hdetect hr

theorem runProphet_explained (series : Series Rat) (metricName tenant : String) :
    Explained lib settings (.runProphet metricName tenant)
      (runProphet lib settings series metricName tenant) := by
  unfold runProphet
  rw [explained_detectorTask_iff rfl (fun _ => rfl)]
  · intro _ detector t anomalies hfit _ hdetect r hr
    unfold ProphetDetector.fit at hfit
    split at hfit
    · cases hfit
    · injection hfit with hfit
      rw [← hfit] at hdetect
      rcases ProphetDetector.score_of_detectWith_since Double.ofExact_zero hdetect hr with
        ⟨_, _, hscore, hle⟩
      -- Every score is zero, which is on the grid already.
      rw [hscore, ← le_round_iff]
      have hzero : (Double.finite 0 : PyFloat).round 6 = .finite 0 := by
        decide +kernel
      rw [hzero]
      exact hle
  · intro detector t anomalies _ hdetect r hr
    exact alertThreshold_of_prophet tenant hdetect hr

theorem runIsolationForest_explained_iff (stored : StoredModel) (series : Series Rat)
    (metricName tenant : String) :
    Explained lib settings (.runIsolationForest metricName tenant)
        (runIsolationForest lib settings series metricName tenant) <->
      NoneSlips lib settings stored series
        (.runIsolationForest metricName tenant) := by
  unfold runIsolationForest
  rw [explained_detectorTask_iff rfl (fun _ => rfl)]
  · unfold NoneSlips
    constructor
    · intro h detector t raw hlength hfit hthreshold hraw
      have hdetect : detector.detectWith Double.nearest lib.math (series.since (series.split 5))
          metricName t = .ok _ :=
        IsolationForestDetector.detectWith_eq_ok.mpr ⟨raw, hraw, rfl⟩
      rw [← fitIsolationForest_scoringMode hfit]
      apply (IsolationForestDetector.forall_fired_iff
        (IsolationForestDetector.length_of_decisionFunction hraw) (Survives t)).mp
      intro p hp
      exact h (decide_eq_false (Nat.not_lt.mpr hlength)) detector t _ hfit hthreshold
        hdetect _ (List.mem_map_of_mem hp)
    · intro h hlength detector t anomalies hfit hthreshold hdetect r hr
      rcases IsolationForestDetector.detectWith_eq_ok.mp hdetect with ⟨raw, hraw, heq⟩
      rw [← heq] at hr
      rcases List.mem_map.mp hr with ⟨p, hp, hr⟩
      have hsafe := h detector t raw (Nat.not_lt.mp (of_decide_eq_false hlength)) hfit
        hthreshold hraw
      rw [← fitIsolationForest_scoringMode hfit] at hsafe
      rw [← hr]
      exact (IsolationForestDetector.forall_fired_iff
        (IsolationForestDetector.length_of_decisionFunction hraw) (Survives t)).mpr
        hsafe p hp
  · intro detector t anomalies _ hdetect r hr
    exact alertThreshold_of_isolationForest tenant hdetect hr

theorem runStatistical_explained_of_grid {stored : StoredModel} {series : Series Rat}
    {metricName method tenant : String} {n : Int} (hpos : 0 < n) (hone : n ≤ 10 ^ 6)
    (hthreshold : taskThreshold lib settings (.runStatistical metricName method tenant) =
      .ok (.finite (toDouble ((n : Rat) / 10 ^ 6)))) :
    Explained lib settings (.runStatistical metricName method tenant)
      (runStatistical lib settings stored series metricName method tenant) := by
  rw [runStatistical_explained_iff]
  intro detector t' scores _ _ ht' _ s _ hle
  rw [hthreshold] at ht'
  injection ht' with ht'
  rw [← ht'] at hle
  rw [← ht']
  exact survives_of_grid hpos hone hle

/-!
Ten quiet minutes of which the library labels the last two as anomalies, the
last more clearly.  Normalised over the two, the first of them scores zero and
is reported all the same.
-/

def tenMinutes : Series Rat where
  points := (List.range 10).map fun k => (60000000 * (k : Int), .finite (k : Rat))
  increasing := by decide

def labelsTheLatest : Libraries where
  host := Host.withDigests []
  math := { sqrt := id, exp := id, sin := id, cos := id, pi := 3 }
  stl := fun _ _ => .error .valueError
  forest := fun _ _ => .ok fun row =>
    .ok (if row.value = .finite 9 then -1 else if row.value = .finite 8 then -1 / 10 else 1)
  prophet := fun _ => .error .valueError

end Workers
end MetricMesh
