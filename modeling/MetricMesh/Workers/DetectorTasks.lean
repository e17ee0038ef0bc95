import MetricMesh.Api.AlertDetail
import MetricMesh.Detection.IsolationForest
import MetricMesh.Detection.Prophet
import MetricMesh.Detection.Statistical
import MetricMesh.Workers.Sweep

/-!
# The detector tasks

One attempt of each detector task, from the series that it fetches to the report
that it returns: fit on the first part of the series, resolve the threshold of
the metric, detect on the rest.  Only the statistical task can reuse a stored
model.  A setting is read as a double, and so is a score once it is computed.
-/

namespace MetricMesh
namespace Workers

open Foundation
open Python
open Alerting
open Api
open Detection

structure Libraries where
  host : Host
  math : Math Rat
  stl : Stl Rat
  forest : Forest Rat
  prophet : Prophet Rat

/-- What a task finds when it looks for a recent model of its metric. -/
abbrev StoredModel : Type :=
  Except PyError (Option Json)

variable (lib : Libraries) (settings : Settings)

/-!
# Fitting
-/

def fitStatistical (stored : StoredModel) (method : String) (training : Series Rat) :
    Except PyError (StatisticalDetector Rat) :=
  match StatisticalDetector.make method settings.scoringMode with
  | .error e => .error e
  | .ok detector =>
      if 0 < settings.modelReuseMaxAgeSeconds then
        match stored with
        | .error e => .error e
        | .ok none => detector.fit lib.math training
        | .ok (some state) =>
            match detector.loadState state with
            | .ok loaded => .ok loaded
            | .error _ => detector.fit lib.math training
      else
        detector.fit lib.math training

def fitIsolationForest (training : Series Rat) :
    Except PyError (IsolationForestDetector Rat) :=
  IsolationForestDetector.fit lib.math lib.forest
    { params := { contamination := toDouble settings.isolationForestContamination }
      scoringMode := settings.scoringMode }
    training

def taskThreshold : Signature -> Except PyError PyFloat
  | .runStatistical metricName method _ =>
      resolveThreshold lib.host settings metricName method
        (Double.ofExact (defaultThreshold settings method settings.zscoreThreshold))
  | .runIsolationForest metricName _ =>
      resolveThreshold lib.host settings metricName "isolation_forest"
        (Double.ofExact settings.isolationForestThreshold)
  | .runProphet metricName _ =>
      resolveThreshold lib.host settings metricName "prophet"
        (Double.ofExact settings.prophetThreshold)

/-!
# The tasks

The tasks have one shape.  They differ in how few points are too few, in how
they fit and detect, and in the fields of their reports.
-/

def detectorTask {δ : Type} (tooFew : Bool) (nothing : DetectorReport)
    (fit : Except PyError δ) (threshold : Except PyError PyFloat)
    (detect : δ -> PyFloat -> Except PyError (List (AnomalyResult Rat)))
    (report : List (AnomalyResult Rat) -> DetectorReport) : Attempt := do
  if tooFew then
    return nothing
  let detector <- fit
  let threshold <- threshold
  let anomalies <- detect detector threshold
  return report anomalies

def runStatistical (stored : StoredModel) (series : Series Rat)
    (metricName method tenant : String) : Attempt :=
  let split := series.split 1
  detectorTask
    (series.points = [])
    { metric := metricName, detector := "statistical", anomalies := some [] }
    (fitStatistical lib settings stored method (series.before split))
    (taskThreshold lib settings (.runStatistical metricName method tenant))
    (fun detector threshold =>
      detector.detectWith Double.nearest lib.math lib.stl (series.since split) metricName
        threshold)
    (fun anomalies =>
      { metric := metricName
        detector := "statistical"
        method := some method
        anomalies := some (anomalies.map (AnomalyResult.toDict lib.host tenant)) })

def runProphet (series : Series Rat) (metricName tenant : String) : Attempt :=
  let split := series.split 10
  detectorTask
    (series.length < 20)
    { metric := metricName, detector := "prophet", anomalies := some [] }
    (ProphetDetector.fit lib.prophet (series.before split))
    (taskThreshold lib settings (.runProphet metricName tenant))
    (fun detector threshold =>
      detector.detectWith Double.nearest (series.since split) metricName threshold)
    (fun anomalies =>
      { metric := metricName
        detector := "prophet"
        anomalies := some (anomalies.map (AnomalyResult.toDict lib.host tenant)) })

def runIsolationForest (series : Series Rat) (metricName tenant : String) :
    Attempt :=
  let split := series.split 5
  detectorTask
    (series.length < 10)
    { metric := metricName, detector := "isolation_forest", anomalies := some [] }
    (fitIsolationForest lib settings (series.before split))
    (taskThreshold lib settings (.runIsolationForest metricName tenant))
    (fun detector threshold =>
      detector.detectWith Double.nearest lib.math (series.since split) metricName threshold)
    (fun anomalies =>
      { metric := metricName
        detector := "isolation_forest"
        anomalies := some (anomalies.map (AnomalyResult.toDict lib.host tenant)) })

def attempt (stored : StoredModel) (series : Series Rat) : Signature -> Attempt
  | .runStatistical metricName method tenant =>
      runStatistical lib settings stored series metricName method tenant
  | .runIsolationForest metricName tenant =>
      runIsolationForest lib settings series metricName tenant
  | .runProphet metricName tenant =>
      runProphet lib settings series metricName tenant

theorem bind_eq_ok {α β : Type} {x : Except PyError α} {f : α -> Except PyError β}
    {b : β} : (x >>= f) = .ok b <-> exists a, x = .ok a ∧ f a = .ok b := by
  cases x with
  | error e =>
      constructor
      · intro h
        cases h
      · intro h
        rcases h with ⟨a, ha, _⟩
        cases ha
  | ok a =>
      constructor
      · intro h
        exact ⟨a, rfl, h⟩
      · intro h
        rcases h with ⟨a', ha, hb⟩
        injection ha with ha
        rw [ha]
        exact hb

theorem detectorTask_eq_ok {δ : Type} {tooFew : Bool} {nothing : DetectorReport}
    {fit : Except PyError δ} {threshold : Except PyError PyFloat}
    {detect : δ -> PyFloat -> Except PyError (List (AnomalyResult Rat))}
    {report : List (AnomalyResult Rat) -> DetectorReport} {r : DetectorReport} :
    detectorTask tooFew nothing fit threshold detect report = .ok r <->
      (tooFew = true ∧ nothing = r) ∨
        (tooFew = false ∧ exists detector t anomalies, fit = .ok detector ∧
          threshold = .ok t ∧ detect detector t = .ok anomalies ∧
          report anomalies = r) := by
  unfold detectorTask
  cases tooFew with
  | true =>
      simp [pure, Except.pure]
  | false =>
      simp only [Bool.false_eq_true, if_false, false_and, false_or, true_and,
        bind_eq_ok, pure, Except.pure, Except.ok.injEq]
      constructor
      · intro h
        rcases h with ⟨detector, hfit, t, hthreshold, anomalies, hdetect, heq⟩
        exact ⟨detector, t, anomalies, hfit, hthreshold, hdetect, heq⟩
      · intro h
        rcases h with ⟨detector, t, anomalies, hfit, hthreshold, hdetect, heq⟩
        exact ⟨detector, hfit, t, hthreshold, anomalies, hdetect, heq⟩

end Workers
end MetricMesh
