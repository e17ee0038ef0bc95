import MetricMesh.Api.DetectNow
import MetricMesh.Workers.StoredScores

/-!
# Three paths to one threshold

A metric is scored by the scheduled task, by the on-demand endpoint and, once
more, by the page that explains an alert.  Each path builds its detector and
resolves its threshold in its own words.
-/

namespace MetricMesh
namespace Workers

open Foundation
open Python
open Alerting
open Api
open Detection

variable (lib : Libraries) (settings : Settings)

/-!
# The setup of a task
-/

def taskFor (key metricName tenant : String) : Signature :=
  if key = "prophet" then .runProphet metricName tenant
  else if key = "isolation_forest" then .runIsolationForest metricName tenant
  else .runStatistical metricName key tenant

def taskDetector : Signature -> Except PyError AnyDetector
  | .runStatistical _ method _ =>
      (StatisticalDetector.make method settings.scoringMode).map .statistical
  | .runIsolationForest _ _ =>
      .ok (.isolationForest
        { params :=
            { contamination := toDouble settings.isolationForestContamination }
          scoringMode := settings.scoringMode })
  | .runProphet _ _ => .ok (.prophet {})

def taskSplit (series : Series Rat) : Signature -> Nat
  | .runStatistical _ _ _ => series.split 1
  | .runIsolationForest _ _ => series.split 5
  | .runProphet _ _ => series.split 10

def taskSetup (series : Series Rat) (task : Signature) : Except PyError Setup :=
  (taskDetector settings task).map fun detector =>
    { detector := detector
      split := taskSplit series task
      threshold := taskThreshold lib settings task }

def trained (stored : StoredModel) (training : Series Rat) :
    AnyDetector -> Except PyError AnyDetector
  | .statistical d =>
      (fitStatistical lib settings stored d.method.name training).map .statistical
  | d => d.fit lib.math lib.forest lib.prophet training

def tooFew (series : Series Rat) : Signature -> Bool
  | .runStatistical _ _ _ => series.points = []
  | .runIsolationForest _ _ => series.length < 10
  | .runProphet _ _ => series.length < 20

def reportedAs : Signature -> String
  | .runStatistical _ _ _ => "statistical"
  | .runIsolationForest _ _ => "isolation_forest"
  | .runProphet _ _ => "prophet"

def reportedMethod : Signature -> Option String
  | .runStatistical _ method _ => some method
  | _ => none

variable {lib settings}

theorem detectorTask_map {δ ε : Type} {tooFew : Bool} {nothing : DetectorReport}
    {fit : Except PyError δ} {threshold : Except PyError PyFloat} (f : δ -> ε)
    {detect : ε -> PyFloat -> Except PyError (List (AnomalyResult Rat))}
    {report : List (AnomalyResult Rat) -> DetectorReport} :
    detectorTask tooFew nothing (fit.map f) threshold detect report =
      detectorTask tooFew nothing fit threshold (fun d => detect (f d)) report := by
  cases fit <;> rfl

theorem make_eq_ok {method : String} {mode : ScoringMode} {d : StatisticalDetector Rat}
    (h : StatisticalDetector.make method mode = .ok d) :
    d.method.name = method ∧ d.scoringMode = mode := by
  unfold StatisticalDetector.make at h
  split at h
  · cases h
  · rename_i m hm
    injection h with h
    rw [← h]
    exact ⟨Method.name_of_ofName hm, rfl⟩

theorem trained_statistical (stored : StoredModel) (series : Series Rat)
    (metricName method tenant : String) :
    (taskSetup lib settings series (.runStatistical metricName method tenant) >>=
        fun setup =>
          trained lib settings stored (series.before setup.split) setup.detector) =
      (fitStatistical lib settings stored method
        (series.before (series.split 1))).map .statistical := by
  simp only [taskSetup, taskDetector]
  cases hmake : StatisticalDetector.make method settings.scoringMode with
  | error e =>
      simp only [fitStatistical, hmake]
      rfl
  | ok d =>
      show (fitStatistical lib settings stored d.method.name _).map _ = _
      rw [(make_eq_ok hmake).1]
      rfl

/-- A task trains the detector of its setup, and detects with its threshold. -/
theorem attempt_eq (stored : StoredModel) (series : Series Rat) (task : Signature) :
    attempt lib settings stored series task =
      detectorTask (tooFew series task)
        { metric := task.metricName, detector := reportedAs task, anomalies := some [] }
        (taskSetup lib settings series task >>= fun setup =>
          trained lib settings stored (series.before setup.split) setup.detector)
        (taskThreshold lib settings task)
        (fun detector threshold =>
          detector.detect lib.math lib.stl (series.since (taskSplit series task))
            task.metricName threshold)
        (fun anomalies =>
          { metric := task.metricName
            detector := reportedAs task
            method := reportedMethod task
            anomalies :=
              some (anomalies.map (AnomalyResult.toDict lib.host task.tenant)) }) := by
  cases task with
  | runStatistical metricName method tenant =>
      rw [trained_statistical, detectorTask_map]
      rfl
  | runIsolationForest metricName tenant =>
      show _ = detectorTask _ _ ((fitIsolationForest lib settings
        (series.before (series.split 5))).map AnyDetector.isolationForest) _ _ _
      rw [detectorTask_map]
      rfl
  | runProphet metricName tenant =>
      show _ = detectorTask _ _ ((ProphetDetector.fit lib.prophet
        (series.before (series.split 10))).map AnyDetector.prophet) _ _ _
      rw [detectorTask_map]
      rfl

/-- The alert page resolves the threshold of the task for every anomaly it reports. -/
theorem alertThreshold_of_attempt {stored : StoredModel} {series : Series Rat}
    {task : Signature} {report : DetectorReport} {a : Anomaly}
    (hreport : attempt lib settings stored series task = .ok report)
    (ha : a ∈ report.anomalies.getD []) :
    alertThreshold lib.host settings a.metric a.detectorName (a.method.getD "") =
      taskThreshold lib settings task := by
  cases task with
  | runStatistical metricName method tenant =>
      rcases of_mem_detectorTask rfl (fun _ => rfl) hreport ha with
        ⟨_, _, _, _, r, hfit, _, hdetect, hr, hdict⟩
      rw [← hdict]
      exact alertThreshold_of_statistical tenant hfit hdetect hr
  | runIsolationForest metricName tenant =>
      rcases of_mem_detectorTask rfl (fun _ => rfl) hreport ha with
        ⟨_, _, _, _, r, _, _, hdetect, hr, hdict⟩
      rw [← hdict]
      exact alertThreshold_of_isolationForest tenant hdetect hr
  | runProphet metricName tenant =>
      rcases of_mem_detectorTask rfl (fun _ => rfl) hreport ha with
        ⟨_, _, _, _, r, _, _, hdetect, hr, hdict⟩
      rw [← hdict]
      exact alertThreshold_of_prophet tenant hdetect hr

/-!
# Agreement

The setups are built from the same series.  For the `stl` method the endpoint has
a default of its own, and the registry does not pass the contamination on.
-/

/-- No override of the metric names the key, so the default is what is left. -/
def UsesDefault (host : Host) (settings : Settings) (metricName key : String) : Prop :=
  exists pairs, parse host settings.metricThresholds = .ok pairs ∧
    firstOverride metricName key pairs = none

structure PathsAgree (lib : Libraries) (settings : Settings) (stored : StoredModel)
    (series : Series Rat) (req : DetectRequest) (tenant : String) : Prop where
  /-- The endpoint runs the setup of the task. -/
  setup : exists setup,
    taskSetup lib settings series (taskFor req.detector req.metricName tenant) =
        .ok setup ∧
      detectNowSetup lib.host settings req series = .ok setup
  /-- The alert page resolves the threshold of the task. -/
  threshold : forall report,
    attempt lib settings stored series (taskFor req.detector req.metricName tenant) =
        .ok report ->
      forall a, a ∈ report.anomalies.getD [] ->
        alertThreshold lib.host settings a.metric a.detectorName (a.method.getD "") =
          taskThreshold lib settings (taskFor req.detector req.metricName tenant)

/-- A setting that only one of the paths reads is, as a double, what the others use. -/
def SameDefaults (host : Host) (settings : Settings) (metricName : String) :
    String -> Prop
  | "stl" =>
      UsesDefault host settings metricName "stl" ->
        toDouble settings.zscoreThreshold = toDouble (4 / 5)
  | "isolation_forest" =>
      toDouble settings.isolationForestContamination = toDouble (1 / 20)
  | _ => True

theorem split_eq {series : Series Rat} (h : 20 ≤ series.length) {least : Nat}
    (hleast : least ≤ 16) : series.split least = series.length * 4 / 5 := by
  unfold Series.split
  apply Nat.max_eq_left
  omega

theorem resolveThreshold_congr (host : Host) (settings : Settings)
    (metricName key : String) (x y : PyFloat) :
    resolveThreshold host settings metricName key x =
        resolveThreshold host settings metricName key y <->
      (UsesDefault host settings metricName key -> x = y) := by
  unfold resolveThreshold UsesDefault
  cases hparse : parse host settings.metricThresholds with
  | error e =>
      simp
  | ok pairs =>
      cases hfirst : firstOverride metricName key pairs with
      | none =>
          simp [hfirst]
      | some t =>
          simp [hfirst]

theorem exists_ok_iff {ε ε' α : Type} {x y : α} :
    (exists a, (Except.ok x : Except ε α) = .ok a ∧ (Except.ok y : Except ε' α) = .ok a) <->
      x = y := by
  constructor
  · intro h
    rcases h with ⟨a, hx, hy⟩
    injection hx with hx
    injection hy with hy
    rw [hx, hy]
  · intro h
    exact ⟨x, rfl, by rw [h]⟩

/--
On twenty points or more, the three paths agree unless a setting is configured
that only some of them read.
-/
theorem pathsAgree_iff {lib : Libraries} {settings : Settings} {stored : StoredModel}
    {series : Series Rat} {req : DetectRequest} {tenant : String}
    (hkey : req.detector ∈ allDetectorNames) (hthreshold : req.threshold = none)
    (hlength : 20 ≤ series.length) :
    PathsAgree lib settings stored series req tenant <->
      SameDefaults lib.host settings req.metricName req.detector := by
  have hsetup : PathsAgree lib settings stored series req tenant <->
      exists setup,
        taskSetup lib settings series (taskFor req.detector req.metricName tenant) =
            .ok setup ∧
          detectNowSetup lib.host settings req series = .ok setup := by
    constructor
    · intro h
      exact h.setup
    · intro h
      exact ⟨h, fun _ hreport _ ha => alertThreshold_of_attempt hreport ha⟩
  rw [hsetup]
  rcases req with ⟨metricName, key, threshold, lookback⟩
  have hnone : threshold = none := hthreshold
  have hkeys : key = "zscore" ∨ key = "iqr" ∨ key = "stl" ∨ key = "prophet" ∨
      key = "isolation_forest" := by
    simpa [allDetectorNames, registry] using hkey
  subst hnone
  rcases hkeys with hkey | hkey | hkey | hkey | hkey <;> subst hkey
  · exact iff_of_true ⟨_, rfl, rfl⟩ trivial
  · exact iff_of_true ⟨_, rfl, rfl⟩ trivial
  · refine Iff.trans exists_ok_iff ?_
    rw [Setup.mk.injEq]
    have hresolve := resolveThreshold_congr lib.host settings metricName "stl"
      (Double.ofExact settings.zscoreThreshold) (Double.ofExact (4 / 5))
    have hsame : Double.ofExact settings.zscoreThreshold = Double.ofExact (4 / 5) <->
        toDouble settings.zscoreThreshold = toDouble (4 / 5) := by
      rw [Double.ofExact_of_unit settings.thresholds_mem.1.1 settings.thresholds_mem.1.2,
        Double.ofExact_of_unit (by norm_num) (by norm_num), Double.finite.injEq]
    rw [hsame] at hresolve
    refine Iff.trans ?_ hresolve
    constructor
    · intro h
      exact h.2.2
    · intro h
      exact ⟨rfl, rfl, h⟩
  · have hsplit : series.split 10 = series.split 1 := by
      rw [split_eq hlength (by decide), split_eq hlength (by decide)]
    refine iff_of_true ⟨_, rfl, ?_⟩ trivial
    simp only [taskSplit, taskFor, if_true, hsplit]
    rfl
  · have hsplit : series.split 5 = series.split 1 := by
      rw [split_eq hlength (by decide), split_eq hlength (by decide)]
    refine Iff.trans exists_ok_iff ?_
    rw [Setup.mk.injEq]
    constructor
    · intro h
      injection h.1 with hdetector
      injection hdetector with hparams
      injection hparams with _ hcontamination
    · intro h
      refine ⟨?_, hsplit, rfl⟩
      have hcontamination :
          toDouble settings.isolationForestContamination = toDouble (1 / 20) := h
      rw [hcontamination]

/-!
# The endpoint and the task

Where the setups are one and no stored model is reused, the endpoint answers with
the anomalies that the task reports.
-/

theorem trained_of_never (hnever : settings.modelReuseMaxAgeSeconds ≤ 0)
    (stored : StoredModel) (series : Series Rat) (task : Signature) :
    (taskSetup lib settings series task >>= fun setup =>
        trained lib settings stored (series.before setup.split) setup.detector) =
      (taskSetup lib settings series task >>= fun setup =>
        setup.detector.fit lib.math lib.forest lib.prophet
          (series.before setup.split)) := by
  cases task with
  | runStatistical metricName method tenant =>
      rw [trained_statistical]
      simp only [taskSetup, taskDetector, fitStatistical]
      cases StatisticalDetector.make (K := Rat) method settings.scoringMode with
      | error e =>
          rfl
      | ok d =>
          simp only [if_neg (not_lt.mpr hnever)]
          rfl
  | runIsolationForest metricName tenant =>
      rfl
  | runProphet metricName tenant =>
      rfl

theorem taskSetup_eq_ok {series : Series Rat} {task : Signature} {setup : Setup}
    (h : taskSetup lib settings series task = .ok setup) :
    setup.split = taskSplit series task ∧ setup.threshold = taskThreshold lib settings task := by
  unfold taskSetup at h
  cases hdetector : taskDetector settings task with
  | error e =>
      rw [hdetector] at h
      cases h
  | ok d =>
      rw [hdetector] at h
      injection h with h
      rw [← h]
      exact ⟨rfl, rfl⟩

theorem taskFor_metricName (key metricName tenant : String) :
    (taskFor key metricName tenant).metricName = metricName ∧
      (taskFor key metricName tenant).tenant = tenant := by
  unfold taskFor
  split_ifs
  · exact ⟨rfl, rfl⟩
  · exact ⟨rfl, rfl⟩
  · exact ⟨rfl, rfl⟩

theorem tooFew_of_length {series : Series Rat} (h : 20 ≤ series.length)
    (task : Signature) : tooFew series task = false := by
  cases task with
  | runStatistical metricName method tenant =>
      apply decide_eq_false
      intro hnil
      rw [Series.length, hnil] at h
      cases h
  | runIsolationForest metricName tenant =>
      exact decide_eq_false (not_lt.mpr (le_trans (by decide) h))
  | runProphet metricName tenant =>
      exact decide_eq_false (not_lt.mpr h)

theorem detectNow_of_attempt {stored : StoredModel} {series : Series Rat}
    {req : DetectRequest} {identity : Identity} {report : DetectorReport}
    (hagree : PathsAgree lib settings stored series req identity.tenant)
    (hlength : 20 ≤ series.length) (hnever : settings.modelReuseMaxAgeSeconds ≤ 0)
    (hreport : attempt lib settings stored series
      (taskFor req.detector req.metricName identity.tenant) = .ok report) :
    exists response,
      detectNow lib settings (fun _ _ _ => series) identity req = .ok response ∧
        report.anomalies =
          some (response.anomalies.map fun a => { a with tenant := some identity.tenant }) := by
  rcases hagree.setup with ⟨setup, htask, hrequest⟩
  rcases taskSetup_eq_ok htask with ⟨hsplit, hthreshold⟩
  rcases taskFor_metricName req.detector req.metricName identity.tenant with
    ⟨hname, htenant⟩
  rw [attempt_eq, trained_of_never hnever, htask, hname, htenant, ← hsplit,
    ← hthreshold] at hreport
  rcases detectorTask_eq_ok.mp hreport with ⟨hfew, _⟩ |
    ⟨_, detector, threshold, anomalies, hfit, hresolved, hdetect, hmade⟩
  · rw [tooFew_of_length hlength] at hfew
    cases hfew
  · have hne : series.points ≠ [] := by
      intro hnil
      rw [Series.length, hnil] at hlength
      cases hlength
    have hfitted : setup.detector.fit lib.math lib.forest lib.prophet
        (series.before setup.split) = .ok detector := hfit
    have hdetected : detector.detect lib.math lib.stl (series.since setup.split)
        req.metricName threshold = .ok anomalies := hdetect
    unfold detectNow
    simp only [if_neg hne, hrequest, hresolved, hfitted, bind, Except.bind, hdetected]
    refine ⟨_, rfl, ?_⟩
    rw [← hmade, List.map_map]
    rfl

theorem pathsAgree_stl_defaults :
    PathsAgree labelsTheLatest .defaults (.ok none) ProphetDetector.lateSpike
      { metricName := "cpu_usage", detector := "stl" } "acme" :=
  (pathsAgree_iff (by decide) rfl (by decide)).mpr (fun _ => rfl)

/-!
Under a lowered `zscore_threshold` the task looks for spikes of the `stl` method
from one half on, and the endpoint from four fifths on.
-/

def loweredZscore : Settings :=
  { Settings.defaults with
    zscoreThreshold := 1 / 2
    thresholds_mem := ⟨by norm_num, Settings.defaults.thresholds_mem.2⟩ }

theorem loweredZscore_disagrees :
    ¬ forall (lib : Libraries) (settings : Settings) (stored : StoredModel)
      (series : Series Rat) (req : DetectRequest) (tenant : String),
      req.detector ∈ allDetectorNames -> req.threshold = none ->
        20 ≤ series.length -> PathsAgree lib settings stored series req tenant := by
  intro h
  rcases (h labelsTheLatest loweredZscore (.ok none) ProphetDetector.lateSpike
    { metricName := "cpu_usage", detector := "stl" } "acme" (by decide) rfl
    (by decide)).setup with ⟨setup, htask, hrequest⟩
  injection htask with htask
  injection hrequest with hrequest
  have hthreshold : resolveThreshold (Host.withDigests []) loweredZscore "cpu_usage"
        "stl" (Double.ofExact (1 / 2)) =
      resolveThreshold (Host.withDigests []) loweredZscore "cpu_usage" "stl"
        (Double.ofExact (4 / 5)) :=
    congrArg Setup.threshold (htask.trans hrequest.symm)
  revert hthreshold
  decide +kernel

end Workers
end MetricMesh
