import MetricMesh.Foundation.ClaimLead
import MetricMesh.Foundation.Quorum
import MetricMesh.Workers.Schedules
import MetricMesh.Workers.SilentQuorum

/-!
# Tuning the alerts

An operator makes an installation quieter by raising thresholds or the quorum.
In a single aggregation that leaves fewer anomalies, but it also leaves claims
unmade that would have held later anomalies back.  Along a whole run the second
effect never outweighs the first: no fingerprint gets more alert tasks than it
would have got.
-/

namespace MetricMesh
namespace Workers

open Foundation
open Foundation.ClaimStore
open Python
open Alerting
open Detection
open Storage

/-- The settings that decide what is an alert and not how the data is handled. -/
structure Tuning where
  consensusMinDetectors : Int
  consensusMinDetectors_ge : 1 ≤ consensusMinDetectors
  zscoreThreshold : Rat
  iqrThreshold : Rat
  prophetThreshold : Rat
  isolationForestThreshold : Rat
  thresholds_mem : (0 ≤ zscoreThreshold ∧ zscoreThreshold ≤ 1) ∧
    (0 ≤ iqrThreshold ∧ iqrThreshold ≤ 1) ∧
    (0 ≤ prophetThreshold ∧ prophetThreshold ≤ 1) ∧
    (0 ≤ isolationForestThreshold ∧ isolationForestThreshold ≤ 1)
  metricThresholds : String

def tuned (settings : Settings) (tuning : Tuning) : Settings :=
  { settings with
    consensusMinDetectors := tuning.consensusMinDetectors
    consensusMinDetectors_ge := tuning.consensusMinDetectors_ge
    zscoreThreshold := tuning.zscoreThreshold
    iqrThreshold := tuning.iqrThreshold
    prophetThreshold := tuning.prophetThreshold
    isolationForestThreshold := tuning.isolationForestThreshold
    thresholds_mem := tuning.thresholds_mem
    metricThresholds := tuning.metricThresholds }

/-!
# Results that correspond
-/

def Both {α β : Type} (R : α -> β -> Prop) :
    Except PyError α -> Except PyError β -> Prop
  | .ok a, .ok b => R a b
  | .error e, .error e' => e = e'
  | _, _ => False

section Both

variable {α β γ δ : Type} {R : α -> β -> Prop} {S : γ -> δ -> Prop}

theorem both_of_eq {x : Except PyError α} {R : α -> α -> Prop} (h : forall a, R a a) :
    Both R x x := by
  cases x with
  | error e =>
      rfl
  | ok a =>
      exact h a

theorem Both.bind {x : Except PyError α} {y : Except PyError β}
    {f : α -> Except PyError γ} {g : β -> Except PyError δ} (h : Both R x y)
    (hnext : forall a b, R a b -> Both S (f a) (g b)) : Both S (x >>= f) (y >>= g) := by
  cases x with
  | error e =>
      cases y with
      | error e' =>
          exact h
      | ok b =>
          exact h.elim
  | ok a =>
      cases y with
      | error e' =>
          exact h.elim
      | ok b =>
          exact hnext a b h

end Both

def Harder (t t' : PyFloat) : Prop :=
  forall score : PyFloat, t' ≤ score -> t ≤ score

theorem harder_of_le {p q : Rat} (h : p ≤ q) :
    Harder (Double.ofExact p) (Double.ofExact q) :=
  fun _ hscore => Double.le_trans (Double.ofExact_mono h) hscore

/-- The quorum and the threshold of every task are at least what they were. -/
structure Tightens (lib : Libraries) (settings : Settings) (tuning : Tuning) : Prop where
  quorum : settings.consensusMinDetectors ≤ tuning.consensusMinDetectors
  thresholds : forall task, Both Harder (taskThreshold lib settings task)
    (taskThreshold lib (tuned settings tuning) task)

theorem resolveThreshold_tuned {host : Host} {settings : Settings} {tuning : Tuning}
    (htext : tuning.metricThresholds = settings.metricThresholds) {p q : Rat} (h : p ≤ q)
    (metricName detectorKey : String) :
    Both Harder (resolveThreshold host settings metricName detectorKey (Double.ofExact p))
      (resolveThreshold host (tuned settings tuning) metricName detectorKey
        (Double.ofExact q)) := by
  unfold resolveThreshold
  rw [show (tuned settings tuning).metricThresholds = settings.metricThresholds from htext]
  cases parse host settings.metricThresholds with
  | error e =>
      rfl
  | ok pairs =>
      show Harder ((firstOverride metricName detectorKey pairs).getD (Double.ofExact p))
        ((firstOverride metricName detectorKey pairs).getD (Double.ofExact q))
      cases firstOverride metricName detectorKey pairs with
      | none =>
          exact harder_of_le h
      | some override =>
          exact fun _ hscore => hscore

theorem tightens_of_le (lib : Libraries) {settings : Settings} {tuning : Tuning}
    (hquorum : settings.consensusMinDetectors ≤ tuning.consensusMinDetectors)
    (htext : tuning.metricThresholds = settings.metricThresholds)
    (hzscore : settings.zscoreThreshold ≤ tuning.zscoreThreshold)
    (hiqr : settings.iqrThreshold ≤ tuning.iqrThreshold)
    (hprophet : settings.prophetThreshold ≤ tuning.prophetThreshold)
    (hforest : settings.isolationForestThreshold ≤ tuning.isolationForestThreshold) :
    Tightens lib settings tuning where
  quorum := hquorum
  thresholds := by
    intro task
    cases task with
    | runStatistical metricName method tenant =>
        apply resolveThreshold_tuned htext
        unfold defaultThreshold
        split
        · exact hzscore
        · exact hiqr
        · exact hprophet
        · exact hforest
        · exact hzscore
    | runIsolationForest metricName tenant =>
        exact resolveThreshold_tuned htext hforest metricName _
    | runProphet metricName tenant =>
        exact resolveThreshold_tuned htext hprophet metricName _

/-!
# Attempts

The tuning does not change what a task is fitted on, what it stores or whether
it raises.  It reports a part of what it would have reported.
-/

section Attempts

variable {lib : Libraries} {settings : Settings} {tuning : Tuning}

/-- The second report has a part of the anomalies of the first, in their order. -/
def Fewer (report report' : DetectorReport) : Prop :=
  (report'.anomalies.getD []).Sublist (report.anomalies.getD [])

def Part {α : Type} (xs ys : List α) : Prop :=
  ys.Sublist xs

theorem pointsAtOrAbove_harder {t t' : PyFloat} (h : Harder t t') (series : Series Rat)
    (scores : Scores Rat) :
    (pointsAtOrAbove t' series scores).Sublist (pointsAtOrAbove t series scores) := by
  apply List.monotone_filter_right
  intro p hp
  exact decide_eq_true (h p.2 (of_decide_eq_true hp))

theorem detect_statistical_harder {t t' : PyFloat} (h : Harder t t')
    (detector : StatisticalDetector Rat) (series : Series Rat) (metricName : String) :
    Both Part (detector.detectWith Double.nearest lib.math lib.stl series metricName t)
      (detector.detectWith Double.nearest lib.math lib.stl series metricName t') := by
  unfold StatisticalDetector.detectWith
  cases detector.score lib.math lib.stl series with
  | error e =>
      rfl
  | ok scores =>
      exact (pointsAtOrAbove_harder h series _).map _

theorem detect_prophet_harder {t t' : PyFloat} (h : Harder t t')
    (detector : ProphetDetector Rat) (series : Series Rat) (metricName : String) :
    Both Part (detector.detectWith Double.nearest series metricName t)
      (detector.detectWith Double.nearest series metricName t') := by
  unfold ProphetDetector.detectWith
  cases detector.score series with
  | error e =>
      rfl
  | ok scores =>
      exact (pointsAtOrAbove_harder h series _).map _

theorem detect_isolationForest_harder {t t' : PyFloat} (h : Harder t t')
    (detector : IsolationForestDetector Rat) (series : Series Rat) (metricName : String) :
    Both Part (detector.detectWith Double.nearest lib.math series metricName t)
      (detector.detectWith Double.nearest lib.math series metricName t') := by
  unfold IsolationForestDetector.detectWith
  cases detector.score lib.math series with
  | error e =>
      rfl
  | ok scores =>
      dsimp only
      cases detector.decisionFunction lib.math series with
      | error e =>
          rfl
      | ok raw =>
          apply List.Sublist.map
          apply List.monotone_filter_right
          intro p hp
          rcases of_decide_eq_true hp with hscore | hpredicted
          · exact decide_eq_true (Or.inl (h p.2.1 hscore))
          · exact decide_eq_true (Or.inr hpredicted)

theorem detectorTask_fewer {δ : Type} (tooFew : Bool) (nothing : DetectorReport)
    (fit : Except PyError δ) {threshold threshold' : Except PyError PyFloat}
    {detect : δ -> PyFloat -> Except PyError (List (AnomalyResult Rat))}
    {report : List (AnomalyResult Rat) -> DetectorReport}
    (hthreshold : Both Harder threshold threshold')
    (hdetect : forall detector t t', Harder t t' ->
      Both Part (detect detector t) (detect detector t'))
    (hreport : forall xs ys, Part xs ys -> Fewer (report xs) (report ys)) :
    Both Fewer (detectorTask tooFew nothing fit threshold detect report)
      (detectorTask tooFew nothing fit threshold' detect report) := by
  unfold detectorTask
  cases tooFew with
  | true =>
      exact List.Sublist.refl _
  | false =>
      apply (@both_of_eq δ fit Eq fun _ => rfl).bind
      intro detector detector' hsame
      rw [hsame]
      apply hthreshold.bind
      intro t t' hharder
      apply (hdetect detector' t t' hharder).bind
      intro xs ys hpart
      exact hreport xs ys hpart

theorem attempt_fewer (h : Tightens lib settings tuning) (stored : StoredModel)
    (series : Series Rat) (task : Signature) :
    Both Fewer (attempt lib settings stored series task)
      (attempt lib (tuned settings tuning) stored series task) := by
  have hthreshold := h.thresholds task
  cases task with
  | runStatistical metricName method tenant =>
      apply detectorTask_fewer _ _ _ hthreshold
      · intro detector t t' hharder
        exact detect_statistical_harder hharder detector _ metricName
      · intro xs ys hpart
        exact List.Sublist.map _ hpart
  | runIsolationForest metricName tenant =>
      apply detectorTask_fewer _ _ _ hthreshold
      · intro detector t t' hharder
        exact detect_isolationForest_harder hharder detector _ metricName
      · intro xs ys hpart
        exact List.Sublist.map _ hpart
  | runProphet metricName tenant =>
      apply detectorTask_fewer _ _ _ hthreshold
      · intro detector t t' hharder
        exact detect_prophet_harder hharder detector _ metricName
      · intro xs ys hpart
        exact List.Sublist.map _ hpart

/-- What a task stores is fitted before it looks at a threshold. -/
theorem handedOver_tuned (stored : StoredModel) (series : Series Rat) (task : Signature) :
    handedOver lib (tuned settings tuning) stored series task =
      handedOver lib settings stored series task := by
  cases task with
  | runStatistical metricName method tenant =>
      show (runStatisticalOn lib (tuned settings tuning) _ _ _ _ _).persisted =
        (runStatisticalOn lib settings _ _ _ _ _).persisted
      have hreuse : forall store (detector : StatisticalDetector Rat),
          reuse (tuned settings tuning) store detector = reuse settings store detector :=
        fun _ _ => rfl
      have hmode : (tuned settings tuning).scoringMode = settings.scoringMode := rfl
      unfold runStatisticalOn
      rw [hmode]
      simp only [hreuse]
      by_cases hempty : series.points = []
      · rw [if_pos hempty, if_pos hempty]
      · rw [if_neg hempty, if_neg hempty]
        cases StatisticalDetector.make (K := Rat) method settings.scoringMode with
        | error e =>
            rfl
        | ok detector =>
            dsimp only
            split
            · rfl
            · rfl
            · split <;> rfl
  | runIsolationForest metricName tenant =>
      rfl
  | runProphet metricName tenant =>
      rfl

end Attempts

/-!
# Chords
-/

def Progress.Fewer : Progress -> Progress -> Prop
  | .waiting retries, .waiting retries' => retries = retries'
  | .done result, .done result' => Both Workers.Fewer result result'
  | _, _ => False

theorem Progress.Fewer.isWaiting {progress progress' : Progress}
    (h : progress.Fewer progress') : progress'.isWaiting = progress.isWaiting := by
  cases progress <;> cases progress' <;> first | rfl | exact h.elim

theorem raises_of_both {result result' : Attempt} (h : Both Fewer result result') :
    raises result' = raises result := by
  cases result <;> cases result' <;> first | rfl | exact h.elim

theorem Progress.Fewer.after {progress progress' : Progress} (h : progress.Fewer progress')
    {result result' : Attempt} (hresult : Both Workers.Fewer result result') :
    (progress.after result).Fewer (progress'.after result') := by
  cases progress with
  | done earlier =>
      cases progress' with
      | done earlier' =>
          exact h
      | waiting retries' =>
          exact h.elim
  | waiting retries =>
      cases progress' with
      | done earlier' =>
          exact h.elim
      | waiting retries' =>
          have hretries : retries = retries' := h
          rw [← hretries]
          cases retries with
          | zero =>
              exact hresult
          | succ retries =>
              simp only [Progress.after, raises_of_both hresult]
              split
              · rfl
              · exact hresult

namespace Chord

def Fewer (chord chord' : Chord) : Prop :=
  List.Forall₂ (fun entry entry' => entry.1 = entry'.1 ∧ entry.2.Fewer entry'.2) chord chord'

theorem fewer_ofTasks (tasks : List Signature) : (ofTasks tasks).Fewer (ofTasks tasks) := by
  unfold Fewer ofTasks
  rw [List.forall₂_map_left_iff, List.forall₂_map_right_iff]
  exact List.forall₂_same.mpr fun _ _ => ⟨rfl, rfl⟩

theorem Fewer.waits {chord chord' : Chord} (h : chord.Fewer chord') (task : Signature) :
    chord'.waits task = chord.waits task := by
  unfold Chord.waits
  induction h with
  | nil =>
      rfl
  | cons hentry _ ih =>
      rw [List.any_cons, List.any_cons, ih, hentry.1, hentry.2.isWaiting]

theorem Fewer.record {chord chord' : Chord} (h : chord.Fewer chord') (task : Signature)
    {result result' : Attempt} (hresult : Both Workers.Fewer result result') :
    (chord.record task result).Fewer (chord'.record task result') := by
  unfold Fewer Chord.record
  rw [List.forall₂_map_left_iff, List.forall₂_map_right_iff]
  apply List.Forall₂.imp _ h
  intro entry entry' hentry
  rw [← hentry.1]
  by_cases htask : entry.1 = task
  · rw [if_pos htask, if_pos htask]
    exact ⟨rfl, hentry.2.after hresult⟩
  · rw [if_neg htask, if_neg htask]
    exact hentry

theorem Fewer.results {chord chord' : Chord} (h : chord.Fewer chord') :
    (chord.results = none ∧ chord'.results = none) ∨
      exists reports reports', chord.results = some reports ∧
        chord'.results = some reports' ∧
        (allAnomalies reports').Sublist (allAnomalies reports) := by
  induction h with
  | nil =>
      exact Or.inr ⟨[], [], rfl, rfl, List.Sublist.refl _⟩
  | @cons entry entry' rest rest' hentry _ ih =>
      rcases entry with ⟨task, progress⟩
      rcases entry' with ⟨task', progress'⟩
      have hprogress : progress.Fewer progress' := hentry.2
      cases progress with
      | waiting retries =>
          cases progress' with
          | waiting retries' =>
              exact Or.inl ⟨rfl, rfl⟩
          | done result' =>
              exact hprogress.elim
      | done result =>
          cases progress' with
          | waiting retries' =>
              exact hprogress.elim
          | done result' =>
              cases result with
              | error e =>
                  cases result' with
                  | error e' =>
                      exact Or.inl ⟨rfl, rfl⟩
                  | ok report' =>
                      exact hprogress.elim
              | ok report =>
                  cases result' with
                  | error e' =>
                      exact hprogress.elim
                  | ok report' =>
                      have hreport : Workers.Fewer report report' := hprogress
                      rcases ih with ⟨hnone, hnone'⟩ |
                        ⟨reports, reports', hsome, hsome', hpart⟩
                      · left
                        simp only [Chord.results, hnone, hnone', Option.map_none, and_self]
                      · right
                        refine ⟨.report report :: reports, .report report' :: reports', ?_,
                          ?_, hreport.append hpart⟩
                        · simp only [Chord.results, hsome, Option.map_some]
                        · simp only [Chord.results, hsome', Option.map_some]

end Chord

/-!
# Aggregations
-/

def fingerprintOf (a : Anomaly) : String :=
  a.fingerprint.getD ""

section Aggregation

variable {lib : Libraries} {settings : Settings} {tuning : Tuning} {host : Host}
  {now : Rat} {redis : Redis} {results : List TaskResult} {fp : String}

theorem toClaim_tuned (h : Tightens lib settings tuning) {results' : List TaskResult}
    (hpart : (allAnomalies results').Sublist (allAnomalies results)) :
    (toClaim host (tuned settings tuning) results').Sublist
      (toClaim host settings results) := by
  unfold toClaim confirmed
  exact (quorum_mono hpart _).trans (quorum_antitone h.quorum _)

theorem count_stamped (claimed : List Anomaly) :
    ((claimed.map (stampOf host settings)).map fingerprintOf).count fp =
      (claimed.map (keyOf host settings)).count (keyPrefix ++ fp) := by
  have hkeys : claimed.map (keyOf host settings) =
      ((claimed.map (stampOf host settings)).map fingerprintOf).map (keyPrefix ++ ·) := by
    rw [List.map_map, List.map_map]
    rfl
  have hinjective : Function.Injective (keyPrefix ++ ·) :=
    fun _ _ heq => String.append_right_inj keyPrefix |>.mp heq
  rw [hkeys, List.count_map_of_injective _ _ hinjective]

theorem outcome_grants (hready : (AlertDeduplicator.ofSettings settings).CanClaim now)
    (hkeyed : forall a, a ∈ allAnomalies results -> a.HasKey host) :
    ((outcome host settings now redis results .never).queue.map fingerprintOf).count fp =
        redis.grants (keyOf host settings) now (now + settings.alertCooldownSeconds)
          (keyPrefix ++ fp) (toClaim host settings results) ∧
      (outcome host settings now redis results .never).redis =
        (claims host settings now redis (toClaim host settings results)).2 := by
  rw [outcome_of_hasKey hready.width hkeyed, complete_enter hready (toClaim_hasKey hkeyed)]
  exact ⟨count_stamped _, rfl⟩

end Aggregation

/-!
# Runs
-/

namespace Installation

def Event.completes : Event -> Bool
  | .callback _ _ .never => true
  | .callback _ _ _ => false
  | _ => true

def Event.claimTime : Event -> Option Rat
  | .callback _ now _ => some now
  | _ => none

def dispatched (lib : Libraries) (settings : Settings) (s : Installation) :
    Event -> List Anomaly
  | .callback id now failure =>
      match (s.chords id).results with
      | none => []
      | some results => (outcome lib.host settings now s.redis results failure).queue
  | _ => []

/-- The fingerprints of the alert tasks that a run enqueues, in order. -/
def alertedOn (lib : Libraries) (settings : Settings) (collation : Collation)
    (s : Installation) (events : List Event) : List String :=
  (emitted (step lib settings collation) (dispatched lib settings) s events).map
    fingerprintOf

/--
The second installation has the same points and models, fewer reports, and has
dispatched no more alert tasks of the fingerprint.
-/
structure Quieter (lib : Libraries) (settings : Settings) (fp : String) (now : Rat)
    (n n' : Nat) (s t : Installation) : Prop where
  metrics : s.db.metrics = t.db.metrics
  models : s.db.models = t.db.models
  chords : forall id, (s.chords id).Fewer (t.chords id)
  reported : s.Reported lib.host
  reported' : t.Reported lib.host
  redis : Leads (settings.alertCooldownSeconds : Rat) now (keyPrefix ++ fp) n n'
    s.redis t.redis

section Runs

variable {lib : Libraries} {settings : Settings} {tuning : Tuning} {fp : String}
  {now : Rat} {n n' : Nat} {s t : Installation}

theorem tables_exec (host : Host) (settings : Settings) (tuning : Tuning)
    (collation : Collation) {db db' : Database} (hmetrics : db.metrics = db'.metrics)
    (hmodels : db.models = db'.models) (r : Storage.Request) :
    (exec host settings collation db r).2.metrics =
        (exec host (tuned settings tuning) collation db' r).2.metrics ∧
      (exec host settings collation db r).2.models =
        (exec host (tuned settings tuning) collation db' r).2.models := by
  rcases r with ⟨asked, op⟩
  cases op with
  | bulkInsert points tenant =>
      show (bulkInsert db points tenant).2.metrics = (bulkInsert db' points tenant).2.metrics ∧
        (bulkInsert db points tenant).2.models = (bulkInsert db' points tenant).2.models
      unfold bulkInsert
      cases metricRows tenant points with
      | none =>
          exact ⟨hmetrics, hmodels⟩
      | some rows =>
          exact ⟨congrArg (· ++ rows) hmetrics, hmodels⟩
  | persistAlert alertId anomaly routedTo =>
      show (persistAlert host db asked alertId anomaly routedTo).2.metrics =
          (persistAlert host db' asked alertId anomaly routedTo).2.metrics ∧
        (persistAlert host db asked alertId anomaly routedTo).2.models =
          (persistAlert host db' asked alertId anomaly routedTo).2.models
      unfold persistAlert
      cases alertParams host anomaly routedTo with
      | error e =>
          exact ⟨hmetrics, hmodels⟩
      | ok params =>
          exact ⟨hmetrics, hmodels⟩
  | persistDetectorModel metricName detectorType parameters tenant =>
      show (persistDetectorModel db asked metricName detectorType parameters
            tenant).2.metrics =
          (persistDetectorModel db' asked metricName detectorType parameters
            tenant).2.metrics ∧
        (persistDetectorModel db asked metricName detectorType parameters tenant).2.models =
          (persistDetectorModel db' asked metricName detectorType parameters
            tenant).2.models
      unfold persistDetectorModel
      split
      · exact ⟨hmetrics, congrArg (upsert ModelRow.key _) hmodels⟩
      · exact ⟨hmetrics, hmodels⟩
  | _ =>
      exact ⟨hmetrics, hmodels⟩

/-- A task finds the same in both, stores the same, and reports fewer anomalies. -/
theorem execTask_fewer (htightens : Tightens lib settings tuning) {db db' : Database}
    (hmetrics : db.metrics = db'.metrics) (hmodels : db.models = db'.models)
    (asked : Instant) (task : Signature) :
    Both Fewer (execTask lib settings asked db task).1
        (execTask lib (tuned settings tuning) asked db' task).1 ∧
      (execTask lib settings asked db task).2.models =
        (execTask lib (tuned settings tuning) asked db' task).2.models := by
  have hseries : fetchSeries (tuned settings tuning) db' asked task.metricName none
      task.tenant = fetchSeries settings db asked task.metricName none task.tenant := by
    unfold fetchSeries
    rw [hmetrics]
    rfl
  have hstored : storedModel (tuned settings tuning) asked lib.host db' task =
      storedModel settings asked lib.host db task :=
    storedModel_congr (by rw [hmodels]) lib.host asked
  constructor
  · show Both Fewer (attempt lib settings (storedModel settings asked lib.host db task)
        (fetchSeries settings db asked task.metricName none task.tenant) task)
      (attempt lib (tuned settings tuning)
        (storedModel (tuned settings tuning) asked lib.host db' task)
        (fetchSeries (tuned settings tuning) db' asked task.metricName none task.tenant) task)
    rw [hseries, hstored]
    exact attempt_fewer htightens _ _ task
  · rw [execTask_snd, execTask_snd]
    unfold stateOf
    rw [handedOver_tuned, hseries, hstored, hmodels]

theorem fewer_update {chords chords' : Nat -> Chord}
    (h : forall id, (chords id).Fewer (chords' id)) (id : Nat) {chord chord' : Chord}
    (hchord : chord.Fewer chord') (i : Nat) :
    (Function.update chords id chord i).Fewer (Function.update chords' id chord' i) := by
  by_cases hi : i = id
  · rw [hi, Function.update_self, Function.update_self]
    exact hchord
  · rw [Function.update_of_ne hi, Function.update_of_ne hi]
    exact h i

theorem Quieter.execute (htightens : Tightens lib settings tuning)
    (h : Quieter lib settings fp now n n' s t) (id : Nat) (task : Signature)
    (asked : Instant) :
    Quieter lib settings fp now n n' (s.execute lib settings id task asked)
      (t.execute lib (tuned settings tuning) id task asked) := by
  have hreported := @reported_execute lib settings s h.reported id task asked
  have hreported' := @reported_execute lib (tuned settings tuning) t h.reported' id task
    asked
  have hwaits := (h.chords id).waits task
  rcases execTask_fewer htightens h.metrics h.models asked task with ⟨hresult, hmodels⟩
  unfold Installation.execute at hreported hreported' ⊢
  by_cases hwaiting : (s.chords id).waits task = true
  · rw [if_pos hwaiting] at hreported ⊢
    rw [if_pos (hwaits.trans hwaiting)] at hreported' ⊢
    refine ⟨?_, hmodels, ?_, hreported, hreported', h.redis⟩
    · exact ((execTask_frame asked s.db task).1.trans h.metrics).trans
        (execTask_frame asked t.db task).1.symm
    · exact fewer_update h.chords id ((h.chords id).record task hresult)
  · rw [if_neg hwaiting]
    rw [if_neg fun hwaiting' => hwaiting (hwaits.symm.trans hwaiting')]
    exact h

theorem hasKey_of_results (hreads : ReadsInstants lib.host) (h : s.Reported lib.host)
    {id : Nat} {reports : List TaskResult} (hresults : (s.chords id).results = some reports)
    {a : Anomaly} (ha : a ∈ allAnomalies reports) : a.HasKey lib.host := by
  rw [Chord.allAnomalies_results hresults] at ha
  rcases (h id).of_mem_reported ha with ⟨task, hreported⟩
  exact hreported.hasKey hreads

theorem Quieter.callback (hreads : ReadsInstants lib.host)
    (htightens : Tightens lib settings tuning) (h : Quieter lib settings fp now n n' s t)
    (id : Nat) {later : Rat} (hle : now ≤ later) :
    Quieter lib settings fp later
      (n + ((dispatched lib settings s (.callback id later .never)).map
        fingerprintOf).count fp)
      (n' + ((dispatched lib (tuned settings tuning) t (.callback id later .never)).map
        fingerprintOf).count fp)
      (s.callback lib settings id later .never)
      (t.callback lib (tuned settings tuning) id later .never) := by
  have hreported : (s.callback lib settings id later .never).Reported lib.host :=
    every_callback h.reported id later .never
  have hreported' :
      (t.callback lib (tuned settings tuning) id later .never).Reported lib.host :=
    every_callback h.reported' id later .never
  have hlater := h.redis.later hle
  unfold Installation.callback at hreported hreported' ⊢
  unfold dispatched
  rcases (h.chords id).results with ⟨hnone, hnone'⟩ |
    ⟨reports, reports', hresults, hresults', hpart⟩
  · simp only [hnone, hnone', List.map_nil, List.count_nil, Nat.add_zero]
    exact ⟨h.metrics, h.models, h.chords, h.reported, h.reported', hlater⟩
  · simp only [hresults, hresults'] at hreported hreported' ⊢
    refine ⟨h.metrics, h.models, fewer_update h.chords id .nil, hreported, hreported', ?_⟩
    have hkeyed := fun a => @hasKey_of_results lib s hreads h.reported id _ hresults a
    have hkeyed' := fun a => @hasKey_of_results lib t hreads h.reported' id _ hresults' a
    by_cases hready : (AlertDeduplicator.ofSettings settings).CanClaim later
    · have hgrants := @outcome_grants settings lib.host later s.redis reports fp hready hkeyed
      have hgrants' := @outcome_grants (tuned settings tuning) lib.host later t.redis
        reports' fp hready hkeyed'
      dsimp only
      rw [hgrants.1, hgrants.2, hgrants'.1, hgrants'.2]
      apply hlater.claimAll (keyOf lib.host settings) (Int.cast_pos.mpr hready.cooldown.1)
      intro hkey
      exact ((toClaim_tuned htightens hpart).map (keyOf lib.host settings)).subset hkey
    · rcases @outcome_of_not_canClaim lib.host settings later s.redis reports hready .never
        with ⟨phase, hrun⟩
      rcases @outcome_of_not_canClaim lib.host (tuned settings tuning) later t.redis reports'
        hready .never with ⟨phase', hrun'⟩
      dsimp only
      rw [hrun, hrun']
      exact hlater

theorem storeAlert_tables (host : Host) (asked : Instant) (alertId : Int)
    (anomaly : Anomaly) (accepted : Option (List String)) (db : Database) :
    (storeAlert host asked alertId anomaly accepted db).metrics = db.metrics ∧
      (storeAlert host asked alertId anomaly accepted db).models = db.models := by
  cases accepted with
  | none =>
      exact ⟨rfl, rfl⟩
  | some sinks =>
      unfold storeAlert persistAlert
      dsimp only
      split <;> exact ⟨rfl, rfl⟩

theorem route_tables (s : Installation) (anomaly : Anomaly) (asked : Instant)
    (alertId : Int) (handling : Handling) :
    (s.route lib anomaly asked alertId handling).db.metrics = s.db.metrics ∧
      (s.route lib anomaly asked alertId handling).db.models = s.db.models := by
  rw [route_eq]
  dsimp only
  split
  · exact storeAlert_tables lib.host asked alertId anomaly handling.accepted s.db
  · exact ⟨rfl, rfl⟩

theorem Quieter.route (h : Quieter lib settings fp now n n' s t) (anomaly : Anomaly)
    (asked : Instant) (alertId : Int) (handling : Handling) :
    Quieter lib settings fp now n n' (s.route lib anomaly asked alertId handling)
      (t.route lib anomaly asked alertId handling) := by
  rcases @route_tables lib s anomaly asked alertId handling with ⟨hmetrics, hmodels⟩
  rcases @route_tables lib t anomaly asked alertId handling with ⟨hmetrics', hmodels'⟩
  refine ⟨(hmetrics.trans h.metrics).trans hmetrics'.symm,
    (hmodels.trans h.models).trans hmodels'.symm, ?_, ?_, ?_, ?_⟩
  · rw [route_eq, route_eq]
    exact h.chords
  · rw [route_eq]
    exact h.reported
  · rw [route_eq]
    exact h.reported'
  · rw [route_eq, route_eq]
    exact h.redis

theorem Quieter.step (hreads : ReadsInstants lib.host)
    (htightens : Tightens lib settings tuning) (collation : Collation)
    (h : Quieter lib settings fp now n n' s t) {e : Event} (hcompletes : e.completes = true)
    (hclock : forall later, e.claimTime = some later -> now ≤ later) :
    Quieter lib settings fp (e.claimTime.getD now)
      (n + ((dispatched lib settings s e).map fingerprintOf).count fp)
      (n' + ((dispatched lib (tuned settings tuning) t e).map fingerprintOf).count fp)
      (step lib settings collation s e).2
      (step lib (tuned settings tuning) collation t e).2 := by
  cases e with
  | request r =>
      rcases tables_exec lib.host settings tuning collation h.metrics h.models r with
        ⟨hmetrics, hmodels⟩
      exact ⟨hmetrics, hmodels, h.chords, h.reported, h.reported', h.redis⟩
  | beat id asked =>
      have htasks : allTasks (listActiveMetricsSync t.db asked 1) =
          allTasks (listActiveMetricsSync s.db asked 1) := by
        unfold listActiveMetricsSync
        rw [h.metrics]
      refine ⟨h.metrics, h.models, ?_, reported_step collation h.reported (.beat id asked),
        reported_step collation h.reported' (.beat id asked), h.redis⟩
      apply fewer_update h.chords id
      rw [htasks]
      exact Chord.fewer_ofTasks _
  | execute id task asked =>
      exact h.execute htightens id task asked
  | callback id later failure =>
      cases failure with
      | never =>
          exact h.callback hreads htightens id (hclock later rfl)
      | redisRaises k =>
          cases hcompletes
      | brokerRaises k =>
          cases hcompletes
      | workerLost k delay =>
          cases hcompletes
  | route anomaly asked alertId handling =>
      exact h.route anomaly asked alertId handling

theorem alertedOn_cons (settings : Settings) (collation : Collation) (s : Installation)
    (e : Event) (events : List Event) :
    alertedOn lib settings collation s (e :: events) =
      (dispatched lib settings s e).map fingerprintOf ++
        alertedOn lib settings collation (Installation.step lib settings collation s e).2
          events := by
  unfold alertedOn
  rw [emitted, List.map_append]

theorem Quieter.run (hreads : ReadsInstants lib.host)
    (htightens : Tightens lib settings tuning) (collation : Collation)
    (events : List Event) :
    forall {now : Rat} {n n' : Nat} {s t : Installation},
      Quieter lib settings fp now n n' s t ->
      (forall e, e ∈ events -> e.completes = true) ->
      (now :: events.filterMap Event.claimTime).Pairwise (· ≤ ·) ->
        n' + (alertedOn lib (tuned settings tuning) collation t events).count fp ≤
          n + (alertedOn lib settings collation s events).count fp := by
  induction events with
  | nil =>
      intro now n n' s t h _ _
      exact h.redis.le
  | cons e rest ih =>
      intro now n n' s t h hcompletes hclock
      have hstart : forall later, e.claimTime = some later -> now ≤ later := by
        intro later hlater
        apply (List.pairwise_cons.mp hclock).1
        rw [List.filterMap_cons_some hlater]
        exact List.mem_cons_self
      have hrest : (e.claimTime.getD now :: rest.filterMap Event.claimTime).Pairwise
          (· ≤ ·) := by
        cases hlater : e.claimTime with
        | none =>
            rw [List.filterMap_cons_none hlater] at hclock
            exact hclock
        | some later =>
            rw [List.filterMap_cons_some hlater] at hclock
            exact (List.pairwise_cons.mp hclock).2
      have hnext := ih (h.step hreads htightens collation (hcompletes e List.mem_cons_self)
        hstart) (fun f hf => hcompletes f (List.mem_cons_of_mem e hf)) hrest
      rw [alertedOn_cons, alertedOn_cons, List.count_append, List.count_append,
        ← Nat.add_assoc, ← Nat.add_assoc]
      exact hnext

/--
Raising thresholds and the quorum never adds an alert: whatever is ingested,
whichever tasks fail and however the sweeps overlap, the fingerprints that the
tuned installation alerts on are among those of the untuned one, counted with
their repetitions.
-/
theorem tightened_alerts_less (hreads : ReadsInstants lib.host)
    (htightens : Tightens lib settings tuning) (collation : Collation) (db : Database)
    (events : List Event) (hcompletes : forall e, e ∈ events -> e.completes = true)
    (hclock : (events.filterMap Event.claimTime).Pairwise (· ≤ ·)) :
    (alertedOn lib (tuned settings tuning) collation { db := db } events).Subperm
      (alertedOn lib settings collation { db := db } events) := by
  apply List.subperm_ext_iff.mpr
  intro fp _
  have hfirst : exists now : Rat,
      (now :: events.filterMap Event.claimTime).Pairwise (· ≤ ·) := by
    cases htimes : events.filterMap Event.claimTime with
    | nil =>
        exact ⟨0, List.pairwise_singleton _ _⟩
    | cons first later =>
        rw [htimes] at hclock
        refine ⟨first, List.pairwise_cons.mpr ⟨?_, hclock⟩⟩
        intro t ht
        rcases List.mem_cons.mp ht with heq | ht
        · exact le_of_eq heq.symm
        · exact (List.pairwise_cons.mp hclock).1 t ht
  rcases hfirst with ⟨now, hordered⟩
  have hstart : Quieter lib settings fp now 0 0 { db := db } { db := db } :=
    ⟨rfl, rfl, fun _ => .nil, fun _ => Chord.every_nil _, fun _ => Chord.every_nil _,
      leads_empty⟩
  have hcount := hstart.run hreads htightens collation events hcompletes hordered
  rw [Nat.zero_add, Nat.zero_add] at hcount
  exact hcount

end Runs

def calm : Tuning where
  consensusMinDetectors := 2
  consensusMinDetectors_ge := by decide
  zscoreThreshold := Settings.defaults.zscoreThreshold
  iqrThreshold := Settings.defaults.iqrThreshold
  prophetThreshold := Settings.defaults.prophetThreshold
  isolationForestThreshold := Settings.defaults.isolationForestThreshold
  thresholds_mem := Settings.defaults.thresholds_mem
  metricThresholds := ""

theorem tightened_alerts_less_twoTenants :
    alertedOn punctual touchySettings (fun _ _ => true) {} twoTenants =
        ["90f290369794", "327026f9cbd5"] ∧
      (alertedOn punctual (tuned touchySettings calm) (fun _ _ => true) {}
          twoTenants).Subperm
        (alertedOn punctual touchySettings (fun _ _ => true) {} twoTenants) :=
  ⟨by decide +kernel,
    tightened_alerts_less punctual_readsInstants
      (tightens_of_le punctual (by decide) rfl (by decide +kernel) (le_refl _) (le_refl _)
        (le_refl _)) _ {} twoTenants (by decide) (by decide +kernel)⟩

end Installation

end Workers
end MetricMesh
