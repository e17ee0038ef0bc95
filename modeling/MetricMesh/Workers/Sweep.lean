import MetricMesh.Foundation.Retry
import MetricMesh.Workers.Aggregate

/-!
# The detection sweep

The beat task dispatches three detector tasks for every active metric as the
header of one chord.  Each task retries on its own, and the callback of the
chord runs when every task of the header has succeeded, with all their results.
-/

namespace MetricMesh
namespace Workers

open Foundation
open Python
open Alerting

inductive Signature where
  | runStatistical (metricName method tenant : String)
  | runIsolationForest (metricName tenant : String)
  | runProphet (metricName tenant : String)
deriving DecidableEq

def Signature.metricName : Signature -> String
  | .runStatistical metricName _ _ => metricName
  | .runIsolationForest metricName _ => metricName
  | .runProphet metricName _ => metricName

def Signature.tenant : Signature -> String
  | .runStatistical _ _ tenant => tenant
  | .runIsolationForest _ tenant => tenant
  | .runProphet _ tenant => tenant

def Signature.maxRetries : Signature -> Nat
  | .runStatistical _ _ _ => 3
  | .runIsolationForest _ _ => 2
  | .runProphet _ _ => 2

def signaturesOf (pair : String × String) : List Signature :=
  [.runStatistical pair.2 "zscore" pair.1,
   .runIsolationForest pair.2 pair.1,
   .runProphet pair.2 pair.1]

/-- The header of the chord, for the active (tenant, metric) pairs. -/
def allTasks (pairs : List (String × String)) : List Signature :=
  pairs.flatMap signaturesOf

/-!
# Detector tasks

An attempt of a task returns a report or raises.  The task re-raises through
`self.retry` until its retries are used up, and what its last attempt did is
its outcome.
-/

abbrev Attempt : Type :=
  Except PyError DetectorReport

def raises : Attempt -> Bool
  | .ok _ => false
  | .error _ => true

/-- What each attempt of the task at each position of the header does. -/
abbrev Outcomes : Type :=
  Nat -> Nat -> Attempt

def taskOutcome (task : Signature) (attempts : Nat -> Attempt) : Attempt :=
  Retry.final attempts raises task.maxRetries 0

def headerFrom (outcomes : Outcomes) : Nat -> List Signature -> List Attempt
  | _, [] => []
  | position, task :: rest =>
      taskOutcome task (outcomes position) ::
        headerFrom outcomes (position + 1) rest

/-- The results of a header in which every task succeeded. -/
def chordResults : List Attempt -> Option (List TaskResult)
  | [] => some []
  | .error _ :: _ => none
  | .ok report :: rest =>
      match chordResults rest with
      | none => none
      | some results => some (.report report :: results)

def sweepHeader (pairs : List (String × String)) (outcomes : Outcomes) :
    List Attempt :=
  headerFrom outcomes 0 (allTasks pairs)

/--
What a sweep passes to `aggregate_and_alert`, or nothing when the callback does
not run.  Without active metrics there is no chord at all.
-/
def scheduleDetectionSweep (pairs : List (String × String))
    (outcomes : Outcomes) : Option (List TaskResult) :=
  if pairs = [] then none else chordResults (sweepHeader pairs outcomes)

/-- Every anomaly of a detector task that succeeded reaches the aggregation. -/
def NothingDropped (pairs : List (String × String)) (outcomes : Outcomes) : Prop :=
  forall report, Except.ok report ∈ sweepHeader pairs outcomes ->
    forall a, a ∈ report.anomalies.getD [] ->
      exists results, scheduleDetectionSweep pairs outcomes = some results ∧
        a ∈ allAnomalies results

/-!
# The chord
-/

theorem chordResults_of_ok {header : List Attempt}
    (h : forall t, t ∈ header -> raises t = false) :
    exists results, chordResults header = some results ∧
      forall report, Except.ok report ∈ header -> .report report ∈ results := by
  induction header with
  | nil =>
      exact ⟨[], rfl, by simp⟩
  | cons t rest ih =>
      rcases ih (fun u hu => h u (List.mem_cons_of_mem t hu)) with
        ⟨results, hrest, hreports⟩
      cases t with
      | error e =>
          have herror := h (.error e) List.mem_cons_self
          cases herror
      | ok report =>
          refine ⟨.report report :: results, ?_, ?_⟩
          · simp [chordResults, hrest]
          · intro r hr
            rcases List.mem_cons.mp hr with heq | hr
            · injection heq with heq
              rw [heq]
              exact List.mem_cons_self
            · exact List.mem_cons_of_mem _ (hreports r hr)

theorem chordResults_of_raises {header : List Attempt} {t : Attempt}
    (ht : t ∈ header) (h : raises t = true) : chordResults header = none := by
  induction header with
  | nil =>
      cases ht
  | cons u rest ih =>
      cases u with
      | error e =>
          rfl
      | ok report =>
          rcases List.mem_cons.mp ht with heq | ht
          · rw [heq] at h
            cases h
          · simp [chordResults, ih ht]

theorem mem_allAnomalies {report : DetectorReport} {results : List TaskResult}
    {a : Anomaly} (hreport : .report report ∈ results)
    (ha : a ∈ report.anomalies.getD []) : a ∈ allAnomalies results :=
  List.mem_flatMap.mpr ⟨.report report, hreport, ha⟩

theorem mem_headerFrom {outcomes : Outcomes} {t : Attempt}
    (tasks : List Signature) :
    forall position, t ∈ headerFrom outcomes position tasks <->
      exists k task, tasks[k]? = some task ∧
        t = taskOutcome task (outcomes (position + k)) := by
  induction tasks with
  | nil =>
      intro position
      simp [headerFrom]
  | cons task rest ih =>
      intro position
      rw [headerFrom, List.mem_cons, ih]
      constructor
      · intro h
        rcases h with heq | ⟨k, task', htask, heq⟩
        · exact ⟨0, task, rfl, heq⟩
        · refine ⟨k + 1, task', htask, ?_⟩
          rw [heq, Nat.add_assoc, Nat.add_comm 1 k]
      · intro h
        rcases h with ⟨k, task', htask, heq⟩
        cases k with
        | zero =>
            left
            injection htask with htask
            rw [heq, htask]
            rfl
        | succ k =>
            right
            refine ⟨k, task', htask, ?_⟩
            rw [heq, Nat.add_assoc, Nat.add_comm 1 k]

/-!
# When nothing is dropped

The callback runs exactly when no task of the header uses up its retries.  So
nothing is dropped when there is no such task, or when there is nothing to drop.
-/

def AllSucceed (pairs : List (String × String)) (outcomes : Outcomes) : Prop :=
  forall k task, (allTasks pairs)[k]? = some task ->
    exists j, j ≤ task.maxRetries ∧ raises (outcomes k j) = false

theorem allSucceed_iff (pairs : List (String × String)) (outcomes : Outcomes) :
    AllSucceed pairs outcomes <->
      forall t, t ∈ sweepHeader pairs outcomes -> raises t = false := by
  constructor
  · intro h t ht
    rcases (mem_headerFrom (allTasks pairs) 0).mp ht with ⟨k, task, htask, heq⟩
    rw [heq, Nat.zero_add]
    apply (Retry.final_succeeds_iff (outcomes k) raises task.maxRetries 0).mpr
    simpa using h k task htask
  · intro h k task htask
    have hmem : taskOutcome task (outcomes (0 + k)) ∈ sweepHeader pairs outcomes :=
      (mem_headerFrom (allTasks pairs) 0).mpr ⟨k, task, htask, rfl⟩
    have hok := h _ hmem
    rw [Nat.zero_add] at hok
    simpa using (Retry.final_succeeds_iff (outcomes k) raises task.maxRetries
      0).mp hok

theorem pairs_ne_nil {pairs : List (String × String)} {outcomes : Outcomes}
    {t : Attempt} (ht : t ∈ sweepHeader pairs outcomes) : pairs ≠ [] := by
  intro hnil
  rw [hnil] at ht
  cases ht

/--
A sweep drops no anomaly exactly when every dispatched task succeeds within its
retries, or no task that succeeds reports an anomaly.
-/
theorem nothingDropped_iff (pairs : List (String × String))
    (outcomes : Outcomes) :
    NothingDropped pairs outcomes <->
      AllSucceed pairs outcomes ∨
        forall report, Except.ok report ∈ sweepHeader pairs outcomes ->
          report.anomalies.getD [] = [] := by
  constructor
  · intro h
    by_cases hall : AllSucceed pairs outcomes
    · exact Or.inl hall
    · right
      intro report hreport
      -- Some task raised for good, so the callback did not run.
      have hnone : scheduleDetectionSweep pairs outcomes = none := by
        rw [allSucceed_iff] at hall
        simp only [not_forall] at hall
        rcases hall with ⟨t, ht, hraises⟩
        unfold scheduleDetectionSweep
        rw [if_neg (pairs_ne_nil ht)]
        exact chordResults_of_raises ht (by simpa using hraises)
      apply List.eq_nil_iff_forall_not_mem.mpr
      intro a ha
      rcases h report hreport a ha with ⟨results, hresults, _⟩
      rw [hnone] at hresults
      cases hresults
  · intro h report hreport a ha
    rcases h with hall | hnone
    · rcases chordResults_of_ok ((allSucceed_iff pairs outcomes).mp hall) with
        ⟨results, hresults, hreports⟩
      refine ⟨results, ?_, mem_allAnomalies (hreports report hreport) ha⟩
      unfold scheduleDetectionSweep
      rw [if_neg (pairs_ne_nil hreport)]
      exact hresults
    · rw [hnone report hreport] at ha
      cases ha

/-!
One active metric whose isolation forest keeps raising: the anomaly that the
statistical detector returned is dropped with it.
-/

def failingForest : Outcomes :=
  fun position _ =>
    match position with
    | 0 => .ok
        { metric := "cpu_usage", detector := "statistical",
          method := some "zscore",
          anomalies := some [Anomaly.spikeOf "acme" "cpu_usage"] }
    | 1 => .error .connectionError
    | _ => .ok { metric := "cpu_usage", detector := "prophet", anomalies := some [] }

theorem failingForest_drops :
    ¬ forall (pairs : List (String × String)) (outcomes : Outcomes),
      NothingDropped pairs outcomes := by
  intro h
  have hreport : Except.ok
      { metric := "cpu_usage", detector := "statistical",
        method := some "zscore",
        anomalies := some [Anomaly.spikeOf "acme" "cpu_usage"] } ∈
      sweepHeader [("acme", "cpu_usage")] failingForest :=
    List.mem_cons_self
  rcases h _ _ _ hreport _ List.mem_cons_self with ⟨results, hresults, _⟩
  have hnone : scheduleDetectionSweep [("acme", "cpu_usage")] failingForest =
      none := by
    decide
  rw [hnone] at hresults
  cases hresults

end Workers
end MetricMesh
