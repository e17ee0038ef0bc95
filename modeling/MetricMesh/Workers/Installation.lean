import MetricMesh.Storage.Isolation
import MetricMesh.Workers.Dispatch
import MetricMesh.Workers.ModelStore

/-!
# An installation

The store and the dedup keys, with everything that reads and writes them: the
tenants' requests, the sweeps of the beat scheduler, the executions of their
detector tasks, the aggregations, and the alert tasks.  Every one of these is an
event of its own, so the tasks of several sweeps and the requests interleave in
any way.
-/

namespace MetricMesh
namespace Workers

open Foundation
open Python
open Alerting
open Detection
open Storage

/-- The `detector_type` under which the task stores its model. -/
def Signature.detectorType : Signature -> String
  | .runStatistical _ method _ => method
  | .runIsolationForest _ _ => "isolation_forest"
  | .runProphet _ _ => "prophet"

/-!
# The tasks of a sweep against the store
-/

section Tasks

variable (lib : Libraries) (settings : Settings) (now : Instant)

/-- What the task finds when it looks its model up; text that does not decode raises. -/
def storedModel (host : Host) (db : Database) (task : Signature) : StoredModel :=
  match fetchDetectorModel host db now task.metricName task.detectorType
    settings.modelReuseMaxAgeSeconds task.tenant with
  | .error _ => .error .valueError
  | .ok found => .ok found

/-- The state that the task hands to the store. -/
def handedOver (stored : StoredModel) (series : Series Rat) : Signature -> Option Json
  | .runStatistical metricName method tenant =>
      (runStatisticalOn lib settings { fetch := stored } series metricName method
        tenant).persisted
  | .runIsolationForest _ _ =>
      if series.length < 10 then none
      else
        match fitIsolationForest lib settings (series.before (series.split 5)) with
        | .error _ => none
        | .ok detector => some detector.getState
  | .runProphet _ _ =>
      if series.length < 20 then none
      else
        match ProphetDetector.fit lib.prophet (series.before (series.split 10)) with
        | .error _ => none
        | .ok detector => some detector.getState

/-- Best effort: a state that the store refuses is logged and forgotten. -/
def storeModel (db : Database) (task : Signature) : Option Json -> Database
  | none => db
  | some state =>
      (persistDetectorModel db now task.metricName task.detectorType state task.tenant).2

/-- One execution of a task, in one step: executions of one model do not overlap. -/
def execTask (db : Database) (task : Signature) : Attempt × Database :=
  let series := fetchSeries settings db now task.metricName none task.tenant
  let stored := storedModel settings now lib.host db task
  (attempt lib settings stored series task,
    storeModel now db task (handedOver lib settings stored series task))

end Tasks

/-- How a `route_alert` task and its message end. -/
structure Handling where
  /-- The sinks that accept, if any do in one of the executions. -/
  accepted : Option (List String)
  /-- The worker is lost before it acknowledges the message, which is delivered again. -/
  workerLost : Bool := false
deriving DecidableEq

namespace Handling

variable (handling : Handling) (anomaly : Anomaly) (queue : List Anomaly)

def waiting : List Anomaly :=
  if handling.workerLost then queue else queue.erase anomaly

theorem mem_of_mem_waiting {a : Anomaly} (h : a ∈ handling.waiting anomaly queue) :
    a ∈ queue := by
  unfold waiting at h
  split at h
  · exact h
  · exact List.mem_of_mem_erase h

theorem waiting_of_not_mem (h : anomaly ∉ queue) : handling.waiting anomaly queue = queue := by
  unfold waiting
  rw [List.erase_of_not_mem h, ite_self]

theorem filter_waiting (p : Anomaly -> Bool) :
    (handling.waiting anomaly queue).filter p =
      handling.waiting anomaly (queue.filter p) := by
  unfold waiting
  split
  · rfl
  · exact (List.erase_filter ..).symm

end Handling

/-- `route_alert` to its end, as far as the store is concerned. -/
def storeAlert (host : Host) (now : Instant) (alertId : Int) (anomaly : Anomaly)
    (accepted : Option (List String)) (db : Database) : Database :=
  match accepted with
  | none => db
  | some sinks => (persistAlert host db now alertId anomaly sinks).2

/-!
# Chords

The header of a chord, each task with the retries that it has left or with its
outcome.  The tasks are executed in any order, and a task that raises is executed
again while it has retries left.
-/

inductive Progress where
  | waiting (retries : Nat)
  | done (result : Attempt)

abbrev Chord : Type :=
  List (Signature × Progress)

def Progress.isWaiting : Progress -> Bool
  | .waiting _ => true
  | .done _ => false

/-- One more execution is the outcome, unless it raises and is retried. -/
def Progress.after (result : Attempt) : Progress -> Progress
  | .waiting 0 => .done result
  | .waiting (retries + 1) => if raises result then .waiting retries else .done result
  | .done earlier => .done earlier

namespace Chord

def ofTasks (tasks : List Signature) : Chord :=
  tasks.map fun task => (task, .waiting task.maxRetries)

def waits (chord : Chord) (task : Signature) : Bool :=
  chord.any fun entry => entry.1 = task && entry.2.isWaiting

def record (task : Signature) (result : Attempt) (chord : Chord) : Chord :=
  chord.map fun entry =>
    if entry.1 = task then (entry.1, entry.2.after result) else entry

/-- What the callback is called with, when every task of the header has succeeded. -/
def results : Chord -> Option (List TaskResult)
  | [] => some []
  | (_, .done (.ok report)) :: rest =>
      (results rest).map fun reports => .report report :: reports
  | _ :: _ => none

def reported (chord : Chord) : List Anomaly :=
  chord.flatMap fun entry =>
    match entry.2 with
    | .done (.ok report) => report.anomalies.getD []
    | _ => []

end Chord

/-!
# Installations
-/

structure Installation where
  db : Database := {}
  redis : Redis := ClaimStore.empty
  chords : Nat -> Chord := fun _ => []
  /-- The anomalies whose `route_alert` task has not run. -/
  queue : List Anomaly := []

namespace Installation

/-- What happens in an installation, each with what surrounds it. -/
inductive Event where
  /-- A request of a tenant reaches the store. -/
  | request (r : Storage.Request)
  /-- The beat dispatches a chord. -/
  | beat (id : Nat) (now : Instant)
  /-- A worker executes a task of a header. -/
  | execute (id : Nat) (task : Signature) (now : Instant)
  /-- A worker runs the callback of a chord, at a time on the clock of Redis. -/
  | callback (id : Nat) (now : Rat) (failure : Failure)
  /-- The alert task of an anomaly ends. -/
  | route (anomaly : Anomaly) (now : Instant) (alertId : Int) (handling : Handling)

section Steps

variable (lib : Libraries) (settings : Settings)

/-- `schedule_detection_sweep`; without active metrics there is no chord. -/
def beat (id : Nat) (now : Instant) (s : Installation) : Installation :=
  { s with
    chords := Function.update s.chords id
      (Chord.ofTasks (allTasks (listActiveMetricsSync s.db now 1))) }

def execute (id : Nat) (task : Signature) (now : Instant) (s : Installation) :
    Installation :=
  if (s.chords id).waits task then
    { s with
      db := (execTask lib settings now s.db task).2
      chords := Function.update s.chords id
        ((s.chords id).record task (execTask lib settings now s.db task).1) }
  else s

/-- `aggregate_and_alert`, when every task of the header has succeeded. -/
def callback (id : Nat) (now : Rat) (failure : Failure) (s : Installation) :
    Installation :=
  match (s.chords id).results with
  | none => s
  | some results =>
      { s with
        redis := (outcome lib.host settings now s.redis results failure).redis
        queue := s.queue ++ (outcome lib.host settings now s.redis results failure).queue
        chords := Function.update s.chords id [] }

def route (anomaly : Anomaly) (now : Instant) (alertId : Int) (handling : Handling)
    (s : Installation) : Installation :=
  if anomaly ∈ s.queue then
    { s with
      db := storeAlert lib.host now alertId anomaly handling.accepted s.db
      queue := handling.waiting anomaly s.queue }
  else s

variable (collation : Collation)

def step (s : Installation) : Event -> Answer × Installation
  | .request r =>
      ((exec lib.host settings collation s.db r).1,
        { s with db := (exec lib.host settings collation s.db r).2 })
  | .beat id now => (.done, s.beat id now)
  | .execute id task now => (.done, s.execute lib settings id task now)
  | .callback id now failure => (.done, s.callback lib settings id now failure)
  | .route anomaly now alertId handling =>
      (.done, s.route lib anomaly now alertId handling)

end Steps

/-!
A run in which two tenants ingest two points of one metric each, and one sweep
covers both.  Under a threshold of zero it dispatches an anomaly of each.
-/

def touchySettings : Settings :=
  { Settings.defaults with
    zscoreThreshold := 0
    thresholds_mem := ⟨by norm_num, Settings.defaults.thresholds_mem.2⟩ }

def ingest (tenant : String) (seconds : Rat) : Event :=
  .request
    { now := 1700000000000000
      op := .bulkInsert [⟨.finite seconds, "cpu_usage", .finite 1⟩] tenant }

def executeAll (tenant : String) : List Event :=
  (signaturesOf (tenant, "cpu_usage")).map fun task => .execute 0 task 1700000000000000

def twoTenants : List Event :=
  [ingest "acme" 1699999940, ingest "globex" 1699999940, ingest "globex" 1700000000,
    ingest "acme" 1700000000, .beat 0 1700000000000000] ++
  executeAll "globex" ++ executeAll "acme" ++ [.callback 0 1700000060 .never]

end Installation

/-!
# The tasks and the tenants

A task reads and writes the part of its own tenant.
-/

section Tenants

variable {lib : Libraries} {settings : Settings} {now : Instant}

theorem storeModel_ownedBy (db : Database) (task : Signature) (state : Option Json)
    (a : String) :
    (storeModel now db task state).ownedBy a =
      if task.tenant = a then storeModel now (db.ownedBy a) task state
      else db.ownedBy a := by
  cases state with
  | none =>
      exact (ite_self _).symm
  | some state =>
      exact persistDetectorModel_ownedBy db now _ _ state task.tenant a

theorem execTask_ownedBy (db : Database) (task : Signature) :
    execTask lib settings now (db.ownedBy task.tenant) task =
      ((execTask lib settings now db task).1,
        (execTask lib settings now db task).2.ownedBy task.tenant) := by
  unfold execTask storedModel
  dsimp only
  rw [fetchSeries_ownedBy, fetchDetectorModel_ownedBy, storeModel_ownedBy, if_pos rfl]

theorem execTask_other (db : Database) {task : Signature} {a : String}
    (h : task.tenant ≠ a) :
    (execTask lib settings now db task).2.ownedBy a = db.ownedBy a := by
  unfold execTask
  dsimp only
  rw [storeModel_ownedBy, if_neg h]

end Tenants

/-!
# What the events leave alone

Points are never removed, and the alert task is what inserts alerts; the service
has no endpoint for it.
-/

section Frames

def Installation.Event.insertsAlert : Installation.Event -> Bool
  | .request { op := .persistAlert _ _ _, .. } => true
  | _ => false

theorem alerts_exec (host : Host) (settings : Settings) (collation : Collation)
    (db : Database) {r : Storage.Request}
    (h : Installation.Event.insertsAlert (.request r) = false) :
    (exec host settings collation db r).2.alerts.map AlertRow.toAlertParams =
      db.alerts.map AlertRow.toAlertParams := by
  rcases r with ⟨now, op⟩
  cases op with
  | persistAlert alertId anomaly routedTo =>
      cases h
  | bulkInsert points tenant =>
      show (bulkInsert db points tenant).2.alerts.map _ = _
      unfold bulkInsert
      split <;> rfl
  | setAlertLabel alertId label tenant =>
      show (setAlertLabel db alertId label tenant).2.alerts.map _ = _
      simp only [setAlertLabel, updateWhere, List.map_map]
      apply List.map_congr_left
      intro row _
      simp only [Function.comp_apply]
      split <;> rfl
  | persistDetectorModel metricName detectorType parameters tenant =>
      show (persistDetectorModel db now metricName detectorType parameters
        tenant).2.alerts.map _ = _
      unfold persistDetectorModel
      split <;> rfl
  | _ =>
      rfl

theorem metrics_exec (host : Host) (settings : Settings) (collation : Collation)
    (db : Database) (r : Storage.Request) :
    db.metrics <+: (exec host settings collation db r).2.metrics := by
  rcases r with ⟨now, op⟩
  cases op with
  | bulkInsert points tenant =>
      show db.metrics <+: (bulkInsert db points tenant).2.metrics
      unfold bulkInsert
      split
      · exact List.prefix_refl _
      · exact List.prefix_append _ _
  | persistAlert alertId anomaly routedTo =>
      show db.metrics <+: (persistAlert host db now alertId anomaly routedTo).2.metrics
      unfold persistAlert
      split <;> exact List.prefix_refl _
  | persistDetectorModel metricName detectorType parameters tenant =>
      show db.metrics <+: (persistDetectorModel db now metricName detectorType parameters
        tenant).2.metrics
      unfold persistDetectorModel
      split <;> exact List.prefix_refl _
  | _ =>
      exact List.prefix_refl _

theorem execTask_frame {lib : Libraries} {settings : Settings} (now : Instant)
    (db : Database) (task : Signature) :
    (execTask lib settings now db task).2.metrics = db.metrics ∧
      (execTask lib settings now db task).2.alerts = db.alerts := by
  unfold execTask
  dsimp only
  cases handedOver lib settings (storedModel settings now lib.host db task)
      (fetchSeries settings db now task.metricName none task.tenant) task with
  | none =>
      exact ⟨rfl, rfl⟩
  | some state =>
      unfold storeModel persistDetectorModel
      dsimp only
      split <;> exact ⟨rfl, rfl⟩

end Frames

end Workers
end MetricMesh
