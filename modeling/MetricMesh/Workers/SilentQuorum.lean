import MetricMesh.Workers.Reports

/-!
# A quorum that is never reached

Consensus can ask for three detectors, and there are three.  But a detection of
the prophet task reports held-out points only, all of which score zero.  Under a
positive threshold it reports none, so no event ever has three detectors, and an
installation that asks for three stays silent along every run.
-/

namespace MetricMesh
namespace Workers

open Foundation
open Python
open Alerting
open Detection
open Storage

/-- No metric of any tenant has a threshold that a score of zero meets. -/
def ProphetPositive (lib : Libraries) (settings : Settings) : Prop :=
  forall metricName tenant t,
    taskThreshold lib settings (.runProphet metricName tenant) = .ok t ->
      ¬ t ≤ .finite 0

section Attempts

variable {lib : Libraries} {settings : Settings}

theorem runProphet_reports_nothing (hpositive : ProphetPositive lib settings)
    {series : Series Rat} {metricName tenant : String} {report : DetectorReport}
    (h : runProphet lib settings series metricName tenant = .ok report) :
    report.anomalies.getD [] = [] := by
  apply List.eq_nil_iff_forall_not_mem.mpr
  intro a ha
  rcases of_mem_detectorTask rfl (fun _ => rfl) h ha with
    ⟨_, detector, t, _, r, hfit, hthreshold, hdetect, hr, _⟩
  unfold ProphetDetector.fit at hfit
  split at hfit
  · cases hfit
  · injection hfit with hfit
    rw [← hfit] at hdetect
    rcases ProphetDetector.score_of_detectWith_since Double.ofExact_zero hdetect hr with
      ⟨_, _, _, hle⟩
    exact hpositive metricName tenant t hthreshold hle

end Attempts

def NotProphet (task : Signature) (_ : Anomaly) : Prop :=
  reportedAs task ≠ "prophet"

theorem detectorName_of_reportedBy {host : Host} {task : Signature} {a : Anomaly}
    (hreported : ReportedBy host task a) (hquiet : NotProphet task a) :
    a.detectorName ∈ ({"statistical", "isolation_forest"} : Finset String) := by
  rw [hreported.detector]
  cases task with
  | runStatistical metricName method tenant =>
      exact Finset.mem_insert_self _ _
  | runIsolationForest metricName tenant =>
      exact Finset.mem_insert_of_mem (Finset.mem_singleton_self _)
  | runProphet metricName tenant =>
      exact absurd rfl hquiet

/-!
# Aggregations
-/

section Aggregation

variable {host : Host} {settings : Settings} {results : List TaskResult}

theorem confirmed_eq_nil {batch : List Anomaly} (names : Finset String)
    (hnames : forall a, a ∈ batch -> a.detectorName ∈ names)
    (hquorum : names.card < settings.consensusMinDetectors) :
    confirmed host settings settings.consensusMinDetectors batch = [] := by
  apply List.eq_nil_iff_forall_not_mem.mpr
  intro a ha
  have hsubset : votes (stableGroup host settings.dedupBucketSeconds) Anomaly.detectorName
      batch (stableGroup host settings.dedupBucketSeconds a) ⊆ names := by
    intro name hname
    rcases mem_votes.mp hname with ⟨b, hb, _, heq⟩
    rw [← heq]
    exact hnames b hb
  have hcard := Finset.card_le_card hsubset
  have hmin := (mem_quorum.mp ha).2
  omega

theorem complete_of_nothing (now : Rat) (redis : Redis) (claimed queue : List Anomaly) :
    complete host settings now ⟨redis, claimed, queue, enter [] []⟩ =
      ⟨redis, claimed, queue, .dispatching []⟩ := by
  show complete host settings now ⟨redis, claimed, queue, .dispatching []⟩ = _
  rw [complete_dispatching, List.append_nil]

theorem effects_of_nothing (now : Rat) (n : Nat) (redis : Redis)
    (claimed queue : List Anomaly) :
    effects host settings now n ⟨redis, claimed, queue, enter [] []⟩ =
      ⟨redis, claimed, queue, enter [] []⟩ :=
  Function.iterate_fixed (effect_of_ended (Or.inl rfl)) n

theorem outcome_of_nothing
    (hkeyed : forall a, a ∈ allAnomalies results -> a.HasKey host)
    (hnothing : toClaim host settings results = []) (now : Rat) (redis : Redis)
    (failure : Failure) :
    (outcome host settings now redis results failure).queue = [] ∧
      (outcome host settings now redis results failure).redis = redis := by
  by_cases hdouble : Host.HasDouble settings.dedupBucketSeconds
  · have hbegin : forall (t : Rat) (r : Redis) (claimed queue : List Anomaly),
        begin host settings t results r claimed queue =
          ⟨r, claimed, queue, enter [] []⟩ := by
      intro t r claimed queue
      rw [begin_of_hasKey hdouble hkeyed, hnothing]
    cases failure with
    | never =>
        simp only [outcome, hbegin, complete_of_nothing, and_self]
    | redisRaises k =>
        have hset : TaskState.atSet ⟨redis, [], [], enter [] []⟩ = false := rfl
        simp only [outcome, hbegin, raiseAfter, effects_of_nothing, hset, complete_of_nothing,
          Bool.false_eq_true, if_false, and_self]
    | brokerRaises k =>
        have hdelay : TaskState.atDelay ⟨redis, [], [], enter [] []⟩ = false := rfl
        simp only [outcome, hbegin, raiseAfter, effects_of_nothing, hdelay,
          complete_of_nothing, Bool.false_eq_true, if_false, and_self]
    | workerLost n delay =>
        simp only [outcome, hbegin, effects_of_nothing, complete_of_nothing, and_self]
  · have hready : ¬ (AlertDeduplicator.ofSettings settings).CanClaim now :=
      fun hready => hdouble hready.width
    rcases @outcome_of_not_canClaim host settings now redis results hready failure with
      ⟨phase, hrun⟩
    rw [hrun]
    exact ⟨rfl, rfl⟩

end Aggregation

/-!
# Runs
-/

namespace Installation

/-- Nothing has been claimed or dispatched, and no alert inserted, since a start. -/
structure Silent (host : Host) (start s : Installation) : Prop where
  redis : s.redis = start.redis
  queue : s.queue = []
  alerts : s.db.alerts.map AlertRow.toAlertParams =
    start.db.alerts.map AlertRow.toAlertParams
  reported : forall id,
    (s.chords id).Every fun task a => ReportedBy host task a ∧ NotProphet task a

section Runs

variable {lib : Libraries} {settings : Settings} {start s : Installation}

theorem Silent.execute (hpositive : ProphetPositive lib settings)
    (h : Silent lib.host start s) (id : Nat) (task : Signature) (now : Instant) :
    Silent lib.host start (s.execute lib settings id task now) := by
  have hreported : forall i, ((s.execute lib settings id task now).chords i).Every
      fun task a => ReportedBy lib.host task a ∧ NotProphet task a := by
    apply every_execute h.reported
    intro report hreport a ha
    refine ⟨reportedBy_of_attempt hreport ha, ?_⟩
    cases task with
    | runStatistical metricName method tenant =>
        simp [NotProphet, reportedAs]
    | runIsolationForest metricName tenant =>
        simp [NotProphet, reportedAs]
    | runProphet metricName tenant =>
        rw [runProphet_reports_nothing hpositive hreport] at ha
        cases ha
  unfold Installation.execute at hreported ⊢
  split at hreported
  · rename_i hwaits
    rw [if_pos hwaits]
    refine ⟨h.redis, h.queue, ?_, hreported⟩
    show (execTask lib settings now s.db task).2.alerts.map _ = _
    rw [(execTask_frame now s.db task).2]
    exact h.alerts
  · rename_i hwaits
    rw [if_neg hwaits]
    exact h

theorem Silent.callback (hreads : ReadsInstants lib.host)
    (hquorum : 3 ≤ settings.consensusMinDetectors) (h : Silent lib.host start s)
    (id : Nat) (now : Rat) (failure : Failure) :
    Silent lib.host start (s.callback lib settings id now failure) := by
  have hreported := @every_callback lib settings s _ h.reported id now failure
  unfold Installation.callback at hreported ⊢
  cases hresults : (s.chords id).results with
  | none =>
      exact h
  | some results =>
      rw [hresults] at hreported
      have hall := Chord.allAnomalies_results hresults
      have hkeyed : forall a, a ∈ allAnomalies results -> a.HasKey lib.host := by
        intro a ha
        rw [hall] at ha
        rcases (h.reported id).of_mem_reported ha with ⟨task, hreportedBy, _⟩
        exact hreportedBy.hasKey hreads
      have hnothing : toClaim lib.host settings results = [] := by
        apply confirmed_eq_nil {"statistical", "isolation_forest"}
        · intro a ha
          rw [hall] at ha
          rcases (h.reported id).of_mem_reported ha with ⟨task, hreportedBy, hquiet⟩
          exact detectorName_of_reportedBy hreportedBy hquiet
        · have hcard : ({"statistical", "isolation_forest"} : Finset String).card = 2 := by
            decide
          omega
      rcases outcome_of_nothing hkeyed hnothing now s.redis failure with
        ⟨hqueue, hredis⟩
      refine ⟨hredis.trans h.redis, ?_, h.alerts, hreported⟩
      show s.queue ++ _ = []
      rw [hqueue, h.queue]
      rfl

theorem Silent.step (hreads : ReadsInstants lib.host)
    (hpositive : ProphetPositive lib settings)
    (hquorum : 3 ≤ settings.consensusMinDetectors) (collation : Collation)
    (h : Silent lib.host start s) {e : Event} (he : e.insertsAlert = false) :
    Silent lib.host start (step lib settings collation s e).2 := by
  cases e with
  | request r =>
      refine ⟨h.redis, h.queue, ?_, h.reported⟩
      exact (alerts_exec lib.host settings collation s.db he).trans h.alerts
  | beat id now =>
      exact ⟨h.redis, h.queue, h.alerts,
        forall_update h.reported id (Chord.every_ofTasks _ _)⟩
  | execute id task now =>
      exact h.execute hpositive id task now
  | callback id now failure =>
      exact h.callback hreads hquorum id now failure
  | route anomaly now alertId handling =>
      show Silent lib.host start (s.route lib anomaly now alertId handling)
      unfold route
      rw [if_neg (by rw [h.queue]; exact List.not_mem_nil)]
      exact h

/--
With a quorum of three and positive thresholds for the prophet task, no run
claims a key, dispatches an anomaly or inserts an alert, whatever is ingested
and whatever fails.
-/
theorem silent_forever (hreads : ReadsInstants lib.host)
    (hpositive : ProphetPositive lib settings)
    (hquorum : 3 ≤ settings.consensusMinDetectors) (collation : Collation)
    (db : Database) (redis : Redis) (events : List Event)
    (hevents : forall e, e ∈ events -> e.insertsAlert = false) :
    Silent lib.host { db := db, redis := redis }
      (finalState (step lib settings collation) { db := db, redis := redis } events) := by
  apply finalState_invariant _ events hevents
  · exact ⟨rfl, rfl, rfl, fun _ => Chord.every_nil _⟩
  · intro t e he h
    exact h.step hreads hpositive hquorum collation he

end Runs

def threeOfThree : Settings :=
  { touchySettings with
    consensusMinDetectors := 3
    consensusMinDetectors_ge := by decide }

theorem threeOfThree_prophetPositive : ProphetPositive punctual threeOfThree := by
  intro metricName tenant t ht
  have hparse : parse punctual.host threeOfThree.metricThresholds = .ok [] := by
    decide +kernel
  have hdefault : taskThreshold punctual threeOfThree (.runProphet metricName tenant) =
      .ok (Double.ofExact threeOfThree.prophetThreshold) := by
    simp only [taskThreshold, resolveThreshold, hparse]
    rfl
  rw [hdefault] at ht
  injection ht with ht
  rw [← ht]
  decide +kernel

/-- Both tenants' tasks report an anomaly before the callback, and none is dispatched. -/
theorem silent_forever_twoTenants :
    ((finalState (step punctual threeOfThree fun _ _ => true) {}
        twoTenants.dropLast).chords 0).reported.length = 2 ∧
      Silent punctual.host {}
        (finalState (step punctual threeOfThree fun _ _ => true) {} twoTenants) :=
  ⟨by decide +kernel,
    silent_forever punctual_readsInstants threeOfThree_prophetPositive (by decide) _ {} _
      twoTenants (by decide)⟩

end Installation

end Workers
end MetricMesh
