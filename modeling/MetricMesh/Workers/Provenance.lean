import MetricMesh.Workers.Reports

/-!
# Where alerts come from

An alert quotes the points it is about.  Its tenant, its metric and its value are
those of points that the tenant has ingested, all in one minute, and its value is
their average, along every run and whatever fails on the way.
-/

namespace MetricMesh
namespace Workers

open Foundation
open Python
open Alerting
open Detection
open Storage

/-- The anomaly is about points of its tenant and metric in the minute it names. -/
def Grounded (host : Host) (metrics : List MetricRow) (a : Anomaly) : Prop :=
  exists (ts : Instant) (rows : List MetricRow), rows ≠ [] ∧ rows.Sublist metrics ∧
    (forall r, r ∈ rows -> r.tenant = a.tenantName ∧ r.metricName = a.metric ∧
      timeBucket minute r.time = ts) ∧
    a.timestamp = some (.str (host.isoformat ts)) ∧
    a.value = some (.float (avg (rows.map MetricRow.value)))

theorem Grounded.mono {host : Host} {metrics more : List MetricRow} {a : Anomaly}
    (h : Grounded host metrics a) (hsub : metrics.Sublist more) :
    Grounded host more a := by
  rcases h with ⟨ts, rows, hne, hrows, hnames, htimestamp, hvalue⟩
  exact ⟨ts, rows, hne, hrows.trans hsub, hnames, htimestamp, hvalue⟩

theorem Grounded.stamp {host : Host} {metrics : List MetricRow} {a : Anomaly}
    (h : Grounded host metrics a) (fp : String) :
    Grounded host metrics { a with fingerprint := some fp } :=
  h

/-!
# Detections
-/

theorem rows_of_mem_minuteSeries {rows : List MetricRow} {p : Instant × PyFloat}
    (h : p ∈ (minuteSeries rows).points) :
    group (fun r => timeBucket minute r.time) p.1 rows ≠ [] ∧
      p.2 = avg ((group (fun r => timeBucket minute r.time) p.1 rows).map
        MetricRow.value) := by
  rcases List.mem_map.mp h with ⟨ts, hts, heq⟩
  rw [← heq]
  refine ⟨?_, rfl⟩
  have hkey := (List.mem_insertionSort _).mp hts
  unfold groupKeys at hkey
  rcases List.mem_map.mp (List.mem_dedup.mp hkey) with ⟨r, hr, hbucket⟩
  apply List.ne_nil_of_mem
  exact List.mem_filter.mpr ⟨hr, decide_eq_true hbucket⟩

theorem grounded_of_execTask {lib : Libraries} {settings : Settings} {now : Instant}
    {db : Database} {task : Signature} {report : DetectorReport} {a : Anomaly}
    (hreport : (execTask lib settings now db task).1 = .ok report)
    (ha : a ∈ report.anomalies.getD []) : Grounded lib.host db.metrics a := by
  rcases result_of_attempt hreport ha with ⟨r, hdict, hmetric, _, hpoint⟩
  rcases rows_of_mem_minuteSeries hpoint with ⟨hne, hvalue⟩
  refine ⟨r.timestamp, _, hne, ?_, ?_, ?_, ?_⟩
  · exact List.filter_sublist.trans List.filter_sublist
  · intro row hrow
    rcases List.mem_filter.mp hrow with ⟨hfetched, hbucket⟩
    have hcond := (List.mem_filter.mp hfetched).2
    simp only [Bool.and_eq_true, decide_eq_true_eq] at hcond
    rw [← hdict]
    refine ⟨hcond.1.2, ?_, of_decide_eq_true hbucket⟩
    rw [hcond.1.1]
    exact hmetric.symm
  · rw [← hdict]
    rfl
  · rw [← hdict, ← hvalue]
    rfl

/-!
# Aggregations

Whatever fails, an aggregation dispatches anomalies that were reported to it, with
a fingerprint.
-/

section Aggregation

variable {host : Host} {settings : Settings}

theorem mem_of_surviving {group : Anomaly -> Except PyError Group}
    {groups : Dict Group (Finset String)} {minDetectors : Int}
    {anomalies : List Anomaly} :
    forall {kept : List Anomaly},
      surviving group groups minDetectors anomalies = .ok kept ->
        forall a, a ∈ kept -> a ∈ anomalies := by
  induction anomalies with
  | nil =>
      intro kept h a ha
      injection h with h
      rw [← h] at ha
      cases ha
  | cons b rest ih =>
      intro kept h a ha
      unfold surviving at h
      cases hgroup : group b with
      | error e =>
          rw [hgroup] at h
          cases h
      | ok g =>
          rw [hgroup] at h
          dsimp only at h
          cases hrest : surviving group groups minDetectors rest with
          | error e =>
              rw [hrest] at h
              cases h
          | ok others =>
              rw [hrest] at h
              injection h with h
              rw [← h] at ha
              split at ha
              · rcases List.mem_cons.mp ha with heq | ha
                · rw [heq]
                  exact List.mem_cons_self
                · exact List.mem_cons_of_mem b (ih hrest a ha)
              · exact List.mem_cons_of_mem b (ih hrest a ha)

theorem mem_of_applyConsensus {now : Rat} {anomalies kept : List Anomaly}
    {minDetectors : Int} {bucketSeconds : Option Int}
    (h : applyConsensus host settings now anomalies minDetectors bucketSeconds = .ok kept)
    {a : Anomaly} (ha : a ∈ kept) : a ∈ anomalies := by
  unfold applyConsensus at h
  split at h
  · injection h with h
    rw [h]
    exact ha
  · dsimp only at h
    split at h
    · cases h
    · exact mem_of_surviving h a ha

/-- The anomalies that a task still holds, in any of its places. -/
def TaskState.held (s : TaskState) : List Anomaly :=
  s.claimed ++ s.queue ++
    match s.phase with
    | .filtering pending unique => pending ++ unique
    | .dispatching remaining => remaining
    | .raised _ => []

theorem held_enter (redis : Redis) (claimed queue pending unique : List Anomaly) :
    TaskState.held ⟨redis, claimed, queue, enter pending unique⟩ =
      claimed ++ queue ++ (pending ++ unique) := by
  cases pending <;> rfl

variable {P : Anomaly -> Prop}

theorem held_effect (hstamp : forall a fp, P a -> P { a with fingerprint := some fp })
    {now : Rat} {s : TaskState} (h : forall a, a ∈ s.held -> P a) :
    forall a, a ∈ (effect host settings now s).held -> P a := by
  rcases s with ⟨redis, claimed, queue, phase⟩
  cases phase with
  | raised e =>
      exact h
  | dispatching remaining =>
      cases remaining with
      | nil =>
          exact h
      | cons b rest =>
          intro a ha
          apply h a
          simpa [TaskState.held, effect, or_assoc, or_left_comm] using ha
  | filtering pending unique =>
      cases pending with
      | nil =>
          exact h
      | cons b rest =>
          have hb : P b := h b (by simp [TaskState.held])
          cases hclaim : (AlertDeduplicator.ofSettings settings).claim host settings now
              redis b with
          | error e =>
              intro a ha
              apply h a
              simp only [effect, hclaim, TaskState.held, List.append_nil] at ha
              exact List.mem_append_left _ ha
          | ok verdict =>
              rcases verdict with ⟨granted, stamped, redis'⟩
              have hstamped : P stamped := by
                unfold AlertDeduplicator.claim at hclaim
                split at hclaim
                · cases hclaim
                · split at hclaim
                  · cases hclaim
                  · injection hclaim with hclaim
                    injection hclaim with _ hclaim
                    injection hclaim with hclaim
                    rw [← hclaim]
                    exact hstamp b _ hb
              intro a ha
              simp only [effect, hclaim, held_enter] at ha
              have hcases : a = stamped ∨ a ∈ TaskState.held
                  ⟨redis, claimed, queue, .filtering (b :: rest) unique⟩ := by
                cases granted with
                | true =>
                    simp only [if_true, List.mem_append, List.mem_singleton] at ha
                    simp only [TaskState.held, List.mem_append, List.mem_cons]
                    tauto
                | false =>
                    simp only [Bool.false_eq_true, if_false, List.mem_append] at ha
                    simp only [TaskState.held, List.mem_append, List.mem_cons]
                    tauto
              rcases hcases with heq | hmem
              · rw [heq]
                exact hstamped
              · exact h a hmem

theorem held_effects (hstamp : forall a fp, P a -> P { a with fingerprint := some fp })
    (now : Rat) (n : Nat) :
    forall s : TaskState, (forall a, a ∈ s.held -> P a) ->
      forall a, a ∈ (effects host settings now n s).held -> P a := by
  induction n with
  | zero =>
      intro s h
      exact h
  | succ n ih =>
      intro s h
      exact ih _ (held_effect hstamp h)

theorem held_begin {now : Rat} {results : List TaskResult} {redis : Redis}
    {claimed queue : List Anomaly} (hclaimed : forall a, a ∈ claimed -> P a)
    (hqueue : forall a, a ∈ queue -> P a)
    (hresults : forall a, a ∈ allAnomalies results -> P a) :
    forall a, a ∈ (begin host settings now results redis claimed queue).held -> P a := by
  intro a ha
  unfold begin at ha
  cases hconsensus : applyConsensus host settings now (allAnomalies results)
      settings.consensusMinDetectors none with
  | error e =>
      rw [hconsensus] at ha
      simp only [TaskState.held, List.append_nil, List.mem_append] at ha
      rcases ha with ha | ha
      · exact hclaimed a ha
      · exact hqueue a ha
  | ok kept =>
      rw [hconsensus] at ha
      dsimp only at ha
      rw [held_enter, List.append_nil] at ha
      simp only [List.mem_append] at ha
      rcases ha with (ha | ha) | ha
      · exact hclaimed a ha
      · exact hqueue a ha
      · exact hresults a (mem_of_applyConsensus hconsensus ha)

theorem held_raiseAfter (hstamp : forall a fp, P a -> P { a with fingerprint := some fp })
    (now : Rat) (n : Nat) (kind : TaskState -> Bool) {s : TaskState}
    (h : forall a, a ∈ s.held -> P a) :
    forall a, a ∈ (raiseAfter host settings now n kind s).held -> P a := by
  have heffects : forall a, a ∈ (effects host settings now n s).held -> P a :=
    held_effects hstamp now n s h
  unfold raiseAfter
  dsimp only
  split
  · intro a ha
    apply heffects a
    simp only [TaskState.held, List.append_nil] at ha
    exact List.mem_append_left _ ha
  · exact held_effects hstamp now _ _ heffects

theorem queue_outcome (hstamp : forall a fp, P a -> P { a with fingerprint := some fp })
    {now : Rat} {results : List TaskResult} {redis : Redis} {failure : Failure}
    (h : forall a, a ∈ allAnomalies results -> P a) :
    forall a, a ∈ (outcome host settings now redis results failure).queue -> P a := by
  have hnone : forall a : Anomaly, a ∈ ([] : List Anomaly) -> P a := by
    intro a ha
    cases ha
  have hbegin : forall (t : Rat) (r : Redis) (claimed queue : List Anomaly),
      (forall a, a ∈ claimed -> P a) -> (forall a, a ∈ queue -> P a) ->
        forall a, a ∈ (begin host settings t results r claimed queue).held -> P a :=
    fun _ _ _ _ hclaimed hqueue => held_begin hclaimed hqueue h
  have hheld : forall a, a ∈ (outcome host settings now redis results failure).held ->
      P a := by
    have hstart := hbegin now redis [] [] hnone hnone
    cases failure with
    | never =>
        exact held_effects hstamp now _ _ hstart
    | redisRaises k =>
        exact held_raiseAfter hstamp now _ _ hstart
    | brokerRaises k =>
        exact held_raiseAfter hstamp now _ _ hstart
    | workerLost n delay =>
        have hlost : forall a, a ∈ (effects host settings now n
            (begin host settings now results redis [] [])).held -> P a :=
          held_effects hstamp now n _ hstart
        apply held_effects hstamp
        apply hbegin
        · intro a ha
          apply hlost a
          simp [TaskState.held, ha]
        · intro a ha
          apply hlost a
          simp [TaskState.held, ha]
  intro a ha
  apply hheld a
  simp [TaskState.held, ha]

end Aggregation

/-!
# Runs
-/

namespace Installation

/-- Whatever is reported, dispatched or stored is about ingested points. -/
structure Accountable (host : Host) (s : Installation) : Prop where
  chords : forall id, (s.chords id).Every fun _ a => Grounded host s.db.metrics a
  queue : forall a, a ∈ s.queue -> Grounded host s.db.metrics a
  alerts : forall params, params ∈ s.db.alerts.map AlertRow.toAlertParams ->
    exists a sinks, Grounded host s.db.metrics a ∧ alertParams host a sinks = .ok params

section Runs

variable {lib : Libraries} {settings : Settings} {s : Installation}

theorem Accountable.ingested {host : Host} (h : Accountable host s) {db : Database}
    (hmetrics : s.db.metrics <+: db.metrics)
    (halerts : db.alerts.map AlertRow.toAlertParams =
      s.db.alerts.map AlertRow.toAlertParams) :
    Accountable host { s with db := db } where
  chords := by
    intro id
    exact (h.chords id).mono fun _ _ hgrounded => hgrounded.mono hmetrics.sublist
  queue := by
    intro a ha
    exact (h.queue a ha).mono hmetrics.sublist
  alerts := by
    intro params hparams
    rw [halerts] at hparams
    rcases h.alerts params hparams with ⟨a, sinks, hgrounded, hstored⟩
    exact ⟨a, sinks, hgrounded.mono hmetrics.sublist, hstored⟩

theorem Accountable.execute (h : Accountable lib.host s) (id : Nat) (task : Signature)
    (now : Instant) : Accountable lib.host (s.execute lib settings id task now) := by
  have hchords := @every_execute lib settings s _ h.chords id task now
    fun report hreport a ha => grounded_of_execTask hreport ha
  unfold Installation.execute at hchords ⊢
  split at hchords
  · rename_i hwaits
    rw [if_pos hwaits]
    rcases @execTask_frame lib settings now s.db task with ⟨hmetrics, halerts⟩
    have hframe : Accountable lib.host
        { s with db := (execTask lib settings now s.db task).2 } := by
      apply h.ingested
      · rw [hmetrics]
      · rw [halerts]
    refine ⟨?_, hframe.queue, hframe.alerts⟩
    rw [hmetrics]
    exact hchords
  · rename_i hwaits
    rw [if_neg hwaits]
    exact h

theorem Accountable.callback (h : Accountable lib.host s) (id : Nat) (now : Rat)
    (failure : Failure) :
    Accountable lib.host (s.callback lib settings id now failure) := by
  have hchords := @every_callback lib settings s _ h.chords id now failure
  unfold Installation.callback at hchords ⊢
  cases hresults : (s.chords id).results with
  | none =>
      exact h
  | some results =>
      rw [hresults] at hchords
      refine ⟨hchords, ?_, h.alerts⟩
      have hbatch : forall a, a ∈ allAnomalies results ->
          Grounded lib.host s.db.metrics a := by
        intro a ha
        rw [Chord.allAnomalies_results hresults] at ha
        rcases (h.chords id).of_mem_reported ha with ⟨_, hgrounded⟩
        exact hgrounded
      intro a ha
      rcases List.mem_append.mp ha with ha | ha
      · exact h.queue a ha
      · exact queue_outcome (fun _ fp hgrounded => hgrounded.stamp fp) hbatch a ha

theorem Accountable.route (h : Accountable lib.host s) (anomaly : Anomaly)
    (now : Instant) (alertId : Int) (handling : Handling) :
    Accountable lib.host (s.route lib anomaly now alertId handling) := by
  unfold Installation.route
  by_cases hmem : anomaly ∈ s.queue
  · rw [if_pos hmem]
    have hqueue : forall a, a ∈ handling.waiting anomaly s.queue ->
        Grounded lib.host s.db.metrics a :=
      fun a ha => h.queue a (handling.mem_of_mem_waiting anomaly s.queue ha)
    cases haccepted : handling.accepted with
    | none =>
        exact ⟨h.chords, hqueue, h.alerts⟩
    | some sinks =>
        unfold storeAlert persistAlert
        dsimp only
        cases hparams : alertParams lib.host anomaly sinks with
        | error e =>
            exact ⟨h.chords, hqueue, h.alerts⟩
        | ok params =>
            refine ⟨h.chords, hqueue, ?_⟩
            intro stored hstored
            dsimp only at hstored
            rw [List.map_append, List.mem_append, List.map_singleton,
              List.mem_singleton] at hstored
            rcases hstored with hstored | hstored
            · exact h.alerts stored hstored
            · rw [hstored]
              exact ⟨anomaly, sinks, h.queue anomaly hmem, hparams⟩
  · rw [if_neg hmem]
    exact h

theorem Accountable.step (collation : Collation) (h : Accountable lib.host s) {e : Event}
    (he : e.insertsAlert = false) :
    Accountable lib.host (step lib settings collation s e).2 := by
  cases e with
  | request r =>
      exact h.ingested (metrics_exec lib.host settings collation s.db r)
        (alerts_exec lib.host settings collation s.db he)
  | beat id now =>
      exact ⟨forall_update h.chords id (Chord.every_ofTasks _ _), h.queue, h.alerts⟩
  | execute id task now =>
      exact h.execute id task now
  | callback id now failure =>
      exact h.callback id now failure
  | route anomaly now alertId handling =>
      exact h.route anomaly now alertId handling

/--
In every run, with any interleaving and any failures, each stored alert is what
the alert task stores of an anomaly about points that its tenant has ingested.
-/
theorem alerts_grounded (lib : Libraries) (settings : Settings) (collation : Collation)
    (start : Installation) (hchords : forall id, start.chords id = [])
    (hqueue : start.queue = []) (halerts : start.db.alerts = []) (events : List Event)
    (hevents : forall e, e ∈ events -> e.insertsAlert = false) :
    forall row, row ∈ (finalState (step lib settings collation) start events).db.alerts ->
      exists a sinks,
        Grounded lib.host
            (finalState (step lib settings collation) start events).db.metrics a ∧
          alertParams lib.host a sinks = .ok row.toAlertParams := by
  have hstart : Accountable lib.host start := by
    refine ⟨?_, ?_, ?_⟩
    · intro id
      rw [hchords]
      exact Chord.every_nil _
    · rw [hqueue]
      intro a ha
      cases ha
    · rw [halerts]
      intro params hparams
      cases hparams
  have hfinal : Accountable lib.host
      (finalState (step lib settings collation) start events) :=
    finalState_invariant (fun _ e he h => h.step collation he) events hevents start hstart
  intro row hrow
  exact hfinal.alerts row.toAlertParams (List.mem_map_of_mem hrow)

end Runs

def acmeAnomaly : Anomaly where
  timestamp := some (.str "2023-11-14T22:13:20+00:00")
  metricName := some "cpu_usage"
  value := some (.float (.finite 1))
  score := some (.float (.finite 0))
  detector := some "statistical"
  method := some "zscore"
  tenant := some "acme"
  fingerprint := some "327026f9cbd5"

def alertedRun : List Event :=
  twoTenants ++ [.route acmeAnomaly 1700000061000000 1 { accepted := some ["log"] }]

theorem alerts_grounded_alertedRun :
    (finalState (step punctual touchySettings fun _ _ => true) {}
        alertedRun).db.alerts.length = 1 ∧
      forall row, row ∈ (finalState (step punctual touchySettings fun _ _ => true) {}
          alertedRun).db.alerts ->
        exists a sinks,
          Grounded punctual.host (finalState (step punctual touchySettings fun _ _ => true)
            {} alertedRun).db.metrics a ∧
            alertParams punctual.host a sinks = .ok row.toAlertParams :=
  ⟨by decide +kernel,
    alerts_grounded punctual touchySettings _ {} (fun _ => rfl) rfl rfl alertedRun
      (by decide)⟩

end Installation

end Workers
end MetricMesh
