import MetricMesh.Workers.AggregateFailures

/-!
# What an aggregation dispatches

Consensus groups by tenant, metric and bucket, and deduplication by the detector
as well.  Together they dispatch the first anomaly of every event that enough
detectors confirm and that no live claim covers, and they claim nothing else.
-/

namespace MetricMesh
namespace Workers

open Foundation
open Foundation.ClaimStore
open Python
open Alerting

/-- Tenant, metric, detector and bucket. -/
abbrev Event : Type :=
  String × String × String × Int

section Dispatch

variable (host : Host) (settings : Settings)

def eventOf (a : Anomaly) : Event :=
  (a.tenantName, a.metric, a.detectorName,
    a.bucket host settings.dedupBucketSeconds)

def FingerprintsDistinct (batch : List Anomaly) : Prop :=
  forall a, a ∈ batch -> forall b, b ∈ batch ->
    eventOf host settings a ≠ eventOf host settings b ->
      (AlertDeduplicator.ofSettings settings).stableFingerprint host a ≠
        (AlertDeduplicator.ofSettings settings).stableFingerprint host b

/-- The anomalies that enough detectors confirm and that no live claim covers. -/
def due (now : Rat) (redis : Redis) (batch : List Anomaly) : List Anomaly :=
  batch.filter fun a =>
    settings.consensusMinDetectors ≤
        (votes (stableGroup host settings.dedupBucketSeconds) Anomaly.detectorName batch
          (stableGroup host settings.dedupBucketSeconds a)).card ∧
      redis.live (keyOf host settings a) now = false

/-- The first anomaly of every event that is due, in the order of the batch. -/
def firstsDue (now : Rat) (redis : Redis) (batch : List Anomaly) : List Anomaly :=
  firsts (eventOf host settings) (due host settings now redis batch)

structure DispatchesDue (now : Rat) (redis : Redis) (batch : List Anomaly)
    (s : TaskState) : Prop where
  queue : s.queue =
    (firstsDue host settings now redis batch).map (stampOf host settings)
  /-- Every dispatched anomaly holds its claim, and the store is otherwise as it was. -/
  redis : s.redis = fun k =>
    if k ∈ (firstsDue host settings now redis batch).map (keyOf host settings) then
      some (now + settings.alertCooldownSeconds)
    else redis k

variable {host settings}

theorem keyOf_eq_of_event {a b : Anomaly}
    (h : eventOf host settings a = eventOf host settings b) :
    keyOf host settings a = keyOf host settings b := by
  simp only [eventOf, Prod.mk.injEq] at h
  rcases h with ⟨htenant, hmetric, hdetector, hbucket⟩
  unfold keyOf AlertDeduplicator.stableKey AlertDeduplicator.stableFingerprint
    AlertDeduplicator.stableText
  rw [AlertDeduplicator.ofSettings_bucketSeconds, htenant, hmetric, hdetector, hbucket]

theorem due_eq (now : Rat) (redis : Redis) (batch : List Anomaly) :
    due host settings now redis batch =
      (confirmed host settings settings.consensusMinDetectors batch).filter
        (fun a => !redis.live (keyOf host settings a) now) := by
  unfold due confirmed quorum
  rw [List.filter_filter]
  apply List.filter_congr
  intro a _
  cases redis.live (keyOf host settings a) now <;> simp

theorem firstsDue_eq {now : Rat} {redis : Redis} {batch : List Anomaly}
    (h : FingerprintsDistinct host settings batch) :
    firstsDue host settings now redis batch =
      firsts (keyOf host settings) (due host settings now redis batch) := by
  apply firstsFrom_congr
  intro a ha b hb
  have hmem : forall c, c ∈ due host settings now redis batch -> c ∈ batch :=
    fun c hc => (List.mem_filter.mp hc).1
  constructor
  · exact keyOf_eq_of_event
  · intro hkey
    by_contra hne
    exact h a (hmem a ha) b (hmem b hb) hne (String.append_right_inj keyPrefix |>.mp hkey)

end Dispatch

section Outcome

variable {host : Host} {settings : Settings} {now : Rat} {redis : Redis}
  {results : List TaskResult}

theorem outcome_of_hasKey (hdouble : Host.HasDouble settings.dedupBucketSeconds)
    (hkey : forall a, a ∈ allAnomalies results -> a.HasKey host) :
    outcome host settings now redis results .never =
      complete host settings now
        ⟨redis, [], [], enter (toClaim host settings results) []⟩ := by
  show complete host settings now (begin host settings now results redis [] []) = _
  rw [begin_of_hasKey hdouble hkey]

theorem dispatchesDue_of_canClaim
    (hready : (AlertDeduplicator.ofSettings settings).CanClaim now)
    (hkey : forall a, a ∈ allAnomalies results -> a.HasKey host)
    (hdistinct : FingerprintsDistinct host settings (allAnomalies results)) :
    DispatchesDue host settings now redis (allAnomalies results)
      (outcome host settings now redis results .never) := by
  have hclaims : (claims host settings now redis (toClaim host settings results)).1 =
      firstsDue host settings now redis (allAnomalies results) := by
    rw [firstsDue_eq hdistinct, due_eq]
    exact claimAll_eq_firsts (keyOf host settings) (now_lt_expiry hready.cooldown.1 now) redis _
  rw [outcome_of_hasKey hready.width hkey, complete_enter hready (toClaim_hasKey hkey)]
  constructor
  · show [] ++ _ = _
    rw [hclaims, List.nil_append]
  · rw [← hclaims]
    exact claimAll_store (keyOf host settings) _ redis

/--
The task dispatches what is due, and claims no more, exactly when a claim can be
made or nothing is due.
-/
theorem dispatchesDue_iff
    (hkey : forall a, a ∈ allAnomalies results -> a.HasKey host)
    (hdistinct : FingerprintsDistinct host settings (allAnomalies results)) :
    DispatchesDue host settings now redis (allAnomalies results)
        (outcome host settings now redis results .never) <->
      (AlertDeduplicator.ofSettings settings).CanClaim now ∨
        due host settings now redis (allAnomalies results) = [] := by
  by_cases hready : (AlertDeduplicator.ofSettings settings).CanClaim now
  · exact iff_of_true (dispatchesDue_of_canClaim hready hkey hdistinct) (Or.inl hready)
  · rcases @outcome_of_not_canClaim host settings now redis results hready .never with
      ⟨phase, hrun⟩
    rw [or_iff_right hready, hrun]
    constructor
    · intro h
      by_contra hdue
      exact firsts_ne_nil hdue (List.map_eq_nil_iff.mp h.queue.symm)
    · intro hdue
      have hnone : firstsDue host settings now redis (allAnomalies results) = [] := by
        unfold firstsDue
        rw [hdue]
        rfl
      constructor
      · rw [hnone]
        rfl
      · rw [hnone]
        rfl

end Outcome

/-!
One spike that one detector reports.  It is dispatched under the default
cooldown, and under a cooldown of zero it is not, although no claim covers it.
-/

theorem spikeResults_distinct (settings : Settings) :
    FingerprintsDistinct spikeHost settings (allAnomalies spikeResults) := by
  intro a ha b hb hne
  have hsingle : allAnomalies spikeResults = [spike] := rfl
  rw [hsingle, List.mem_singleton] at ha hb
  rw [ha, hb] at hne
  exact absurd rfl hne

theorem dispatchesDue_spike :
    DispatchesDue spikeHost .defaults 1700000060 ClaimStore.empty
      (allAnomalies spikeResults)
      (outcome spikeHost .defaults 1700000060 ClaimStore.empty spikeResults .never) :=
  (dispatchesDue_iff spikeResults_hasKey (spikeResults_distinct _)).mpr
    (Or.inl (by decide +kernel))

theorem zeroCooldown_dispatchesNothing :
    ¬ forall (host : Host) (settings : Settings) (now : Rat) (redis : Redis)
      (results : List TaskResult),
      (forall a, a ∈ allAnomalies results -> a.HasKey host) ->
        FingerprintsDistinct host settings (allAnomalies results) ->
          DispatchesDue host settings now redis (allAnomalies results)
            (outcome host settings now redis results .never) := by
  intro h
  have hqueue := (h spikeHost { Settings.defaults with alertCooldownSeconds := 0 }
    1700000060 ClaimStore.empty spikeResults spikeResults_hasKey
    (spikeResults_distinct _)).queue
  revert hqueue
  decide +kernel

end Workers
end MetricMesh
