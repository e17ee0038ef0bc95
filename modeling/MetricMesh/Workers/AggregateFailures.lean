import MetricMesh.Workers.Aggregate

/-!
# What a failure loses

Every key is claimed before the first task is enqueued.  A failure between the
two leaves claims that no task answers for, and a second execution finds those
keys taken.  For each kind of failure this module says exactly when nothing is
lost.
-/

namespace MetricMesh
namespace Workers

open Foundation
open Python
open Alerting

section Failures

variable {host : Host} {settings : Settings} {now : Rat} {redis : Redis}

/-!
# The state at a failure
-/

/--
The keys claimed by the first `n` effects are among those enqueued by them when
no key was free before the failure, or when everything had been enqueued.
-/
theorem claimed_subset_queued_iff (hpos : 0 < settings.alertCooldownSeconds)
    (pending : List Anomaly) (n : Nat) :
    (forall k, k ∈ (claims host settings now redis (pending.take n)).1.map
          (keyOf host settings) ->
        k ∈ ((claims host settings now redis pending).1.map
          (keyOf host settings)).take (n - pending.length)) <->
      (forall a, a ∈ pending.take n ->
          redis.live (keyOf host settings a) now = true) ∨
        pending.length + (freeKeys host settings now redis pending).length ≤ n := by
  rcases lt_or_ge n pending.length with hlt | hge
  · have hzero : n - pending.length = 0 := by omega
    rw [hzero, List.take_zero, ← claims_eq_nil_iff hpos]
    constructor
    · intro h
      left
      apply List.map_eq_nil_iff.mp
      exact List.eq_nil_iff_forall_not_mem.mpr
        (fun k hk => List.not_mem_nil (h k hk))
    · intro h
      rcases h with hnil | hall
      · intro k hk
        rw [hnil] at hk
        exact hk
      · omega
  · rw [List.take_of_length_le hge, claims_subset_take_iff hpos]
    constructor
    · intro h
      right
      omega
    · intro h
      rcases h with hlive | hall
      · rw [← length_claims hpos, (claims_eq_nil_iff hpos pending).mpr hlive]
        exact Nat.zero_le _
      · omega

theorem atSet_effects (hready : (AlertDeduplicator.ofSettings settings).CanClaim now)
    {pending : List Anomaly} (h : forall a, a ∈ pending -> a.HasKey host)
    (n : Nat) :
    (effects host settings now n ⟨redis, [], [], enter pending []⟩).atSet =
      decide (n < pending.length) := by
  rw [effects_enter hready h]
  rcases lt_or_ge n pending.length with hlt | hge
  · rw [if_pos hlt]
    cases hdrop : pending.drop n with
    | nil =>
        rw [List.drop_eq_nil_iff] at hdrop
        omega
    | cons a rest =>
        simp [TaskState.atSet, enter, hlt]
  · rw [if_neg (not_lt_of_ge hge)]
    simp [TaskState.atSet, hge]

theorem atDelay_effects (hready : (AlertDeduplicator.ofSettings settings).CanClaim now)
    {pending : List Anomaly} (h : forall a, a ∈ pending -> a.HasKey host)
    (k : Nat) :
    (effects host settings now (pending.length + k)
        ⟨redis, [], [], enter pending []⟩).atDelay =
      decide (k < (freeKeys host settings now redis pending).length) := by
  rw [effects_enter hready h, if_neg (by omega), Nat.add_sub_cancel_left,
    ← length_claims hready.cooldown.1]
  cases hdrop : ((claims host settings now redis pending).1.map
      (stampOf host settings)).drop k with
  | nil =>
      rw [List.drop_eq_nil_iff, List.length_map] at hdrop
      simp [TaskState.atDelay, hdrop]
  | cons a rest =>
      have hlt : k < (claims host settings now redis pending).1.length := by
        by_contra hge
        rw [List.drop_of_length_le (by simpa using hge)] at hdrop
        cases hdrop
      simp [TaskState.atDelay, hlt]

theorem noLoss_complete_effects (hready : (AlertDeduplicator.ofSettings settings).CanClaim now)
    {pending : List Anomaly} (h : forall a, a ∈ pending -> a.HasKey host)
    {n : Nat} (hn : pending.length ≤ n) :
    NoLoss (complete host settings now
      (effects host settings now n ⟨redis, [], [], enter pending []⟩)) := by
  rw [effects_enter hready h, if_neg (not_lt_of_ge hn), complete_dispatching,
    List.take_of_length_le hn]
  intro a ha
  refine ⟨a, ?_, rfl⟩
  simpa using ha

theorem noLoss_effects_iff (hready : (AlertDeduplicator.ofSettings settings).CanClaim now)
    {pending : List Anomaly} (h : forall a, a ∈ pending -> a.HasKey host)
    (n : Nat) (e : PyError) :
    NoLoss { effects host settings now n ⟨redis, [], [], enter pending []⟩ with
        phase := .raised e } <->
      (forall a, a ∈ pending.take n ->
          redis.live (keyOf host settings a) now = true) ∨
        pending.length + (freeKeys host settings now redis pending).length ≤ n := by
  rw [effects_enter hready h, noLoss_iff, ← claimed_subset_queued_iff hready.cooldown.1]
  simp only [List.nil_append, List.map_take, map_dedupKey_stampOf]

/-!
# The kinds of failure
-/

section Kinds

variable {results : List TaskResult}

theorem toClaim_hasKey
    (h : forall a, a ∈ allAnomalies results -> a.HasKey host) :
    forall a, a ∈ toClaim host settings results -> a.HasKey host :=
  fun a ha => h a (mem_of_mem_confirmed ha)

theorem begin_of_hasKey (hdouble : Host.HasDouble settings.dedupBucketSeconds)
    (h : forall a, a ∈ allAnomalies results -> a.HasKey host) (now : Rat)
    (redis : Redis) (claimed queue : List Anomaly) :
    begin host settings now results redis claimed queue =
      ⟨redis, claimed, queue, enter (toClaim host settings results) []⟩ := by
  unfold begin
  rw [applyConsensus_confirmed hdouble (fun a ha => (h a ha).1)]
  rfl

theorem pendingSets_enter (redis : Redis) (claimed queue pending : List Anomaly) :
    TaskState.pendingSets ⟨redis, claimed, queue, enter pending []⟩ =
      pending.length := by
  cases pending with
  | nil =>
      rfl
  | cons a rest =>
      rfl

theorem noLoss_never (hready : (AlertDeduplicator.ofSettings settings).CanClaim now)
    (h : forall a, a ∈ allAnomalies results -> a.HasKey host) :
    NoLoss (outcome host settings now redis results .never) := by
  show NoLoss (complete host settings now
    (begin host settings now results redis [] []))
  rw [begin_of_hasKey hready.width h, complete_enter hready (toClaim_hasKey h)]
  intro a ha
  exact ⟨a, ha, rfl⟩

theorem noLoss_redisRaises_iff (hready : (AlertDeduplicator.ofSettings settings).CanClaim now)
    (h : forall a, a ∈ allAnomalies results -> a.HasKey host) (k : Nat) :
    NoLoss (outcome host settings now redis results (.redisRaises k)) <->
      (toClaim host settings results).length ≤ k ∨
        forall a, a ∈ (toClaim host settings results).take k ->
          redis.live (keyOf host settings a) now = true := by
  have hclaim : forall a, a ∈ toClaim host settings results ->
      a.HasKey host := toClaim_hasKey h
  show NoLoss (raiseAfter host settings now k TaskState.atSet
    (begin host settings now results redis [] [])) <-> _
  rw [begin_of_hasKey hready.width h]
  unfold raiseAfter
  simp only [atSet_effects hready hclaim, decide_eq_true_eq]
  rcases lt_or_ge k (toClaim host settings results).length with hlt | hge
  · rw [if_pos hlt, noLoss_effects_iff hready hclaim]
    constructor
    · intro hsafe
      rcases hsafe with hlive | hall
      · exact Or.inr hlive
      · omega
    · intro hsafe
      rcases hsafe with hall | hlive
      · omega
      · exact Or.inl hlive
  · rw [if_neg (not_lt_of_ge hge)]
    constructor
    · intro _
      exact Or.inl hge
    · intro _
      exact noLoss_complete_effects hready hclaim hge

theorem noLoss_brokerRaises_iff (hready : (AlertDeduplicator.ofSettings settings).CanClaim now)
    (h : forall a, a ∈ allAnomalies results -> a.HasKey host) (k : Nat) :
    NoLoss (outcome host settings now redis results (.brokerRaises k)) <->
      (freeKeys host settings now redis (toClaim host settings results)).length ≤
        k := by
  have hclaim : forall a, a ∈ toClaim host settings results ->
      a.HasKey host := toClaim_hasKey h
  show NoLoss (raiseAfter host settings now
    ((begin host settings now results redis [] []).pendingSets + k)
      TaskState.atDelay (begin host settings now results redis [] [])) <-> _
  rw [begin_of_hasKey hready.width h, pendingSets_enter]
  unfold raiseAfter
  simp only [atDelay_effects hready hclaim, decide_eq_true_eq]
  rcases lt_or_ge k (freeKeys host settings now redis
    (toClaim host settings results)).length with hlt | hge
  · rw [if_pos hlt, noLoss_effects_iff hready hclaim]
    constructor
    · intro hsafe
      rcases hsafe with hlive | hall
      · rw [List.take_of_length_le (Nat.le_add_right _ _),
          ← claims_eq_nil_iff hready.cooldown.1] at hlive
        rw [← length_claims hready.cooldown.1, hlive]
        exact Nat.zero_le k
      · omega
    · intro hall
      omega
  · rw [if_neg (not_lt_of_ge hge)]
    constructor
    · intro _
      exact hge
    · intro _
      exact noLoss_complete_effects hready hclaim (Nat.le_add_right _ _)

theorem outcome_workerLost (hready : (AlertDeduplicator.ofSettings settings).CanClaim now)
    (h : forall a, a ∈ allAnomalies results -> a.HasKey host) (n : Nat) (delay : NNRat) :
    outcome host settings now redis results (.workerLost n delay) =
      complete host settings (now + delay)
        ⟨(claims host settings now redis ((toClaim host settings results).take n)).2,
          (claims host settings now redis ((toClaim host settings results).take n)).1.map
            (stampOf host settings),
          ((claims host settings now redis (toClaim host settings results)).1.map
            (stampOf host settings)).take (n - (toClaim host settings results).length),
          enter (toClaim host settings results) []⟩ := by
  show complete host settings (now + delay)
    (begin host settings (now + delay) results _ _ _) = _
  rw [begin_of_hasKey hready.width h, begin_of_hasKey hready.width h,
    effects_enter hready (toClaim_hasKey h)]
  rfl

theorem noLoss_workerLost_iff (hready : (AlertDeduplicator.ofSettings settings).CanClaim now)
    (h : forall a, a ∈ allAnomalies results -> a.HasKey host) (n : Nat)
    (delay : NNRat) :
    NoLoss (outcome host settings now redis results (.workerLost n delay)) <->
      ((settings.alertCooldownSeconds : Rat) ≤ delay ∧
          (AlertDeduplicator.ofSettings settings).CanClaim (now + delay)) ∨
        (forall a, a ∈ (toClaim host settings results).take n ->
          redis.live (keyOf host settings a) now = true) ∨
        (toClaim host settings results).length +
          (freeKeys host settings now redis
            (toClaim host settings results)).length ≤ n := by
  have hclaim : forall a, a ∈ toClaim host settings results ->
      a.HasKey host := toClaim_hasKey h
  rw [outcome_workerLost hready h, ← claimed_subset_queued_iff hready.cooldown.1]
  by_cases hagain : (AlertDeduplicator.ofSettings settings).CanClaim (now + delay)
  · have hlater : now ≤ now + (delay : Rat) := by
      have hdelay : (0 : Rat) ≤ delay := delay.2
      linarith
    have hexpired : now + (settings.alertCooldownSeconds : Rat) ≤ now + delay <->
        (settings.alertCooldownSeconds : Rat) ≤ delay := by
      constructor <;> intro hle <;> linarith
    have hreclaimed : forall k,
        k ∈ (claims host settings now redis
          ((toClaim host settings results).take n)).1.map (keyOf host settings) ->
        (k ∈ (claims host settings (now + delay) (claims host settings now redis
            ((toClaim host settings results).take n)).2
            (toClaim host settings results)).1.map (keyOf host settings) <->
          (settings.alertCooldownSeconds : Rat) ≤ delay) := by
      intro k hk
      rw [← hexpired]
      exact claimed_again_iff hready.cooldown.1 hlater (fun a ha => List.mem_of_mem_take ha) hk
    rw [complete_enter hagain hclaim, noLoss_iff, and_iff_left hagain]
    simp only [List.map_append, List.map_take, map_dedupKey_stampOf, List.mem_append]
    constructor
    · intro hsafe
      by_cases hexpire : (settings.alertCooldownSeconds : Rat) ≤ delay
      · exact Or.inl hexpire
      · right
        intro k hk
        rcases hsafe k (Or.inl hk) with hqueued | hclaimed
        · exact hqueued
        · exact absurd ((hreclaimed k hk).mp hclaimed) hexpire
    · intro hsafe k hk
      rcases hk with hfirst | hsecond
      · rcases hsafe with hexpire | hqueued
        · exact Or.inr ((hreclaimed k hfirst).mpr hexpire)
        · exact Or.inl (hqueued k hfirst)
      · exact Or.inr hsecond
  · rcases effects_of_not_canClaim hagain results _ _ _ _ with ⟨phase, hrun⟩
    rw [begin_of_hasKey hready.width h] at hrun
    unfold complete
    rw [hrun, noLoss_iff, or_iff_right (fun hleft => hagain hleft.2)]
    simp only [List.map_take, map_dedupKey_stampOf]

/-!
When no claim can be made, none can be made later, and no execution has an effect.
-/

theorem raiseAfter_of_not_canClaim
    (h : ¬ (AlertDeduplicator.ofSettings settings).CanClaim now) (n : Nat)
    (kind : TaskState -> Bool) :
    exists phase,
      raiseAfter host settings now n kind (begin host settings now results redis [] []) =
        ⟨redis, [], [], phase⟩ := by
  unfold raiseAfter complete
  dsimp only
  rcases effects_of_not_canClaim h results n redis [] [] with ⟨phase, hrun⟩
  split_ifs with hkind
  · rw [hrun]
    exact ⟨_, rfl⟩
  · rw [← effects_add]
    exact effects_of_not_canClaim h results _ redis [] []

theorem outcome_of_not_canClaim (h : ¬ (AlertDeduplicator.ofSettings settings).CanClaim now)
    (failure : Failure) :
    exists phase,
      outcome host settings now redis results failure = ⟨redis, [], [], phase⟩ := by
  cases failure with
  | never =>
      exact effects_of_not_canClaim h results _ redis [] []
  | redisRaises k =>
      exact raiseAfter_of_not_canClaim h k TaskState.atSet
  | brokerRaises k =>
      exact raiseAfter_of_not_canClaim h _ TaskState.atDelay
  | workerLost n delay =>
      have hlater : ¬ (AlertDeduplicator.ofSettings settings).CanClaim (now + delay) := by
        have hdelay : (0 : Rat) ≤ delay := delay.2
        exact fun hready => h (hready.of_le (by linarith))
      rcases effects_of_not_canClaim h results n redis [] [] with ⟨phase, hlost⟩
      unfold outcome
      dsimp only
      rw [hlost]
      exact effects_of_not_canClaim hlater results _ redis [] []

theorem noLoss_of_not_canClaim (h : ¬ (AlertDeduplicator.ofSettings settings).CanClaim now)
    (failure : Failure) :
    NoLoss (outcome host settings now redis results failure) := by
  rcases outcome_of_not_canClaim h failure with ⟨phase, hrun⟩
  rw [hrun]
  intro a ha
  cases ha

/-!
# Exactly when nothing is lost
-/

/-- The failures that lose no alert. -/
def Harmless (host : Host) (settings : Settings) (now : Rat) (redis : Redis)
    (results : List TaskResult) : Failure -> Prop
  | .never => True
  | .redisRaises k =>
      (toClaim host settings results).length ≤ k ∨
        forall a, a ∈ (toClaim host settings results).take k ->
          redis.live (keyOf host settings a) now = true
  | .brokerRaises k =>
      (freeKeys host settings now redis (toClaim host settings results)).length ≤ k
  | .workerLost n delay =>
      ((settings.alertCooldownSeconds : Rat) ≤ delay ∧
          (AlertDeduplicator.ofSettings settings).CanClaim (now + delay)) ∨
        (forall a, a ∈ (toClaim host settings results).take n ->
          redis.live (keyOf host settings a) now = true) ∨
        (toClaim host settings results).length +
          (freeKeys host settings now redis
            (toClaim host settings results)).length ≤ n

/--
After any failure, every claimed key has a task exactly when the failure is one
of the harmless ones, or when no claim can be made.
-/
theorem noLoss_outcome_iff
    (h : forall a, a ∈ allAnomalies results -> a.HasKey host)
    (failure : Failure) :
    NoLoss (outcome host settings now redis results failure) <->
      ¬ (AlertDeduplicator.ofSettings settings).CanClaim now ∨
        Harmless host settings now redis results failure := by
  by_cases hready : (AlertDeduplicator.ofSettings settings).CanClaim now
  · rw [or_iff_right (not_not_intro hready)]
    cases failure with
    | never =>
        exact iff_of_true (noLoss_never hready h) trivial
    | redisRaises k =>
        exact noLoss_redisRaises_iff hready h k
    | brokerRaises k =>
        exact noLoss_brokerRaises_iff hready h k
    | workerLost n delay =>
        exact noLoss_workerLost_iff hready h n delay
  · exact iff_of_true (noLoss_of_not_canClaim hready failure) (Or.inl hready)

end Kinds

end Failures

/-!
One detected spike.  A worker that is lost after the last effect loses nothing,
and a broker that raises at once leaves a key that no task answers for.
-/

def spikeResults : List TaskResult :=
  [.report { metric := "cpu_usage", detector := "statistical",
             method := some "zscore", anomalies := some [spike] },
   .report { metric := "cpu_usage", detector := "prophet", anomalies := some [] }]

theorem spikeResults_hasKey :
    forall a, a ∈ allAnomalies spikeResults -> a.HasKey spikeHost := by
  intro a ha
  have hspike : a = spike := by
    simpa [allAnomalies, spikeResults, TaskResult.anomalies] using ha
  rw [hspike]
  decide +kernel

theorem toClaim_spike : toClaim spikeHost .defaults spikeResults = [spike] := by
  decide +kernel

theorem freeKeys_spike :
    freeKeys spikeHost .defaults 1700000060 ClaimStore.empty [spike] =
      ["mm:dedup:327026f9cbd5"] := by
  decide +kernel

theorem noLoss_outcome_iff_spike :
    NoLoss (outcome spikeHost .defaults 1700000060 ClaimStore.empty spikeResults
      (.workerLost 2 1)) := by
  apply (noLoss_outcome_iff spikeResults_hasKey (.workerLost 2 1)).mpr
  right
  right
  right
  rw [toClaim_spike, freeKeys_spike]
  decide

theorem brokerRaises_loses :
    ¬ forall (host : Host) (settings : Settings) (now : Rat) (redis : Redis)
      (results : List TaskResult) (failure : Failure),
      (forall a, a ∈ allAnomalies results -> a.HasKey host) ->
      NoLoss (outcome host settings now redis results failure) := by
  intro h
  have hsafe := h spikeHost .defaults 1700000060 ClaimStore.empty spikeResults
    (.brokerRaises 0) spikeResults_hasKey
  rw [noLoss_brokerRaises_iff (by decide +kernel) spikeResults_hasKey, toClaim_spike,
    freeKeys_spike] at hsafe
  revert hsafe
  decide

end Workers
end MetricMesh
