import Mathlib.Data.List.Perm.Subperm
import Mathlib.Data.NNRat.Defs
import Mathlib.Tactic.Linarith
import MetricMesh.Alerting.Consensus

/-!
# Aggregation and dispatch

`aggregate_and_alert` as a machine whose steps are the effects that reach
outside the worker: one SET for every confirmed anomaly, and then one enqueued
`route_alert` task for every anomaly that was granted its key.  A failure is a
point of this run, and a lost worker is followed by a second run on whatever the
first one left behind.
-/

namespace MetricMesh
namespace Workers

open Foundation
open Python
open Alerting

/-!
# Detector results

A result is the dictionary that a detector task returns, or anything else that
the result backend may hold in its place.
-/

structure DetectorReport where
  metric : String
  detector : String
  method : Option String := none
  anomalies : Option (List Anomaly)
deriving DecidableEq

inductive TaskResult where
  | report (r : DetectorReport)
  | other (value : Json)
deriving DecidableEq

def TaskResult.anomalies : TaskResult -> List Anomaly
  | .report r => r.anomalies.getD []
  | .other _ => []

def allAnomalies (results : List TaskResult) : List Anomaly :=
  results.flatMap TaskResult.anomalies

/-!
# The task
-/

inductive Phase where
  | filtering (pending unique : List Anomaly)
  | dispatching (remaining : List Anomaly)
  | raised (e : PyError)

structure TaskState where
  redis : Redis
  /-- The anomalies whose key was granted to this task. -/
  claimed : List Anomaly
  /-- The anomalies for which a `route_alert` task was enqueued. -/
  queue : List Anomaly
  phase : Phase

/-- The loop over the pending anomalies, or what comes after it. -/
def enter : List Anomaly -> List Anomaly -> Phase
  | [], unique => .dispatching unique
  | a :: rest, unique => .filtering (a :: rest) unique

section Task

variable (host : Host) (settings : Settings)

/-- One execution begins on what Redis and the broker hold. -/
def begin (now : Rat) (results : List TaskResult) (redis : Redis)
    (claimed queue : List Anomaly) : TaskState where
  redis := redis
  claimed := claimed
  queue := queue
  phase :=
    match applyConsensus host settings now (allAnomalies results)
      settings.consensusMinDetectors none with
    | .error e => .raised e
    | .ok confirmed => enter confirmed []

/-- One effect of the task, or nothing when it has ended. -/
def effect (now : Rat) (s : TaskState) : TaskState :=
  match s.phase with
  | .filtering [] unique => { s with phase := .dispatching unique }
  | .filtering (a :: rest) unique =>
      match (AlertDeduplicator.ofSettings settings).claim host settings now
        s.redis a with
      | .error e => { s with phase := .raised e }
      | .ok (granted, stamped, redis) =>
          { s with
            redis := redis
            claimed := if granted then s.claimed ++ [stamped] else s.claimed
            phase :=
              enter rest (if granted then unique ++ [stamped] else unique) }
  | .dispatching [] => s
  | .dispatching (a :: rest) =>
      { s with queue := s.queue ++ [a], phase := .dispatching rest }
  | .raised _ => s

def effects (now : Rat) (n : Nat) (s : TaskState) : TaskState :=
  (effect host settings now)^[n] s

def TaskState.pendingSets (s : TaskState) : Nat :=
  match s.phase with
  | .filtering pending _ => pending.length
  | _ => 0

def TaskState.work (s : TaskState) : Nat :=
  match s.phase with
  | .filtering pending unique => 2 * pending.length + unique.length + 1
  | .dispatching remaining => remaining.length
  | .raised _ => 0

def complete (now : Rat) (s : TaskState) : TaskState :=
  effects host settings now s.work s

def TaskState.atSet (s : TaskState) : Bool :=
  match s.phase with
  | .filtering (_ :: _) _ => true
  | _ => false

def TaskState.atDelay (s : TaskState) : Bool :=
  match s.phase with
  | .dispatching (_ :: _) => true
  | _ => false

/-!
# Failures

An exception ends the task: a shared task without `autoretry_for` is not
retried, and its message is acknowledged.  A lost worker is different, since the
message is then delivered again and the second execution runs to its end.
-/

inductive Failure where
  | never
  | redisRaises (k : Nat)
  | brokerRaises (k : Nat)
  | workerLost (n : Nat) (delay : NNRat)

def raiseAfter (now : Rat) (n : Nat) (kind : TaskState -> Bool)
    (s : TaskState) : TaskState :=
  let t := effects host settings now n s
  if kind t then { t with phase := .raised .connectionError }
  else complete host settings now t

/-- What is left behind when the task has ended for good. -/
def outcome (now : Rat) (redis : Redis) (results : List TaskResult)
    (failure : Failure) : TaskState :=
  let s := begin host settings now results redis [] []
  match failure with
  | .never => complete host settings now s
  | .redisRaises k => raiseAfter host settings now k TaskState.atSet s
  | .brokerRaises k =>
      raiseAfter host settings now (s.pendingSets + k) TaskState.atDelay s
  | .workerLost n delay =>
      let lost := effects host settings now n s
      complete host settings (now + delay)
        (begin host settings (now + delay) results lost.redis lost.claimed
          lost.queue)

end Task

/-!
# Every execution ends
-/

section Ending

variable {host : Host} {settings : Settings} {now : Rat}

def TaskState.ended (s : TaskState) : Prop :=
  s.phase = .dispatching [] ∨ exists e, s.phase = .raised e

theorem effect_of_ended {s : TaskState} (h : s.ended) :
    effect host settings now s = s := by
  unfold effect
  rcases h with hdone | ⟨e, hraised⟩
  · rw [hdone]
  · rw [hraised]

theorem enter_work (pending unique : List Anomaly) :
    (match enter pending unique with
      | .filtering pending unique => 2 * pending.length + unique.length + 1
      | .dispatching remaining => remaining.length
      | .raised _ => 0) ≤ 2 * pending.length + unique.length + 1 := by
  cases pending with
  | nil =>
      show unique.length ≤ 2 * 0 + unique.length + 1
      omega
  | cons a rest =>
      exact le_refl _

theorem effect_work (s : TaskState) :
    s.ended ∨ (effect host settings now s).work < s.work := by
  cases hphase : s.phase with
  | raised e =>
      exact Or.inl (Or.inr ⟨e, hphase⟩)
  | dispatching remaining =>
      cases remaining with
      | nil =>
          exact Or.inl (Or.inl hphase)
      | cons a rest =>
          right
          simp [effect, TaskState.work, hphase]
  | filtering pending unique =>
      right
      cases pending with
      | nil =>
          simp [effect, TaskState.work, hphase]
      | cons a rest =>
          cases hclaim : (AlertDeduplicator.ofSettings settings).claim host
            settings now s.redis a with
          | error e =>
              simp [effect, TaskState.work, hphase, hclaim]
          | ok verdict =>
              rcases verdict with ⟨granted, stamped, redis⟩
              have hbound := enter_work rest
                (if granted then unique ++ [stamped] else unique)
              have hlength :
                  (if granted then unique ++ [stamped] else unique).length ≤
                    unique.length + 1 := by
                cases granted <;> simp
              simp only [effect, TaskState.work, hphase, hclaim,
                List.length_cons]
              omega

theorem effects_ended (n : Nat) :
    forall s : TaskState, s.work ≤ n -> (effects host settings now n s).ended := by
  induction n with
  | zero =>
      intro s hwork
      have hstep : s.ended ∨ (effect host settings now s).work < s.work :=
        effect_work s
      rcases hstep with hended | hless
      · exact hended
      · omega
  | succ n ih =>
      intro s hwork
      have hstep : s.ended ∨ (effect host settings now s).work < s.work :=
        effect_work s
      show (effects host settings now n (effect host settings now s)).ended
      rcases hstep with hended | hless
      · have hfixed : effects host settings now n s = s :=
          Function.iterate_fixed (effect_of_ended hended) n
        rw [effect_of_ended hended, hfixed]
        exact hended
      · apply ih
        omega

theorem complete_ended (s : TaskState) : (complete host settings now s).ended :=
  effects_ended s.work s (le_refl _)

end Ending

def dedupKey (a : Anomaly) : String :=
  keyPrefix ++ a.fingerprint.getD ""

/-- Every key claimed by the task has a `route_alert` task enqueued for it. -/
def NoLoss (s : TaskState) : Prop :=
  forall a, a ∈ s.claimed -> exists b, b ∈ s.queue ∧ dedupKey b = dedupKey a

/-!
# An execution on a batch of anomalies with keys

After `n` effects the first `n` confirmed anomalies have been claimed, and once
all of them are, every further effect enqueues one granted anomaly.
-/

section Execution

variable {host : Host} {settings : Settings}

def keyOf (host : Host) (settings : Settings) (a : Anomaly) : String :=
  (AlertDeduplicator.ofSettings settings).stableKey host a

def stampOf (host : Host) (settings : Settings) (a : Anomaly) : Anomaly :=
  (AlertDeduplicator.ofSettings settings).stamp host a

@[simp] theorem dedupKey_stampOf (a : Anomaly) :
    dedupKey (stampOf host settings a) = keyOf host settings a := rfl

def toClaim (host : Host) (settings : Settings) (results : List TaskResult) :
    List Anomaly :=
  confirmed host settings settings.consensusMinDetectors (allAnomalies results)

def claims (host : Host) (settings : Settings) (now : Rat) (redis : Redis)
    (anomalies : List Anomaly) : List Anomaly × Redis :=
  redis.claimAll (keyOf host settings) now (now + settings.alertCooldownSeconds)
    anomalies

theorem effects_succ (now : Rat) (n : Nat) (s : TaskState) :
    effects host settings now (n + 1) s =
      effects host settings now n (effect host settings now s) := rfl

theorem effects_add (now : Rat) (m n : Nat) (s : TaskState) :
    effects host settings now (m + n) s =
      effects host settings now n (effects host settings now m s) := by
  unfold effects
  rw [Nat.add_comm, Function.iterate_add_apply]

theorem claims_cons (now : Rat) (redis : Redis) (a : Anomaly)
    (rest : List Anomaly) :
    claims host settings now redis (a :: rest) =
      ((claims host settings now redis [a]).1 ++
          (claims host settings now (claims host settings now redis [a]).2 rest).1,
        (claims host settings now (claims host settings now redis [a]).2 rest).2) :=
  ClaimStore.claimAll_append (keyOf host settings) [a] rest redis now _

theorem effect_claim {now : Rat} {a : Anomaly}
    (hready : (AlertDeduplicator.ofSettings settings).CanClaim now) (ha : a.HasKey host)
    (redis : Redis) (claimed queue rest unique : List Anomaly) :
    effect host settings now ⟨redis, claimed, queue, enter (a :: rest) unique⟩ =
      ⟨(claims host settings now redis [a]).2,
        claimed ++ (claims host settings now redis [a]).1.map
          (stampOf host settings),
        queue,
        enter rest (unique ++ (claims host settings now redis [a]).1.map
          (stampOf host settings))⟩ := by
  have hclaim := AlertDeduplicator.claim_of_hasKey hready ha settings redis
  have hsingle : claims host settings now redis [a] =
      (if (redis.setNX ((AlertDeduplicator.ofSettings settings).stableKey host a)
          now (now + (AlertDeduplicator.ofSettings settings).cooldown)).1
        then [a] else [],
        (redis.setNX ((AlertDeduplicator.ofSettings settings).stableKey host a)
          now (now + (AlertDeduplicator.ofSettings settings).cooldown)).2) := rfl
  rw [hsingle]
  simp only [effect, enter, hclaim]
  split <;> simp [stampOf]

theorem effects_claim {now : Rat}
    (hready : (AlertDeduplicator.ofSettings settings).CanClaim now)
    (pending : List Anomaly) (h : forall a, a ∈ pending -> a.HasKey host) :
    forall (n : Nat) (redis : Redis) (claimed queue unique : List Anomaly),
      n ≤ pending.length ->
      effects host settings now n
          ⟨redis, claimed, queue, enter pending unique⟩ =
        ⟨(claims host settings now redis (pending.take n)).2,
          claimed ++ (claims host settings now redis (pending.take n)).1.map
            (stampOf host settings),
          queue,
          enter (pending.drop n)
            (unique ++ (claims host settings now redis (pending.take n)).1.map
              (stampOf host settings))⟩ := by
  induction pending with
  | nil =>
      intro n redis claimed queue unique hn
      have hzero : n = 0 := by simpa using hn
      subst hzero
      simp [effects, claims]
  | cons a rest ih =>
      intro n redis claimed queue unique hn
      cases n with
      | zero =>
          simp [effects, claims]
      | succ n =>
          have hrest : n ≤ rest.length := by simpa using hn
          rw [effects_succ, effect_claim hready (h a List.mem_cons_self),
            ih (fun b hb => h b (List.mem_cons_of_mem _ hb)) n _ _ _ _ hrest,
            List.take_succ_cons, List.drop_succ_cons,
            claims_cons now redis a (rest.take n)]
          simp

theorem effects_dispatch (now : Rat) (redis : Redis) (claimed : List Anomaly) :
    forall (n : Nat) (queue remaining : List Anomaly),
      effects host settings now n
          ⟨redis, claimed, queue, .dispatching remaining⟩ =
        ⟨redis, claimed, queue ++ remaining.take n,
          .dispatching (remaining.drop n)⟩ := by
  intro n
  induction n with
  | zero =>
      intro queue remaining
      simp [effects]
  | succ n ih =>
      intro queue remaining
      rw [effects_succ]
      cases remaining with
      | nil =>
          simpa [effect] using ih queue []
      | cons a rest =>
          simpa [effect] using ih (queue ++ [a]) rest

theorem effects_enter {now : Rat}
    (hready : (AlertDeduplicator.ofSettings settings).CanClaim now)
    {pending : List Anomaly} (h : forall a, a ∈ pending -> a.HasKey host)
    (n : Nat) (redis : Redis) (claimed queue : List Anomaly) :
    effects host settings now n ⟨redis, claimed, queue, enter pending []⟩ =
      ⟨(claims host settings now redis (pending.take n)).2,
        claimed ++ (claims host settings now redis (pending.take n)).1.map
          (stampOf host settings),
        queue ++ ((claims host settings now redis pending).1.map
          (stampOf host settings)).take (n - pending.length),
        if n < pending.length then
          enter (pending.drop n)
            ((claims host settings now redis (pending.take n)).1.map
              (stampOf host settings))
        else
          .dispatching (((claims host settings now redis pending).1.map
            (stampOf host settings)).drop (n - pending.length))⟩ := by
  rcases lt_or_ge n pending.length with hlt | hge
  · have hzero : n - pending.length = 0 := by omega
    rw [effects_claim hready pending h n _ _ _ _ (le_of_lt hlt), if_pos hlt, hzero]
    simp
  · have hsplit : n = pending.length + (n - pending.length) := by omega
    have hall : pending.take n = pending := List.take_of_length_le hge
    rw [hsplit, effects_add,
      effects_claim hready pending h pending.length _ _ _ _ (le_refl _),
      List.drop_length, List.take_length, enter, List.nil_append,
      effects_dispatch, ← hsplit, if_neg (not_lt_of_ge hge), hall]

theorem complete_dispatching (now : Rat) (redis : Redis)
    (claimed queue remaining : List Anomaly) :
    complete host settings now
        ⟨redis, claimed, queue, .dispatching remaining⟩ =
      ⟨redis, claimed, queue ++ remaining, .dispatching []⟩ := by
  unfold complete
  rw [effects_dispatch]
  simp [TaskState.work]

theorem complete_enter {now : Rat}
    (hready : (AlertDeduplicator.ofSettings settings).CanClaim now)
    {pending : List Anomaly} (h : forall a, a ∈ pending -> a.HasKey host)
    (redis : Redis) (claimed queue : List Anomaly) :
    complete host settings now ⟨redis, claimed, queue, enter pending []⟩ =
      ⟨(claims host settings now redis pending).2,
        claimed ++ (claims host settings now redis pending).1.map
          (stampOf host settings),
        queue ++ (claims host settings now redis pending).1.map
          (stampOf host settings),
        .dispatching []⟩ := by
  have hended : (complete host settings now
      ⟨redis, claimed, queue, enter pending []⟩).ended := complete_ended _
  unfold complete at hended ⊢
  rw [effects_enter hready h] at hended ⊢
  generalize TaskState.work ⟨redis, claimed, queue, enter pending []⟩ = n
    at hended ⊢
  rcases lt_or_ge n pending.length with hlt | hge
  · -- The loop cannot be where the execution ends.
    rw [if_pos hlt] at hended
    cases hdrop : pending.drop n with
    | nil =>
        rw [List.drop_eq_nil_iff] at hdrop
        omega
    | cons a rest =>
        rw [hdrop] at hended
        rcases hended with hdone | ⟨e, hraised⟩
        · cases hdone
        · cases hraised
  · rw [if_neg (not_lt_of_ge hge)] at hended ⊢
    rcases hended with hdone | ⟨e, hraised⟩
    · have hrest : ((claims host settings now redis pending).1.map
          (stampOf host settings)).drop (n - pending.length) = [] := by
        injection hdone
      rw [hrest, List.take_of_length_le (List.drop_eq_nil_iff.mp hrest),
        List.take_of_length_le hge]
    · cases hraised

/-- An execution that cannot claim leaves Redis and the queue as they are. -/
theorem effects_of_not_canClaim {now : Rat}
    (h : ¬ (AlertDeduplicator.ofSettings settings).CanClaim now) (results : List TaskResult)
    (n : Nat) (redis : Redis) (claimed queue : List Anomaly) :
    exists phase,
      effects host settings now n (begin host settings now results redis claimed queue) =
        ⟨redis, claimed, queue, phase⟩ := by
  unfold begin
  cases applyConsensus host settings now (allAnomalies results)
    settings.consensusMinDetectors none with
  | error e =>
      exact ⟨_, Function.iterate_fixed (effect_of_ended (Or.inr ⟨e, rfl⟩)) n⟩
  | ok kept =>
      cases kept with
      | nil =>
          exact ⟨_, Function.iterate_fixed (effect_of_ended (Or.inl rfl)) n⟩
      | cons a rest =>
          rcases AlertDeduplicator.claim_of_not_canClaim h host settings redis a with ⟨e, he⟩
          cases n with
          | zero =>
              exact ⟨_, rfl⟩
          | succ n =>
              have hstep : effect host settings now
                  ⟨redis, claimed, queue, enter (a :: rest) []⟩ =
                    ⟨redis, claimed, queue, .raised e⟩ := by
                simp only [effect, enter, he]
              dsimp only
              rw [effects_succ, hstep]
              exact ⟨_, Function.iterate_fixed (effect_of_ended (Or.inr ⟨e, rfl⟩)) n⟩

/-!
# What a claim needs
-/

theorem noLoss_iff (s : TaskState) :
    NoLoss s <-> forall k, k ∈ s.claimed.map dedupKey ->
      k ∈ s.queue.map dedupKey := by
  simp [NoLoss]

theorem map_dedupKey_stampOf (anomalies : List Anomaly) :
    (anomalies.map (stampOf host settings)).map dedupKey =
      anomalies.map (keyOf host settings) := by
  simp [Function.comp_def]

theorem subset_take_iff {α : Type} {xs : List α} (h : xs.Nodup) (n : Nat) :
    (forall x, x ∈ xs -> x ∈ xs.take n) <-> xs.length ≤ n := by
  constructor
  · intro hall
    have hsub : xs.length ≤ (xs.take n).length :=
      (List.subperm_of_subset h hall).length_le
    rw [List.length_take] at hsub
    omega
  · intro hle x hx
    rw [List.take_of_length_le hle]
    exact hx

section Claims

variable {now : Rat} {redis : Redis}

theorem now_lt_expiry (hpos : 0 < settings.alertCooldownSeconds) (now : Rat) :
    now < now + settings.alertCooldownSeconds := by
  have hcast : (0 : Rat) < settings.alertCooldownSeconds := by exact_mod_cast hpos
  linarith

theorem mem_claims (hpos : 0 < settings.alertCooldownSeconds)
    (anomalies : List Anomaly) (k : String) :
    k ∈ (claims host settings now redis anomalies).1.map (keyOf host settings) <->
      k ∈ anomalies.map (keyOf host settings) ∧ redis.live k now = false :=
  ClaimStore.mem_claimAll _ (now_lt_expiry hpos now) anomalies redis k

theorem live_claims {later : Rat} (hle : now ≤ later)
    (anomalies : List Anomaly) (k : String) :
    (claims host settings now redis anomalies).2.live k later = true <->
      (k ∈ (claims host settings now redis anomalies).1.map
          (keyOf host settings) ∧
        later < now + settings.alertCooldownSeconds) ∨
        redis.live k later = true :=
  ClaimStore.live_claimAll _ anomalies redis k later hle

theorem claims_eq_nil_iff (hpos : 0 < settings.alertCooldownSeconds)
    (anomalies : List Anomaly) :
    (claims host settings now redis anomalies).1 = [] <->
      forall a, a ∈ anomalies ->
        redis.live (keyOf host settings a) now = true :=
  ClaimStore.claimAll_eq_nil_iff _ (now_lt_expiry hpos now) redis anomalies

/-- The keys that a list of anomalies would be granted. -/
def freeKeys (host : Host) (settings : Settings) (now : Rat) (redis : Redis)
    (anomalies : List Anomaly) : List String :=
  redis.freeKeys (keyOf host settings) now anomalies

theorem length_claims (hpos : 0 < settings.alertCooldownSeconds)
    (anomalies : List Anomaly) :
    (claims host settings now redis anomalies).1.length =
      (freeKeys host settings now redis anomalies).length :=
  ClaimStore.length_claimAll _ (now_lt_expiry hpos now) anomalies redis

theorem nodup_claims (hpos : 0 < settings.alertCooldownSeconds)
    (anomalies : List Anomaly) :
    ((claims host settings now redis anomalies).1.map
      (keyOf host settings)).Nodup :=
  ClaimStore.nodup_claimAll _ (now_lt_expiry hpos now) anomalies redis

theorem claims_subset_take_iff (hpos : 0 < settings.alertCooldownSeconds)
    (anomalies : List Anomaly) (n : Nat) :
    (forall k, k ∈ (claims host settings now redis anomalies).1.map
          (keyOf host settings) ->
        k ∈ ((claims host settings now redis anomalies).1.map
          (keyOf host settings)).take n) <->
      (freeKeys host settings now redis anomalies).length ≤ n := by
  rw [subset_take_iff (nodup_claims hpos anomalies), List.length_map,
    length_claims hpos]

theorem claimed_again_iff (hpos : 0 < settings.alertCooldownSeconds)
    {later : Rat} (hle : now ≤ later) {anomalies first : List Anomaly}
    (hfirst : forall a, a ∈ first -> a ∈ anomalies) {k : String}
    (hk : k ∈ (claims host settings now redis first).1.map
      (keyOf host settings)) :
    k ∈ (claims host settings later
        (claims host settings now redis first).2 anomalies).1.map
          (keyOf host settings) <->
      now + settings.alertCooldownSeconds ≤ later := by
  have hgranted := (mem_claims hpos first k).mp hk
  have hdead : ¬ redis.live k later = true := by
    intro hlive
    rw [ClaimStore.live_antitone hle hlive] at hgranted
    cases hgranted.2
  have hmem : k ∈ anomalies.map (keyOf host settings) := by
    rcases List.mem_map.mp hgranted.1 with ⟨a, ha, hkey⟩
    rw [← hkey]
    exact List.mem_map_of_mem (hfirst a ha)
  have hlive : (claims host settings now redis first).2.live k later = true <->
      later < now + settings.alertCooldownSeconds := by
    rw [live_claims hle]
    constructor
    · intro h
      rcases h with h | h
      · exact h.2
      · exact absurd h hdead
    · intro h
      exact Or.inl ⟨hk, h⟩
  rw [mem_claims hpos]
  constructor
  · intro h
    by_contra hlt
    rw [hlive.mpr (lt_of_not_ge hlt)] at h
    cases h.2
  · intro h
    refine ⟨hmem, Bool.eq_false_iff.mpr ?_⟩
    intro hstill
    exact absurd (hlive.mp hstill) (not_lt_of_ge h)

end Claims

end Execution

end Workers
end MetricMesh
