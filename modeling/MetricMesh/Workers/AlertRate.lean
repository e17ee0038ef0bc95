import MetricMesh.Foundation.ClaimRate
import MetricMesh.Workers.Platform

/-!
# How often alerts are dispatched

Every alert task was paid for by a claim on the key of its fingerprint.  So the
cooldown bounds how many alerts of one fingerprint a run can store, whatever
fails, whichever tasks are executed again, and however the sweeps overlap.
-/

namespace MetricMesh
namespace Workers

open Foundation
open Python
open Alerting
open Detection
open Storage

def hasFingerprint (fp : String) (a : Anomaly) : Bool :=
  a.fingerprint.getD "" = fp

structure Span where
  start : Rat
  stop : Rat

def Span.Contains (span : Span) (t : Rat) : Prop :=
  span.start ≤ t ∧ t ≤ span.stop

instance (span : Span) (t : Rat) : Decidable (span.Contains t) :=
  inferInstanceAs (Decidable (_ ∧ _))

def lastClaim (now : Rat) : Failure -> Rat
  | .workerLost _ delay => now + delay
  | _ => now

/-- The anomalies that a task has enqueued or will enqueue without a further claim. -/
def TaskState.paid (s : TaskState) : List Anomaly :=
  s.queue ++
    match s.phase with
    | .filtering _ unique => unique
    | .dispatching remaining => remaining
    | .raised _ => []

section Aggregation

variable {host : Host} {settings : Settings} {span : Span} {fp : String}

/-- So many alerts of the fingerprint have been paid for. -/
def Paid (settings : Settings) (span : Span) (fp : String) (n : Nat) (redis : Redis) :
    Prop :=
  redis.Fits (settings.alertCooldownSeconds : Rat) span.start span.stop n (keyPrefix ++ fp)

theorem Paid.mono (hpos : 0 < settings.alertCooldownSeconds) {m n : Nat} {redis : Redis}
    (h : Paid settings span fp n redis) (hle : m ≤ n) : Paid settings span fp m redis :=
  ClaimStore.Fits.mono (le_of_lt (Int.cast_pos.mpr hpos)) h hle

theorem paid_enter (redis : Redis) (claimed queue pending unique : List Anomaly) :
    TaskState.paid ⟨redis, claimed, queue, enter pending unique⟩ = queue ++ unique := by
  cases pending <;> rfl

theorem paid_grant {now : Rat} (hnow : span.Contains now) {redis : Redis} {fp' : String}
    (hlive : redis.live (keyPrefix ++ fp') now = false) {b stamped : Anomaly}
    (hstamped : stamped = { b with fingerprint := some fp' }) {base : Nat}
    {paid : List Anomaly}
    (h : Paid settings span fp (base + paid.countP (hasFingerprint fp)) redis) :
    Paid settings span fp (base + (paid ++ [stamped]).countP (hasFingerprint fp))
      (redis.put (keyPrefix ++ fp') (now + settings.alertCooldownSeconds)) := by
  rw [List.countP_append, List.countP_singleton, hstamped]
  by_cases heq : fp' = fp
  · have hcount : hasFingerprint fp { b with fingerprint := some fp' } = true :=
      decide_eq_true heq
    rw [if_pos hcount, ← Nat.add_assoc, heq]
    rw [heq] at hlive
    exact ClaimStore.Fits.put_self h hlive hnow.1 hnow.2
  · have hcount : ¬ hasFingerprint fp { b with fingerprint := some fp' } = true := by
      intro hcount
      exact heq (of_decide_eq_true hcount)
    rw [if_neg hcount, Nat.add_zero]
    apply ClaimStore.Fits.put_of_ne h
    intro hkey
    exact heq (String.append_right_inj keyPrefix |>.mp hkey).symm

theorem paid_effect (hpos : 0 < settings.alertCooldownSeconds) {now : Rat}
    (hnow : span.Contains now) {base : Nat} {s : TaskState}
    (h : Paid settings span fp (base + s.paid.countP (hasFingerprint fp)) s.redis) :
    Paid settings span fp
      (base + (effect host settings now s).paid.countP (hasFingerprint fp))
      (effect host settings now s).redis := by
  rcases s with ⟨redis, claimed, queue, phase⟩
  cases phase with
  | raised e =>
      exact h
  | dispatching remaining =>
      cases remaining with
      | nil =>
          exact h
      | cons b rest =>
          have hsame : TaskState.paid (effect host settings now
              ⟨redis, claimed, queue, .dispatching (b :: rest)⟩) =
              TaskState.paid ⟨redis, claimed, queue, .dispatching (b :: rest)⟩ := by
            simp [TaskState.paid, effect]
          rw [hsame]
          exact h
  | filtering pending unique =>
      cases pending with
      | nil =>
          exact h
      | cons b rest =>
          cases hclaim : (AlertDeduplicator.ofSettings settings).claim host settings now
              redis b with
          | error e =>
              simp only [effect, hclaim]
              apply h.mono hpos
              simp only [TaskState.paid, List.append_nil, List.countP_append]
              omega
          | ok verdict =>
              rcases verdict with ⟨granted, stamped, redis'⟩
              rcases AlertDeduplicator.fingerprint_of_claim hclaim with
                ⟨fp', hstamped, hgranted, hredis⟩
              simp only [effect, hclaim, paid_enter]
              cases hlive : redis.live (keyPrefix ++ fp') now with
              | true =>
                  rw [ClaimStore.setNX_of_live hlive] at hgranted hredis
                  rw [hgranted, hredis]
                  exact h
              | false =>
                  rw [ClaimStore.setNX_of_not_live hlive] at hgranted hredis
                  have hgrant := paid_grant hnow hlive hstamped h
                  rw [show TaskState.paid ⟨redis, claimed, queue, .filtering (b :: rest)
                    unique⟩ = queue ++ unique from rfl, List.append_assoc] at hgrant
                  rw [hgranted, hredis]
                  exact hgrant

theorem paid_effects (hpos : 0 < settings.alertCooldownSeconds) {now : Rat}
    (hnow : span.Contains now) {base : Nat} (n : Nat) :
    forall s : TaskState,
      Paid settings span fp (base + s.paid.countP (hasFingerprint fp)) s.redis ->
        Paid settings span fp
          (base + (effects host settings now n s).paid.countP (hasFingerprint fp))
          (effects host settings now n s).redis := by
  induction n with
  | zero =>
      intro s h
      exact h
  | succ n ih =>
      intro s h
      exact ih _ (paid_effect hpos hnow h)

theorem paid_raiseAfter (hpos : 0 < settings.alertCooldownSeconds) {now : Rat}
    (hnow : span.Contains now) {base : Nat} (n : Nat) (kind : TaskState -> Bool)
    {s : TaskState}
    (h : Paid settings span fp (base + s.paid.countP (hasFingerprint fp)) s.redis) :
    Paid settings span fp
      (base + (raiseAfter host settings now n kind s).paid.countP (hasFingerprint fp))
      (raiseAfter host settings now n kind s).redis := by
  have heffects := @paid_effects host settings span fp hpos now hnow base n s h
  unfold raiseAfter
  dsimp only
  split
  · apply heffects.mono hpos
    simp only [TaskState.paid, List.append_nil, List.countP_append]
    omega
  · exact paid_effects hpos hnow _ _ heffects

theorem paid_begin (now : Rat) (results : List TaskResult) (redis : Redis)
    (claimed queue : List Anomaly) :
    (begin host settings now results redis claimed queue).paid = queue := by
  unfold begin
  cases applyConsensus host settings now (allAnomalies results)
      settings.consensusMinDetectors none with
  | error e =>
      exact List.append_nil queue
  | ok confirmed =>
      exact (paid_enter redis claimed queue confirmed []).trans (List.append_nil queue)

theorem paid_outcome (hpos : 0 < settings.alertCooldownSeconds) {now : Rat}
    {failure : Failure} (hnow : span.Contains now)
    (hlast : span.Contains (lastClaim now failure)) {base : Nat} {redis : Redis}
    (results : List TaskResult) (h : Paid settings span fp base redis) :
    Paid settings span fp
      (base + (outcome host settings now redis results failure).queue.countP
        (hasFingerprint fp))
      (outcome host settings now redis results failure).redis := by
  have hbegin : forall (t : Rat) (r : Redis) (claimed queue : List Anomaly),
      Paid settings span fp (base + queue.countP (hasFingerprint fp)) r ->
        Paid settings span fp
          (base + (begin host settings t results r claimed queue).paid.countP
            (hasFingerprint fp))
          (begin host settings t results r claimed queue).redis := by
    intro t r claimed queue hpaid
    rw [paid_begin]
    exact hpaid
  have hstart := hbegin now redis [] [] h
  have hpaid : Paid settings span fp
      (base + (outcome host settings now redis results failure).paid.countP
        (hasFingerprint fp))
      (outcome host settings now redis results failure).redis := by
    cases failure with
    | never =>
        exact paid_effects hpos hnow _ _ hstart
    | redisRaises k =>
        exact paid_raiseAfter hpos hnow _ _ hstart
    | brokerRaises k =>
        exact paid_raiseAfter hpos hnow _ _ hstart
    | workerLost n delay =>
        have hlost := @paid_effects host settings span fp hpos now hnow base n _ hstart
        apply paid_effects hpos hlast
        apply hbegin
        apply hlost.mono hpos
        simp only [TaskState.paid, List.countP_append]
        omega
  apply hpaid.mono hpos
  simp only [TaskState.paid, List.countP_append]
  omega

end Aggregation

/-!
# Runs
-/

namespace Installation

/-- The callbacks claim their keys in the span, and alert tasks are acknowledged. -/
def Event.Within (span : Span) : Event -> Prop
  | .callback _ now failure => span.Contains now ∧ span.Contains (lastClaim now failure)
  | .route _ _ _ handling => handling.workerLost = false
  | _ => True

/-- The alerts of a fingerprint that are stored or have an alert task waiting. -/
def alertsOf (s : Installation) (fp : String) : Nat :=
  s.queue.countP (hasFingerprint fp) + s.db.alerts.countP (fun row => row.fingerprint = fp)

section Runs

variable {lib : Libraries} {settings : Settings} {span : Span} {fp : String}

theorem countP_fingerprint (alerts : List AlertRow) (fp : String) :
    alerts.countP (fun row => row.fingerprint = fp) =
      (alerts.map AlertRow.toAlertParams).countP (fun params => params.fingerprint = fp) := by
  rw [List.countP_map]
  rfl

theorem fingerprint_of_alertParams {host : Host} {a : Anomaly} {sinks : List String}
    {params : AlertParams} (h : alertParams host a sinks = .ok params) :
    params.fingerprint = a.fingerprint.getD "" := by
  unfold alertParams at h
  split at h
  · cases h
  · split at h
    · cases h
    · injection h with h
      rw [← h]

theorem alertsOf_route (s : Installation) (anomaly : Anomaly) (now : Instant)
    (alertId : Int) {handling : Handling} (hlost : handling.workerLost = false) :
    (s.route lib anomaly now alertId handling).alertsOf fp ≤ s.alertsOf fp := by
  rcases handling with ⟨accepted, workerLost⟩
  subst hlost
  unfold Installation.route Handling.waiting
  by_cases hmem : anomaly ∈ s.queue
  · rw [if_pos hmem, if_neg Bool.false_ne_true]
    have hcount := List.countP_erase (hasFingerprint fp) s.queue anomaly
    have hpositive : hasFingerprint fp anomaly = true ->
        0 < s.queue.countP (hasFingerprint fp) :=
      fun hfp => List.countP_pos_iff.mpr ⟨anomaly, hmem, hfp⟩
    cases accepted with
    | none =>
        unfold alertsOf storeAlert
        dsimp only
        omega
    | some sinks =>
        unfold storeAlert persistAlert
        dsimp only
        cases hparams : alertParams lib.host anomaly sinks with
        | error e =>
            unfold alertsOf
            dsimp only
            omega
        | ok params =>
            have hfingerprint : decide (params.fingerprint = fp) =
                hasFingerprint fp anomaly := by
              rw [fingerprint_of_alertParams hparams]
              rfl
            unfold alertsOf
            dsimp only
            rw [List.countP_append, List.countP_singleton, hcount, hfingerprint]
            by_cases hfp : hasFingerprint fp anomaly = true
            · have hpos := hpositive hfp
              rw [if_pos ⟨hmem, hfp⟩, if_pos hfp]
              omega
            · rw [if_neg (fun h => hfp h.2), if_neg hfp]
              omega
  · rw [if_neg hmem]

theorem paid_step (collation : Collation) (hpos : 0 < settings.alertCooldownSeconds)
    {s : Installation} {e : Event} (hinserts : e.insertsAlert = false)
    (hwithin : e.Within span) (h : Paid settings span fp (s.alertsOf fp) s.redis) :
    Paid settings span fp ((step lib settings collation s e).2.alertsOf fp)
      (step lib settings collation s e).2.redis := by
  cases e with
  | request r =>
      have halerts := alerts_exec lib.host settings collation s.db hinserts
      have hsame : (step lib settings collation s (.request r)).2.alertsOf fp =
          s.alertsOf fp := by
        show _ + (exec lib.host settings collation s.db r).2.alerts.countP _ = _
        rw [countP_fingerprint, halerts, ← countP_fingerprint]
        rfl
      rw [hsame]
      exact h
  | beat id now =>
      exact h
  | execute id task now =>
      show Paid settings span fp ((s.execute lib settings id task now).alertsOf fp)
        (s.execute lib settings id task now).redis
      have halerts := (Platform.execute_frame lib settings s id task now).2
      have hsame : (s.execute lib settings id task now).alertsOf fp = s.alertsOf fp ∧
          (s.execute lib settings id task now).redis = s.redis := by
        unfold alertsOf
        rw [halerts]
        unfold Installation.execute
        split <;> exact ⟨rfl, rfl⟩
      rw [hsame.1, hsame.2]
      exact h
  | callback id now failure =>
      show Paid settings span fp ((s.callback lib settings id now failure).alertsOf fp)
        (s.callback lib settings id now failure).redis
      unfold Installation.callback
      cases hresults : (s.chords id).results with
      | none =>
          exact h
      | some results =>
          have houtcome := @paid_outcome lib.host settings span fp hpos now failure
            hwithin.1 hwithin.2 _ s.redis results h
          unfold alertsOf at houtcome ⊢
          dsimp only
          rw [List.countP_append, Nat.add_right_comm]
          exact houtcome
  | route anomaly now alertId handling =>
      have hredis : (s.route lib anomaly now alertId handling).redis = s.redis := by
        unfold Installation.route
        split <;> rfl
      show Paid settings span fp ((s.route lib anomaly now alertId handling).alertsOf fp)
        (s.route lib anomaly now alertId handling).redis
      rw [hredis]
      exact h.mono hpos (alertsOf_route s anomaly now alertId hwithin)

end Runs

end Installation

namespace Platform

def Event.Within (span : Span) : Event -> Prop
  | .callback _ now failure => span.Contains now ∧ span.Contains (lastClaim now failure)
  | .route _ _ _ handling => handling.workerLost = false
  | _ => True

instance (span : Span) : (e : Event) -> Decidable (e.Within span)
  | .call _ => isTrue trivial
  | .flush _ => isTrue trivial
  | .beat _ _ => isTrue trivial
  | .execute _ _ _ => isTrue trivial
  | .callback _ _ _ => inferInstanceAs (Decidable (_ ∧ _))
  | .route _ _ _ handling => inferInstanceAs (Decidable (handling.workerLost = false))

theorem within_of_causes {span : Span} {e : Event} {inner : Installation.Event}
    (h : e.Causes inner) (hwithin : e.Within span) : inner.Within span := by
  rcases h with ⟨r, hrequest⟩ | hinside
  · rw [hrequest]
    trivial
  · cases e with
    | call c =>
        cases hinside
    | callback id now failure =>
        injection hinside with hinside
        rw [← hinside]
        exact hwithin
    | route anomaly now alertId handling =>
        injection hinside with hinside
        rw [← hinside]
        exact hwithin
    | _ =>
        injection hinside with hinside
        rw [← hinside]
        trivial

end Platform

end Workers
end MetricMesh
