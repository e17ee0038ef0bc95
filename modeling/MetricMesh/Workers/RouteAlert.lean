import Mathlib.Data.List.Nodup
import MetricMesh.Alerting.Router
import MetricMesh.Config
import MetricMesh.Foundation.Retry
import MetricMesh.Storage.Tables

/-!
# The alert routing task

`route_alert` sends one anomaly to all sinks, records what was routed, and
stores the alert.  Its effects are traced in order, and every send and insert
takes its outcome from outside.  The task is executed again while an execution
raises, so nothing after the first accepted send may raise.
-/

namespace MetricMesh
namespace Workers

open Foundation
open Python
open Alerting
open Storage

/-- What the outside world does to one execution. -/
structure Surroundings where
  /-- The text that the send to the sink at a position raises, if it raises. -/
  sendRaises : Nat -> Option String
  auditRaises : Bool
  insertRaises : Option PyError

inductive Effect where
  | sent (s : Send)
  | audited (event : AuditEvent) (stored : Bool)
  | inserted (routedTo : List String) (row : Except PyError AlertParams)

structure Execution where
  effects : List Effect
  result : Except PyError Unit

def Execution.failed (e : Execution) : Bool :=
  match e.result with
  | .ok _ => false
  | .error _ => true

/-!
# One execution
-/

def textOrNull : Option String -> Json
  | some s => .str s
  | none => .null

/-- The audit event of a routed alert; its score is rounded to four decimals. -/
def alertRouted (anomaly : Anomaly) (routedTo : List String) (score : PyFloat) :
    AuditEvent where
  action := "alert.routed"
  principal := some "system"
  outcome := some (if routedTo = [] then "failure" else "success")
  resource := anomaly.metricName
  detail :=
    [("tenant", .str anomaly.tenantName),
     ("sinks", .arr (routedTo.map Json.str)),
     ("detector", textOrNull anomaly.detector),
     ("score", .float (score.round 4)),
     ("fingerprint", textOrNull anomaly.fingerprint)]

/-- Best effort: an insert that raises is logged and forgotten. -/
def recordAuditSync (settings : Settings) (event : AuditEvent) (raises : Bool) :
    List Effect :=
  if settings.auditEnabled then [.audited event (!raises)] else []

def persistAlertSync (host : Host) (anomaly : Anomaly) (routedTo : List String)
    (raises : Option PyError) : Effect :=
  .inserted routedTo
    (match alertParams host anomaly routedTo with
      | .error e => .error e
      | .ok row =>
          match raises with
          | some e => .error e
          | none => .ok row)

def scoreOf (anomaly : Anomaly) : Json :=
  anomaly.score.getD (.int 0)

def routeAlert (host : Host) (settings : Settings) (sinks : List String)
    (anomaly : Anomaly) (around : Surroundings) : Execution :=
  let routing := route host sinks around.sendRaises
  let sends := routing.1.map Effect.sent
  match routing.2 with
  | .error e => { effects := sends, result := .error e }
  | .ok routedTo =>
      match host.float (scoreOf anomaly) with
      | .error e => { effects := sends, result := .error e }
      | .ok score =>
          { effects := sends ++
              recordAuditSync settings (alertRouted anomaly routedTo score)
                around.auditRaises ++
              [persistAlertSync host anomaly routedTo around.insertRaises]
            -- The last log line rounds the score as it came.
            result :=
              if (scoreOf anomaly).isNumber then .ok () else .error .typeError }

/-- The executions of a task with a number of retries, for all surroundings. -/
def routeAlertTask (host : Host) (settings : Settings) (sinks : List String)
    (anomaly : Anomaly) (maxRetries : Nat) (around : Nat -> Surroundings) :
    List Execution :=
  Retry.executions (fun i => routeAlert host settings sinks anomaly (around i))
    Execution.failed maxRetries 0

def routeAlertMaxRetries : Nat := 3

/-!
# What an execution does
-/

def Effect.send? : Effect -> Option Send
  | .sent s => some s
  | _ => none

def Effect.insert? : Effect -> Option (List String × Except PyError AlertParams)
  | .inserted routedTo row => some (routedTo, row)
  | _ => none

namespace Execution

def sends (e : Execution) : List Send :=
  e.effects.filterMap Effect.send?

def accepted (e : Execution) : List Send :=
  e.sends.filter (fun s => s.accepted)

def inserts (e : Execution) : List (List String × Except PyError AlertParams) :=
  e.effects.filterMap Effect.insert?

end Execution

/-- The score is not an integer beyond the doubles. -/
def ReadableScore (host : Host) (anomaly : Anomaly) : Prop :=
  exists score, host.float (scoreOf anomaly) = .ok score

def Refused (sinks : List String) (around : Surroundings) : Prop :=
  forall position, position < sinks.length -> around.sendRaises position ≠ none

theorem filterMap_send_sent (sends : List Send) :
    (sends.map Effect.sent).filterMap Effect.send? = sends := by
  induction sends with
  | nil =>
      rfl
  | cons s rest ih =>
      rw [List.map_cons, List.filterMap_cons]
      simp only [Effect.send?, ih]

theorem filterMap_insert_sent (sends : List Send) :
    (sends.map Effect.sent).filterMap Effect.insert? = [] := by
  induction sends with
  | nil =>
      rfl
  | cons s rest ih =>
      exact ih

theorem filterMap_recordAuditSync {α : Type} {look : Effect -> Option α}
    (h : forall event stored, look (.audited event stored) = none)
    (settings : Settings) (event : AuditEvent) (raises : Bool) :
    (recordAuditSync settings event raises).filterMap look = [] := by
  unfold recordAuditSync
  cases settings.auditEnabled with
  | true =>
      simp [h]
  | false =>
      rfl

section Spec

variable {host : Host} {settings : Settings} {sinks : List String}
variable {anomaly : Anomaly} {around : Surroundings}

theorem routeAlert_of_error {e : PyError}
    (h : (route host sinks around.sendRaises).2 = .error e) :
    routeAlert host settings sinks anomaly around =
      { effects := (route host sinks around.sendRaises).1.map Effect.sent
        result := .error e } := by
  simp [routeAlert, h]

theorem routeAlert_of_unreadable (hscore : ¬ ReadableScore host anomaly)
    {routedTo : List String} (h : (route host sinks around.sendRaises).2 = .ok routedTo) :
    exists e, routeAlert host settings sinks anomaly around =
      { effects := (route host sinks around.sendRaises).1.map Effect.sent
        result := .error e } := by
  cases hfloat : host.float (scoreOf anomaly) with
  | error e =>
      exact ⟨e, by simp [routeAlert, h, hfloat]⟩
  | ok score =>
      exact absurd ⟨score, hfloat⟩ hscore

theorem routeAlert_of_readable {score : PyFloat}
    (hfloat : host.float (scoreOf anomaly) = .ok score) {routedTo : List String}
    (h : (route host sinks around.sendRaises).2 = .ok routedTo) :
    routeAlert host settings sinks anomaly around =
      { effects := (route host sinks around.sendRaises).1.map Effect.sent ++
          recordAuditSync settings (alertRouted anomaly routedTo score)
            around.auditRaises ++
          [persistAlertSync host anomaly routedTo around.insertRaises]
        result := if (scoreOf anomaly).isNumber then .ok () else .error .typeError } := by
  simp [routeAlert, h, hfloat]

theorem routeAlert_sends :
    (routeAlert host settings sinks anomaly around).sends =
      (route host sinks around.sendRaises).1 := by
  cases h : (route host sinks around.sendRaises).2 with
  | error e =>
      rw [routeAlert_of_error h]
      exact filterMap_send_sent _
  | ok routedTo =>
      by_cases hscore : ReadableScore host anomaly
      · rcases hscore with ⟨score, hfloat⟩
        rw [routeAlert_of_readable hfloat h, Execution.sends, List.filterMap_append,
          List.filterMap_append, filterMap_send_sent,
          filterMap_recordAuditSync (fun _ _ => rfl)]
        simp [persistAlertSync, Effect.send?]
      · rcases @routeAlert_of_unreadable host settings sinks anomaly around hscore routedTo h with
          ⟨e, heq⟩
        rw [heq]
        exact filterMap_send_sent _

theorem routeAlert_offers :
    (routeAlert host settings sinks anomaly around).sends.map
        (fun s => (s.position, s.sink)) =
      offered 0 sinks := by
  rw [routeAlert_sends]
  exact routeFrom_sends around.sendRaises sinks 0

theorem routeAlert_outcomes {s : Send}
    (hs : s ∈ (routeAlert host settings sinks anomaly around).sends) :
    s.accepted = true <-> around.sendRaises s.position = none := by
  rw [routeAlert_sends] at hs
  exact routeFrom_accepted around.sendRaises sinks 0 s hs

theorem routeAlert_positions :
    (routeAlert host settings sinks anomaly around).sends.map (fun s => s.position) =
      List.range' 0 sinks.length := by
  rw [← offered_positions sinks 0, ← @routeAlert_offers host settings sinks anomaly around,
    List.map_map]
  rfl

theorem accepted_eq_nil_iff :
    (routeAlert host settings sinks anomaly around).accepted = [] <->
      Refused sinks around := by
  unfold Execution.accepted
  rw [List.filter_eq_nil_iff]
  constructor
  · intro hnone position hposition hsend
    have hmem : position ∈ (routeAlert host settings sinks anomaly around).sends.map
        (fun s => s.position) := by
      rw [routeAlert_positions]
      exact List.mem_range'_1.mpr ⟨Nat.zero_le _, by omega⟩
    rcases List.mem_map.mp hmem with ⟨s, hs, hp⟩
    apply hnone s hs
    rw [routeAlert_outcomes hs, hp]
    exact hsend
  · intro hrefused s hs haccepted
    have hmem := List.mem_map_of_mem (f := fun s : Send => s.position) hs
    rw [routeAlert_positions] at hmem
    have hposition := (List.mem_range'_1.mp hmem).2
    exact hrefused s.position (by omega) ((routeAlert_outcomes hs).mp haccepted)

theorem routeAlert_of_failed (hne : sinks ≠ [])
    (hnumber : (scoreOf anomaly).isNumber = true)
    (hclean : ReadableScore host anomaly ∨ Refused sinks around)
    (h : (routeAlert host settings sinks anomaly around).failed = true) :
    (routeAlert host settings sinks anomaly around).accepted = [] ∧
      (routeAlert host settings sinks anomaly around).inserts = [] := by
  have hrouting : exists e, (route host sinks around.sendRaises).2 = .error e := by
    rcases hclean with ⟨score, hfloat⟩ | hrefused
    · cases hroute : (route host sinks around.sendRaises).2 with
      | error e =>
          exact ⟨e, rfl⟩
      | ok routedTo =>
          rw [routeAlert_of_readable hfloat hroute, hnumber] at h
          cases h
    · have hnone := (@accepted_eq_nil_iff host settings sinks anomaly around).mpr hrefused
      unfold Execution.accepted at hnone
      rw [routeAlert_sends] at hnone
      rcases route_result host hne around.sendRaises with ⟨herror, _⟩ | ⟨_, hsome⟩
      · exact herror
      · exact absurd hnone hsome
  rcases hrouting with ⟨e, herror⟩
  constructor
  · unfold Execution.accepted
    rw [routeAlert_sends]
    rcases route_result host hne around.sendRaises with ⟨_, hnone⟩ | ⟨hok, _⟩
    · exact hnone
    · rw [herror] at hok
      cases hok
  · rw [routeAlert_of_error herror]
    exact filterMap_insert_sent _

/-- An execution that succeeds stores the accepting sinks, in order and once. -/
theorem routeAlert_of_succeeded (hne : sinks ≠ [])
    (h : (routeAlert host settings sinks anomaly around).failed = false) :
    (routeAlert host settings sinks anomaly around).accepted ≠ [] ∧
      (routeAlert host settings sinks anomaly around).inserts.map Prod.fst =
        [(routeAlert host settings sinks anomaly around).accepted.map
          (fun s => s.sink)] := by
  unfold Execution.accepted
  rw [routeAlert_sends]
  rcases route_result host hne around.sendRaises with
    ⟨⟨e, herror⟩, _⟩ | ⟨hok, hsome⟩
  · rw [routeAlert_of_error herror] at h
    cases h
  · refine ⟨hsome, ?_⟩
    by_cases hscore : ReadableScore host anomaly
    · rcases hscore with ⟨score, hfloat⟩
      rw [routeAlert_of_readable hfloat hok, Execution.inserts, List.filterMap_append,
        List.filterMap_append, filterMap_insert_sent,
        filterMap_recordAuditSync (fun _ _ => rfl)]
      simp [persistAlertSync, Effect.insert?]
    · rcases @routeAlert_of_unreadable host settings sinks anomaly around hscore _ hok with
        ⟨e, heq⟩
      rw [heq] at h
      cases h

theorem routeAlert_failed_of_unreadable (hscore : ¬ ReadableScore host anomaly) :
    (routeAlert host settings sinks anomaly around).failed = true := by
  cases h : (route host sinks around.sendRaises).2 with
  | error e =>
      rw [routeAlert_of_error h]
      rfl
  | ok routedTo =>
      rcases @routeAlert_of_unreadable host settings sinks anomaly around hscore routedTo h with
        ⟨e, heq⟩
      rw [heq]
      rfl

end Spec

/-!
# The whole task
-/

/-- An anomaly is delivered by one execution of the task, or not at all. -/
structure DeliveredOnce (maxRetries : Nat) (sinks : List String)
    (around : Nat -> Surroundings) (task : List Execution) : Prop where
  bounded : task ≠ [] ∧ task.length ≤ maxRetries + 1
  /-- Every execution offers the anomaly to every sink. -/
  offers : forall e, e ∈ task ->
    e.sends.map (fun s => (s.position, s.sink)) = offered 0 sinks
  /-- A sink accepts what it is offered exactly when its send does not raise. -/
  outcomes : forall i e, task[i]? = some e -> forall s, s ∈ e.sends ->
    (s.accepted = true <-> (around i).sendRaises s.position = none)
  /-- No sink accepts the anomaly twice. -/
  acceptedOnce : forall position,
    ((task.flatMap Execution.accepted).filter
      (fun s => s.position = position)).length ≤ 1
  /-- The first execution that a sink accepts in is the last, and stores it. -/
  stops : forall before e after, task = before ++ e :: after ->
    e.accepted ≠ [] ->
      after = [] ∧ e.failed = false ∧
        (task.flatMap Execution.inserts).map Prod.fst =
          [e.accepted.map (fun s => s.sink)]
  /-- A task that fails for good has used its retries and left no trace. -/
  undelivered : forall before e, task = before ++ [e] -> e.failed = true ->
    task.length = maxRetries + 1 ∧
      task.flatMap Execution.accepted = [] ∧
      task.flatMap Execution.inserts = []

/-- The score is readable, or no sink accepts in any of the executions. -/
def Retriable (host : Host) (sinks : List String) (anomaly : Anomaly) (maxRetries : Nat)
    (around : Nat -> Surroundings) : Prop :=
  ReadableScore host anomaly ∨ forall i, i ≤ maxRetries -> Refused sinks (around i)

theorem length_filter_le_one {sends : List Send}
    (h : (sends.map (fun s => s.position)).Nodup) (position : Nat) :
    (sends.filter (fun s => s.position = position)).length ≤ 1 := by
  have hcount := List.nodup_iff_count_le_one.mp h position
  rw [List.count_eq_countP, List.countP_map, List.countP_eq_length_filter] at hcount
  have hsame : (fun s : Send => decide (s.position = position)) =
      (fun x => x == position) ∘ fun s : Send => s.position := by
    funext s
    rfl
  rw [hsame]
  exact hcount

theorem accepted_nodup {sinks : List String} {e : Execution}
    (h : e.sends.map (fun s => (s.position, s.sink)) = offered 0 sinks) :
    (e.accepted.map (fun s => s.position)).Nodup := by
  have hall : (e.sends.map (fun s => s.position)).Nodup := by
    have hpositions := congrArg (List.map Prod.fst) h
    rw [List.map_map] at hpositions
    have hsame : (Prod.fst ∘ fun s : Send => (s.position, s.sink)) =
        fun s : Send => s.position := rfl
    rw [hsame] at hpositions
    rw [hpositions]
    exact offered_nodup sinks 0
  exact hall.sublist (List.filter_sublist.map _)

section Task

variable {host : Host} {settings : Settings} {sinks : List String}
variable {anomaly : Anomaly} {maxRetries : Nat} {around : Nat -> Surroundings}

def finalExecution (host : Host) (settings : Settings) (sinks : List String)
    (anomaly : Anomaly) (maxRetries : Nat) (around : Nat -> Surroundings) :
    Execution :=
  Retry.final (fun i => routeAlert host settings sinks anomaly (around i))
    Execution.failed maxRetries 0

theorem finalExecution_mem :
    finalExecution host settings sinks anomaly maxRetries around ∈
      routeAlertTask host settings sinks anomaly maxRetries around :=
  Retry.final_mem _ Execution.failed maxRetries 0

theorem mem_routeAlertTask {e : Execution}
    (he : e ∈ routeAlertTask host settings sinks anomaly maxRetries around) :
    exists i, i ≤ maxRetries ∧ e = routeAlert host settings sinks anomaly (around i) := by
  rcases Retry.mem_executions _ Execution.failed maxRetries 0 he with ⟨j, hj, heq⟩
  rw [Nat.zero_add] at heq
  exact ⟨j, hj, heq⟩

theorem offers_of_mem {e : Execution}
    (he : e ∈ routeAlertTask host settings sinks anomaly maxRetries around) :
    e.sends.map (fun s => (s.position, s.sink)) = offered 0 sinks := by
  rcases mem_routeAlertTask he with ⟨i, _, heq⟩
  rw [heq]
  exact routeAlert_offers

theorem outcomes_of_getElem? {i : Nat} {e : Execution}
    (he : (routeAlertTask host settings sinks anomaly maxRetries around)[i]? = some e)
    {s : Send} (hs : s ∈ e.sends) :
    s.accepted = true <-> (around i).sendRaises s.position = none := by
  have heq := (Retry.eq_attempt_of_getElem? _ Execution.failed maxRetries 0 i e he).2
  rw [Nat.zero_add] at heq
  rw [heq] at hs
  exact routeAlert_outcomes hs

section Retried

variable (hne : sinks ≠ []) (hnumber : (scoreOf anomaly).isNumber = true)
variable (hretriable : Retriable host sinks anomaly maxRetries around)

include hne hnumber hretriable

theorem nothing_of_mem_failed {e : Execution}
    (he : e ∈ routeAlertTask host settings sinks anomaly maxRetries around)
    (hfailed : e.failed = true) : e.accepted = [] ∧ e.inserts = [] := by
  rcases mem_routeAlertTask he with ⟨i, hi, heq⟩
  rw [heq] at hfailed ⊢
  apply routeAlert_of_failed hne hnumber _ hfailed
  rcases hretriable with hreads | hrefused
  · exact Or.inl hreads
  · exact Or.inr (hrefused i hi)

/-- What a task does is what its final execution does. -/
theorem routeAlertTask_accepted :
    (routeAlertTask host settings sinks anomaly maxRetries around).flatMap
        Execution.accepted =
      (finalExecution host settings sinks anomaly maxRetries around).accepted :=
  Retry.flatMap_executions _ Execution.failed
    (fun _ he hfailed => (nothing_of_mem_failed hne hnumber hretriable he hfailed).1)

theorem routeAlertTask_inserts :
    (routeAlertTask host settings sinks anomaly maxRetries around).flatMap
        Execution.inserts =
      (finalExecution host settings sinks anomaly maxRetries around).inserts :=
  Retry.flatMap_executions _ Execution.failed
    (fun _ he hfailed => (nothing_of_mem_failed hne hnumber hretriable he hfailed).2)

theorem deliveredOnce_of_retriable :
    DeliveredOnce maxRetries sinks around
      (routeAlertTask host settings sinks anomaly maxRetries around) := by
  constructor
  · constructor
    · exact List.ne_nil_of_mem finalExecution_mem
    · exact Retry.length_executions_le _ Execution.failed maxRetries 0
  · intro e he
    exact offers_of_mem he
  · intro i e he s hs
    exact outcomes_of_getElem? he hs
  · intro position
    rw [routeAlertTask_accepted hne hnumber hretriable]
    exact length_filter_le_one
      (accepted_nodup (offers_of_mem finalExecution_mem)) position
  · intro before e after heq hsome
    have hmem : e ∈ routeAlertTask host settings sinks anomaly maxRetries
        around := by
      rw [heq]
      simp
    have hsucceeded : e.failed = false := by
      apply Bool.eq_false_iff.mpr
      intro hfailed
      exact hsome (nothing_of_mem_failed hne hnumber hretriable hmem hfailed).1
    have hlast : e = finalExecution host settings sinks anomaly maxRetries around :=
      Retry.eq_final_of_succeeded _ Execution.failed hmem hsucceeded
    refine ⟨?_, hsucceeded, ?_⟩
    · exact Retry.nothing_after_succeeded _ Execution.failed heq hsucceeded
    · rw [routeAlertTask_inserts hne hnumber hretriable, ← hlast]
      rcases mem_routeAlertTask hmem with ⟨i, _, hattempt⟩
      rw [hattempt] at hsucceeded ⊢
      exact (routeAlert_of_succeeded hne hsucceeded).2
  · intro before e heq hfailed
    have hlast : finalExecution host settings sinks anomaly maxRetries around = e :=
      Retry.final_eq_of_append _ Execution.failed heq
    rw [← hlast] at hfailed
    have hnothing := nothing_of_mem_failed hne hnumber hretriable finalExecution_mem hfailed
    refine ⟨?_, ?_, ?_⟩
    · exact Retry.length_of_final_failed _ Execution.failed maxRetries 0 hfailed
    · rw [routeAlertTask_accepted hne hnumber hretriable]
      exact hnothing.1
    · rw [routeAlertTask_inserts hne hnumber hretriable]
      exact hnothing.2

end Retried

theorem mem_routeAlertTask_of_unreadable (hscore : ¬ ReadableScore host anomaly) {i : Nat}
    (hi : i ≤ maxRetries) :
    routeAlert host settings sinks anomaly (around i) ∈
      routeAlertTask host settings sinks anomaly maxRetries around := by
  have hfinal : (finalExecution host settings sinks anomaly maxRetries around).failed = true := by
    rcases mem_routeAlertTask
      (@finalExecution_mem host settings sinks anomaly maxRetries around) with ⟨j, _, heq⟩
    rw [heq]
    exact routeAlert_failed_of_unreadable hscore
  have hlength : i < (routeAlertTask host settings sinks anomaly maxRetries around).length := by
    unfold routeAlertTask
    rw [Retry.length_of_final_failed _ Execution.failed maxRetries 0 hfinal]
    exact Nat.lt_succ_of_le hi
  have hget := List.getElem?_eq_getElem hlength
  have heq := (Retry.eq_attempt_of_getElem? _ Execution.failed maxRetries 0 i _ hget).2
  rw [Nat.zero_add] at heq
  rw [← heq]
  exact List.getElem_mem _

theorem DeliveredOnce.retriable
    (h : DeliveredOnce maxRetries sinks around
      (routeAlertTask host settings sinks anomaly maxRetries around)) :
    Retriable host sinks anomaly maxRetries around := by
  by_cases hscore : ReadableScore host anomaly
  · exact Or.inl hscore
  · right
    intro i hi
    rw [← @accepted_eq_nil_iff host settings sinks anomaly (around i)]
    by_contra hsome
    rcases List.append_of_mem (mem_routeAlertTask_of_unreadable hscore hi) with
      ⟨before, after, hsplit⟩
    have hsucceeded := (h.stops before _ after hsplit hsome).2.1
    rw [routeAlert_failed_of_unreadable hscore] at hsucceeded
    cases hsucceeded

end Task

/--
Whatever the sends and inserts of all attempts do, retrying never delivers an
anomaly twice, exactly when the score is readable or nobody accepts the anomaly.
-/
theorem routeAlertTask_deliveredOnce_iff {host : Host} {settings : Settings}
    {sinks : List String} {anomaly : Anomaly} (hne : sinks ≠ [])
    (hnumber : (scoreOf anomaly).isNumber = true) (maxRetries : Nat)
    (around : Nat -> Surroundings) :
    DeliveredOnce maxRetries sinks around
        (routeAlertTask host settings sinks anomaly maxRetries around) <->
      Retriable host sinks anomaly maxRetries around := by
  constructor
  · intro h
    exact h.retriable
  · intro h
    exact deliveredOnce_of_retriable hne hnumber h

/-!
Two sinks, of which the second accepts at the second attempt.
-/

def flakySends : Nat -> Surroundings
  | 0 => { sendRaises := fun _ => some "timeout", auditRaises := false,
           insertRaises := none }
  | _ => { sendRaises := fun p => if p = 0 then some "timeout" else none,
           auditRaises := true, insertRaises := some .connectionError }

def scoredSpike : Anomaly :=
  { Anomaly.spikeOf "acme" "cpu_usage" with
    score := some (.float (.finite (9 / 10))) }

theorem routeAlertTask_deliveredOnce_iff_flaky :
    DeliveredOnce routeAlertMaxRetries ["slack", "log"] flakySends
      (routeAlertTask (Host.withDigests []) .defaults ["slack", "log"] scoredSpike
        routeAlertMaxRetries flakySends) :=
  (routeAlertTask_deliveredOnce_iff (by decide) rfl routeAlertMaxRetries flakySends).mpr
    (Or.inl ⟨_, rfl⟩)

def hugeSpike : Anomaly :=
  { Anomaly.spikeOf "acme" "cpu_usage" with score := some (.int (10 ^ 400)) }

def allAccepted : Nat -> Surroundings :=
  fun _ => { sendRaises := fun _ => none, auditRaises := false, insertRaises := none }

/-- The log accepts the anomaly four times. -/
theorem hugeSpike_redelivered :
    (scoreOf hugeSpike).isNumber = true ∧
      ((routeAlertTask (Host.withDigests []) .defaults ["log"] hugeSpike routeAlertMaxRetries
        allAccepted).flatMap Execution.accepted).length = 4 ∧
      ¬ DeliveredOnce routeAlertMaxRetries ["log"] allAccepted
        (routeAlertTask (Host.withDigests []) .defaults ["log"] hugeSpike
          routeAlertMaxRetries allAccepted) := by
  have hlimit : floatLimit ≤ ((10 ^ 400 : Int) : Rat) := by decide +kernel
  have hraises : Host.floatOfInt (10 ^ 400) = .error .overflowError := by
    unfold Host.floatOfInt
    exact if_pos (Or.inl hlimit)
  refine ⟨rfl, by decide +kernel, ?_⟩
  intro h
  rcases h.retriable with ⟨score, hfloat⟩ | hrefused
  · exact absurd (hraises.symm.trans hfloat) (by simp)
  · exact hrefused 0 (Nat.zero_le _) 0 Nat.zero_lt_one rfl

end Workers
end MetricMesh
