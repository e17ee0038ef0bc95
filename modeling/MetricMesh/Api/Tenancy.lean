import MetricMesh.Api.Main
import MetricMesh.Storage.Isolation

/-!
# Tenants of the service

A caller sees its tenant's part of the tables and the counters of its tenant's
keys.  What another caller sends changes neither, whether it is identified,
refused or over its quota, so no caller can tell what the others do.
-/

namespace MetricMesh
namespace Api

open Foundation
open Python
open Detection
open Storage
open Ingestion
open Workers

/-!
# Callers
-/

/-- The tenant under which the limiter's identifier is let in. -/
def tenantOf (host : Host) (settings : Settings) (identifier : String) : String :=
  (settings.configuredTenant host identifier).getD settings.defaultTenant

theorem tenantOf_clientIdentifier {host : Host} {settings : Settings} {request : Request}
    {identity : Identity} (h : requireApiKey host settings request = .ok identity) :
    tenantOf host settings (clientIdentifier request) = identity.tenant := by
  by_cases husable : settings.HasUsableKey host
  · rw [requireApiKey_closed husable] at h
    cases hkey : request.xApiKey with
    | none =>
        rw [hkey] at h
        cases h
    | some key =>
        rw [hkey, Option.bind_some] at h
        cases htenant : settings.configuredTenant host key with
        | none =>
            rw [htenant] at h
            cases h
        | some tenant =>
            rw [htenant] at h
            injection h with h
            have hne : key ≠ "" := by
              intro hblank
              rw [hblank] at htenant
              cases htenant
            unfold tenantOf clientIdentifier
            rw [hkey, ← h]
            dsimp only
            rw [if_neg hne, htenant]
            rfl
  · rw [requireApiKey_open husable] at h
    injection h with h
    have hnone : settings.configuredTenant host (clientIdentifier request) = none := by
      rw [← Settings.keyTenantMap_get?, (Settings.keyTenantMap_eq_nil host settings).mpr husable]
      rfl
    unfold tenantOf
    rw [hnone, ← h]
    rfl

def isOf (host : Host) (settings : Settings) (tenant : String) (call : HttpCall) : Bool :=
  match requireApiKey host settings call.request with
  | .ok identity => identity.tenant = tenant
  | .error _ => false

/-!
# The limiter
-/

def RedisCommand.key : RedisCommand -> String
  | .incr key => key
  | .expire key _ => key

theorem rateLimit_asks (settings : Settings) (request : Request) (now : ℚ≥0) :
    (rateLimit settings request now).Asks fun c =>
      c.key = rateLimitKey (clientIdentifier request) (windowOf now) := by
  have hquota : forall count P, (checkQuota settings.rateLimitPerMinute count).Asks P := by
    intro count P
    unfold checkQuota
    split <;> trivial
  unfold rateLimit
  dsimp only
  split
  · trivial
  · refine ⟨rfl, ?_⟩
    intro reply
    cases reply with
    | error e =>
        trivial
    | ok count =>
        dsimp only
        unfold afterIncr
        split
        · refine ⟨rfl, ?_⟩
          intro reply
          cases reply with
          | error e =>
              trivial
          | ok _ =>
              exact hquota count _
        · exact hquota count _

theorem runRedis_of_ne {c : RedisCommand} {key : String} (h : key ≠ c.key) (now : ℚ≥0)
    (redis : Redis) : (runRedis c now redis).2 key = redis key := by
  cases c with
  | incr k =>
      exact CounterStore.incr_of_ne redis h now
  | expire k seconds =>
      exact CounterStore.expire_of_ne redis h now _

theorem runRedis_congr {c : RedisCommand} {redis redis' : Redis}
    (h : redis c.key = redis' c.key) (now : ℚ≥0) :
    (runRedis c now redis).1 = (runRedis c now redis').1 ∧
      (runRedis c now redis).2 c.key = (runRedis c now redis').2 c.key := by
  cases c with
  | incr k =>
      rcases CounterStore.incr_congr h now with ⟨hreply, hkey⟩
      exact ⟨congrArg Except.ok hreply, hkey⟩
  | expire k seconds =>
      rcases CounterStore.expire_congr h now (now + seconds) with ⟨hreply, hkey⟩
      exact ⟨congrArg Except.ok hreply, hkey⟩

section Limit

variable {settings : Settings} {call : HttpCall}

def counterOf (call : HttpCall) : String :=
  rateLimitKey (clientIdentifier call.request) (windowOf call.clock)

theorem limit_of_ne {key : String} (h : key ≠ counterOf call) (redis : Redis) :
    (limit settings call redis).2 key = redis key := by
  unfold limit
  split
  · have hkeep : forall (c : RedisCommand) (r : Redis), c.key = counterOf call ->
        r key = redis key -> (limiterRedis call c r).2 key = redis key := by
      intro c r hc hr
      have hkey : key ≠ c.key := fun heq => h (heq.trans hc)
      unfold limiterRedis
      split
      · rw [runRedis_of_ne hkey, hr]
      · dsimp only
        split
        · rw [runRedis_of_ne hkey, hr]
        · exact hr
    exact Program.run_invariant hkeep (rateLimit_asks settings call.request call.clock)
      redis rfl
  · rfl

theorem limit_congr {redis redis' : Redis} (h : redis (counterOf call) = redis' (counterOf call)) :
    (limit settings call redis).1 = (limit settings call redis').1 ∧
      (limit settings call redis).2 (counterOf call) =
        (limit settings call redis').2 (counterOf call) := by
  unfold limit
  split
  · have hkeep : forall (c : RedisCommand) (r r' : Redis), c.key = counterOf call ->
        r (counterOf call) = r' (counterOf call) ->
          (limiterRedis call c r).1 = (limiterRedis call c r').1 ∧
            (limiterRedis call c r).2 (counterOf call) =
              (limiterRedis call c r').2 (counterOf call) := by
      intro c r r' hc hr
      rw [← hc] at hr ⊢
      rcases runRedis_congr hr call.clock with ⟨hreply, hkey⟩
      unfold limiterRedis
      split
      · exact ⟨hreply, hkey⟩
      · refine ⟨rfl, ?_⟩
        dsimp only
        split
        · exact hkey
        · exact hr
    exact Program.run_related hkeep (rateLimit_asks settings call.request call.clock)
      redis redis' h
  · exact ⟨rfl, h⟩

end Limit

/-!
# Reads
-/

section Reads

variable (lib : Libraries) (settings : Settings) (collation : Collation) (call : HttpCall)
variable (identity : Identity) (db : Database)

theorem alertDetail_ownedBy (alertId : Int) (windowMinutes : Nat)
    (resolution : Resolution) (tenant : String) :
    alertDetail lib.host settings (db.ownedBy tenant) alertId windowMinutes resolution
        tenant =
      alertDetail lib.host settings db alertId windowMinutes resolution tenant := by
  unfold alertDetail
  simp only [fetchAlertById_ownedBy, fetchMetricSeries_ownedBy]

theorem answer_ownedBy (endpoint : ReadEndpoint) :
    answer lib settings collation call identity (db.ownedBy identity.tenant) endpoint =
      answer lib settings collation call identity db endpoint := by
  cases endpoint with
  | readSeries name start stop resolution limit mem =>
      simp only [answer, fetchMetricSeries_ownedBy]
  | listAlerts query =>
      simp only [answer, fetchAlerts_ownedBy]
  | feedbackStats =>
      simp only [answer, feedbackStatsByDetector_ownedBy]
  | detectNow req =>
      simp only [answer, Api.detectNow, fetchSeries_ownedBy]
  | listMetrics lookbackHours mem =>
      simp only [answer, listActiveMetrics_ownedBy]
  | detectorReport metric bucketMinutes mem =>
      simp only [answer, Api.detectorReport, detectorReportRows_ownedBy]
  | alertDetail alertId windowMinutes mem resolution =>
      simp only [answer, alertDetail_ownedBy]

end Reads

/-!
# Writes

What a session commits is an insert of the caller's points or the label of one of
its alerts, which is a request of the caller's tenant to the store.
-/

def requestsOf (call : HttpCall) (tenant : String) : List Storage.Request :=
  match call.endpoint with
  | .ingestBatch batch =>
      [⟨call.now, .bulkInsert (batch.points.map MetricPoint.point) tenant⟩]
  | .ingestSingle point => [⟨call.now, .bulkInsert [point.point] tenant⟩]
  | .submitFeedback alertId label =>
      [⟨call.now, .setAlertLabel alertId label.text tenant⟩]
  | .read _ => []

theorem tenant_of_requestsOf {call : HttpCall} {tenant : String} {r : Storage.Request}
    (h : r ∈ requestsOf call tenant) : r.op.tenant = tenant := by
  unfold requestsOf at h
  cases hendpoint : call.endpoint with
  | ingestBatch batch =>
      rw [hendpoint] at h
      rw [List.mem_singleton.mp h]
      rfl
  | ingestSingle point =>
      rw [hendpoint] at h
      rw [List.mem_singleton.mp h]
      rfl
  | submitFeedback alertId label =>
      rw [hendpoint] at h
      rw [List.mem_singleton.mp h]
      rfl
  | read endpoint =>
      rw [hendpoint] at h
      cases h

section Writes

variable (lib : Libraries) (settings : Settings) (collation : Collation)

def IssuedBy (call : HttpCall) (tenant : String) (w : Write) : Prop :=
  exists r : Storage.Request, r ∈ requestsOf call tenant ∧
    forall db, w.apply db = (exec lib.host settings collation db r).2

variable {lib settings collation} {call : HttpCall}

theorem apply_ownedBy {tenant : String} {w : Write}
    (h : IssuedBy lib settings collation call tenant w) (db : Database) (a : String) :
    (w.apply db).ownedBy a =
      if tenant = a then w.apply (db.ownedBy a) else db.ownedBy a := by
  rcases h with ⟨r, hr, happly⟩
  rw [happly, happly, ← tenant_of_requestsOf hr]
  exact exec_ownedBy lib.host settings collation db r a

theorem foldl_apply_ownedBy {tenant : String} {writes : List Write}
    (h : forall w, w ∈ writes -> IssuedBy lib settings collation call tenant w) (a : String) :
    forall db : Database, (writes.foldl Write.apply db).ownedBy a =
      if tenant = a then writes.foldl Write.apply (db.ownedBy a) else db.ownedBy a := by
  induction writes with
  | nil =>
      intro db
      exact (ite_self _).symm
  | cons w rest ih =>
      intro db
      have hw := apply_ownedBy (h w List.mem_cons_self) db a
      have hrest := ih (fun w' hw' => h w' (List.mem_cons_of_mem w hw'))
      rw [List.foldl_cons, hrest, hw]
      by_cases ha : tenant = a
      · rw [if_pos ha, if_pos ha, if_pos ha]
        rfl
      · rw [if_neg ha, if_neg ha, if_neg ha]

end Writes

/-!
# Handlers
-/

section Handlers

variable (lib : Libraries) (settings : Settings) (collation : Collation) (call : HttpCall)
variable (identity : Identity) (db : Database)

theorem bulkInsert_db (faults : Faults) (points : List Point) (tenant : String)
    (db' : Database) :
    Scope.bulkInsert faults { db := db' } points tenant =
      ((Scope.bulkInsert faults { db := db } points tenant).1,
        { (Scope.bulkInsert faults { db := db } points tenant).2 with db := db' }) := by
  unfold Scope.bulkInsert
  cases points with
  | nil =>
      rfl
  | cons p rest =>
      dsimp only
      cases faults.execute with
      | some e =>
          rfl
      | none =>
          cases Storage.metricRows tenant (p :: rest) <;> rfl

theorem countP_labelled_ownedBy (alertId : Int) (tenant : String) :
    (db.ownedBy tenant).alerts.countP (labelled alertId tenant) =
      db.alerts.countP (labelled alertId tenant) := by
  unfold Database.ownedBy
  rw [List.countP_filter]
  apply List.countP_congr
  intro r _
  simp [labelled]

theorem handle_ownedBy :
    handle lib settings collation call identity { db := db.ownedBy identity.tenant } =
      ((handle lib settings collation call identity { db := db }).1,
        { (handle lib settings collation call identity { db := db }).2 with
          db := db.ownedBy identity.tenant }) := by
  unfold handle
  cases call.endpoint with
  | ingestBatch batch =>
      dsimp only
      unfold Ingestion.ingestBatch
      rw [bulkInsert_db db]
      rcases Scope.bulkInsert call.faults { db := db }
        (batch.points.map MetricPoint.point) identity.tenant with ⟨result, scope⟩
      cases result <;> rfl
  | ingestSingle point =>
      dsimp only
      unfold Ingestion.ingestSingle
      rw [bulkInsert_db db]
      rcases Scope.bulkInsert call.faults { db := db } [point.point] identity.tenant with
        ⟨result, scope⟩
      cases result <;> rfl
  | submitFeedback alertId label =>
      have hcount := countP_labelled_ownedBy db alertId identity.tenant
      dsimp only
      cases hexecute : call.faults.execute with
      | some e =>
          rw [submitFeedback_of_raise hexecute, submitFeedback_of_raise hexecute]
      | none =>
          by_cases hfound : 0 < db.alerts.countP (labelled alertId identity.tenant)
          · rw [submitFeedback_of_found settings call.auditId call.now label
                call.request.clientHost hexecute hfound,
              submitFeedback_of_found settings call.auditId call.now label
                call.request.clientHost hexecute (hcount ▸ hfound)]
          · rw [submitFeedback_of_unknown hexecute hfound,
              submitFeedback_of_unknown hexecute (hcount ▸ hfound)]
  | read endpoint =>
      have hread := answer_ownedBy lib settings collation call identity db endpoint
      unfold readSession
      cases call.faults.execute with
      | some e =>
          rfl
      | none =>
          show (answer lib settings collation call identity (db.ownedBy identity.tenant)
            endpoint, _) = _
          rw [hread]
          rfl

theorem apply_of_bulkInsert {faults : Faults} {points : List Point} {tenant : String}
    {w : Write} (h : w ∈ (Scope.bulkInsert faults { db := db } points tenant).2.pending) :
    forall db', w.apply db' = (Storage.bulkInsert db' points tenant).2 := by
  unfold Scope.bulkInsert at h
  cases points with
  | nil =>
      cases h
  | cons p rest =>
      dsimp only at h
      cases hexecute : faults.execute with
      | some e =>
          rw [hexecute] at h
          cases h
      | none =>
          rw [hexecute] at h
          cases hrows : Storage.metricRows tenant (p :: rest) with
          | none =>
              rw [hrows] at h
              cases h
          | some rows =>
              rw [hrows] at h
              intro db'
              rw [List.mem_singleton.mp h]
              exact Write.apply_insertMetrics hrows

theorem issuedBy_handle {w : Write}
    (h : w ∈ (handle lib settings collation call identity { db := db }).2.pending) :
    IssuedBy lib settings collation call identity.tenant w := by
  unfold handle at h
  unfold IssuedBy requestsOf
  cases hendpoint : call.endpoint with
  | ingestBatch batch =>
      rw [hendpoint] at h
      have hinserts : w ∈ (Scope.bulkInsert call.faults { db := db }
          (batch.points.map MetricPoint.point) identity.tenant).2.pending := by
        dsimp only at h
        unfold Ingestion.ingestBatch at h
        split at h
        · rename_i hinsert
          rw [hinsert]
          exact h
        · rename_i hinsert
          rw [hinsert]
          exact h
      exact ⟨_, List.mem_singleton_self _, apply_of_bulkInsert db hinserts⟩
  | ingestSingle point =>
      rw [hendpoint] at h
      have hinserts : w ∈ (Scope.bulkInsert call.faults { db := db } [point.point]
          identity.tenant).2.pending := by
        dsimp only at h
        unfold Ingestion.ingestSingle at h
        split at h
        · rename_i hinsert
          rw [hinsert]
          exact h
        · rename_i hinsert
          rw [hinsert]
          exact h
      exact ⟨_, List.mem_singleton_self _, apply_of_bulkInsert db hinserts⟩
  | submitFeedback alertId label =>
      rw [hendpoint] at h
      dsimp only at h
      have hw : w = .setLabel alertId label.text identity.tenant := by
        cases hexecute : call.faults.execute with
        | some e =>
            rw [submitFeedback_of_raise hexecute] at h
            cases h
        | none =>
            by_cases hfound : 0 < db.alerts.countP (labelled alertId identity.tenant)
            · rw [submitFeedback_of_found settings call.auditId call.now label
                call.request.clientHost hexecute hfound] at h
              exact List.mem_singleton.mp h
            · rw [submitFeedback_of_unknown hexecute hfound] at h
              exact List.mem_singleton.mp h
      rw [hw]
      exact ⟨_, List.mem_singleton_self _, fun _ => rfl⟩
  | read endpoint =>
      rw [hendpoint] at h
      dsimp only at h
      unfold readSession at h
      cases hexecute : call.faults.execute with
      | some e =>
          rw [hexecute] at h
          cases h
      | none =>
          rw [hexecute] at h
          cases h

theorem session_ownedBy :
    answered lib settings collation call identity (db.ownedBy identity.tenant) =
        answered lib settings collation call identity db ∧
      (session lib settings collation call identity (db.ownedBy identity.tenant)).2.2 =
        (session lib settings collation call identity db).2.2 := by
  have hhandle := handle_ownedBy lib settings collation call identity db
  unfold answered session getSession
  rw [hhandle]
  rcases handle lib settings collation call identity { db := db } with ⟨result, scope⟩
  cases result with
  | error e =>
      dsimp only
      cases call.faults.rollback <;> exact ⟨rfl, rfl⟩
  | ok payload =>
      dsimp only
      cases call.faults.commit <;> exact ⟨rfl, rfl⟩

theorem issuedBy_session {w : Write}
    (h : w ∈ (session lib settings collation call identity db).2.2) :
    IssuedBy lib settings collation call identity.tenant w := by
  have hpending := @issuedBy_handle lib settings collation call identity db w
  unfold session getSession at h
  rcases hout : handle lib settings collation call identity { db := db } with
    ⟨result, scope⟩
  rw [hout] at h hpending
  cases result with
  | error e =>
      dsimp only at h
      cases hrollback : call.faults.rollback with
      | none =>
          rw [hrollback] at h
          cases h
      | some e' =>
          rw [hrollback] at h
          cases h
  | ok payload =>
      dsimp only at h
      cases hcommit : call.faults.commit with
      | none =>
          rw [hcommit] at h
          exact hpending h
      | some e =>
          rw [hcommit] at h
          cases h

end Handlers

/-!
# What a tenant observes
-/

namespace App

/-- A tenant's part of the tables, and the counters of the callers of the tenant. -/
structure View where
  db : Database
  counters : String -> Nat -> Option (Nat × Option ℚ≥0)

def viewOf (host : Host) (settings : Settings) (tenant : String) (app : App) : View where
  db := app.world.db.ownedBy tenant
  counters := fun identifier window =>
    if tenantOf host settings identifier = tenant then
      app.redis (rateLimitKey identifier window)
    else none

theorem viewOf_eq_iff {host : Host} {settings : Settings} {tenant : String}
    {app app' : App} :
    app.viewOf host settings tenant = app'.viewOf host settings tenant <->
      app.world.db.ownedBy tenant = app'.world.db.ownedBy tenant ∧
        forall identifier window, tenantOf host settings identifier = tenant ->
          app.redis (rateLimitKey identifier window) =
            app'.redis (rateLimitKey identifier window) := by
  constructor
  · intro h
    refine ⟨congrArg View.db h, ?_⟩
    intro identifier window hown
    have hcounters := congrFun (congrFun (congrArg View.counters h) identifier) window
    unfold viewOf at hcounters
    dsimp only at hcounters
    rw [if_pos hown, if_pos hown] at hcounters
    exact hcounters
  · intro h
    rcases h with ⟨hdb, hcounters⟩
    have hsame : (app.viewOf host settings tenant).counters =
        (app'.viewOf host settings tenant).counters := by
      funext identifier window
      unfold viewOf
      dsimp only
      by_cases hown : tenantOf host settings identifier = tenant
      · rw [if_pos hown, if_pos hown]
        exact hcounters identifier window hown
      · rw [if_neg hown, if_neg hown]
    show View.mk (app.world.db.ownedBy tenant) _ = View.mk (app'.world.db.ownedBy tenant) _
    rw [hdb]
    exact congrArg (View.mk _) hsame

section Steps

variable {lib : Libraries} {settings : Settings} {collation : Collation}

theorem handle_of_answered {call : HttpCall} {identity : Identity} {db : Database}
    {payload : Payload}
    (h : answered lib settings collation call identity db = .ok payload) :
    exists scope, handle lib settings collation call identity { db := db } =
      (.ok payload, scope) := by
  unfold answered session getSession at h
  cases hhandle : handle lib settings collation call identity { db := db } with
  | mk result scope =>
      rw [hhandle] at h
      cases result with
      | error e =>
          cases hfirst : call.respondsFirst <;> cases hrollback : call.faults.rollback <;>
            rw [hfirst, hrollback] at h <;> cases h
      | ok found =>
          cases hcommit : call.faults.commit with
          | none =>
              rw [hcommit] at h
              cases hfirst : call.respondsFirst <;> rw [hfirst] at h <;>
                injection h with h <;> exact ⟨scope, by rw [h]⟩
          | some e =>
              rw [hcommit] at h
              cases hfirst : call.respondsFirst with
              | false =>
                  rw [hfirst] at h
                  cases h
              | true =>
                  rw [hfirst] at h
                  injection h with h
                  exact ⟨scope, by rw [h]⟩

theorem respond_of_refused {call : HttpCall} {refusal : HttpException × AuditEvent}
    (h : requireApiKey lib.host settings call.request = .error refusal) (app : App) :
    app.respond lib settings collation call =
      (.error (.http refusal.1), app.recordDenied settings call refusal.2) := by
  unfold respond
  rw [h]

theorem respond_of_identity {call : HttpCall} {identity : Identity}
    (h : requireApiKey lib.host settings call.request = .ok identity) (app : App) :
    app.respond lib settings collation call =
      match (limit settings call app.redis).1 with
      | .error refusal =>
          (.error (.http refusal),
            { app with redis := (limit settings call app.redis).2 })
      | .ok () =>
          (answered lib settings collation call identity app.world.db,
            { world := (inSession lib settings collation call identity app.world).2
              redis := (limit settings call app.redis).2 }) := by
  unfold respond
  rw [h]
  dsimp only
  rcases limit settings call app.redis with ⟨verdict, redis⟩
  cases verdict <;> rfl

theorem result_respond {call : HttpCall} {identity : Identity}
    (h : requireApiKey lib.host settings call.request = .ok identity) (app : App) :
    (app.respond lib settings collation call).1 =
      match (limit settings call app.redis).1 with
      | .error refusal => .error (.http refusal)
      | .ok () => answered lib settings collation call identity app.world.db := by
  rw [respond_of_identity h]
  cases (limit settings call app.redis).1 <;> rfl

theorem handle_of_respond {call : HttpCall} {app : App} {payload : Payload}
    (h : (app.respond lib settings collation call).1 = .ok payload) :
    exists identity scope, requireApiKey lib.host settings call.request = .ok identity ∧
      handle lib settings collation call identity { db := app.world.db } =
        (.ok payload, scope) := by
  cases hcaller : requireApiKey lib.host settings call.request with
  | error refusal =>
      rw [respond_of_refused hcaller] at h
      cases h
  | ok identity =>
      rw [result_respond hcaller] at h
      cases hverdict : (limit settings call app.redis).1 with
      | error refusal =>
          rw [hverdict] at h
          cases h
      | ok _ =>
          rw [hverdict] at h
          rcases handle_of_answered h with ⟨scope, hhandle⟩
          exact ⟨identity, scope, rfl, hhandle⟩

theorem redis_respond {call : HttpCall} {identity : Identity}
    (h : requireApiKey lib.host settings call.request = .ok identity) (app : App) :
    (app.respond lib settings collation call).2.redis =
      (limit settings call app.redis).2 := by
  rw [respond_of_identity h]
  cases (limit settings call app.redis).1 <;> rfl

theorem db_respond {call : HttpCall} {identity : Identity}
    (h : requireApiKey lib.host settings call.request = .ok identity) (app : App) :
    (app.respond lib settings collation call).2.world.db =
      match (limit settings call app.redis).1 with
      | .error _ => app.world.db
      | .ok () =>
          (session lib settings collation call identity app.world.db).2.2.foldl Write.apply
            app.world.db := by
  rw [respond_of_identity h]
  cases (limit settings call app.redis).1 <;> rfl

theorem viewOf_respond_other {call : HttpCall} {identity : Identity}
    (h : requireApiKey lib.host settings call.request = .ok identity) {tenant : String}
    (hne : identity.tenant ≠ tenant) (app : App) :
    (app.respond lib settings collation call).2.viewOf lib.host settings tenant =
      app.viewOf lib.host settings tenant := by
  rw [viewOf_eq_iff]
  constructor
  · rw [db_respond h]
    cases (limit settings call app.redis).1 with
    | error refusal =>
        rfl
    | ok _ =>
        dsimp only
        rw [foldl_apply_ownedBy
          (fun w hw => issuedBy_session lib settings collation call identity _ hw),
          if_neg hne]
  · intro identifier window hown
    rw [redis_respond h]
    apply limit_of_ne
    intro hkey
    rcases rateLimitKey_inj hkey with ⟨hidentifier, _⟩
    rw [hidentifier, tenantOf_clientIdentifier h] at hown
    exact hne hown

/-- A call of the tenant is answered from the view, and changes it as the view says. -/
theorem respond_congr {call : HttpCall} {identity : Identity}
    (h : requireApiKey lib.host settings call.request = .ok identity) {app app' : App}
    (hview : app.viewOf lib.host settings identity.tenant =
      app'.viewOf lib.host settings identity.tenant) :
    (app.respond lib settings collation call).1 =
        (app'.respond lib settings collation call).1 ∧
      (app.respond lib settings collation call).2.viewOf lib.host settings identity.tenant =
        (app'.respond lib settings collation call).2.viewOf lib.host settings
          identity.tenant := by
  rcases viewOf_eq_iff.mp hview with ⟨hdb, hcounters⟩
  rcases @limit_congr settings call app.redis app'.redis
    (hcounters _ (windowOf call.clock) (tenantOf_clientIdentifier h)) with
    ⟨hverdict, hcounter⟩
  have hsession := session_ownedBy lib settings collation call identity
  have hsame : answered lib settings collation call identity app.world.db =
        answered lib settings collation call identity app'.world.db ∧
      (session lib settings collation call identity app.world.db).2.2 =
        (session lib settings collation call identity app'.world.db).2.2 := by
    rw [← (hsession app.world.db).1, ← (hsession app.world.db).2, hdb,
      (hsession app'.world.db).1, (hsession app'.world.db).2]
    exact ⟨rfl, rfl⟩
  constructor
  · rw [result_respond h app, result_respond h app', hverdict, hsame.1]
  · rw [viewOf_eq_iff]
    constructor
    · rw [db_respond h app, db_respond h app', hverdict]
      cases (limit settings call app'.redis).1 with
      | error refusal =>
          exact hdb
      | ok _ =>
          dsimp only
          rw [foldl_apply_ownedBy
              (fun w hw => issuedBy_session lib settings collation call identity _ hw),
            foldl_apply_ownedBy
              (fun w hw => issuedBy_session lib settings collation call identity _ hw),
            if_pos rfl, if_pos rfl, hsame.2, hdb]
    · intro identifier window hown
      rw [redis_respond h app, redis_respond h app']
      by_cases hkey : rateLimitKey identifier window = counterOf call
      · rw [hkey]
        exact hcounter
      · rw [limit_of_ne hkey, limit_of_ne hkey]
        exact hcounters identifier window hown

theorem unwinding_viewOf (lib : Libraries) (settings : Settings) (collation : Collation)
    (tenant : String) :
    Unwinding (respond lib settings collation) (isOf lib.host settings tenant)
      (viewOf lib.host settings tenant) where
  silent := by
    intro app call hmine
    unfold isOf at hmine
    cases hcaller : requireApiKey lib.host settings call.request with
    | error refusal =>
        rw [respond_of_refused hcaller]
        rfl
    | ok identity =>
        rw [hcaller] at hmine
        exact viewOf_respond_other hcaller (of_decide_eq_false hmine) app
  response := by
    intro app app' call hmine hview
    unfold isOf at hmine
    cases hcaller : requireApiKey lib.host settings call.request with
    | error refusal =>
        rw [hcaller] at hmine
        cases hmine
    | ok identity =>
        rw [hcaller] at hmine
        have htenant : identity.tenant = tenant := of_decide_eq_true hmine
        rw [← htenant] at hview
        exact (respond_congr hcaller hview).1
  next := by
    intro app app' call hmine hview
    unfold isOf at hmine
    cases hcaller : requireApiKey lib.host settings call.request with
    | error refusal =>
        rw [hcaller] at hmine
        cases hmine
    | ok identity =>
        rw [hcaller] at hmine
        have htenant : identity.tenant = tenant := of_decide_eq_true hmine
        rw [← htenant] at hview ⊢
        exact (respond_congr hcaller hview).2

/--
Deleting the calls that are not let in under a tenant changes no response that
its callers get: not the data, not a refusal, and not whether they are over
their quota.
-/
theorem service_noninterference (lib : Libraries) (settings : Settings)
    (collation : Collation) (tenant : String) (app : App) (calls : List HttpCall) :
    (outputs (respond lib settings collation) app calls).filter
        (fun p => isOf lib.host settings tenant p.1) =
      outputs (respond lib settings collation) app
        (calls.filter (isOf lib.host settings tenant)) :=
  (unwinding_viewOf lib settings collation tenant).outputs_eq calls app app rfl

end Steps

end App

end Api
end MetricMesh
