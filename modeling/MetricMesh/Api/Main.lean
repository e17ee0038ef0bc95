import MetricMesh.Api.AlertDetail
import MetricMesh.Api.DetectNow
import MetricMesh.Api.DetectorReport
import MetricMesh.Api.OperationalReads
import MetricMesh.Api.RateLimit
import MetricMesh.Api.RecordedSuccess

/-!
# The application

The protected endpoints of a tenant behind their dependencies: a caller is
identified first, an ingest is counted against the quota next, and then the
handler works in a session of its own.
-/

namespace MetricMesh
namespace Api

open Foundation
open Python
open Detection
open Storage
open Ingestion
open Workers

/-!
# Endpoints
-/

structure AlertsQuery where
  filters : AlertFilters := {}
  minScore_mem : forall s, filters.minScore = some s -> .finite 0 ≤ s ∧ s ≤ .finite 1
  limit : Nat := 50
  limit_mem : 1 ≤ limit ∧ limit ≤ 500 := by decide
  offset : Nat := 0

inductive ReadEndpoint where
  | readSeries (name : String) (start stop : Option Instant) (resolution : Resolution)
      (limit : Nat) (limit_mem : 1 ≤ limit ∧ limit ≤ 50000)
  | listAlerts (query : AlertsQuery)
  | feedbackStats
  | detectNow (req : DetectRequest)
  | listMetrics (lookbackHours : Nat) (mem : 1 ≤ lookbackHours ∧ lookbackHours ≤ 168)
  | detectorReport (metric : Option String) (bucketMinutes : Nat)
      (mem : 1 ≤ bucketMinutes ∧ bucketMinutes ≤ 1440)
  | alertDetail (alertId : Int) (windowMinutes : Nat)
      (mem : 1 ≤ windowMinutes ∧ windowMinutes ≤ 1440) (resolution : Resolution)

inductive Endpoint where
  | ingestBatch (batch : MetricBatch)
  | ingestSingle (point : MetricPoint)
  | submitFeedback (alertId : Int) (label : FeedbackLabel)
  | read (endpoint : ReadEndpoint)

/-- The router of the ingest endpoints is rate limited. -/
def Endpoint.isLimited : Endpoint -> Bool
  | .ingestBatch _ => true
  | .ingestSingle _ => true
  | _ => false

structure SeriesResponse where
  metricName : String
  resolution : Resolution
  count : Nat
  points : List RawPoint ⊕ List MinutePoint

def pointCount : List RawPoint ⊕ List MinutePoint -> Nat
  | .inl points => points.length
  | .inr points => points.length

inductive Payload where
  | ingest (r : IngestResponse)
  | series (r : SeriesResponse)
  | alerts (page : ListPage AlertItem)
  | stats (byDetector : List DetectorStats)
  | feedback (r : FeedbackResponse)
  | detected (r : DetectResponse)
  | metrics (names : List String) (count : Nat)
  | report (r : DetectorReport)
  | detail (r : AlertDetail)

/-!
# Calls
-/

/-- A command of the limiter that raises, and whether Redis has executed it. -/
structure CommandFault where
  exception : PyError
  executed : Bool

structure LimiterFaults where
  incr : Option CommandFault := none
  expire : Option CommandFault := none

structure HttpCall where
  request : Request
  endpoint : Endpoint
  /-- `NOW()` in the database. -/
  now : Instant := 0
  /-- `time.time()`, which the limiter and Redis go by. -/
  clock : ℚ≥0 := 0
  faults : Faults := {}
  limiterFaults : LimiterFaults := {}
  /-- Whether the framework sends the response before it leaves the session. -/
  respondsFirst : Bool := true
  auditId : Int := 0

structure App where
  world : World := { db := {} }
  redis : Redis := fun _ => none

/-!
# Handlers
-/

section Handlers

variable (lib : Libraries) (settings : Settings) (collation : Collation) (call : HttpCall)

def readSession {α : Type} (read : Database -> Except Raised α) (scope : Scope) :
    Except Raised α × Scope :=
  match call.faults.execute with
  | some e => (.error (.exception e), scope)
  | none => (read scope.view, scope)

def notFound (alertId : Int) : Raised :=
  .http { statusCode := 404, detail := "Alert " ++ toString alertId ++ " not found" }

def DetectFailure.toRaised : DetectFailure -> Raised
  | .http e => .http e
  | .raised e => .exception e

def answer (identity : Identity) (db : Database) :
    ReadEndpoint -> Except Raised Payload
  | .readSeries name start stop resolution limit _ =>
      let points := fetchMetricSeries lib.host db name start stop resolution limit
        identity.tenant
      .ok (.series
        { metricName := name, resolution := resolution, count := pointCount points,
          points := points })
  | .listAlerts query =>
      let found := fetchAlerts lib.host db query.filters query.limit query.offset
        identity.tenant
      .ok (.alerts
        { items := found.1, count := found.1.length, total := found.2,
          limit := query.limit, offset := query.offset })
  | .feedbackStats => .ok (.stats (feedbackStatsByDetector collation db identity.tenant))
  | .detectNow req =>
      let fetch := fun metricName lookbackHours tenant =>
        fetchSeries settings db call.now metricName (some lookbackHours) tenant
      match Api.detectNow lib settings fetch identity req with
      | .error failure => .error failure.toRaised
      | .ok response => .ok (.detected response)
  | .listMetrics lookbackHours _ =>
      let names := listActiveMetrics collation db call.now lookbackHours identity.tenant
      .ok (.metrics names names.length)
  | .detectorReport metric bucketMinutes _ =>
      match Api.detectorReport collation db metric bucketMinutes identity.tenant with
      -- The width of the buckets is positive.
      | none => .error (.exception .valueError)
      | some report => .ok (.report report)
  | .alertDetail alertId windowMinutes _ resolution =>
      match Api.alertDetail lib.host settings db alertId windowMinutes resolution
          identity.tenant with
      | .error e => .error (.exception e)
      | .ok none => .error (notFound alertId)
      | .ok (some detail) => .ok (.detail detail)

def handle (identity : Identity) (scope : Scope) : Except Raised Payload × Scope :=
  match call.endpoint with
  | .ingestBatch batch =>
      let out := Ingestion.ingestBatch call.faults identity batch scope
      (out.1.map .ingest, out.2)
  | .ingestSingle point =>
      let out := Ingestion.ingestSingle call.faults identity point scope
      (out.1.map .ingest, out.2)
  | .submitFeedback alertId label =>
      let out := Api.submitFeedback settings call.faults call.auditId call.now alertId label
        call.request.clientHost identity scope
      (out.1.map .feedback, out.2)
  | .read endpoint =>
      readSession call (fun db => answer lib settings collation call identity db endpoint)
        scope

/-- The result of a handler in its session, and what the session commits. -/
def session (identity : Identity) (db : Database) :
    Except Raised Payload × Scope × List Write :=
  getSession call.faults Raised.exception (handle lib settings collation call identity) db

/-- A response that has been sent is not taken back when the commit fails. -/
def answered (identity : Identity) (db : Database) : Except Raised Payload :=
  match call.respondsFirst, (handle lib settings collation call identity { db := db }).1 with
  | true, .ok payload => .ok payload
  | _, _ => (session lib settings collation call identity db).1

def inSession (identity : Identity) (world : World) : Except Raised Payload × World :=
  let out := session lib settings collation call identity world.db
  (answered lib settings collation call identity world.db,
    { db := out.2.2.foldl Write.apply world.db
      audit := world.audit ++ out.2.1.audit
      accepted := world.accepted + out.2.1.accepted
      rejected := world.rejected + out.2.1.rejected })

end Handlers

/-!
# Dependencies
-/

def LimiterFaults.of (faults : LimiterFaults) : RedisCommand -> Option CommandFault
  | .incr _ => faults.incr
  | .expire _ _ => faults.expire

def limiterRedis (call : HttpCall) (command : RedisCommand) (redis : Redis) :
    RedisReply × Redis :=
  match call.limiterFaults.of command with
  | none => runRedis command call.clock redis
  | some fault =>
      (.error fault.exception,
        if fault.executed then (runRedis command call.clock redis).2 else redis)

def limit (settings : Settings) (call : HttpCall) (redis : Redis) :
    Except HttpException Unit × Redis :=
  if call.endpoint.isLimited then
    (rateLimit settings call.request call.clock).run (limiterRedis call) redis
  else
    (.ok (), redis)

namespace App

variable (lib : Libraries) (settings : Settings) (collation : Collation)

/-- `record_audit_async(...)` outside of a session. -/
def recordDenied (app : App) (call : HttpCall) (event : AuditEvent) : App :=
  { app with
    world :=
      { app.world with
        audit := app.world.audit ++
          (LoggedEvent.row? settings
            { id := call.auditId, loggedAt := call.now, event := event,
              insertRaises := call.faults.auditRaises }).toList } }

def respond (app : App) (call : HttpCall) : Except Raised Payload × App :=
  match requireApiKey lib.host settings call.request with
  | .error (refusal, event) =>
      (.error (.http refusal), app.recordDenied settings call event)
  | .ok identity =>
      match limit settings call app.redis with
      | (.error refusal, redis) => (.error (.http refusal), { app with redis := redis })
      | (.ok (), redis) =>
          let out := inSession lib settings collation call identity app.world
          (out.1, { world := out.2, redis := redis })

end App

end Api
end MetricMesh
