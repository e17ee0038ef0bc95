import MetricMesh.Storage.Queries

/-!
# Operations of the store

The statements that tenants issue, each with the time at which it runs.  An
insert into `alerts` carries the identifier that the sequence of the table hands
to it.  A statement that raises leaves the tables as they were.
-/

namespace MetricMesh
namespace Storage

open Foundation
open Python
open Alerting
open Detection

structure Point where
  timestamp : PyFloat
  metricName : String
  value : PyFloat
deriving DecidableEq

mutual

/-- Whether `json.dumps` writes standard JSON, which is all that JSONB accepts. -/
def isStandard : Json -> Bool
  | .float x => x.nearest.number?.isSome
  | .arr items => isStandardItems items
  | .obj fields => isStandardFields fields
  | _ => true

def isStandardItems : List Json -> Bool
  | [] => true
  | v :: rest => isStandard v && isStandardItems rest

def isStandardFields : List (String × Json) -> Bool
  | [] => true
  | (_, v) :: rest => isStandard v && isStandardFields rest

end

/--
The number that JSONB prints for a double: the text of one from `1e16` on has an
exponent, and JSONB writes it out as an integer.
-/
def jsonbNumber : PyFloat -> Json
  | .finite q => if |q| < 10 ^ 16 then .float (.finite q) else .int (shortest q)
  | x => .float x

mutual

/-- What is read back of the text of `json.dumps(v)` once it has been cast to JSONB. -/
def jsonb : Json -> Json
  | .float x => jsonbNumber x.nearest
  | .arr items => .arr (jsonbItems items)
  | .obj fields => .obj (jsonbFields fields)
  | v => v

def jsonbItems : List Json -> List Json
  | [] => []
  | v :: rest => jsonb v :: jsonbItems rest

def jsonbFields : List (String × Json) -> List (String × Json)
  | [] => []
  | (k, v) :: rest => (k, jsonb v) :: jsonbFields rest

end

inductive Operation where
  | bulkInsert (points : List Point) (tenant : String)
  | persistAlert (alertId : Int) (anomaly : Anomaly) (routedTo : List String)
  | setAlertLabel (alertId : Int) (label tenant : String)
  | persistDetectorModel (metricName detectorType : String) (parameters : Json)
      (tenant : String)
  | fetchSeries (metricName : String) (lookbackHours : Option Int) (tenant : String)
  | fetchMetricSeries (metricName : String) (start stop : Option Instant)
      (resolution : Resolution) (limit : Nat) (tenant : String)
  | listActiveMetrics (lookbackHours : Int) (tenant : String)
  | fetchAlerts (filters : AlertFilters) (limit offset : Nat) (tenant : String)
  | fetchAlertById (alertId : Int) (tenant : String)
  | feedbackStatsByDetector (tenant : String)
  | detectorReportRows (metricName : Option String) (bucketMinutes : Nat)
      (tenant : String)
  | fetchDetectorModel (metricName detectorType : String) (maxAgeSeconds : Int)
      (tenant : String)

def Operation.tenant : Operation -> String
  | .bulkInsert _ tenant => tenant
  | .persistAlert _ anomaly _ => anomaly.tenantName
  | .setAlertLabel _ _ tenant => tenant
  | .persistDetectorModel _ _ _ tenant => tenant
  | .fetchSeries _ _ tenant => tenant
  | .fetchMetricSeries _ _ _ _ _ tenant => tenant
  | .listActiveMetrics _ tenant => tenant
  | .fetchAlerts _ _ _ tenant => tenant
  | .fetchAlertById _ tenant => tenant
  | .feedbackStatsByDetector tenant => tenant
  | .detectorReportRows _ _ tenant => tenant
  | .fetchDetectorModel _ _ _ tenant => tenant

structure Request where
  now : Instant
  op : Operation

inductive Answer where
  | raised
  | done
  | inserted (rowcount : Nat)
  | updated (found : Bool)
  | series (s : Series Rat)
  | points (ps : List RawPoint ⊕ List MinutePoint)
  | names (ns : List String)
  | alerts (items : List AlertItem) (total : Nat)
  | alert (found : Option AlertFound)
  | stats (rows : List DetectorStats)
  | report (counts : List CountRow) (recallRows : List RecallRow)
  | model (parameters : Option Json)

/-!
# Writes
-/

/-- The rows of a batch, unless one of its times is out of range. -/
def metricRows (tenant : String) : List Point -> Option (List MetricRow)
  | [] => some []
  | p :: rest =>
      match toTimestamp p.timestamp, metricRows tenant rest with
      | some time, some rows =>
          some
            ({ time := time, metricName := p.metricName, value := p.value,
               tenant := tenant } :: rows)
      | _, _ => none

def bulkInsert (db : Database) (points : List Point) (tenant : String) :
    Answer × Database :=
  match metricRows tenant points with
  | none => (.raised, db)
  | some rows => (.inserted rows.length, { db with metrics := db.metrics ++ rows })

def persistAlert (host : Host) (db : Database) (now : Instant) (alertId : Int)
    (anomaly : Anomaly) (routedTo : List String) : Answer × Database :=
  match alertParams host anomaly routedTo with
  | .error _ => (.raised, db)
  | .ok params =>
      (.done,
        { db with
          alerts := db.alerts ++
            [{ toAlertParams := params, id := alertId, createdAt := now }] })

/-- `WHERE id = :id AND tenant = :tenant`. -/
def labelled (alertId : Int) (tenant : String) (r : AlertRow) : Bool :=
  r.id = alertId && r.tenant = tenant

def setAlertLabel (db : Database) (alertId : Int) (label tenant : String) :
    Answer × Database :=
  (.updated (decide (0 < db.alerts.countP (labelled alertId tenant))),
    { db with
      alerts := updateWhere (labelled alertId tenant)
        (fun r => { r with label := label }) db.alerts })

def persistDetectorModel (db : Database) (now : Instant)
    (metricName detectorType : String) (parameters : Json) (tenant : String) :
    Answer × Database :=
  if isStandard parameters then
    (.done,
      { db with
        models := upsert ModelRow.key
          { tenant := tenant, metricName := metricName, detectorType := detectorType,
            parameters := jsonb parameters, trainedAt := now } db.models })
  else
    (.raised, db)

/-- The answer of a report, which needs a bucket width. -/
def reportAnswer : Option (List CountRow × List RecallRow) -> Answer
  | none => .raised
  | some rows => .report rows.1 rows.2

/-- The answer of a model lookup, which raises on parameters it cannot decode. -/
def modelAnswer : Except LoadsError (Option Json) -> Answer
  | .error _ => .raised
  | .ok parameters => .model parameters

def exec (host : Host) (settings : Settings) (collation : Collation)
    (db : Database) (r : Request) : Answer × Database :=
  match r.op with
  | .bulkInsert points tenant => bulkInsert db points tenant
  | .persistAlert alertId anomaly routedTo =>
      persistAlert host db r.now alertId anomaly routedTo
  | .setAlertLabel alertId label tenant => setAlertLabel db alertId label tenant
  | .persistDetectorModel metricName detectorType parameters tenant =>
      persistDetectorModel db r.now metricName detectorType parameters tenant
  | .fetchSeries metricName lookbackHours tenant =>
      (.series (fetchSeries settings db r.now metricName lookbackHours tenant), db)
  | .fetchMetricSeries metricName start stop resolution limit tenant =>
      (.points (fetchMetricSeries host db metricName start stop resolution limit tenant),
        db)
  | .listActiveMetrics lookbackHours tenant =>
      (.names (listActiveMetrics collation db r.now lookbackHours tenant), db)
  | .fetchAlerts filters limit offset tenant =>
      let page := fetchAlerts host db filters limit offset tenant
      (.alerts page.1 page.2, db)
  | .fetchAlertById alertId tenant => (.alert (fetchAlertById host db alertId tenant), db)
  | .feedbackStatsByDetector tenant =>
      (.stats (feedbackStatsByDetector collation db tenant), db)
  | .detectorReportRows metricName bucketMinutes tenant =>
      (reportAnswer (detectorReportRows collation db metricName bucketMinutes tenant), db)
  | .fetchDetectorModel metricName detectorType maxAgeSeconds tenant =>
      (modelAnswer
        (fetchDetectorModel host db r.now metricName detectorType maxAgeSeconds tenant), db)

/-!
# The rows of a batch
-/

theorem metricRows_cons {tenant : String} {p : Point} {rest : List Point}
    {rows : List MetricRow} (h : metricRows tenant (p :: rest) = some rows) :
    exists time others, toTimestamp p.timestamp = some time ∧
      metricRows tenant rest = some others ∧
      rows = { time := time, metricName := p.metricName, value := p.value,
               tenant := tenant } :: others := by
  rw [metricRows] at h
  cases htime : toTimestamp p.timestamp with
  | none =>
      rw [htime] at h
      cases h
  | some time =>
      cases hothers : metricRows tenant rest with
      | none =>
          rw [htime, hothers] at h
          cases h
      | some others =>
          rw [htime, hothers] at h
          injection h with h
          exact ⟨time, others, rfl, rfl, h.symm⟩

theorem metricRows_length {tenant : String} {points : List Point} {rows : List MetricRow}
    (h : metricRows tenant points = some rows) : rows.length = points.length := by
  induction points generalizing rows with
  | nil =>
      cases h
      rfl
  | cons p rest ih =>
      rcases metricRows_cons h with ⟨time, others, _, hothers, hrows⟩
      rw [hrows, List.length_cons, List.length_cons, ih hothers]

theorem metricRows_isSome (tenant : String) (points : List Point) :
    (metricRows tenant points).isSome = true <->
      forall p, p ∈ points -> (toTimestamp p.timestamp).isSome = true := by
  induction points with
  | nil =>
      simp [metricRows]
  | cons p rest ih =>
      rw [List.forall_mem_cons, ← ih, metricRows]
      cases toTimestamp p.timestamp with
      | none =>
          simp
      | some time =>
          cases metricRows tenant rest with
          | none =>
              simp
          | some rows =>
              simp

theorem metricRows_append {tenant : String} {points more : List Point}
    {rows moreRows : List MetricRow} (h : metricRows tenant points = some rows)
    (hmore : metricRows tenant more = some moreRows) :
    metricRows tenant (points ++ more) = some (rows ++ moreRows) := by
  induction points generalizing rows with
  | nil =>
      injection h with h
      rw [← h]
      exact hmore
  | cons p rest ih =>
      rcases metricRows_cons h with ⟨time, others, htime, hothers, hrows⟩
      rw [List.cons_append, metricRows, htime, ih hothers, hrows]
      rfl

theorem tenant_of_metricRows {tenant : String} {points : List Point}
    {rows : List MetricRow} (h : metricRows tenant points = some rows)
    {r : MetricRow} (hr : r ∈ rows) : r.tenant = tenant := by
  induction points generalizing rows with
  | nil =>
      injection h with h
      rw [← h] at hr
      cases hr
  | cons p rest ih =>
      rcases metricRows_cons h with ⟨time, others, _, hothers, hrows⟩
      rw [hrows] at hr
      rcases List.mem_cons.mp hr with heq | hr
      · rw [heq]
      · exact ih hothers hr

end Storage
end MetricMesh
