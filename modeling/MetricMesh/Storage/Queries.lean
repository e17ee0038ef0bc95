import MetricMesh.Config
import MetricMesh.Foundation.Grouping
import MetricMesh.Python.Ratio
import MetricMesh.Storage.Tables

/-!
# Reads

Each read of the store as a function of the tables.  The tenant of the caller
is one of the conditions of every statement.
-/

namespace MetricMesh
namespace Storage

open Foundation
open Python
open Detection

/-!
# Series
-/

/-- `SELECT time_bucket('1 minute', time), avg(value) ... GROUP BY ... ORDER BY`. -/
def minuteSeries (rows : List MetricRow) : Series Rat where
  points :=
    ((groupKeys (fun r => timeBucket minute r.time) rows).insertionSort
      (fun a b => a ≤ b)).map fun ts =>
        (ts, avg ((group (fun r => timeBucket minute r.time) ts rows).map
          MetricRow.value))
  increasing := by
    rw [List.pairwise_map]
    exact pairwise_groupKeys _ _

/-- `lookback_hours or get_settings().detection_lookback_hours`. -/
def lookbackOr (settings : Settings) (lookbackHours : Option Int) : Int :=
  match lookbackHours with
  | none => settings.detectionLookbackHours
  | some hours => if hours = 0 then settings.detectionLookbackHours else hours

def fetchSeries (settings : Settings) (db : Database) (now : Instant)
    (metricName : String) (lookbackHours : Option Int) (tenant : String) :
    Series Rat :=
  minuteSeries (db.metrics.filter fun r =>
    r.metricName = metricName && r.tenant = tenant &&
      withinHours (lookbackOr settings lookbackHours) now r.time)

def listActiveMetrics (collation : Collation) (db : Database) (now : Instant)
    (lookbackHours : Int) (tenant : String) : List String :=
  (groupKeys MetricRow.metricName (db.metrics.filter fun r =>
    withinHours lookbackHours now r.time && r.tenant = tenant)).insertionSort
      (fun a b => collation a b)

/-- `SELECT DISTINCT tenant, metric_name`: the active metrics of all tenants, in some order. -/
def listActiveMetricsSync (db : Database) (now : Instant) (lookbackHours : Int) :
    List (String × String) :=
  groupKeys (fun r => (r.tenant, r.metricName))
    (db.metrics.filter fun r => withinHours lookbackHours now r.time)

inductive Resolution where
  | raw
  | oneMinute
deriving DecidableEq

structure RawPoint where
  ts : String
  value : PyFloat
deriving DecidableEq

structure MinutePoint where
  ts : String
  avg : PyFloat
  max : PyFloat
  min : PyFloat
  count : Nat
deriving DecidableEq

/-- The rows in the optional window, both ends included. -/
def windowRows (db : Database) (metricName : String) (start stop : Option Instant)
    (tenant : String) : List MetricRow :=
  db.metrics.filter fun r =>
    r.metricName = metricName && r.tenant = tenant && fromFilter start r.time &&
      toFilter stop r.time

def rawPoints (host : Host) (limit : Nat) (rows : List MetricRow) : List RawPoint :=
  ((rows.insertionSort (fun a b => a.time ≤ b.time)).take limit).map fun r =>
    { ts := host.isoformat r.time, value := r.value }

def minutePoints (host : Host) (limit : Nat) (rows : List MetricRow) :
    List MinutePoint :=
  (((groupKeys (fun r => timeBucket minute r.time) rows).insertionSort
    (fun a b => a ≤ b)).take limit).map fun ts =>
      let values := (group (fun r => timeBucket minute r.time) ts rows).map
        MetricRow.value
      { ts := host.isoformat ts
        avg := avg values
        max := maxValue values
        min := minValue values
        count := values.length }

def fetchMetricSeries (host : Host) (db : Database) (metricName : String)
    (start stop : Option Instant) (resolution : Resolution) (limit : Nat)
    (tenant : String) : List RawPoint ⊕ List MinutePoint :=
  match resolution with
  | .raw => .inl (rawPoints host limit (windowRows db metricName start stop tenant))
  | .oneMinute =>
      .inr (minutePoints host limit (windowRows db metricName start stop tenant))

/-!
# Alerts
-/

structure AlertItem where
  id : Int
  createdAt : String
  metricName : String
  detector : String
  score : PyFloat
  value : PyFloat
  fingerprint : String
  routedTo : List String
  label : String
deriving DecidableEq

structure AlertFound extends AlertItem where
  createdAtDt : Instant
  method : String
deriving DecidableEq

def AlertRow.item (host : Host) (r : AlertRow) : AlertItem where
  id := r.id
  createdAt := host.isoformat r.createdAt
  metricName := r.metricName
  detector := r.detector
  score := r.score
  value := r.value
  fingerprint := r.fingerprint
  routedTo := r.routedTo
  label := r.label

structure AlertFilters where
  metricName : Option String := none
  detector : Option String := none
  minScore : Option PyFloat := none
  start : Option Instant := none
  stop : Option Instant := none
deriving DecidableEq

def AlertFilters.accepts (filters : AlertFilters) (r : AlertRow) : Bool :=
  textFilter filters.metricName r.metricName &&
    textFilter filters.detector r.detector &&
    (match filters.minScore with
      | none => true
      | some s => atLeast r.score s) &&
    fromFilter filters.start r.createdAt && toFilter filters.stop r.createdAt

def fetchAlerts (host : Host) (db : Database) (filters : AlertFilters)
    (limit offset : Nat) (tenant : String) : List AlertItem × Nat :=
  let rows := db.alerts.filter fun r => r.tenant = tenant && filters.accepts r
  ((page (NewestFirst AlertRow.createdAt AlertRow.id) limit offset rows).map
    (AlertRow.item host), rows.length)

def fetchAlertById (host : Host) (db : Database) (alertId : Int) (tenant : String) :
    Option AlertFound :=
  ((db.alerts.filter fun r => r.id = alertId && r.tenant = tenant).head?).map
    fun r =>
      { toAlertItem := r.item host
        createdAtDt := r.createdAt
        method := r.method }

/-!
# Feedback reports
-/

structure DetectorStats where
  detector : String
  truePositive : Nat
  falsePositive : Nat
  unlabeled : Nat
  total : Nat
  precision : Option PyFloat
deriving DecidableEq

/-- `round(tp / labeled, 4) if labeled else None`. -/
def precisionOf (tp fp : Nat) : Option PyFloat :=
  (ratio tp (tp + fp)).map .finite

def feedbackStatsByDetector (collation : Collation) (db : Database)
    (tenant : String) : List DetectorStats :=
  let rows := db.alerts.filter fun r => r.tenant = tenant
  ((groupKeys (fun r => r.detector) rows).insertionSort
    (fun a b => collation a b)).map fun detector =>
      let members := group (fun r => r.detector) detector rows
      let tp := countLabel "true_positive" members
      let fp := countLabel "false_positive" members
      { detector := detector
        truePositive := tp
        falsePositive := fp
        unlabeled := countLabel "unlabeled" members
        total := members.length
        precision := precisionOf tp fp }

structure CountRow where
  metricName : String
  detector : String
  tp : Nat
  fp : Nat
  unlabeled : Nat
  total : Nat
deriving DecidableEq

structure RecallRow where
  metricName : String
  detector : String
  coveredBuckets : Nat
  totalBuckets : Nat
deriving DecidableEq

/-- `ORDER BY metric_name, detector`. -/
def byMetricThenDetector (collation : Collation) (a b : String × String) : Bool :=
  if a.1 = b.1 then collation a.2 b.2 else collation a.1 b.1

def reportCounts (collation : Collation) (rows : List AlertRow) : List CountRow :=
  ((groupKeys (fun r => (r.metricName, r.detector)) rows).insertionSort
    (fun a b => byMetricThenDetector collation a b)).map fun k =>
      let members := group (fun r => (r.metricName, r.detector)) k rows
      { metricName := k.1
        detector := k.2
        tp := countLabel "true_positive" members
        fp := countLabel "false_positive" members
        unlabeled := countLabel "unlabeled" members
        total := members.length }

abbrev TpRow : Type :=
  (String × String) × Instant

def tpRows (bucketMinutes : Nat) (rows : List AlertRow) : List TpRow :=
  (rows.filter fun r => r.label = "true_positive").map fun r =>
    ((r.metricName, r.detector), timeBucket (bucketMinutes * minute) r.createdAt)

def reportRecall (rows : List TpRow) : List RecallRow :=
  (groupKeys Prod.fst rows).map fun k =>
    { metricName := k.1
      detector := k.2
      coveredBuckets := countDistinct Prod.snd (group Prod.fst k rows)
      totalBuckets := countDistinct Prod.snd (rows.filter fun r => r.1.1 = k.1) }

/-- The counts and the recall; a bucket has to have a width. -/
def detectorReportRows (collation : Collation) (db : Database)
    (metricName : Option String) (bucketMinutes : Nat) (tenant : String) :
    Option (List CountRow × List RecallRow) :=
  let rows := db.alerts.filter fun r =>
    r.tenant = tenant && textFilter metricName r.metricName
  if bucketMinutes = 0 then none
  else some (reportCounts collation rows, reportRecall (tpRows bucketMinutes rows))

/-!
# Models
-/

/-- The stored parameters, decoded when the column holds a string. -/
def decodeParameters (host : Host) : Json -> Except LoadsError Json
  | .str s => host.loads s
  | v => .ok v

def fetchDetectorModel (host : Host) (db : Database) (now : Instant)
    (metricName detectorType : String) (maxAgeSeconds : Int) (tenant : String) :
    Except LoadsError (Option Json) :=
  match (db.models.filter fun r =>
      r.metricName = metricName && r.detectorType = detectorType &&
        r.tenant = tenant && decide (now - maxAgeSeconds * 1000000 < r.trainedAt)).head? with
  | none => .ok none
  | some r =>
      match decodeParameters host r.parameters with
      | .error e => .error e
      | .ok parameters => .ok (some parameters)

end Storage
end MetricMesh
