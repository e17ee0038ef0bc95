import MetricMesh.Detection.Base
import MetricMesh.Foundation.Tables

/-!
# The tables of the store

The rows of `metrics`, `alerts` and `detector_models`, each with its tenant, the
parameters of the statements that write alerts and audit events, and the database
functions that the statements use.  Identifiers, times and labels of the stored
rows come from the database.  Times are microseconds since
the epoch.  The database orders doubles totally, with what is not a number above
all numbers, and compares text by a collation of its own.
-/

namespace MetricMesh
namespace Storage

open Foundation
open Python
open Detection
open Alerting

structure AlertParams where
  metricName : String
  detector : String
  method : String
  score : PyFloat
  value : PyFloat
  fingerprint : String
  routedTo : List String
  tenant : String
deriving DecidableEq

/-- The parameters of the insert, built before the statement is sent. -/
def alertParams (host : Host) (anomaly : Anomaly) (routedTo : List String) :
    Except PyError AlertParams :=
  match host.float (anomaly.score.getD (.float (.finite 0))) with
  | .error e => .error e
  | .ok score =>
      match host.float (anomaly.value.getD (.float (.finite 0))) with
      | .error e => .error e
      | .ok value =>
          .ok
            { metricName := anomaly.metric
              detector := anomaly.detectorName
              method := anomaly.method.getD ""
              score := score
              value := value
              fingerprint := anomaly.fingerprint.getD ""
              routedTo := routedTo
              tenant := anomaly.tenantName }

structure AuditEvent where
  action : String
  principal : Option String := none
  outcome : Option String := none
  resource : Option String := none
  sourceIp : Option String := none
  detail : Dict String Json := []
deriving DecidableEq

structure MetricRow where
  time : Instant
  metricName : String
  value : PyFloat
  tenant : String
deriving DecidableEq

structure AlertRow extends AlertParams where
  id : Int
  createdAt : Instant
  label : String := "unlabeled"
deriving DecidableEq

structure ModelRow where
  tenant : String
  metricName : String
  detectorType : String
  parameters : Json
  trainedAt : Instant
deriving DecidableEq

structure Database where
  metrics : List MetricRow := []
  alerts : List AlertRow := []
  models : List ModelRow := []
deriving DecidableEq

/-- The key of the unique index `uq_detector_models_tenant`. -/
def ModelRow.key (row : ModelRow) : String × String × String :=
  (row.tenant, row.metricName, row.detectorType)

/-!
# Functions of the database
-/

abbrev Collation : Type :=
  String -> String -> Bool

/-- `to_timestamp(seconds)`, unless it is out of the range of timestamps. -/
def toTimestamp : PyFloat -> Option Instant
  | .finite q =>
      if -210866803200 ≤ q ∧ q < 9224318016000 then some (roundEven (q * 1000000))
      else none
  | _ => none

/-- `time > NOW() - make_interval(hours => hours)`. -/
def withinHours (hours : Int) (now time : Instant) : Bool :=
  now - hours * 3600000000 < time

/-- `time_bucket(width, time)`, counted from Monday the 3rd of January 2000. -/
def timeBucket (width : Int) (time : Instant) : Instant :=
  946857600000000 + (time - 946857600000000) / width * width

def minute : Int := 60000000

/-- `x >= y` in the order of the database. -/
def atLeast (x y : PyFloat) : Bool :=
  x.isNan || decide (y ≤ x)

def avg (values : List PyFloat) : PyFloat :=
  values.foldl (fun acc x => acc + x) (.finite 0) / .finite values.length

def maxValue : List PyFloat -> PyFloat
  | [] => .nan
  | x :: rest => rest.foldl (fun acc y => if atLeast y acc then y else acc) x

def minValue : List PyFloat -> PyFloat
  | [] => .nan
  | x :: rest => rest.foldl (fun acc y => if atLeast acc y then y else acc) x

/-- An optional text filter applies unless it is missing or empty. -/
def textFilter (given : Option String) (column : String) : Bool :=
  match given with
  | none => true
  | some text => text = "" || column = text

def fromFilter (start : Option Instant) (time : Instant) : Bool :=
  match start with
  | none => true
  | some t => decide (t ≤ time)

def toFilter (stop : Option Instant) (time : Instant) : Bool :=
  match stop with
  | none => true
  | some t => decide (time ≤ t)

/-- `ORDER BY time DESC, id DESC`. -/
def NewestFirst {α : Type} (time : α -> Instant) (id : α -> Int) (a b : α) : Prop :=
  time b < time a ∨ (time a = time b ∧ id b ≤ id a)

instance {α : Type} (time : α -> Instant) (id : α -> Int) :
    DecidableRel (NewestFirst time id) :=
  fun a b => inferInstanceAs (Decidable (time b < time a ∨
    (time a = time b ∧ id b ≤ id a)))

/-- `count(*) FILTER (WHERE label = ...)`. -/
def countLabel (label : String) (rows : List AlertRow) : Nat :=
  rows.countP fun r => r.label = label

end Storage
end MetricMesh
