import MetricMesh.Storage.OperationalLog

/-!
# Sessions

A request works in the transaction of its session.  `get_session` commits the
transaction when the handler returns and rolls it back when the handler raises.
The audit log has transactions of its own, which commit while the session is
still open, and the counters of the process are not transactional at all.
-/

namespace MetricMesh
namespace Storage

open Foundation
open Python
open Detection

/-!
# Writes
-/

inductive Write where
  | insertMetrics (rows : List MetricRow)
  | setLabel (alertId : Int) (label tenant : String)
deriving DecidableEq

def Write.apply (db : Database) : Write -> Database
  | .insertMetrics rows => { db with metrics := db.metrics ++ rows }
  | .setLabel alertId label tenant => (Storage.setAlertLabel db alertId label tenant).2

def Write.rows : Write -> Nat
  | .insertMetrics rows => rows.length
  | .setLabel _ _ _ => 0

def rowsOf (writes : List Write) : Nat :=
  (writes.map Write.rows).sum

/-!
# Failures

The exception of every database step of a request, where it raises.
-/

structure Faults where
  execute : Option PyError := none
  auditBegin : Option PyError := none
  auditExecute : Option PyError := none
  auditCommit : Option PyError := none
  commit : Option PyError := none
  rollback : Option PyError := none

def Faults.auditRaises (faults : Faults) : Bool :=
  faults.auditBegin.isSome || faults.auditExecute.isSome || faults.auditCommit.isSome

/-!
# A request in progress
-/

/-- The committed tables, and what the request has done so far. -/
structure Scope where
  db : Database
  pending : List Write := []
  audit : List AuditRow := []
  accepted : Nat := 0
  rejected : Nat := 0

def Scope.view (scope : Scope) : Database :=
  scope.pending.foldl Write.apply scope.db

section Statements

variable (settings : Settings) (faults : Faults)

def Scope.bulkInsert (scope : Scope) (points : List Point) (tenant : String) :
    Except PyError Nat × Scope :=
  match points with
  | [] => (.ok 0, scope)
  | _ :: _ =>
      match faults.execute with
      | some e => (.error e, scope)
      | none =>
          match metricRows tenant points with
          | none => (.error .valueError, scope)
          | some rows =>
              (.ok rows.length,
                { scope with pending := scope.pending ++ [.insertMetrics rows] })

def Scope.setAlertLabel (scope : Scope) (alertId : Int) (label tenant : String) :
    Except PyError Bool × Scope :=
  match faults.execute with
  | some e => (.error e, scope)
  | none =>
      (.ok (decide (0 < scope.view.alerts.countP (labelled alertId tenant))),
        { scope with pending := scope.pending ++ [.setLabel alertId label tenant] })

/-- `record_audit_async(...)`, which commits at once and never raises. -/
def Scope.recordAudit (scope : Scope) (id : Int) (now : Instant) (event : AuditEvent) :
    Scope :=
  match LoggedEvent.row? settings
      { id := id, loggedAt := now, event := event, insertRaises := faults.auditRaises } with
  | none => scope
  | some row => { scope with audit := scope.audit ++ [row] }

/-- `get_session()` around a handler: the result, the scope, and what was committed. -/
def getSession {ε α : Type} (raised : PyError -> ε) (handler : Scope -> Except ε α × Scope)
    (db : Database) : Except ε α × Scope × List Write :=
  match handler { db := db } with
  | (.ok a, scope) =>
      match faults.commit with
      | none => (.ok a, scope, scope.pending)
      | some e => (.error (raised (faults.rollback.getD e)), scope, [])
  | (.error e, scope) =>
      match faults.rollback with
      | none => (.error e, scope, [])
      | some e' => (.error (raised e'), scope, [])

end Statements

/-!
# What the statements do
-/

theorem Write.apply_insertMetrics {db : Database} {points : List Point} {tenant : String}
    {rows : List MetricRow} (h : metricRows tenant points = some rows) :
    (Write.insertMetrics rows).apply db = (Storage.bulkInsert db points tenant).2 := by
  unfold Storage.bulkInsert
  rw [h]
  rfl

theorem Scope.bulkInsert_of_valid {faults : Faults} {points : List Point} (scope : Scope)
    (tenant : String) (hpoints : points ≠ []) (hexecute : faults.execute = none)
    (htimes : forall p, p ∈ points -> (toTimestamp p.timestamp).isSome = true) :
    exists rows : List MetricRow, rows.length = points.length ∧
      scope.bulkInsert faults points tenant =
        (.ok points.length,
          { scope with pending := scope.pending ++ [.insertMetrics rows] }) := by
  rcases Option.isSome_iff_exists.mp ((metricRows_isSome tenant points).mpr htimes)
    with ⟨rows, hrows⟩
  refine ⟨rows, metricRows_length hrows, ?_⟩
  cases points with
  | nil =>
      exact absurd rfl hpoints
  | cons p rest =>
      unfold Scope.bulkInsert
      simp only [hexecute, hrows, metricRows_length hrows]

theorem Scope.bulkInsert_of_invalid {faults : Faults} {points : List Point} (scope : Scope)
    (tenant : String) (hpoints : points ≠ [])
    (h : ¬ (faults.execute = none ∧
      forall p, p ∈ points -> (toTimestamp p.timestamp).isSome = true)) :
    exists e, scope.bulkInsert faults points tenant = (.error e, scope) := by
  cases points with
  | nil =>
      exact absurd rfl hpoints
  | cons p rest =>
      unfold Scope.bulkInsert
      cases hexecute : faults.execute with
      | some e =>
          exact ⟨e, rfl⟩
      | none =>
          have hnone : metricRows tenant (p :: rest) = none := by
            rw [← Option.not_isSome_iff_eq_none, metricRows_isSome]
            exact fun htimes => h ⟨hexecute, htimes⟩
          simp only [hnone]
          exact ⟨_, rfl⟩

end Storage
end MetricMesh
