import MetricMesh.Storage.Tables
import MetricMesh.Storage.Operations

/-!
# Dead letters and the audit trail

Two tables record what happens around the tenants' data: the tasks that used up
their retries, with their arguments, and the audited events.  Both inserts are
best effort, and neither table has a tenant column.
-/

namespace MetricMesh
namespace Storage

open Foundation
open Python
open Detection

/-!
# Failed tasks
-/

/-- What Celery hands to the `task_failure` signal. -/
structure TaskFailure where
  senderName : Option String
  taskId : Option String
  retries : Option Nat
  routingKey : Option String
  /-- The type and the message of the exception. -/
  exception : Option (String × String)
  args : Option (List Json)
  kwargs : Option (Dict String Json)
  einfo : Option String
  traceback : Option String
deriving DecidableEq

structure DeadLetterParams where
  taskName : String
  taskId : Option String
  queue : Option String
  retries : Nat
  exception : String
  args : List Json
  kwargs : Dict String Json
  traceback : Option String
deriving DecidableEq

structure DeadLetterRow extends DeadLetterParams where
  id : Int
  failedAt : Instant
deriving DecidableEq

def recordDeadLetter (failure : TaskFailure) : DeadLetterParams where
  taskName :=
    match failure.senderName with
    | none => "unknown"
    | some name => if name = "" then "unknown" else name
  taskId := failure.taskId
  queue := failure.routingKey
  retries := failure.retries.getD 0
  exception :=
    match failure.exception with
    | none => "unknown"
    | some (type, message) => type ++ ": " ++ message
  args := failure.args.getD []
  kwargs := failure.kwargs.getD []
  traceback := failure.einfo.or failure.traceback

structure FailureEvent where
  id : Int
  failedAt : Instant
  failure : TaskFailure
  insertRaises : Bool := false

def FailureEvent.row? (e : FailureEvent) : Option DeadLetterRow :=
  let params := recordDeadLetter e.failure
  if e.insertRaises then none
  else if isStandardItems params.args && isStandardFields params.kwargs then
    some { toDeadLetterParams := params, id := e.id, failedAt := e.failedAt }
  else none

/-!
# Audited events
-/

structure AuditRow extends AuditEvent where
  id : Int
  loggedAt : Instant
deriving DecidableEq

structure LoggedEvent where
  id : Int
  loggedAt : Instant
  event : AuditEvent
  insertRaises : Bool := false

def LoggedEvent.row? (settings : Settings) (e : LoggedEvent) : Option AuditRow :=
  if !settings.auditEnabled || e.insertRaises then none
  else if isStandardFields e.event.detail then
    some { toAuditEvent := e.event, id := e.id, loggedAt := e.loggedAt }
  else none

/-!
# Histories
-/

/-- What has happened, in the order in which the sequences gave out identifiers. -/
structure History where
  failures : List FailureEvent
  failures_increasing : failures.Pairwise (fun a b => a.id < b.id)
  logged : List LoggedEvent
  logged_increasing : logged.Pairwise (fun a b => a.id < b.id)

def History.deadLetters (history : History) : List DeadLetterRow :=
  history.failures.filterMap FailureEvent.row?

def History.auditLog (history : History) (settings : Settings) : List AuditRow :=
  history.logged.filterMap (LoggedEvent.row? settings)

theorem FailureEvent.id_of_row {e : FailureEvent} {r : DeadLetterRow}
    (h : e.row? = some r) : r.id = e.id := by
  unfold FailureEvent.row? at h
  dsimp only at h
  split_ifs at h
  injection h with h
  rw [← h]

theorem LoggedEvent.id_of_row {settings : Settings} {e : LoggedEvent} {r : AuditRow}
    (h : e.row? settings = some r) : r.id = e.id := by
  unfold LoggedEvent.row? at h
  split_ifs at h
  injection h with h
  rw [← h]

theorem History.deadLetters_increasing (history : History) :
    history.deadLetters.Pairwise (fun a b => a.id < b.id) := by
  unfold History.deadLetters
  rw [List.pairwise_filterMap]
  apply history.failures_increasing.imp
  intro a b hab r hr s hs
  rw [FailureEvent.id_of_row hr, FailureEvent.id_of_row hs]
  exact hab

theorem History.auditLog_increasing (history : History) (settings : Settings) :
    (history.auditLog settings).Pairwise (fun a b => a.id < b.id) := by
  unfold History.auditLog
  rw [List.pairwise_filterMap]
  apply history.logged_increasing.imp
  intro a b hab r hr s hs
  rw [LoggedEvent.id_of_row hr, LoggedEvent.id_of_row hs]
  exact hab

/-!
# Reads
-/

structure DeadLetterItem extends DeadLetterParams where
  id : Int
  failedAt : String
deriving DecidableEq

structure AuditItem extends AuditEvent where
  id : Int
  loggedAt : String
deriving DecidableEq

def DeadLetterRow.item (host : Host) (r : DeadLetterRow) : DeadLetterItem where
  toDeadLetterParams := r.toDeadLetterParams
  id := r.id
  failedAt := host.isoformat r.failedAt

def AuditRow.item (host : Host) (r : AuditRow) : AuditItem where
  toAuditEvent := r.toAuditEvent
  id := r.id
  loggedAt := host.isoformat r.loggedAt

def fetchDeadLetters (host : Host) (rows : List DeadLetterRow)
    (taskName : Option String) (limit offset : Nat) : List DeadLetterItem × Nat :=
  let found := rows.filter fun r => textFilter taskName r.taskName
  ((page (NewestFirst DeadLetterRow.failedAt DeadLetterRow.id) limit offset found).map
    (DeadLetterRow.item host), found.length)

def fetchAuditLog (host : Host) (rows : List AuditRow)
    (action : Option String) (limit offset : Nat) : List AuditItem × Nat :=
  let found := rows.filter fun r => textFilter action r.action
  ((page (NewestFirst AuditRow.loggedAt AuditRow.id) limit offset found).map
    (AuditRow.item host), found.length)

end Storage
end MetricMesh
