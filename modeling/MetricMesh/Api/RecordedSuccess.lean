import MetricMesh.Api.Feedback
import MetricMesh.Foundation.Runs

/-!
# Recorded success

The audit row of a labelled alert and the count of accepted points are written
while the session is open.  They stay when the session then fails to commit, so
they tell the truth exactly when no request fails there after it has recorded.
-/

namespace MetricMesh
namespace Api

open Foundation
open Python
open Storage
open Ingestion

/-!
# A sequence of requests
-/

inductive Call where
  | ingestBatch (batch : MetricBatch)
  | ingestSingle (point : MetricPoint)
  | submitFeedback (alertId : Int) (label : FeedbackLabel) (clientHost : Option String)

structure Attempt where
  identity : Identity
  call : Call
  faults : Faults := {}
  auditId : Int := 0
  now : Detection.Instant := 0

inductive Response where
  | ingest (r : Except Raised IngestResponse)
  | feedback (r : Except Raised FeedbackResponse)

structure Served where
  response : Response
  audit : List AuditRow
  committed : List Write

structure World where
  db : Database
  audit : List AuditRow := []
  /-- `INGEST_POINTS`, by status. -/
  accepted : Nat := 0
  rejected : Nat := 0

def runSession {α : Type} (faults : Faults) (respond : Except Raised α -> Response)
    (handler : Scope -> Except Raised α × Scope) (world : World) : Served × World :=
  let out := getSession faults Raised.exception handler world.db
  ({ response := respond out.1, audit := out.2.1.audit, committed := out.2.2 },
    { db := out.2.2.foldl Write.apply world.db
      audit := world.audit ++ out.2.1.audit
      accepted := world.accepted + out.2.1.accepted
      rejected := world.rejected + out.2.1.rejected })

def serve (settings : Settings) (world : World) (r : Attempt) : Served × World :=
  match r.call with
  | .ingestBatch batch =>
      runSession r.faults Response.ingest (ingestBatch r.faults r.identity batch) world
  | .ingestSingle point =>
      runSession r.faults Response.ingest (ingestSingle r.faults r.identity point) world
  | .submitFeedback alertId label clientHost =>
      runSession r.faults Response.feedback
        (submitFeedback settings r.faults r.auditId r.now alertId label clientHost
          r.identity) world

/-!
# The tables after a run
-/

theorem runSession_world {α : Type} (faults : Faults)
    (respond : Except Raised α -> Response) (handler : Scope -> Except Raised α × Scope)
    (world : World) :
    (runSession faults respond handler world).2.db =
        (runSession faults respond handler world).1.committed.foldl Write.apply world.db ∧
      (runSession faults respond handler world).2.audit =
        world.audit ++ (runSession faults respond handler world).1.audit :=
  ⟨rfl, rfl⟩

theorem serve_world (settings : Settings) (world : World) (r : Attempt) :
    (serve settings world r).2.db =
        (serve settings world r).1.committed.foldl Write.apply world.db ∧
      (serve settings world r).2.audit = world.audit ++ (serve settings world r).1.audit := by
  unfold serve
  cases r.call with
  | ingestBatch batch =>
      exact runSession_world _ _ _ world
  | ingestSingle point =>
      exact runSession_world _ _ _ world
  | submitFeedback alertId label clientHost =>
      exact runSession_world _ _ _ world

/-- The tables are the committed statements, and the audit log is the audit rows, in order. -/
theorem finalState_world (settings : Settings) (requests : List Attempt) :
    forall world : World,
      (finalState (serve settings) world requests).db =
          ((outputs (serve settings) world requests).flatMap
            fun p => p.2.committed).foldl Write.apply world.db ∧
        (finalState (serve settings) world requests).audit =
          world.audit ++
            (outputs (serve settings) world requests).flatMap fun p => p.2.audit := by
  induction requests with
  | nil =>
      intro world
      exact ⟨rfl, (List.append_nil _).symm⟩
  | cons r rest ih =>
      intro world
      rcases serve_world settings world r with ⟨hdb, haudit⟩
      rcases ih (serve settings world r).2 with ⟨hrestDb, hrestAudit⟩
      constructor
      · rw [finalState_cons, hrestDb, hdb, outputs_cons, List.flatMap_cons,
          List.foldl_append]
      · rw [finalState_cons, hrestAudit, haudit, outputs_cons, List.flatMap_cons,
          List.append_assoc]

/-!
# Success that is recorded for what is committed
-/

/-- The audit rows that report a success belong to a committed label update. -/
def AuditJustified (r : Attempt) (served : Served) : Prop :=
  forall row, row ∈ served.audit -> row.action = "feedback.submitted" ->
    row.outcome = some "success" ->
      exists alertId label clientHost,
        r.call = .submitFeedback alertId label clientHost ∧
          Write.setLabel alertId label.text r.identity.tenant ∈ served.committed

structure RecordsCommitted (settings : Settings) (world : World)
    (requests : List Attempt) : Prop where
  audit : forall p, p ∈ outputs (serve settings) world requests -> AuditJustified p.1 p.2
  counter : (finalState (serve settings) world requests).accepted =
    world.accepted +
      ((outputs (serve settings) world requests).map fun p => rowsOf p.2.committed).sum

/-!
# Recording
-/

/-- The statements of a request go through up to the point where it records success. -/
def RecordsSuccess (settings : Settings) (world : World) (r : Attempt) : Prop :=
  r.faults.execute = none ∧
    match r.call with
    | .ingestBatch batch =>
        forall p, p ∈ batch.points -> (toTimestamp p.timestamp).isSome = true
    | .ingestSingle point => (toTimestamp point.timestamp).isSome = true
    | .submitFeedback alertId _ _ =>
        (exists row, row ∈ world.db.alerts ∧ row.id = alertId ∧
            row.tenant = r.identity.tenant) ∧
          settings.auditEnabled = true ∧ r.faults.auditRaises = false

def CommitsIfRecords (settings : Settings) (world : World) (r : Attempt) : Prop :=
  r.faults.commit = none ∨ ¬ RecordsSuccess settings world r

/-!
# One request

A request is quiet, or it counts the rows of an insert, or it records a label.
What it records does not depend on the commit that follows.
-/

theorem runSession_of_ok {α : Type} {faults : Faults}
    {respond : Except Raised α -> Response} {handler : Scope -> Except Raised α × Scope}
    {world : World} {a : α} {scope : Scope} (h : handler { db := world.db } = (.ok a, scope)) :
    (runSession faults respond handler world).1.audit = scope.audit ∧
      (runSession faults respond handler world).1.committed =
        (if faults.commit = none then scope.pending else []) ∧
      (runSession faults respond handler world).2.accepted =
        world.accepted + scope.accepted := by
  unfold runSession getSession
  simp only [h]
  cases faults.commit with
  | none =>
      exact ⟨rfl, rfl, rfl⟩
  | some e =>
      exact ⟨rfl, rfl, rfl⟩

theorem runSession_of_error {α : Type} {faults : Faults}
    {respond : Except Raised α -> Response} {handler : Scope -> Except Raised α × Scope}
    {world : World} {e : Raised} {scope : Scope}
    (h : handler { db := world.db } = (.error e, scope)) :
    (runSession faults respond handler world).1.audit = scope.audit ∧
      (runSession faults respond handler world).1.committed = [] ∧
      (runSession faults respond handler world).2.accepted =
        world.accepted + scope.accepted := by
  unfold runSession getSession
  simp only [h]
  cases faults.rollback with
  | none =>
      exact ⟨rfl, rfl, rfl⟩
  | some e =>
      exact ⟨rfl, rfl, rfl⟩

def Leaves (settings : Settings) (world : World) (r : Attempt) (audit : List AuditRow)
    (committed : List Write) (accepted : Nat) : Prop :=
  (serve settings world r).1.audit = audit ∧
    (serve settings world r).1.committed = committed ∧
      (serve settings world r).2.accepted = world.accepted + accepted

theorem leaves_of_error {settings : Settings} {world : World} {r : Attempt} {α : Type}
    {respond : Except Raised α -> Response} {handler : Scope -> Except Raised α × Scope}
    {pending : List Write} {e : Raised}
    (hserve : serve settings world r = runSession r.faults respond handler world)
    (h : handler { db := world.db } = (.error e, { db := world.db, pending := pending })) :
    Leaves settings world r [] [] 0 := by
  unfold Leaves
  rw [hserve]
  exact runSession_of_error h

theorem leaves_of_ok {settings : Settings} {world : World} {r : Attempt} {α : Type}
    {respond : Except Raised α -> Response} {handler : Scope -> Except Raised α × Scope}
    {a : α} {scope : Scope}
    (hserve : serve settings world r = runSession r.faults respond handler world)
    (h : handler { db := world.db } = (.ok a, scope)) :
    Leaves settings world r scope.audit
      (if r.faults.commit = none then scope.pending else []) scope.accepted := by
  unfold Leaves
  rw [hserve]
  exact runSession_of_ok h

theorem leaves_of_ingest {settings : Settings} {world : World} {r : Attempt}
    {handler : Scope -> Except Raised IngestResponse × Scope} {points : List Point}
    (hserve : serve settings world r = runSession r.faults Response.ingest handler world)
    (hpoints : points ≠ [])
    (hrecords : RecordsSuccess settings world r <-> r.faults.execute = none ∧
      forall p, p ∈ points -> (toTimestamp p.timestamp).isSome = true)
    (hok : forall n scope,
      Scope.bulkInsert r.faults { db := world.db } points r.identity.tenant =
        (.ok n, scope) ->
      exists a, handler { db := world.db } =
        (.ok a, countPoints scope n (points.length - n)))
    (herror : forall e scope,
      Scope.bulkInsert r.faults { db := world.db } points r.identity.tenant =
        (.error e, scope) ->
      exists e', handler { db := world.db } = (.error e', scope)) :
    (RecordsSuccess settings world r -> exists rows : List MetricRow, 0 < rows.length ∧
      Leaves settings world r []
        (if r.faults.commit = none then [.insertMetrics rows] else []) rows.length) ∧
    (¬ RecordsSuccess settings world r -> Leaves settings world r [] [] 0) := by
  rw [hrecords]
  constructor
  · intro h
    rcases Scope.bulkInsert_of_valid { db := world.db } r.identity.tenant hpoints h.1 h.2 with
      ⟨rows, hlength, hinsert⟩
    rcases hok _ _ hinsert with ⟨a, hhandler⟩
    refine ⟨rows, ?_, ?_⟩
    · rw [hlength]
      exact List.length_pos_iff.mpr hpoints
    · have hleaves := leaves_of_ok hserve hhandler
      simp only [countPoints, Nat.zero_add] at hleaves
      rw [hlength]
      exact hleaves
  · intro h
    rcases Scope.bulkInsert_of_invalid { db := world.db } r.identity.tenant hpoints h with
      ⟨e, hinsert⟩
    rcases herror _ _ hinsert with ⟨e', hhandler⟩
    exact leaves_of_error hserve hhandler

theorem serve_ingestBatch (settings : Settings) (world : World) {r : Attempt}
    {batch : MetricBatch} (hcall : r.call = .ingestBatch batch) :
    (RecordsSuccess settings world r -> exists rows : List MetricRow, 0 < rows.length ∧
      Leaves settings world r []
        (if r.faults.commit = none then [.insertMetrics rows] else []) rows.length) ∧
    (¬ RecordsSuccess settings world r -> Leaves settings world r [] [] 0) := by
  have hpoints : batch.points.map MetricPoint.point ≠ [] := by
    intro hnil
    have hge := batch.points_ge
    rw [List.map_eq_nil_iff.mp hnil] at hge
    exact absurd hge (by decide)
  have hserve : serve settings world r = runSession r.faults Response.ingest
      (ingestBatch r.faults r.identity batch) world := by
    unfold serve
    rw [hcall]
  refine leaves_of_ingest hserve hpoints ?_ ?_ ?_
  · unfold RecordsSuccess
    rw [hcall]
    simp [MetricPoint.point]
  · intro n scope hinsert
    unfold ingestBatch
    rw [hinsert, List.length_map]
    exact ⟨_, rfl⟩
  · intro e scope hinsert
    unfold ingestBatch
    rw [hinsert]
    exact ⟨_, rfl⟩

theorem serve_ingestSingle (settings : Settings) (world : World) {r : Attempt}
    {point : MetricPoint} (hcall : r.call = .ingestSingle point) :
    (RecordsSuccess settings world r -> exists rows : List MetricRow, 0 < rows.length ∧
      Leaves settings world r []
        (if r.faults.commit = none then [.insertMetrics rows] else []) rows.length) ∧
    (¬ RecordsSuccess settings world r -> Leaves settings world r [] [] 0) := by
  have hserve : serve settings world r = runSession r.faults Response.ingest
      (ingestSingle r.faults r.identity point) world := by
    unfold serve
    rw [hcall]
  refine leaves_of_ingest hserve (List.cons_ne_nil point.point []) ?_ ?_ ?_
  · unfold RecordsSuccess
    rw [hcall]
    simp [MetricPoint.point]
  · intro n scope hinsert
    unfold ingestSingle
    rw [hinsert]
    exact ⟨_, rfl⟩
  · intro e scope hinsert
    unfold ingestSingle
    rw [hinsert]
    exact ⟨_, rfl⟩

theorem recordsSuccess_submitFeedback_iff {settings : Settings} {world : World}
    {r : Attempt} {alertId : Int} {label : FeedbackLabel} {clientHost : Option String}
    (hcall : r.call = .submitFeedback alertId label clientHost) :
    RecordsSuccess settings world r <-> r.faults.execute = none ∧
      0 < world.db.alerts.countP (labelled alertId r.identity.tenant) ∧
        settings.auditEnabled = true ∧ r.faults.auditRaises = false := by
  have hfound : 0 < world.db.alerts.countP (labelled alertId r.identity.tenant) <->
      exists row, row ∈ world.db.alerts ∧ row.id = alertId ∧
        row.tenant = r.identity.tenant := by
    simp [List.countP_pos_iff, labelled]
  unfold RecordsSuccess
  rw [hcall, hfound]

theorem serve_submitFeedback (settings : Settings) (world : World) {r : Attempt}
    {alertId : Int} {label : FeedbackLabel} {clientHost : Option String}
    (hcall : r.call = .submitFeedback alertId label clientHost) :
    (RecordsSuccess settings world r -> exists row : AuditRow,
      row.action = "feedback.submitted" ∧ row.outcome = some "success" ∧
        Leaves settings world r [row]
          (if r.faults.commit = none then
            [.setLabel alertId label.text r.identity.tenant] else []) 0) ∧
    (¬ RecordsSuccess settings world r -> exists committed : List Write,
      rowsOf committed = 0 ∧ Leaves settings world r [] committed 0) := by
  have hserve : serve settings world r = runSession r.faults Response.feedback
      (submitFeedback settings r.faults r.auditId r.now alertId label clientHost
        r.identity) world := by
    unfold serve
    rw [hcall]
  rw [recordsSuccess_submitFeedback_iff hcall]
  cases hexecute : r.faults.execute with
  | some e =>
      constructor
      · intro h
        cases h.1
      · intro _
        exact ⟨[], rfl, leaves_of_error hserve (submitFeedback_of_raise hexecute)⟩
  | none =>
      by_cases hcount : 0 < world.db.alerts.countP (labelled alertId r.identity.tenant)
      · have hok := submitFeedback_of_found settings r.auditId r.now label clientHost
          hexecute hcount
        by_cases haudit : settings.auditEnabled = true ∧ r.faults.auditRaises = false
        · rw [if_pos haudit] at hok
          constructor
          · intro _
            exact ⟨{ toAuditEvent := feedbackSubmitted alertId label clientHost r.identity
                     id := r.auditId
                     loggedAt := r.now }, rfl, rfl, leaves_of_ok hserve hok⟩
          · intro h
            exact absurd ⟨rfl, hcount, haudit⟩ h
        · rw [if_neg haudit] at hok
          constructor
          · intro h
            exact absurd h.2.2 haudit
          · intro _
            refine ⟨_, ?_, leaves_of_ok hserve hok⟩
            split
            · rfl
            · rfl
      · constructor
        · intro h
          exact absurd h.2.1 hcount
        · intro _
          exact ⟨[], rfl,
            leaves_of_error hserve (submitFeedback_of_unknown hexecute hcount)⟩

/-!
# Runs
-/

def Truthful (settings : Settings) (world : World) (r : Attempt) : Prop :=
  AuditJustified r (serve settings world r).1 ∧
    (serve settings world r).2.accepted =
      world.accepted + rowsOf (serve settings world r).1.committed

theorem auditJustified_of_nil {r : Attempt} {served : Served} (h : served.audit = []) :
    AuditJustified r served := by
  intro row hrow
  rw [h] at hrow
  cases hrow

theorem truthful_of_insert {settings : Settings} {world : World} {r : Attempt}
    {rows : List MetricRow} (hpos : 0 < rows.length)
    (h : Leaves settings world r []
      (if r.faults.commit = none then [.insertMetrics rows] else []) rows.length) :
    (Truthful settings world r <-> r.faults.commit = none) ∧
      world.accepted + rowsOf (serve settings world r).1.committed ≤
        (serve settings world r).2.accepted := by
  rcases h with ⟨haudit, hcommitted, haccepted⟩
  unfold Truthful
  rw [hcommitted, haccepted, and_iff_right (auditJustified_of_nil haudit)]
  by_cases hcommit : r.faults.commit = none
  · simp [hcommit, rowsOf, Write.rows]
  · have hzero : rowsOf [] = 0 := rfl
    rw [if_neg hcommit, hzero]
    exact ⟨iff_of_false (by omega) hcommit, by omega⟩

theorem truthful_of_quiet {settings : Settings} {world : World} {r : Attempt}
    {committed : List Write} (hrows : rowsOf committed = 0)
    (h : Leaves settings world r [] committed 0) :
    Truthful settings world r ∧
      world.accepted + rowsOf (serve settings world r).1.committed ≤
        (serve settings world r).2.accepted := by
  rcases h with ⟨haudit, hcommitted, haccepted⟩
  unfold Truthful
  rw [hcommitted, haccepted, hrows]
  exact ⟨⟨auditJustified_of_nil haudit, rfl⟩, le_rfl⟩

theorem truthful_of_label {settings : Settings} {world : World} {r : Attempt}
    {alertId : Int} {label : FeedbackLabel} {clientHost : Option String}
    (hcall : r.call = .submitFeedback alertId label clientHost) {row : AuditRow}
    (haction : row.action = "feedback.submitted") (houtcome : row.outcome = some "success")
    (h : Leaves settings world r [row]
      (if r.faults.commit = none then
        [.setLabel alertId label.text r.identity.tenant] else []) 0) :
    (Truthful settings world r <-> r.faults.commit = none) ∧
      world.accepted + rowsOf (serve settings world r).1.committed ≤
        (serve settings world r).2.accepted := by
  rcases h with ⟨haudit, hcommitted, haccepted⟩
  unfold Truthful AuditJustified
  rw [hcommitted, haccepted, haudit]
  by_cases hcommit : r.faults.commit = none
  · rw [if_pos hcommit]
    refine ⟨iff_of_true ⟨?_, rfl⟩ hcommit, le_rfl⟩
    intro row' _ _ _
    exact ⟨alertId, label, clientHost, hcall, List.mem_singleton.mpr rfl⟩
  · rw [if_neg hcommit]
    refine ⟨iff_of_false ?_ hcommit, le_rfl⟩
    intro htruth
    rcases htruth.1 row (List.mem_singleton.mpr rfl) haction houtcome with
      ⟨_, _, _, _, hmem⟩
    cases hmem

theorem truthful_iff (settings : Settings) (world : World) (r : Attempt) :
    (Truthful settings world r <-> CommitsIfRecords settings world r) ∧
      world.accepted + rowsOf (serve settings world r).1.committed ≤
        (serve settings world r).2.accepted := by
  have hquiet : ¬ RecordsSuccess settings world r ->
      (exists committed, rowsOf committed = 0 ∧ Leaves settings world r [] committed 0) ->
      (Truthful settings world r <-> CommitsIfRecords settings world r) ∧
        world.accepted + rowsOf (serve settings world r).1.committed ≤
          (serve settings world r).2.accepted := by
    intro hnot hleaves
    rcases hleaves with ⟨committed, hrows, hleaves⟩
    rcases truthful_of_quiet hrows hleaves with ⟨htruth, hle⟩
    exact ⟨iff_of_true htruth (Or.inr hnot), hle⟩
  have hloud : RecordsSuccess settings world r ->
      (CommitsIfRecords settings world r <-> r.faults.commit = none) := by
    intro h
    exact or_iff_left (not_not_intro h)
  by_cases hrecords : RecordsSuccess settings world r
  · rw [hloud hrecords]
    cases hcall : r.call with
    | ingestBatch batch =>
        rcases (serve_ingestBatch settings world hcall).1 hrecords with ⟨rows, hpos, h⟩
        exact truthful_of_insert hpos h
    | ingestSingle point =>
        rcases (serve_ingestSingle settings world hcall).1 hrecords with ⟨rows, hpos, h⟩
        exact truthful_of_insert hpos h
    | submitFeedback alertId label clientHost =>
        rcases (serve_submitFeedback settings world hcall).1 hrecords with
          ⟨row, haction, houtcome, h⟩
        exact truthful_of_label hcall haction houtcome h
  · refine hquiet hrecords ?_
    cases hcall : r.call with
    | ingestBatch batch =>
        exact ⟨[], rfl, (serve_ingestBatch settings world hcall).2 hrecords⟩
    | ingestSingle point =>
        exact ⟨[], rfl, (serve_ingestSingle settings world hcall).2 hrecords⟩
    | submitFeedback alertId label clientHost =>
        exact (serve_submitFeedback settings world hcall).2 hrecords

theorem finalState_accepted_ge (settings : Settings) (requests : List Attempt) :
    forall world : World,
      world.accepted +
          ((outputs (serve settings) world requests).map
            fun p => rowsOf p.2.committed).sum ≤
        (finalState (serve settings) world requests).accepted := by
  induction requests with
  | nil =>
      intro world
      exact le_rfl
  | cons r rest ih =>
      intro world
      have hone := (truthful_iff settings world r).2
      have hrest := ih (serve settings world r).2
      simp only [outputs_cons, List.map_cons, List.sum_cons, finalState_cons]
      omega

/-- A run records only what is committed exactly when each of its requests does. -/
theorem recordsCommitted_iff (settings : Settings) (world : World)
    (requests : List Attempt) :
    RecordsCommitted settings world requests <->
      Along (serve settings) (CommitsIfRecords settings) world requests := by
  induction requests generalizing world with
  | nil =>
      refine iff_of_true ⟨?_, rfl⟩ True.intro
      intro p hp
      cases hp
  | cons r rest ih =>
      rcases truthful_iff settings world r with ⟨htruth, hone⟩
      have hge := finalState_accepted_ge settings rest (serve settings world r).2
      show RecordsCommitted settings world (r :: rest) <->
        CommitsIfRecords settings world r ∧
          Along (serve settings) (CommitsIfRecords settings) (serve settings world r).2 rest
      rw [← htruth, ← ih]
      constructor
      · intro h
        have haudit := h.audit
        have hcounter := h.counter
        simp only [outputs_cons, List.map_cons, List.sum_cons, finalState_cons]
          at haudit hcounter
        refine ⟨⟨haudit _ List.mem_cons_self, by omega⟩, ⟨?_, by omega⟩⟩
        intro p hp
        exact haudit p (List.mem_cons_of_mem _ hp)
      · intro h
        rcases h with ⟨⟨haudit, hcount⟩, hrest⟩
        have hcounter := hrest.counter
        refine ⟨?_, ?_⟩
        · intro p hp
          rcases List.mem_cons.mp hp with heq | hp
          · rw [heq]
            exact haudit
          · exact hrest.audit p hp
        · simp only [outputs_cons, List.map_cons, List.sum_cons, finalState_cons]
          omega

def cpuPoint : MetricPoint where
  metricName := "cpu_usage"
  value := .finite 1
  timestamp := .finite 1700000000
  metricName_valid := by decide +kernel
  source_le := by decide
  value_finite := rfl
  labels_valid := ⟨by decide, by simp, by simp⟩

def lostPoint : Attempt where
  identity := { principal := "anonymous", tenant := "default" }
  call := .ingestSingle cpuPoint
  faults := { commit := some .connectionError }

theorem lostPoint_counted :
    ¬ forall (settings : Settings) (world : World) (requests : List Attempt),
      RecordsCommitted settings world requests := by
  intro h
  have hcounter := (h Settings.defaults { db := {} } [lostPoint]).counter
  revert hcounter
  decide +kernel

end Api
end MetricMesh
