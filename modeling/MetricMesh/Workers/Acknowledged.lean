import MetricMesh.Workers.Platform

/-!
# Acknowledged writes

What the service has acknowledged to its callers, and what the scraper has
flushed, is what the tables hold, unless a commit fails after its response has
been sent.  A call that is answered by an error has written nothing, so the
responses alone say what later reads return.
-/

namespace MetricMesh
namespace Workers

open Foundation
open Python
open Alerting
open Detection
open Storage
open Ingestion
open Api

namespace Platform

def insertOf (tenant : String) (points : List Point) : List Write :=
  match Storage.metricRows tenant points with
  | none => []
  | some rows => [.insertMetrics rows]

def acknowledgedBy (call : HttpCall) (tenant : String) : Payload -> List Write
  | .ingest _ => insertOf tenant (pointsOf call)
  | .feedback r => [.setLabel r.id r.label tenant]
  | _ => []

/-- What an event and its response say has been written. -/
def acknowledged (host : Host) (settings : Settings) :
    Event × Option (Except Raised Payload) -> List Write
  | (.call c, some (.ok payload)) =>
      match requireApiKey host settings c.request with
      | .error _ => []
      | .ok identity => acknowledgedBy c identity.tenant payload
  | (.flush buffer, _) => insertOf "default" (buffer.map PointDict.stored)
  | _ => []

/-- No commit fails after its response has been sent. -/
def Event.settled : Event -> Bool
  | .call c => !c.respondsFirst || c.faults.commit.isNone
  | _ => true

def acknowledgedIn (host : Host) (settings : Settings)
    (outs : List (Event × Option (Except Raised Payload))) : List Write :=
  outs.flatMap (acknowledged host settings)

def insertedRows (writes : List Write) : List MetricRow :=
  writes.flatMap fun w =>
    match w with
    | .insertMetrics rows => rows
    | .setLabel _ _ _ => []

def labelAfter (writes : List Write) (tenant : String) (id : Int) (label : String) :
    String :=
  writes.foldl (fun current w =>
    match w with
    | .setLabel alertId new owner =>
        if id = alertId && tenant = owner then new else current
    | .insertMetrics _ => current) label

/-!
# Writes on the tables
-/

section Writes

theorem metrics_foldl (writes : List Write) :
    forall db : Database,
      (writes.foldl Write.apply db).metrics = db.metrics ++ insertedRows writes := by
  induction writes with
  | nil =>
      intro db
      exact (List.append_nil _).symm
  | cons w rest ih =>
      intro db
      rw [List.foldl_cons, ih]
      cases w with
      | insertMetrics rows =>
          exact List.append_assoc _ _ _
      | setLabel alertId label tenant =>
          rfl

theorem alerts_foldl (writes : List Write) :
    forall db : Database,
      (writes.foldl Write.apply db).alerts = db.alerts.map fun row =>
        { row with label := labelAfter writes row.tenant row.id row.label } := by
  induction writes with
  | nil =>
      intro db
      exact (List.map_id' _).symm
  | cons w rest ih =>
      intro db
      rw [List.foldl_cons, ih]
      cases w with
      | insertMetrics rows =>
          rfl
      | setLabel alertId label tenant =>
          show List.map _ (updateWhere _ _ db.alerts) = _
          unfold updateWhere
          rw [List.map_map]
          apply List.map_congr_left
          intro row _
          show _ = { row with
            label := labelAfter rest row.tenant row.id
              (if labelled alertId tenant row then label else row.label) }
          rw [Function.comp_apply]
          cases labelled alertId tenant row <;> rfl

theorem insertedRows_append (writes more : List Write) :
    insertedRows (writes ++ more) = insertedRows writes ++ insertedRows more :=
  List.flatMap_append

theorem labelAfter_append (writes more : List Write) (tenant : String) (id : Int)
    (label : String) :
    labelAfter (writes ++ more) tenant id label =
      labelAfter more tenant id (labelAfter writes tenant id label) :=
  List.foldl_append

theorem labelAfter_of_unnamed {writes : List Write} {tenant : String} {id : Int}
    (h : forall alertId new owner, Write.setLabel alertId new owner ∈ writes ->
      alertId ≠ id) (label : String) : labelAfter writes tenant id label = label := by
  induction writes generalizing label with
  | nil =>
      rfl
  | cons w rest ih =>
      have hrest := ih fun alertId new owner hw =>
        h alertId new owner (List.mem_cons_of_mem w hw)
      cases w with
      | insertMetrics rows =>
          exact hrest label
      | setLabel alertId new owner =>
          have hne := h alertId new owner List.mem_cons_self
          show labelAfter rest tenant id (if _ then new else label) = label
          rw [decide_eq_false (Ne.symm hne), Bool.false_and, if_neg Bool.false_ne_true]
          exact hrest label

theorem setLabel_not_mem_insertOf (tenant : String) (points : List Point) (alertId : Int)
    (label owner : String) :
    Write.setLabel alertId label owner ∉ insertOf tenant points := by
  unfold insertOf
  cases Storage.metricRows tenant points with
  | none =>
      exact List.not_mem_nil
  | some rows =>
      intro h
      cases List.mem_singleton.mp h

end Writes

/-!
# Sessions
-/

section Sessions

variable {lib : Libraries} {settings : Settings} {collation : Collation}
variable {call : HttpCall} {identity : Identity} {db : Database}

theorem acknowledgedBy_answer {endpoint : ReadEndpoint} {payload : Payload}
    (h : answer lib settings collation call identity db endpoint = .ok payload)
    (tenant : String) : acknowledgedBy call tenant payload = [] := by
  cases endpoint with
  | detectNow req =>
      unfold answer at h
      dsimp only at h
      split at h
      · cases h
      · injection h with h
        rw [← h]
        rfl
  | detectorReport metric bucketMinutes mem =>
      unfold answer at h
      dsimp only at h
      split at h
      · cases h
      · injection h with h
        rw [← h]
        rfl
  | alertDetail alertId windowMinutes mem resolution =>
      unfold answer at h
      dsimp only at h
      split at h
      · cases h
      · cases h
      · injection h with h
        rw [← h]
        rfl
  | _ =>
      injection h with h
      rw [← h]
      rfl

theorem pending_bulkInsert {faults : Faults} {points : List Point} {tenant : String}
    {inserted : Nat} {scope : Scope} (hpoints : points ≠ [])
    (h : Scope.bulkInsert faults { db := db } points tenant = (.ok inserted, scope)) :
    scope.pending = insertOf tenant points := by
  unfold Scope.bulkInsert at h
  unfold insertOf
  cases points with
  | nil =>
      exact absurd rfl hpoints
  | cons p rest =>
      dsimp only at h
      split at h
      · cases h
      · cases hrows : Storage.metricRows tenant (p :: rest) with
        | none =>
            rw [hrows] at h
            cases h
        | some rows =>
            rw [hrows] at h
            injection h with _ h
            rw [← h]
            rfl

theorem pending_handle {payload : Payload} {scope : Scope}
    (h : handle lib settings collation call identity { db := db } = (.ok payload, scope)) :
    scope.pending = acknowledgedBy call identity.tenant payload := by
  unfold handle at h
  cases hendpoint : call.endpoint with
  | ingestBatch batch =>
      have hpoints : batch.points.map MetricPoint.point ≠ [] := by
        intro hnil
        have hlength := congrArg List.length hnil
        rw [List.length_map] at hlength
        exact absurd batch.points_ge (by rw [hlength]; decide)
      rw [hendpoint] at h
      dsimp only at h
      unfold Ingestion.ingestBatch at h
      split at h
      · cases h
      · rename_i inserted scope' hinsert
        injection h with hresult hscope
        injection hresult with hpayload
        have hpending := pending_bulkInsert hpoints hinsert
        rw [← hpayload, ← hscope]
        unfold acknowledgedBy pointsOf
        rw [hendpoint]
        exact hpending
  | ingestSingle point =>
      rw [hendpoint] at h
      dsimp only at h
      unfold Ingestion.ingestSingle at h
      split at h
      · cases h
      · rename_i inserted scope' hinsert
        injection h with hresult hscope
        injection hresult with hpayload
        have hpending := pending_bulkInsert (List.cons_ne_nil _ _) hinsert
        rw [← hpayload, ← hscope]
        unfold acknowledgedBy pointsOf
        rw [hendpoint]
        exact hpending
  | submitFeedback alertId label =>
      rw [hendpoint] at h
      dsimp only at h
      cases hexecute : call.faults.execute with
      | some e =>
          rw [submitFeedback_of_raise hexecute] at h
          cases h
      | none =>
          by_cases hfound : 0 < db.alerts.countP (labelled alertId identity.tenant)
          · rw [submitFeedback_of_found settings call.auditId call.now label
              call.request.clientHost hexecute hfound] at h
            injection h with hresult hscope
            injection hresult with hpayload
            rw [← hpayload, ← hscope]
            rfl
          · rw [submitFeedback_of_unknown hexecute hfound] at h
            cases h
  | read endpoint =>
      rw [hendpoint] at h
      dsimp only at h
      unfold readSession at h
      split at h
      · cases h
      · injection h with hresult hscope
        rw [acknowledgedBy_answer hresult, ← hscope]

theorem exists_of_feedback {r : FeedbackResponse} {scope : Scope}
    (h : handle lib settings collation call identity { db := db } =
      (.ok (.feedback r), scope)) :
    exists row, row ∈ db.alerts ∧ row.id = r.id := by
  unfold handle at h
  cases hendpoint : call.endpoint with
  | ingestBatch batch =>
      rw [hendpoint] at h
      injection h with h _
      cases hout : (Ingestion.ingestBatch call.faults identity batch { db := db }).1 <;>
        rw [hout] at h <;> cases h
  | ingestSingle point =>
      rw [hendpoint] at h
      injection h with h _
      cases hout : (Ingestion.ingestSingle call.faults identity point { db := db }).1 <;>
        rw [hout] at h <;> cases h
  | submitFeedback alertId label =>
      rw [hendpoint] at h
      dsimp only at h
      cases hexecute : call.faults.execute with
      | some e =>
          rw [submitFeedback_of_raise hexecute] at h
          cases h
      | none =>
          by_cases hfound : 0 < db.alerts.countP (labelled alertId identity.tenant)
          · rw [submitFeedback_of_found settings call.auditId call.now label
              call.request.clientHost hexecute hfound] at h
            injection h with h _
            injection h with h
            injection h with h
            rcases List.countP_pos_iff.mp hfound with ⟨row, hrow, hlabelled⟩
            unfold labelled at hlabelled
            rw [Bool.and_eq_true, decide_eq_true_eq] at hlabelled
            refine ⟨row, hrow, ?_⟩
            rw [← h]
            exact hlabelled.1
          · rw [submitFeedback_of_unknown hexecute hfound] at h
            cases h
  | read endpoint =>
      rw [hendpoint] at h
      dsimp only at h
      unfold readSession at h
      split at h
      · cases h
      · injection h with hresult _
        cases acknowledgedBy_answer hresult identity.tenant

theorem exists_of_acknowledgedBy {payload : Payload} {scope : Scope}
    (h : handle lib settings collation call identity { db := db } = (.ok payload, scope))
    {alertId : Int} {label owner : String}
    (hw : Write.setLabel alertId label owner ∈
      acknowledgedBy call identity.tenant payload) :
    exists row, row ∈ db.alerts ∧ row.id = alertId := by
  cases payload with
  | feedback r =>
      injection List.mem_singleton.mp hw with hid _ _
      rw [hid]
      exact exists_of_feedback h
  | ingest r =>
      have hw : Write.setLabel alertId label owner ∈
          insertOf identity.tenant (pointsOf call) := hw
      exact absurd hw (setLabel_not_mem_insertOf _ _ _ _ _)
  | _ =>
      cases hw

/-- A session commits what its response acknowledges, and nothing else. -/
theorem writes_session (h : (Event.call call).settled = true) :
    (session lib settings collation call identity db).2.2 =
      match answered lib settings collation call identity db with
      | .error _ => []
      | .ok payload => acknowledgedBy call identity.tenant payload := by
  have hlate : call.respondsFirst = false ∨ call.faults.commit = none := by
    simpa [Event.settled] using h
  unfold answered session getSession
  cases hhandle : handle lib settings collation call identity { db := db } with
  | mk result scope =>
      cases result with
      | error e =>
          cases call.respondsFirst <;> cases call.faults.rollback <;> rfl
      | ok payload =>
          have hpending := pending_handle hhandle
          rcases hlate with hlast | hcommit
          · rw [hlast]
            cases call.faults.commit with
            | none =>
                exact hpending
            | some e =>
                rfl
          · rw [hcommit]
            cases call.respondsFirst <;> exact hpending

end Sessions

/-!
# Steps
-/

def Event.alertId : Event -> Option Int
  | .route _ _ alertId _ => some alertId
  | _ => none

section Steps

variable {lib : Libraries} {settings : Settings} {collation : Collation}

theorem acknowledged_call {c : HttpCall} {identity : Identity}
    (h : requireApiKey lib.host settings c.request = .ok identity)
    (result : Except Raised Payload) :
    acknowledged lib.host settings (.call c, some result) =
      match result with
      | .error _ => []
      | .ok payload => acknowledgedBy c identity.tenant payload := by
  cases result with
  | error e =>
      rfl
  | ok payload =>
      unfold acknowledged
      dsimp only
      rw [h]

theorem db_respond_acknowledged (app : App) {c : HttpCall}
    (h : (Event.call c).settled = true) :
    (app.respond lib settings collation c).2.world.db =
      (acknowledged lib.host settings
        (.call c, some (app.respond lib settings collation c).1)).foldl Write.apply
          app.world.db := by
  cases hcaller : requireApiKey lib.host settings c.request with
  | error refusal =>
      rw [App.respond_of_refused hcaller]
      rfl
  | ok identity =>
      rw [acknowledged_call hcaller, App.db_respond hcaller, App.result_respond hcaller]
      cases (limit settings c app.redis).1 with
      | error refusal =>
          rfl
      | ok _ =>
          dsimp only
          rw [writes_session h]

theorem bulkInsert_insertOf (db : Database) (points : List Point) (tenant : String) :
    (bulkInsert db points tenant).2 = (insertOf tenant points).foldl Write.apply db := by
  unfold bulkInsert insertOf
  cases Storage.metricRows tenant points <;> rfl

/--
A step writes what it acknowledges to `metrics` and `alerts`, and nothing else,
except that the alert task may insert an alert without a label.
-/
theorem tables_step (p : Platform) {e : Event} (h : e.settled = true) {written : Database}
    (hwritten : written = (acknowledged lib.host settings
      (e, (p.step lib settings collation e).1)).foldl Write.apply p.app.world.db) :
    (p.step lib settings collation e).2.app.world.db.metrics = written.metrics ∧
      ((p.step lib settings collation e).2.app.world.db.alerts = written.alerts ∨
        exists row : AlertRow, e.alertId = some row.id ∧ row.label = "unlabeled" ∧
          (p.step lib settings collation e).2.app.world.db.alerts =
            written.alerts ++ [row]) := by
  rw [hwritten]
  cases e with
  | call c =>
      have hcall := @db_respond_acknowledged lib settings collation p.app c h
      exact ⟨congrArg Database.metrics hcall, Or.inl (congrArg Database.alerts hcall)⟩
  | flush buffer =>
      have hflush := bulkInsert_insertOf p.app.world.db (buffer.map PointDict.stored) "default"
      exact ⟨congrArg Database.metrics hflush, Or.inl (congrArg Database.alerts hflush)⟩
  | beat id now =>
      exact ⟨rfl, Or.inl rfl⟩
  | execute id task now =>
      rcases execute_frame lib settings p.installation id task now with ⟨hmetrics, halerts⟩
      exact ⟨hmetrics, Or.inl halerts⟩
  | callback id now failure =>
      have hdb := callback_frame lib settings p.installation id now failure
      exact ⟨congrArg Database.metrics hdb, Or.inl (congrArg Database.alerts hdb)⟩
  | route anomaly now alertId handling =>
      rcases route_frame lib p.installation anomaly now alertId handling with
        ⟨hmetrics, halerts | ⟨row, hid, hlabel, halerts⟩⟩
      · exact ⟨hmetrics, Or.inl halerts⟩
      · exact ⟨hmetrics, Or.inr ⟨row, congrArg some hid.symm, hlabel, halerts⟩⟩

theorem exists_of_acknowledged {p : Platform} {e : Event} {alertId : Int}
    {label owner : String} (h : Write.setLabel alertId label owner ∈
      acknowledged lib.host settings (e, (p.step lib settings collation e).1)) :
    exists row, row ∈ p.app.world.db.alerts ∧ row.id = alertId := by
  cases e with
  | call c =>
      have h : Write.setLabel alertId label owner ∈ acknowledged lib.host settings
          (.call c, some (p.app.respond lib settings collation c).1) := h
      cases hresult : (p.app.respond lib settings collation c).1 with
      | error e =>
          rw [hresult] at h
          cases h
      | ok payload =>
          rcases App.handle_of_respond hresult with ⟨identity, scope, hcaller, hhandle⟩
          rw [hresult, acknowledged_call hcaller] at h
          exact exists_of_acknowledgedBy hhandle h
  | flush buffer =>
      have h : Write.setLabel alertId label owner ∈
          insertOf "default" (buffer.map PointDict.stored) := h
      exact absurd h (setLabel_not_mem_insertOf _ _ _ _ _)
  | _ =>
      cases h

end Steps

/-!
# Runs
-/

structure Agrees (p : Platform) (writes : List Write) : Prop where
  labels : forall row, row ∈ p.app.world.db.alerts ->
    row.label = labelAfter writes row.tenant row.id "unlabeled"
  alerts : forall alertId label owner, Write.setLabel alertId label owner ∈ writes ->
    exists row, row ∈ p.app.world.db.alerts ∧ row.id = alertId

section Runs

variable {lib : Libraries} {settings : Settings} {collation : Collation}

theorem mem_alerts_foldl {db : Database} {writes : List Write} {row : AlertRow}
    (h : row ∈ (writes.foldl Write.apply db).alerts) :
    exists old, old ∈ db.alerts ∧ old.tenant = row.tenant ∧ old.id = row.id ∧
      row.label = labelAfter writes row.tenant row.id old.label := by
  rw [alerts_foldl] at h
  rcases List.mem_map.mp h with ⟨old, hold, heq⟩
  refine ⟨old, hold, ?_⟩
  rw [← heq]
  exact ⟨rfl, rfl, rfl⟩

theorem exists_alerts_foldl {db : Database} (writes : List Write) {old : AlertRow}
    (h : old ∈ db.alerts) :
    exists row, row ∈ (writes.foldl Write.apply db).alerts ∧ row.id = old.id := by
  rw [alerts_foldl]
  exact ⟨_, List.mem_map.mpr ⟨old, h, rfl⟩, rfl⟩

theorem exists_alerts_step {p : Platform} {e : Event} (he : e.settled = true)
    {old : AlertRow} (h : old ∈ p.app.world.db.alerts) :
    exists row, row ∈ (p.step lib settings collation e).2.app.world.db.alerts ∧
      row.id = old.id := by
  rcases exists_alerts_foldl (acknowledged lib.host settings
    (e, (p.step lib settings collation e).1)) h with ⟨row, hrow, hid⟩
  rcases @tables_step lib settings collation p e he _ rfl with
    ⟨_, halerts | ⟨new, _, _, halerts⟩⟩
  · exact ⟨row, halerts ▸ hrow, hid⟩
  · exact ⟨row, halerts ▸ List.mem_append_left _ hrow, hid⟩

theorem id_of_mem_alerts_step {p : Platform} {e : Event} (he : e.settled = true)
    {row : AlertRow} (h : row ∈ (p.step lib settings collation e).2.app.world.db.alerts) :
    (exists old, old ∈ p.app.world.db.alerts ∧ old.id = row.id) ∨
      e.alertId = some row.id := by
  rcases @tables_step lib settings collation p e he _ rfl with ⟨_, halerts | halerts⟩
  · rw [halerts] at h
    rcases mem_alerts_foldl h with ⟨old, hold, _, hid, _⟩
    exact Or.inl ⟨old, hold, hid⟩
  · rcases halerts with ⟨new, hnew, _, halerts⟩
    rw [halerts] at h
    rcases List.mem_append.mp h with h | h
    · rcases mem_alerts_foldl h with ⟨old, hold, _, hid, _⟩
      exact Or.inl ⟨old, hold, hid⟩
    · rw [List.mem_singleton.mp h]
      exact Or.inr hnew

theorem Agrees.step {p : Platform} {writes : List Write} (h : Agrees p writes) {e : Event}
    (he : e.settled = true) (hfresh : forall alertId, e.alertId = some alertId ->
      forall row, row ∈ p.app.world.db.alerts -> row.id ≠ alertId) :
    Agrees (p.step lib settings collation e).2
      (writes ++ acknowledged lib.host settings
        (e, (p.step lib settings collation e).1)) := by
  rcases @tables_step lib settings collation p e he _ rfl with ⟨_, halerts⟩
  have hlabels : forall row, row ∈ ((acknowledged lib.host settings
      (e, (p.step lib settings collation e).1)).foldl Write.apply
        p.app.world.db).alerts ->
      row.label = labelAfter (writes ++ acknowledged lib.host settings
        (e, (p.step lib settings collation e).1)) row.tenant row.id "unlabeled" := by
    intro row hrow
    rcases mem_alerts_foldl hrow with ⟨old, hold, htenant, hid, hlabel⟩
    rw [hlabel, labelAfter_append, h.labels old hold, htenant, hid]
  refine ⟨?_, ?_⟩
  · intro row hrow
    rcases halerts with halerts | ⟨new, hid, hlabel, halerts⟩
    · rw [halerts] at hrow
      exact hlabels row hrow
    · rw [halerts] at hrow
      rcases List.mem_append.mp hrow with hrow | hrow
      · exact hlabels row hrow
      · rw [List.mem_singleton.mp hrow, hlabel]
        symm
        apply labelAfter_of_unnamed
        intro alertId label owner hw heq
        have hknown : exists old, old ∈ p.app.world.db.alerts ∧ old.id = alertId := by
          rcases List.mem_append.mp hw with hw | hw
          · exact h.alerts alertId label owner hw
          · exact exists_of_acknowledged hw
        rcases hknown with ⟨old, hold, holdId⟩
        exact hfresh new.id hid old hold (holdId.trans heq)
  · intro alertId label owner hw
    have hknown : exists old, old ∈ p.app.world.db.alerts ∧ old.id = alertId := by
      rcases List.mem_append.mp hw with hw | hw
      · exact h.alerts alertId label owner hw
      · exact exists_of_acknowledged hw
    rcases hknown with ⟨old, hold, holdId⟩
    rcases @exists_alerts_step lib settings collation p e he old hold with ⟨row, hrow, hid⟩
    exact ⟨row, hrow, hid.trans holdId⟩

theorem acknowledgedIn_cons (host : Host) (settings : Settings)
    (out : Event × Option (Except Raised Payload))
    (rest : List (Event × Option (Except Raised Payload))) :
    acknowledgedIn host settings (out :: rest) =
      acknowledged host settings out ++ acknowledgedIn host settings rest :=
  List.flatMap_cons

theorem metrics_run {events : List Event} (h : forall e, e ∈ events -> e.settled = true) :
    forall p : Platform,
      (finalState (Platform.step lib settings collation) p events).app.world.db.metrics =
        p.app.world.db.metrics ++ insertedRows (acknowledgedIn lib.host settings
          (outputs (Platform.step lib settings collation) p events)) := by
  induction events with
  | nil =>
      intro p
      exact (List.append_nil _).symm
  | cons e rest ih =>
      intro p
      have he := h e List.mem_cons_self
      have hrest := ih fun e' he' => h e' (List.mem_cons_of_mem e he')
      rcases @tables_step lib settings collation p e he _ rfl with ⟨hmetrics, _⟩
      rw [finalState_cons, outputs_cons, acknowledgedIn_cons, insertedRows_append, hrest,
        hmetrics, metrics_foldl, List.append_assoc]

theorem Agrees.run {events : List Event} (hsettled : forall e, e ∈ events -> e.settled = true) :
    forall {p : Platform} {writes : List Write}, Agrees p writes ->
      (events.filterMap Event.alertId).Nodup ->
      (forall row, row ∈ p.app.world.db.alerts ->
        row.id ∉ events.filterMap Event.alertId) ->
      Agrees (finalState (Platform.step lib settings collation) p events)
        (writes ++ acknowledgedIn lib.host settings
          (outputs (Platform.step lib settings collation) p events)) := by
  induction events with
  | nil =>
      intro p writes h _ _
      rw [show acknowledgedIn lib.host settings (outputs _ p []) = [] from rfl,
        List.append_nil]
      exact h
  | cons e rest ih =>
      intro p writes h hnodup hids
      have hfresh : forall alertId, e.alertId = some alertId ->
          forall row, row ∈ p.app.world.db.alerts -> row.id ≠ alertId := by
        intro alertId halertId row hrow heq
        apply hids row hrow
        rw [List.filterMap_cons, halertId, heq]
        exact List.mem_cons_self
      have hrest : (rest.filterMap Event.alertId).Nodup := by
        rw [List.filterMap_cons] at hnodup
        cases halertId : e.alertId with
        | none =>
            rw [halertId] at hnodup
            exact hnodup
        | some alertId =>
            rw [halertId] at hnodup
            exact (List.nodup_cons.mp hnodup).2
      have he := hsettled e List.mem_cons_self
      rw [outputs_cons, acknowledgedIn_cons, ← List.append_assoc, finalState_cons]
      apply ih (fun e' he' => hsettled e' (List.mem_cons_of_mem e he')) (h.step he hfresh) hrest
      intro row hrow
      rcases id_of_mem_alerts_step he hrow with ⟨old, hold, hid⟩ | halertId
      · intro hmem
        apply hids old hold
        rw [hid]
        exact ((List.sublist_cons_self e rest).filterMap _).subset hmem
      · rw [List.filterMap_cons, halertId] at hnodup
        exact (List.nodup_cons.mp hnodup).1

end Runs

/-!
# What is read back
-/

section Reads

variable {lib : Libraries} {settings : Settings} {collation : Collation}

theorem answer_of_respond {app : App} {call : HttpCall} {endpoint : ReadEndpoint}
    {payload : Payload} (hendpoint : call.endpoint = .read endpoint)
    (h : (app.respond lib settings collation call).1 = .ok payload) :
    exists identity, requireApiKey lib.host settings call.request = .ok identity ∧
      answer lib settings collation call identity app.world.db endpoint = .ok payload := by
  rcases App.handle_of_respond h with ⟨identity, scope, hcaller, hhandle⟩
  refine ⟨identity, hcaller, ?_⟩
  unfold handle at hhandle
  rw [hendpoint] at hhandle
  dsimp only at hhandle
  unfold readSession at hhandle
  split at hhandle
  · cases hhandle
  · injection hhandle with hanswer _

/-- What `read_series` answers when `metrics` has these rows. -/
def seriesOf (host : Host) (rows : List MetricRow) (name : String)
    (start stop : Option Instant) (resolution : Resolution) (limit : Nat)
    (tenant : String) : SeriesResponse :=
  let points := fetchMetricSeries host { metrics := rows } name start stop resolution limit
    tenant
  { metricName := name, resolution := resolution, count := pointCount points,
    points := points }

/--
A series that a caller reads is that of the points that have been acknowledged up
to then: each ingest that was answered with success, once, and nothing of the
others, whatever failed, as long as no commit fails after its response.
-/
theorem series_read_back (lib : Libraries) (settings : Settings) (collation : Collation)
    (events : List Event) (hsettled : forall e, e ∈ events -> e.settled = true)
    (call : HttpCall) {name : String} {start stop : Option Instant}
    {resolution : Resolution} {limit : Nat} {mem : 1 ≤ limit ∧ limit ≤ 50000}
    (hendpoint : call.endpoint = .read (.readSeries name start stop resolution limit mem))
    {payload : Payload}
    (h : ((finalState (step lib settings collation) {} events).app.respond lib settings
      collation call).1 = .ok payload) :
    exists identity, requireApiKey lib.host settings call.request = .ok identity ∧
      payload = .series (seriesOf lib.host
        (insertedRows (acknowledgedIn lib.host settings
          (outputs (step lib settings collation) {} events)))
        name start stop resolution limit identity.tenant) := by
  rcases answer_of_respond hendpoint h with ⟨identity, hcaller, hanswer⟩
  have hmetrics := @metrics_run lib settings collation events hsettled {}
  rw [List.nil_append] at hmetrics
  refine ⟨identity, hcaller, ?_⟩
  injection hanswer with hanswer
  rw [← hanswer, ← hmetrics]
  rfl

def readCpu : HttpCall :=
  asAcme (.read (.readSeries "cpu_usage" none none .raw 100 (by decide)))

theorem series_read_back_platformRun :
    exists payload,
      ((finalState (step punctual keyedSettings fun _ _ => true) {}
          platformRun).app.respond punctual keyedSettings (fun _ _ => true)
          readCpu).1 = .ok payload ∧
        exists identity,
          requireApiKey punctual.host keyedSettings readCpu.request = .ok identity ∧
            payload = .series (seriesOf punctual.host
              (insertedRows (acknowledgedIn punctual.host keyedSettings
                (outputs (step punctual keyedSettings fun _ _ => true) {} platformRun)))
              "cpu_usage" none none .raw 100 identity.tenant) := by
  have hok : (((finalState (step punctual keyedSettings fun _ _ => true) {}
      platformRun).app.respond punctual keyedSettings (fun _ _ => true)
      readCpu).1).isOk = true := by
    decide +kernel
  cases hresult : ((finalState (step punctual keyedSettings fun _ _ => true) {}
      platformRun).app.respond punctual keyedSettings (fun _ _ => true) readCpu).1 with
  | error e =>
      rw [hresult] at hok
      cases hok
  | ok payload =>
      exact ⟨payload, rfl,
        series_read_back punctual keyedSettings _ platformRun (by decide) readCpu rfl hresult⟩

/--
An alert that a caller is shown has the label of the last feedback on it that a
caller of the same tenant has been answered with success, and none if nobody has,
as long as the database gives every alert an id of its own and no commit fails
after its response.
-/
theorem shown_labels_current (lib : Libraries) (settings : Settings)
    (collation : Collation) (events : List Event)
    (hsettled : forall e, e ∈ events -> e.settled = true)
    (hids : (events.filterMap Event.alertId).Nodup) (call : HttpCall) :
    forall item, item ∈ shown ((finalState (step lib settings collation) {}
        events).app.respond lib settings collation call).1 ->
      exists identity, requireApiKey lib.host settings call.request = .ok identity ∧
        item.label = labelAfter (acknowledgedIn lib.host settings
          (outputs (step lib settings collation) {} events)) identity.tenant item.id
            "unlabeled" := by
  intro item hitem
  have hstart : Agrees {} [] := by
    refine ⟨?_, ?_⟩
    · intro row hrow
      cases hrow
    · intro alertId label owner hw
      cases hw
  have hnone : forall row : AlertRow,
      row ∈ (({} : Platform).app.world.db.alerts) ->
        row.id ∉ events.filterMap Event.alertId := by
    intro row hrow
    cases hrow
  have hagrees := @Agrees.run lib settings collation events hsettled {} [] hstart hids hnone
  rcases row_of_shown_respond hitem with ⟨identity, row, hcaller, hrow, htenant, heq⟩
  refine ⟨identity, hcaller, ?_⟩
  rw [heq, ← htenant]
  exact hagrees.labels row hrow

end Reads

def labelledRun : List Event :=
  platformRun ++
    [.call (asAcme (.submitFeedback 1 .falsePositive)),
      .call (asAcme (.submitFeedback 1 .truePositive))]

theorem shown_labels_current_labelledRun :
    (shown ((finalState (step punctual keyedSettings fun _ _ => true) {}
        labelledRun).app.respond punctual keyedSettings (fun _ _ => true)
        readAlerts).1).map AlertItem.label = ["true_positive"] ∧
      forall item, item ∈ shown ((finalState (step punctual keyedSettings fun _ _ => true)
          {} labelledRun).app.respond punctual keyedSettings (fun _ _ => true)
          readAlerts).1 ->
        exists identity,
          requireApiKey punctual.host keyedSettings readAlerts.request = .ok identity ∧
            item.label = labelAfter (acknowledgedIn punctual.host keyedSettings
              (outputs (step punctual keyedSettings fun _ _ => true) {} labelledRun))
              identity.tenant item.id "unlabeled" :=
  ⟨by decide +kernel,
    shown_labels_current punctual keyedSettings _ labelledRun (by decide) (by decide)
      readAlerts⟩

end Platform

end Workers
end MetricMesh
