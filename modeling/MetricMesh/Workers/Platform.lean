import MetricMesh.Api.Tenancy
import MetricMesh.Ingestion.ScraperLoop
import MetricMesh.Workers.ModelAges
import MetricMesh.Workers.Provenance

/-!
# The platform

The service, the scraper and the workers around one store.  Callers send
requests, the scraper flushes its buffer, and the workers do what they do in an
installation, in any order.  Seen from the store a run of the platform is a run
of an installation in which nobody inserts alerts or models by hand.
-/

namespace MetricMesh
namespace Workers

open Foundation
open Python
open Alerting
open Detection
open Storage
open Ingestion
open Api

structure Platform where
  app : App := {}
  dedup : Alerting.Redis := ClaimStore.empty
  chords : Nat -> Chord := fun _ => []
  queue : List Anomaly := []

namespace Platform

inductive Event where
  | call (c : HttpCall)
  /-- The scraper flushes its buffer, under the tenant of `bulk_insert`. -/
  | flush (buffer : List PointDict)
  | beat (id : Nat) (now : Instant)
  | execute (id : Nat) (task : Signature) (now : Instant)
  | callback (id : Nat) (now : Rat) (failure : Failure)
  | route (anomaly : Anomaly) (now : Instant) (alertId : Int) (handling : Handling)

def installation (p : Platform) : Installation where
  db := p.app.world.db
  redis := p.dedup
  chords := p.chords
  queue := p.queue

def withInstallation (p : Platform) (s : Installation) : Platform where
  app := { p.app with world := { p.app.world with db := s.db } }
  dedup := s.redis
  chords := s.chords
  queue := s.queue

def Event.inside : Event -> Option Installation.Event
  | .call _ => none
  | .flush buffer =>
      some (.request ⟨0, .bulkInsert (buffer.map PointDict.stored) "default"⟩)
  | .beat id now => some (.beat id now)
  | .execute id task now => some (.execute id task now)
  | .callback id now failure => some (.callback id now failure)
  | .route anomaly now alertId handling => some (.route anomaly now alertId handling)

section Steps

variable (lib : Libraries) (settings : Settings) (collation : Collation)

def step (p : Platform) (e : Event) : Option (Except Raised Payload) × Platform :=
  match e with
  | .call c =>
      (some (p.app.respond lib settings collation c).1,
        { p with app := (p.app.respond lib settings collation c).2 })
  | e =>
      match e.inside with
      | none => (none, p)
      | some inner =>
          (none, p.withInstallation
            (Installation.step lib settings collation p.installation inner).2)

end Steps

/-!
# Platforms and installations
-/

section Refinement

variable {lib : Libraries} {settings : Settings} {collation : Collation}

/-- Nobody inserts an alert or a model by hand. -/
def ByWorkers (e : Installation.Event) : Prop :=
  e.insertsAlert = false ∧ e.storesModel = false

theorem byWorkers_requestsOf {call : HttpCall} {tenant : String} {r : Storage.Request}
    (h : r ∈ requestsOf call tenant) : ByWorkers (.request r) := by
  unfold requestsOf at h
  cases hendpoint : call.endpoint with
  | ingestBatch batch =>
      rw [hendpoint] at h
      rw [List.mem_singleton.mp h]
      exact ⟨rfl, rfl⟩
  | ingestSingle point =>
      rw [hendpoint] at h
      rw [List.mem_singleton.mp h]
      exact ⟨rfl, rfl⟩
  | submitFeedback alertId label =>
      rw [hendpoint] at h
      rw [List.mem_singleton.mp h]
      exact ⟨rfl, rfl⟩
  | read endpoint =>
      rw [hendpoint] at h
      cases h

theorem exists_requests {call : HttpCall} {tenant : String} {writes : List Write}
    (h : forall w, w ∈ writes -> IssuedBy lib settings collation call tenant w) :
    exists requests : List Storage.Request,
      (forall r, r ∈ requests -> r ∈ requestsOf call tenant) ∧
        forall s : Installation,
          { s with db := writes.foldl Write.apply s.db } =
            finalState (Installation.step lib settings collation) s
              (requests.map Installation.Event.request) := by
  induction writes with
  | nil =>
      refine ⟨[], ?_, fun _ => rfl⟩
      intro r hr
      cases hr
  | cons w rest ih =>
      rcases h w List.mem_cons_self with ⟨r, hr, happly⟩
      rcases ih (fun w' hw' => h w' (List.mem_cons_of_mem w hw')) with
        ⟨requests, hrequests, hrun⟩
      refine ⟨r :: requests, ?_, ?_⟩
      · intro r' hr'
        rcases List.mem_cons.mp hr' with heq | hr'
        · rw [heq]
          exact hr
        · exact hrequests r' hr'
      · intro s
        have hrest := hrun { s with db := w.apply s.db }
        rw [List.foldl_cons, List.map_cons, finalState_cons]
        rw [happly] at hrest ⊢
        exact hrest

theorem exists_requests_of_respond (app : App) (call : HttpCall) :
    exists requests : List Storage.Request,
      (forall r, r ∈ requests -> exists identity,
        requireApiKey lib.host settings call.request = .ok identity ∧
          r ∈ requestsOf call identity.tenant) ∧
        forall s : Installation, s.db = app.world.db ->
          { s with db := (app.respond lib settings collation call).2.world.db } =
            finalState (Installation.step lib settings collation) s
              (requests.map Installation.Event.request) := by
  have hnothing : (app.respond lib settings collation call).2.world.db = app.world.db ->
      exists requests : List Storage.Request,
        (forall r, r ∈ requests -> exists identity,
          requireApiKey lib.host settings call.request = .ok identity ∧
            r ∈ requestsOf call identity.tenant) ∧
          forall s : Installation, s.db = app.world.db ->
            { s with db := (app.respond lib settings collation call).2.world.db } =
              finalState (Installation.step lib settings collation) s
                (requests.map Installation.Event.request) := by
    intro hdb
    refine ⟨[], ?_, ?_⟩
    · intro r hr
      cases hr
    · intro s hs
      rw [hdb, ← hs]
      rfl
  cases hcaller : requireApiKey lib.host settings call.request with
  | error refusal =>
      rw [← hcaller]
      apply hnothing
      rw [App.respond_of_refused hcaller]
      rfl
  | ok identity =>
      cases hverdict : (limit settings call app.redis).1 with
      | error refusal =>
          rw [← hcaller]
          apply hnothing
          rw [App.db_respond hcaller, hverdict]
      | ok _ =>
          have hwrites : forall w,
              w ∈ (session lib settings collation call identity app.world.db).2.2 ->
                IssuedBy lib settings collation call identity.tenant w :=
            fun w hw => issuedBy_session lib settings collation call identity _ hw
          rcases exists_requests hwrites with ⟨requests, hrequests, hrun⟩
          refine ⟨requests, ?_, ?_⟩
          · intro r hr
            exact ⟨identity, rfl, hrequests r hr⟩
          · intro s hs
            rw [App.db_respond hcaller, hverdict, ← hrun s, ← hs]

def Event.Causes (e : Event) (inner : Installation.Event) : Prop :=
  (exists r, inner = .request r) ∨ e.inside = some inner

theorem exists_events_of_step (p : Platform) (e : Event) :
    exists events : List Installation.Event,
      (forall inner, inner ∈ events -> ByWorkers inner ∧ e.Causes inner) ∧
        (p.step lib settings collation e).2.installation =
          finalState (Installation.step lib settings collation) p.installation events := by
  have hinside : forall inner,
      (p.step lib settings collation e).2 = p.withInstallation
        (Installation.step lib settings collation p.installation inner).2 ->
      e.inside = some inner -> ByWorkers inner ->
      exists events : List Installation.Event,
        (forall inner, inner ∈ events -> ByWorkers inner ∧ e.Causes inner) ∧
          (p.step lib settings collation e).2.installation =
            finalState (Installation.step lib settings collation) p.installation events := by
    intro inner hstep hinner hbyWorkers
    refine ⟨[inner], ?_, ?_⟩
    · intro other hother
      rw [List.mem_singleton.mp hother]
      exact ⟨hbyWorkers, Or.inr hinner⟩
    · rw [hstep]
      rfl
  cases e with
  | call c =>
      rcases @exists_requests_of_respond lib settings collation p.app c with
        ⟨requests, hrequests, hrun⟩
      refine ⟨requests.map Installation.Event.request, ?_, ?_⟩
      · intro inner hinner
        rcases List.mem_map.mp hinner with ⟨r, hr, heq⟩
        rcases hrequests r hr with ⟨_, _, hmem⟩
        rw [← heq]
        exact ⟨byWorkers_requestsOf hmem, Or.inl ⟨r, rfl⟩⟩
      · exact hrun p.installation rfl
  | flush buffer => exact hinside _ rfl rfl ⟨rfl, rfl⟩
  | beat id now => exact hinside _ rfl rfl ⟨rfl, rfl⟩
  | execute id task now => exact hinside _ rfl rfl ⟨rfl, rfl⟩
  | callback id now failure => exact hinside _ rfl rfl ⟨rfl, rfl⟩
  | route anomaly now alertId handling => exact hinside _ rfl rfl ⟨rfl, rfl⟩

/-- A run of the platform is a run of an installation, seen from the workers. -/
theorem exists_events_of_run (events : List Event) :
    forall p : Platform, exists inner : List Installation.Event,
      (forall i, i ∈ inner -> ByWorkers i ∧ exists e, e ∈ events ∧ e.Causes i) ∧
        (finalState (step lib settings collation) p events).installation =
          finalState (Installation.step lib settings collation) p.installation inner := by
  induction events with
  | nil =>
      intro p
      refine ⟨[], ?_, rfl⟩
      intro e he
      cases he
  | cons e rest ih =>
      intro p
      rcases @exists_events_of_step lib settings collation p e with ⟨first, hfirst, hstep⟩
      rcases ih (p.step lib settings collation e).2 with ⟨later, hlater, hrun⟩
      refine ⟨first ++ later, ?_, ?_⟩
      · intro i hi
        rcases List.mem_append.mp hi with hi | hi
        · rcases hfirst i hi with ⟨hbyWorkers, hcauses⟩
          exact ⟨hbyWorkers, e, List.mem_cons_self, hcauses⟩
        · rcases hlater i hi with ⟨hbyWorkers, cause, hcause, hcauses⟩
          exact ⟨hbyWorkers, cause, List.mem_cons_of_mem e hcause, hcauses⟩
      · rw [finalState_cons, hrun, hstep, finalState_append]

end Refinement

/-!
# What the workers leave alone
-/

section Frames

variable (lib : Libraries) (settings : Settings)

theorem execute_frame (s : Installation) (id : Nat) (task : Signature) (now : Instant) :
    (s.execute lib settings id task now).db.metrics = s.db.metrics ∧
      (s.execute lib settings id task now).db.alerts = s.db.alerts := by
  unfold Installation.execute
  split
  · exact execTask_frame now s.db task
  · exact ⟨rfl, rfl⟩

theorem callback_frame (s : Installation) (id : Nat) (now : Rat) (failure : Failure) :
    (s.callback lib settings id now failure).db = s.db := by
  unfold Installation.callback
  split <;> rfl

theorem route_frame (s : Installation) (anomaly : Anomaly) (now : Instant)
    (alertId : Int) (handling : Handling) :
    (s.route lib anomaly now alertId handling).db.metrics = s.db.metrics ∧
      ((s.route lib anomaly now alertId handling).db.alerts = s.db.alerts ∨
        exists row : AlertRow, row.id = alertId ∧ row.label = "unlabeled" ∧
          (s.route lib anomaly now alertId handling).db.alerts = s.db.alerts ++ [row]) := by
  unfold Installation.route
  split
  · rcases handling with ⟨accepted, workerLost⟩
    cases accepted with
    | none =>
        exact ⟨rfl, Or.inl rfl⟩
    | some sinks =>
        unfold storeAlert persistAlert
        dsimp only
        split
        · exact ⟨rfl, Or.inl rfl⟩
        · exact ⟨rfl, Or.inr ⟨_, rfl, rfl, rfl⟩⟩
  · exact ⟨rfl, Or.inl rfl⟩

end Frames

/-!
# Where points come from
-/

def pointsOf (call : HttpCall) : List Point :=
  match call.endpoint with
  | .ingestBatch batch => batch.points.map MetricPoint.point
  | .ingestSingle point => [point.point]
  | _ => []

def IsPointOf (points : List Point) (tenant : String) (row : MetricRow) : Prop :=
  row.tenant = tenant ∧ exists p, p ∈ points ∧ p.metricName = row.metricName ∧
    p.value = row.value ∧ toTimestamp p.timestamp = some row.time

/-- An event sends a row: a caller of the tenant does, or the scraper. -/
def Event.Sends (host : Host) (settings : Settings) (e : Event) (row : MetricRow) : Prop :=
  match e with
  | .call c => exists identity, requireApiKey host settings c.request = .ok identity ∧
      IsPointOf (pointsOf c) identity.tenant row
  | .flush buffer => IsPointOf (buffer.map PointDict.stored) "default" row
  | _ => False

section Points

variable {lib : Libraries} {settings : Settings} {collation : Collation}

theorem isPointOf_metricRows {tenant : String} {points : List Point}
    {rows : List MetricRow} (h : Storage.metricRows tenant points = some rows)
    {row : MetricRow} (hrow : row ∈ rows) : IsPointOf points tenant row := by
  induction points generalizing rows with
  | nil =>
      injection h with h
      rw [← h] at hrow
      cases hrow
  | cons p rest ih =>
      rcases metricRows_cons h with ⟨time, others, htime, hothers, hrows⟩
      rw [hrows] at hrow
      rcases List.mem_cons.mp hrow with heq | hrow
      · rw [heq]
        exact ⟨rfl, p, List.mem_cons_self, rfl, rfl, htime⟩
      · rcases ih hothers hrow with ⟨htenant, q, hq, hpoint⟩
        exact ⟨htenant, q, List.mem_cons_of_mem p hq, hpoint⟩

theorem mem_metrics_bulkInsert {db : Database} {points : List Point} {tenant : String}
    {row : MetricRow} (h : row ∈ (bulkInsert db points tenant).2.metrics) :
    row ∈ db.metrics ∨ IsPointOf points tenant row := by
  unfold bulkInsert at h
  cases hrows : Storage.metricRows tenant points with
  | none =>
      rw [hrows] at h
      exact Or.inl h
  | some rows =>
      rw [hrows] at h
      rcases List.mem_append.mp h with h | h
      · exact Or.inl h
      · exact Or.inr (isPointOf_metricRows hrows h)

theorem mem_metrics_requestsOf {db : Database} {call : HttpCall} {tenant : String}
    {r : Storage.Request} (hr : r ∈ requestsOf call tenant) {row : MetricRow}
    (h : row ∈ (exec lib.host settings collation db r).2.metrics) :
    row ∈ db.metrics ∨ IsPointOf (pointsOf call) tenant row := by
  unfold requestsOf at hr
  unfold pointsOf
  cases hendpoint : call.endpoint with
  | ingestBatch batch =>
      rw [hendpoint] at hr
      rw [List.mem_singleton.mp hr] at h
      exact mem_metrics_bulkInsert h
  | ingestSingle point =>
      rw [hendpoint] at hr
      rw [List.mem_singleton.mp hr] at h
      exact mem_metrics_bulkInsert h
  | submitFeedback alertId label =>
      rw [hendpoint] at hr
      rw [List.mem_singleton.mp hr] at h
      exact Or.inl h
  | read endpoint =>
      rw [hendpoint] at hr
      cases hr

theorem mem_metrics_foldl {call : HttpCall} {tenant : String} {writes : List Write}
    (hwrites : forall w, w ∈ writes -> IssuedBy lib settings collation call tenant w)
    {row : MetricRow} :
    forall db : Database, row ∈ (writes.foldl Write.apply db).metrics ->
      row ∈ db.metrics ∨ IsPointOf (pointsOf call) tenant row := by
  induction writes with
  | nil =>
      intro db h
      exact Or.inl h
  | cons w rest ih =>
      intro db h
      rw [List.foldl_cons] at h
      rcases ih (fun w' hw' => hwrites w' (List.mem_cons_of_mem w hw')) _ h with h | h
      · rcases hwrites w List.mem_cons_self with ⟨r, hr, happly⟩
        rw [happly] at h
        exact mem_metrics_requestsOf hr h
      · exact Or.inr h

theorem mem_metrics_step {p : Platform} {e : Event} {row : MetricRow}
    (h : row ∈ (p.step lib settings collation e).2.app.world.db.metrics) :
    row ∈ p.app.world.db.metrics ∨ e.Sends lib.host settings row := by
  cases e with
  | call c =>
      have h : row ∈ (p.app.respond lib settings collation c).2.world.db.metrics := h
      cases hcaller : requireApiKey lib.host settings c.request with
      | error refusal =>
          rw [App.respond_of_refused hcaller] at h
          exact Or.inl h
      | ok identity =>
          rw [App.db_respond hcaller] at h
          cases hverdict : (limit settings c p.app.redis).1 with
          | error refusal =>
              rw [hverdict] at h
              exact Or.inl h
          | ok _ =>
              rw [hverdict] at h
              have hissued := fun w hw =>
                @issuedBy_session lib settings collation c identity p.app.world.db w hw
              rcases mem_metrics_foldl hissued _ h with h | h
              · exact Or.inl h
              · exact Or.inr ⟨identity, hcaller, h⟩
  | flush buffer =>
      exact mem_metrics_bulkInsert h
  | beat id now =>
      exact Or.inl h
  | execute id task now =>
      have hframe := (execute_frame lib settings p.installation id task now).1
      exact Or.inl (hframe ▸ h)
  | callback id now failure =>
      have h : row ∈ (p.installation.callback lib settings id now failure).db.metrics := h
      rw [callback_frame] at h
      exact Or.inl h
  | route anomaly now alertId handling =>
      have hframe := (route_frame lib p.installation anomaly now alertId handling).1
      exact Or.inl (hframe ▸ h)

theorem sent_of_mem_metrics (events : List Event) {row : MetricRow}
    (h : row ∈ (finalState (step lib settings collation) {} events).app.world.db.metrics) :
    exists e, e ∈ events ∧ e.Sends lib.host settings row := by
  have hsent : forall row,
      row ∈ (finalState (step lib settings collation) {} events).app.world.db.metrics ->
        exists e, e ∈ events ∧ e.Sends lib.host settings row := by
    apply @finalState_invariant _ _ _ (step lib settings collation)
      (fun p : Platform => forall row, row ∈ p.app.world.db.metrics ->
        exists e, e ∈ events ∧ e.Sends lib.host settings row)
      (fun e => e ∈ events) _ events (fun _ he => he)
    · intro row hrow
      cases hrow
    · intro p e he hinv row hrow
      rcases mem_metrics_step hrow with hrow | hsends
      · exact hinv row hrow
      · exact ⟨e, he, hsends⟩
  exact hsent row h

end Points

/-!
# What callers are shown
-/

def shownAlerts : Payload -> List AlertItem
  | .alerts page => page.items
  | .detail detail => [detail.toAlertItem]
  | _ => []

def shown : Except Raised Payload -> List AlertItem
  | .ok payload => shownAlerts payload
  | .error _ => []

/-- The alert is about points of a tenant in one minute, which events have sent. -/
def Quotes (host : Host) (settings : Settings) (events : List Event) (tenant : String)
    (item : AlertItem) : Prop :=
  exists (ts : Instant) (rows : List MetricRow), rows ≠ [] ∧
    (forall row, row ∈ rows -> row.tenant = tenant ∧ row.metricName = item.metricName ∧
      timeBucket minute row.time = ts ∧
      exists e, e ∈ events ∧ e.Sends host settings row) ∧
    item.value = avg (rows.map MetricRow.value)

section Responses

variable {lib : Libraries} {settings : Settings} {collation : Collation}

theorem row_of_shownAlerts {call : HttpCall} {identity : Identity} {db : Database}
    {endpoint : ReadEndpoint} {payload : Payload}
    (h : answer lib settings collation call identity db endpoint = .ok payload)
    {item : AlertItem} (hitem : item ∈ shownAlerts payload) :
    exists row, row ∈ db.alerts ∧ row.tenant = identity.tenant ∧
      item = row.item lib.host := by
  cases endpoint with
  | readSeries name start stop resolution limit mem =>
      injection h with h
      rw [← h] at hitem
      cases hitem
  | listAlerts query =>
      injection h with h
      rw [← h] at hitem
      rcases List.mem_map.mp hitem with ⟨row, hrow, heq⟩
      have hrow := mem_of_mem_page hrow
      rcases List.mem_filter.mp hrow with ⟨hmem, hcond⟩
      rw [Bool.and_eq_true, decide_eq_true_eq] at hcond
      exact ⟨row, hmem, hcond.1, heq.symm⟩
  | feedbackStats =>
      injection h with h
      rw [← h] at hitem
      cases hitem
  | detectNow req =>
      unfold answer at h
      dsimp only at h
      split at h
      · cases h
      · injection h with h
        rw [← h] at hitem
        cases hitem
  | listMetrics lookbackHours mem =>
      injection h with h
      rw [← h] at hitem
      cases hitem
  | detectorReport metric bucketMinutes mem =>
      unfold answer at h
      dsimp only at h
      split at h
      · cases h
      · injection h with h
        rw [← h] at hitem
        cases hitem
  | alertDetail alertId windowMinutes mem resolution =>
      unfold answer at h
      dsimp only at h
      split at h
      · cases h
      · cases h
      · rename_i detail hdetail
        injection h with h
        rw [← h] at hitem
        rcases row_of_alertDetail hdetail with ⟨row, hmem, htenant, heq⟩
        exact ⟨row, hmem, htenant, (List.mem_singleton.mp hitem).trans heq⟩

theorem row_of_shown_handle {call : HttpCall} {identity : Identity} {db : Database}
    {payload : Payload} {scope : Scope}
    (h : handle lib settings collation call identity { db := db } = (.ok payload, scope))
    {item : AlertItem} (hitem : item ∈ shownAlerts payload) :
    exists row, row ∈ db.alerts ∧ row.tenant = identity.tenant ∧
      item = row.item lib.host := by
  unfold handle at h
  cases hendpoint : call.endpoint with
  | ingestBatch batch =>
      rw [hendpoint] at h
      injection h with h _
      cases hout : (Ingestion.ingestBatch call.faults identity batch { db := db }).1 <;>
        rw [hout] at h <;> cases h
      cases hitem
  | ingestSingle point =>
      rw [hendpoint] at h
      injection h with h _
      cases hout : (Ingestion.ingestSingle call.faults identity point { db := db }).1 <;>
        rw [hout] at h <;> cases h
      cases hitem
  | submitFeedback alertId label =>
      rw [hendpoint] at h
      injection h with h _
      cases hout : (Api.submitFeedback settings call.faults call.auditId call.now alertId
        label call.request.clientHost identity { db := db }).1 <;>
        rw [hout] at h <;> cases h
      cases hitem
  | read endpoint =>
      rw [hendpoint] at h
      dsimp only at h
      unfold readSession at h
      split at h
      · cases h
      · injection h with h _
        exact row_of_shownAlerts h hitem

theorem row_of_shown_respond {app : App} {call : HttpCall} {item : AlertItem}
    (h : item ∈ shown (app.respond lib settings collation call).1) :
    exists identity row, requireApiKey lib.host settings call.request = .ok identity ∧
      row ∈ app.world.db.alerts ∧ row.tenant = identity.tenant ∧
        item = row.item lib.host := by
  cases hresult : (app.respond lib settings collation call).1 with
  | error e =>
      rw [hresult] at h
      cases h
  | ok payload =>
      rw [hresult] at h
      rcases App.handle_of_respond hresult with ⟨identity, scope, hcaller, hhandle⟩
      rcases row_of_shown_handle hhandle h with ⟨row, hrow⟩
      exact ⟨identity, row, hcaller, hrow⟩

end Responses

theorem fields_of_alertParams {host : Host} {a : Anomaly} {sinks : List String}
    {params : AlertParams} {v : PyFloat} (hvalue : a.value = some (.float v))
    (h : alertParams host a sinks = .ok params) :
    params.tenant = a.tenantName ∧ params.metricName = a.metric ∧ params.value = v := by
  unfold alertParams at h
  rw [hvalue] at h
  split at h
  · cases h
  · injection h with h
    rw [← h]
    exact ⟨rfl, rfl, rfl⟩

theorem quotes_of_grounded {host : Host} {settings : Settings} {events : List Event}
    {metrics : List MetricRow} {a : Anomaly} {sinks : List String} {row : AlertRow}
    (hsent : forall r, r ∈ metrics -> exists e, e ∈ events ∧ e.Sends host settings r)
    (hgrounded : Grounded host metrics a)
    (hparams : alertParams host a sinks = .ok row.toAlertParams) :
    Quotes host settings events row.tenant (row.item host) := by
  rcases hgrounded with ⟨ts, rows, hne, hrows, hnames, _, hvalue⟩
  rcases fields_of_alertParams hvalue hparams with ⟨htenant, hmetric, hstored⟩
  refine ⟨ts, rows, hne, ?_, hstored⟩
  intro r hr
  rcases hnames r hr with ⟨htenant', hmetric', hbucket⟩
  refine ⟨htenant'.trans htenant.symm, hmetric'.trans hmetric.symm, hbucket, ?_⟩
  exact hsent r (hrows.subset hr)

/--
In every run of the platform each alert that a caller is shown quotes points of
one minute that callers of the same tenant, or the scraper if it is the default
tenant, have sent under the metric of the alert, and its value is their average.
-/
theorem shown_alerts_quote (lib : Libraries) (settings : Settings)
    (collation : Collation) (events : List Event) (call : HttpCall) :
    forall item, item ∈ shown ((finalState (step lib settings collation) {}
        events).app.respond lib settings collation call).1 ->
      exists identity, requireApiKey lib.host settings call.request = .ok identity ∧
        Quotes lib.host settings events identity.tenant item := by
  intro item hitem
  rcases row_of_shown_respond hitem with ⟨identity, row, hcaller, hrow, htenant, heq⟩
  rcases @exists_events_of_run lib settings collation events {} with
    ⟨inner, hinner, hrun⟩
  have hdb : (finalState (step lib settings collation) {} events).app.world.db =
      (finalState (Installation.step lib settings collation) {} inner).db :=
    congrArg Installation.db hrun
  rcases Installation.alerts_grounded lib settings collation {} (fun _ => rfl) rfl rfl
      inner (fun i hi => (hinner i hi).1.1) row (hdb ▸ hrow) with
    ⟨a, sinks, hgrounded, hparams⟩
  refine ⟨identity, hcaller, ?_⟩
  rw [heq, ← htenant]
  refine quotes_of_grounded ?_ hgrounded hparams
  intro r hr
  rw [← hdb] at hr
  exact sent_of_mem_metrics events hr

/-!
A run in which a tenant posts two points, a sweep covers them, and the alert that
comes of it is read back.
-/

def keyedSettings : Settings :=
  { Installation.touchySettings with tenantApiKeys := "\x7b\"k1\": \"acme\"\x7d" }

def asAcme (endpoint : Endpoint) : HttpCall where
  request :=
    { method := "GET", path := "/api/v1", clientHost := none, xApiKey := some "k1" }
  endpoint := endpoint
  now := 1700000000000000

def cpuPointAt (seconds : Rat) : MetricPoint :=
  { Api.cpuPoint with timestamp := .finite seconds }

def platformRun : List Event :=
  [.call (asAcme (.ingestSingle (cpuPointAt 1699999940))),
    .call (asAcme (.ingestSingle (cpuPointAt 1700000000))), .beat 0 1700000000000000] ++
  (signaturesOf ("acme", "cpu_usage")).map
    (fun task => .execute 0 task 1700000000000000) ++
  [.callback 0 1700000060 .never,
    .route Installation.acmeAnomaly 1700000061000000 1 { accepted := some ["log"] }]

def readAlerts : HttpCall :=
  asAcme (.read (.listAlerts { minScore_mem := by simp }))

theorem shown_alerts_quote_platformRun :
    (shown ((finalState (step punctual keyedSettings fun _ _ => true) {}
        platformRun).app.respond punctual keyedSettings (fun _ _ => true)
        readAlerts).1).length = 1 ∧
      forall item, item ∈ shown ((finalState (step punctual keyedSettings fun _ _ => true)
          {} platformRun).app.respond punctual keyedSettings (fun _ _ => true)
          readAlerts).1 ->
        exists identity,
          requireApiKey punctual.host keyedSettings readAlerts.request = .ok identity ∧
            Quotes punctual.host keyedSettings platformRun identity.tenant item :=
  ⟨by decide +kernel, shown_alerts_quote punctual keyedSettings _ platformRun readAlerts⟩

end Platform

end Workers
end MetricMesh
