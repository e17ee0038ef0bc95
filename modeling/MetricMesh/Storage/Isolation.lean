import MetricMesh.Foundation.Runs
import MetricMesh.Storage.Operations

/-!
# Tenant isolation of the store

What a tenant can observe is its own part of the three tables.  Every read
answers from that part, every write of the tenant changes it as that part
prescribes, and a write of another tenant leaves it alone.  So deleting the
operations of the other tenants changes no answer.
-/

namespace MetricMesh
namespace Storage

open Foundation
open Python
open Alerting
open Detection

/-- The part of the tables that belongs to a tenant. -/
def Database.ownedBy (db : Database) (tenant : String) : Database where
  metrics := db.metrics.filter fun r => r.tenant = tenant
  alerts := db.alerts.filter fun r => r.tenant = tenant
  models := db.models.filter fun r => r.tenant = tenant

/-!
# Reads
-/

section Reads

variable (host : Host) (settings : Settings) (collation : Collation)
variable (db : Database) (now : Instant) (tenant : String)

theorem fetchSeries_ownedBy (metricName : String) (lookbackHours : Option Int) :
    fetchSeries settings (db.ownedBy tenant) now metricName lookbackHours tenant =
      fetchSeries settings db now metricName lookbackHours tenant := by
  unfold fetchSeries Database.ownedBy
  rw [filter_filter_of_imp]
  intro r hr
  simp only [Bool.and_eq_true] at hr
  exact hr.1.2

theorem windowRows_ownedBy (metricName : String) (start stop : Option Instant) :
    windowRows (db.ownedBy tenant) metricName start stop tenant =
      windowRows db metricName start stop tenant := by
  unfold windowRows Database.ownedBy
  rw [filter_filter_of_imp]
  intro r hr
  simp only [Bool.and_eq_true] at hr
  exact hr.1.1.2

theorem fetchMetricSeries_ownedBy (metricName : String) (start stop : Option Instant)
    (resolution : Resolution) (limit : Nat) :
    fetchMetricSeries host (db.ownedBy tenant) metricName start stop resolution limit
        tenant =
      fetchMetricSeries host db metricName start stop resolution limit tenant := by
  unfold fetchMetricSeries
  rw [windowRows_ownedBy]

theorem listActiveMetrics_ownedBy (lookbackHours : Int) :
    listActiveMetrics collation (db.ownedBy tenant) now lookbackHours tenant =
      listActiveMetrics collation db now lookbackHours tenant := by
  unfold listActiveMetrics Database.ownedBy
  rw [filter_filter_of_imp]
  intro r hr
  simp only [Bool.and_eq_true] at hr
  exact hr.2

theorem fetchAlerts_ownedBy (filters : AlertFilters) (limit offset : Nat) :
    fetchAlerts host (db.ownedBy tenant) filters limit offset tenant =
      fetchAlerts host db filters limit offset tenant := by
  unfold fetchAlerts Database.ownedBy
  rw [filter_filter_of_imp]
  intro r hr
  simp only [Bool.and_eq_true] at hr
  exact hr.1

theorem fetchAlertById_ownedBy (alertId : Int) :
    fetchAlertById host (db.ownedBy tenant) alertId tenant =
      fetchAlertById host db alertId tenant := by
  unfold fetchAlertById Database.ownedBy
  rw [filter_filter_of_imp]
  intro r hr
  simp only [Bool.and_eq_true] at hr
  exact hr.2

theorem feedbackStatsByDetector_ownedBy :
    feedbackStatsByDetector collation (db.ownedBy tenant) tenant =
      feedbackStatsByDetector collation db tenant := by
  unfold feedbackStatsByDetector Database.ownedBy
  rw [filter_filter_of_imp]
  intro r hr
  exact hr

theorem detectorReportRows_ownedBy (metricName : Option String) (bucketMinutes : Nat) :
    detectorReportRows collation (db.ownedBy tenant) metricName bucketMinutes tenant =
      detectorReportRows collation db metricName bucketMinutes tenant := by
  unfold detectorReportRows Database.ownedBy
  rw [filter_filter_of_imp]
  intro r hr
  simp only [Bool.and_eq_true] at hr
  exact hr.1

theorem fetchDetectorModel_ownedBy (metricName detectorType : String)
    (maxAgeSeconds : Int) :
    fetchDetectorModel host (db.ownedBy tenant) now metricName detectorType maxAgeSeconds
        tenant =
      fetchDetectorModel host db now metricName detectorType maxAgeSeconds tenant := by
  unfold fetchDetectorModel Database.ownedBy
  rw [filter_filter_of_imp]
  intro r hr
  simp only [Bool.and_eq_true] at hr
  exact hr.1.2

end Reads

/-!
# Writes
-/

theorem filter_metricRows {tenant : String} {points : List Point}
    {rows : List MetricRow} (h : metricRows tenant points = some rows) (a : String) :
    rows.filter (fun r => r.tenant = a) = if tenant = a then rows else [] := by
  by_cases ha : tenant = a
  · rw [if_pos ha, List.filter_eq_self]
    intro r hr
    rw [tenant_of_metricRows h hr]
    exact decide_eq_true ha
  · rw [if_neg ha, List.filter_eq_nil_iff]
    intro r hr
    rw [tenant_of_metricRows h hr]
    simpa using ha

theorem tenant_of_alertParams {host : Host} {anomaly : Anomaly}
    {routedTo : List String} {params : AlertParams}
    (h : alertParams host anomaly routedTo = .ok params) :
    params.tenant = anomaly.tenantName := by
  unfold alertParams at h
  split at h
  · cases h
  · split at h
    · cases h
    · injection h with h
      rw [← h]

theorem ModelRow.tenant_of_key {r s : ModelRow} (h : r.key = s.key) :
    r.tenant = s.tenant := by
  injection h

/-!
How each write changes the part of a tenant: as the write itself would change
that part, when it carries the tenant, and not at all otherwise.
-/

theorem bulkInsert_ownedBy (db : Database) (points : List Point)
    (tenant a : String) :
    (bulkInsert db points tenant).2.ownedBy a =
      if tenant = a then (bulkInsert (db.ownedBy a) points tenant).2
      else db.ownedBy a := by
  unfold bulkInsert
  cases hrows : metricRows tenant points with
  | none =>
      exact (ite_self _).symm
  | some rows =>
      have hfilter := filter_metricRows hrows a
      unfold Database.ownedBy
      dsimp only
      rw [List.filter_append, hfilter]
      split
      · rfl
      · rw [List.append_nil]

theorem persistAlert_ownedBy (host : Host) (db : Database) (now : Instant)
    (alertId : Int) (anomaly : Anomaly) (routedTo : List String) (a : String) :
    (persistAlert host db now alertId anomaly routedTo).2.ownedBy a =
      if anomaly.tenantName = a then
        (persistAlert host (db.ownedBy a) now alertId anomaly routedTo).2
      else db.ownedBy a := by
  unfold persistAlert
  cases hparams : alertParams host anomaly routedTo with
  | error e =>
      exact (ite_self _).symm
  | ok params =>
      have htenant := tenant_of_alertParams hparams
      unfold Database.ownedBy
      dsimp only
      rw [List.filter_append, List.filter_singleton, htenant]
      by_cases ha : anomaly.tenantName = a
      · simp [ha]
      · simp [ha]

theorem setAlertLabel_ownedBy (db : Database) (alertId : Int)
    (label tenant a : String) :
    (setAlertLabel db alertId label tenant).2.ownedBy a =
      if tenant = a then (setAlertLabel (db.ownedBy a) alertId label tenant).2
      else db.ownedBy a := by
  unfold setAlertLabel Database.ownedBy
  dsimp only
  by_cases ha : tenant = a
  · rw [if_pos ha, filter_updateWhere]
    intro r
    rfl
  · rw [if_neg ha, filter_updateWhere_of_other]
    · intro r
      rfl
    · intro r hr
      have htenant : r.tenant = tenant := by
        simpa using (Bool.and_eq_true_iff.mp hr).2
      rw [htenant]
      exact decide_eq_false ha

theorem persistDetectorModel_ownedBy (db : Database) (now : Instant)
    (metricName detectorType : String) (parameters : Json) (tenant a : String) :
    (persistDetectorModel db now metricName detectorType parameters
        tenant).2.ownedBy a =
      if tenant = a then
        (persistDetectorModel (db.ownedBy a) now metricName detectorType parameters
          tenant).2
      else db.ownedBy a := by
  unfold persistDetectorModel
  by_cases hstandard : isStandard parameters = true
  · rw [if_pos hstandard, if_pos hstandard]
    unfold Database.ownedBy
    dsimp only
    rw [filter_upsert]
    · by_cases ha : tenant = a
      · simp [ha]
      · simp [ha]
    · intro r s hkey
      rw [ModelRow.tenant_of_key hkey]
  · rw [if_neg hstandard, if_neg hstandard]
    exact (ite_self _).symm

section Steps

variable (host : Host) (settings : Settings) (collation : Collation)

/-- The answer of a tenant's operation is read off its own part. -/
theorem answer_ownedBy (db : Database) (r : Request) :
    (exec host settings collation (db.ownedBy r.op.tenant) r).1 =
      (exec host settings collation db r).1 := by
  rcases r with ⟨now, op⟩
  cases op with
  | bulkInsert points tenant =>
      show (bulkInsert _ points tenant).1 = (bulkInsert db points tenant).1
      unfold bulkInsert
      cases metricRows tenant points <;> rfl
  | persistAlert alertId anomaly routedTo =>
      show (persistAlert host _ now alertId anomaly routedTo).1 =
        (persistAlert host db now alertId anomaly routedTo).1
      unfold persistAlert
      cases alertParams host anomaly routedTo <;> rfl
  | setAlertLabel alertId label tenant =>
      have hcount : (db.ownedBy tenant).alerts.countP (labelled alertId tenant) =
          db.alerts.countP (labelled alertId tenant) := by
        rw [List.countP_eq_length_filter, List.countP_eq_length_filter]
        apply congrArg List.length
        apply filter_filter_of_imp
        intro r hr
        exact (Bool.and_eq_true_iff.mp hr).2
      exact congrArg (fun n => Answer.updated (decide (0 < n))) hcount
  | persistDetectorModel metricName detectorType parameters tenant =>
      show (persistDetectorModel _ now metricName detectorType parameters tenant).1 =
        (persistDetectorModel db now metricName detectorType parameters tenant).1
      unfold persistDetectorModel
      cases isStandard parameters <;> rfl
  | fetchSeries metricName lookbackHours tenant =>
      exact congrArg Answer.series (fetchSeries_ownedBy settings db now tenant _ _)
  | fetchMetricSeries metricName start stop resolution limit tenant =>
      exact congrArg Answer.points (fetchMetricSeries_ownedBy host db tenant _ _ _ _ _)
  | listActiveMetrics lookbackHours tenant =>
      exact congrArg Answer.names (listActiveMetrics_ownedBy collation db now tenant _)
  | fetchAlerts filters limit offset tenant =>
      exact congrArg (fun page : List AlertItem × Nat => Answer.alerts page.1 page.2)
        (fetchAlerts_ownedBy host db tenant _ _ _)
  | fetchAlertById alertId tenant =>
      exact congrArg Answer.alert (fetchAlertById_ownedBy host db tenant _)
  | feedbackStatsByDetector tenant =>
      exact congrArg Answer.stats (feedbackStatsByDetector_ownedBy collation db tenant)
  | detectorReportRows metricName bucketMinutes tenant =>
      exact congrArg reportAnswer (detectorReportRows_ownedBy collation db tenant _ _)
  | fetchDetectorModel metricName detectorType maxAgeSeconds tenant =>
      exact congrArg modelAnswer (fetchDetectorModel_ownedBy host db now tenant _ _ _)

/-- An operation changes the part of the tenant that it carries, and no other. -/
theorem exec_ownedBy (db : Database) (r : Request) (a : String) :
    (exec host settings collation db r).2.ownedBy a =
      if r.op.tenant = a then (exec host settings collation (db.ownedBy a) r).2
      else db.ownedBy a := by
  rcases r with ⟨now, op⟩
  cases op with
  | bulkInsert points tenant =>
      exact bulkInsert_ownedBy db points tenant a
  | persistAlert alertId anomaly routedTo =>
      exact persistAlert_ownedBy host db now alertId anomaly routedTo a
  | setAlertLabel alertId label tenant =>
      exact setAlertLabel_ownedBy db alertId label tenant a
  | persistDetectorModel metricName detectorType parameters tenant =>
      exact persistDetectorModel_ownedBy db now metricName detectorType parameters
        tenant a
  | fetchSeries metricName lookbackHours tenant =>
      exact (ite_self _).symm
  | fetchMetricSeries metricName start stop resolution limit tenant =>
      exact (ite_self _).symm
  | listActiveMetrics lookbackHours tenant =>
      exact (ite_self _).symm
  | fetchAlerts filters limit offset tenant =>
      exact (ite_self _).symm
  | fetchAlertById alertId tenant =>
      exact (ite_self _).symm
  | feedbackStatsByDetector tenant =>
      exact (ite_self _).symm
  | detectorReportRows metricName bucketMinutes tenant =>
      exact (ite_self _).symm
  | fetchDetectorModel metricName detectorType maxAgeSeconds tenant =>
      exact (ite_self _).symm

/-- The part of a tenant unwinds along every run of the store. -/
theorem unwinding_ownedBy (a : String) :
    Unwinding (exec host settings collation) (fun r => r.op.tenant = a)
      (fun db => db.ownedBy a) where
  silent := by
    intro db r hr
    rw [exec_ownedBy, if_neg (of_decide_eq_false hr)]
  response := by
    intro s t r hr hview
    have ha : r.op.tenant = a := of_decide_eq_true hr
    rw [← answer_ownedBy host settings collation s, ha, hview, ← ha,
      answer_ownedBy]
  next := by
    intro s t r hr hview
    have ha : r.op.tenant = a := of_decide_eq_true hr
    rw [exec_ownedBy, exec_ownedBy, if_pos ha, if_pos ha, hview]

/--
Deleting the operations of all other tenants changes no answer that a tenant
gets, in any run from any contents of the tables.
-/
theorem store_noninterference (a : String) (db : Database) (requests : List Request) :
    (outputs (exec host settings collation) db requests).filter
        (fun p => p.1.op.tenant = a) =
      outputs (exec host settings collation) db
        (requests.filter fun r => r.op.tenant = a) :=
  (unwinding_ownedBy host settings collation a).outputs_eq requests db db rfl

end Steps

end Storage
end MetricMesh
