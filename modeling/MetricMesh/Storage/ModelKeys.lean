import MetricMesh.Storage.Isolation

/-!
# The order of the models

The rows of `detector_models` are found by their key, and no request can tell in
which order they stand.  Databases that hold the same rows under every key answer
every request alike.
-/

namespace MetricMesh
namespace Storage

open Foundation
open Python
open Alerting
open Detection

structure Database.Alike (db db' : Database) : Prop where
  metrics : db.metrics = db'.metrics
  alerts : db.alerts = db'.alerts
  models : forall key, db.models.filter (fun r => r.key = key) =
    db'.models.filter fun r => r.key = key

namespace Database

theorem Alike.refl (db : Database) : Alike db db :=
  ⟨rfl, rfl, fun _ => rfl⟩

theorem Alike.symm {db db' : Database} (h : Alike db db') : Alike db' db :=
  ⟨h.metrics.symm, h.alerts.symm, fun key => (h.models key).symm⟩

theorem Alike.trans {db db' db'' : Database} (h : Alike db db') (h' : Alike db' db'') :
    Alike db db'' :=
  ⟨h.metrics.trans h'.metrics, h.alerts.trans h'.alerts,
    fun key => (h.models key).trans (h'.models key)⟩

theorem Alike.eq_withModels {db db' : Database} (h : Alike db db') :
    db' = { db with models := db'.models } := by
  rcases db with ⟨metrics, alerts, models⟩
  rcases db' with ⟨metrics', alerts', models'⟩
  rcases h with ⟨hmetrics, halerts, _⟩
  dsimp only at hmetrics halerts ⊢
  rw [hmetrics, halerts]

end Database

def Operation.onModels : Operation -> Bool
  | .persistDetectorModel _ _ _ _ => true
  | .fetchDetectorModel _ _ _ _ => true
  | _ => false

def Operation.reads : Operation -> Bool
  | .bulkInsert _ _ => false
  | .persistAlert _ _ _ => false
  | .setAlertLabel _ _ _ => false
  | .persistDetectorModel _ _ _ _ => false
  | _ => true

/-!
# Lookups and upserts
-/

theorem fetchDetectorModel_congr {db db' : Database} {metricName detectorType : String}
    {tenant : String}
    (h : db.models.filter (fun r => r.key = (tenant, metricName, detectorType)) =
      db'.models.filter fun r => r.key = (tenant, metricName, detectorType))
    (host : Host) (now : Instant) (maxAgeSeconds : Int) :
    fetchDetectorModel host db now metricName detectorType maxAgeSeconds tenant =
      fetchDetectorModel host db' now metricName detectorType maxAgeSeconds tenant := by
  have hkey : forall r : ModelRow,
      (r.metricName = metricName && r.detectorType = detectorType &&
        r.tenant = tenant && decide (now - maxAgeSeconds * 1000000 < r.trainedAt)) = true ->
      decide (r.key = (tenant, metricName, detectorType)) = true := by
    intro r hr
    simp only [Bool.and_eq_true, decide_eq_true_eq] at hr
    apply decide_eq_true
    unfold ModelRow.key
    rw [hr.1.1.1, hr.1.1.2, hr.1.2]
  unfold fetchDetectorModel
  rw [← filter_filter_of_imp _ hkey, h, filter_filter_of_imp _ hkey]

theorem filter_upsert_key (x : ModelRow) (models : List ModelRow)
    (key : String × String × String) :
    (upsert ModelRow.key x models).filter (fun r => r.key = key) =
      if x.key = key then upsert ModelRow.key x (models.filter fun r => r.key = key)
      else models.filter fun r => r.key = key := by
  rw [filter_upsert]
  · simp only [decide_eq_true_eq]
  · intro r s hkey
    rw [hkey]

/-!
# Requests
-/

section Requests

theorem bulkInsert_withModels (db : Database) (models : List ModelRow)
    (points : List Point) (tenant : String) :
    bulkInsert { db with models := models } points tenant =
      ((bulkInsert db points tenant).1,
        { (bulkInsert db points tenant).2 with models := models }) := by
  unfold bulkInsert
  cases metricRows tenant points <;> rfl

theorem persistAlert_withModels (host : Host) (db : Database) (models : List ModelRow)
    (now : Instant) (alertId : Int) (anomaly : Anomaly) (routedTo : List String) :
    persistAlert host { db with models := models } now alertId anomaly routedTo =
      ((persistAlert host db now alertId anomaly routedTo).1,
        { (persistAlert host db now alertId anomaly routedTo).2 with
          models := models }) := by
  unfold persistAlert
  cases alertParams host anomaly routedTo <;> rfl

variable (host : Host) (settings : Settings) (collation : Collation)

theorem exec_withModels {r : Request} (h : r.op.onModels = false) (db : Database)
    (models : List ModelRow) :
    exec host settings collation { db with models := models } r =
      ((exec host settings collation db r).1,
        { (exec host settings collation db r).2 with models := models }) := by
  rcases r with ⟨now, op⟩
  cases op with
  | bulkInsert points tenant =>
      exact bulkInsert_withModels db models points tenant
  | persistAlert alertId anomaly routedTo =>
      exact persistAlert_withModels host db models now alertId anomaly routedTo
  | persistDetectorModel metricName detectorType parameters tenant =>
      cases h
  | fetchDetectorModel metricName detectorType maxAgeSeconds tenant =>
      cases h
  | _ =>
      rfl

theorem models_exec {r : Request} (h : r.op.onModels = false) (db : Database) :
    (exec host settings collation db r).2.models = db.models := by
  have hframe : exec host settings collation db r = (_, _) :=
    exec_withModels host settings collation h db db.models
  rw [hframe]

theorem exec_reads {r : Request} (h : r.op.reads = true) (db : Database) :
    (exec host settings collation db r).2 = db := by
  rcases r with ⟨now, op⟩
  cases op with
  | bulkInsert points tenant =>
      cases h
  | persistAlert alertId anomaly routedTo =>
      cases h
  | setAlertLabel alertId label tenant =>
      cases h
  | persistDetectorModel metricName detectorType parameters tenant =>
      cases h
  | _ =>
      rfl

theorem exec_alike {db db' : Database} (h : db.Alike db') (r : Request) :
    (exec host settings collation db r).1 = (exec host settings collation db' r).1 ∧
      (exec host settings collation db r).2.Alike
        (exec host settings collation db' r).2 := by
  cases hmodels : r.op.onModels with
  | false =>
      have hframe := exec_withModels host settings collation hmodels db db'.models
      rw [← h.eq_withModels] at hframe
      rw [hframe]
      refine ⟨rfl, rfl, rfl, ?_⟩
      intro key
      rw [models_exec host settings collation hmodels]
      exact h.models key
  | true =>
      rcases r with ⟨now, op⟩
      cases op with
      | persistDetectorModel metricName detectorType parameters tenant =>
          show (persistDetectorModel db now metricName detectorType parameters tenant).1 =
              (persistDetectorModel db' now metricName detectorType parameters tenant).1 ∧
            (persistDetectorModel db now metricName detectorType parameters tenant).2.Alike
              (persistDetectorModel db' now metricName detectorType parameters tenant).2
          unfold persistDetectorModel
          by_cases hstandard : isStandard parameters = true
          · rw [if_pos hstandard, if_pos hstandard]
            refine ⟨rfl, h.metrics, h.alerts, ?_⟩
            intro key
            dsimp only
            rw [filter_upsert_key, filter_upsert_key, h.models key]
          · rw [if_neg hstandard, if_neg hstandard]
            exact ⟨rfl, h⟩
      | fetchDetectorModel metricName detectorType maxAgeSeconds tenant =>
          refine ⟨?_, h⟩
          exact congrArg modelAnswer
            (fetchDetectorModel_congr (h.models _) host now maxAgeSeconds)
      | _ =>
          cases hmodels

end Requests

end Storage
end MetricMesh
