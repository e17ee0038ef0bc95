import MetricMesh.Detection.Thresholds
import MetricMesh.Storage.Queries

/-!
# The detail of an alert

An alert of the caller's tenant with what is needed to understand why it fired:
the threshold that its detector used, a text that says so, and the series of its
metric around it.
-/

namespace MetricMesh
namespace Api

open Python
open Alerting
open Detection
open Storage

def resolverKey (detector method : String) : String :=
  if detector = "statistical" ∧ method ≠ "" then method else detector

def alertThreshold (host : Host) (settings : Settings)
    (metricName detector method : String) : Except PyError PyFloat :=
  let key := resolverKey detector method
  resolveThreshold host settings metricName key
    (Double.ofExact (defaultThreshold settings key settings.zscoreThreshold))

/-- The explanation of an alert names the threshold, and its stored score meets it. -/
def ExplainedBy (host : Host) (settings : Settings) (a : Anomaly)
    (threshold : PyFloat) : Prop :=
  alertThreshold host settings a.metric a.detectorName (a.method.getD "") =
      .ok threshold ∧
    exists score, a.score = some (.float score) ∧ threshold ≤ score

def scoringModeText : ScoringMode -> String
  | .relative => "relative"
  | .absolute => "absolute"

def explanation (alert : AlertFound) (threshold : PyFloat) (scoringMode : ScoringMode) :
    String :=
  let label := if alert.method = "" then alert.detector else alert.method
  "Detector '" ++ label ++ "' scored " ++ fixedText 3 alert.score ++
    " (≥ threshold " ++ fixedText 3 threshold ++ ") for metric '" ++ alert.metricName ++
    "' at value " ++ fixedText 4 alert.value ++ " on " ++ alert.createdAt ++ ". " ++
    "Scores are normalised to [0,1] in '" ++ scoringModeText scoringMode ++
    "' mode; a score at or above the threshold fires an alert."

structure DetailWindow where
  start : String
  stop : String
  minutes : Nat
  resolution : Resolution
deriving DecidableEq

structure AlertDetail extends AlertItem where
  method : String
  threshold : PyFloat
  scoringMode : ScoringMode
  explanation : String
  window : DetailWindow
  series : List RawPoint ⊕ List MinutePoint
deriving DecidableEq

/-- The default `limit` of `fetch_metric_series`. -/
def defaultSeriesLimit : Nat := 10000

/-- `alert_detail(alert_id, window_minutes, resolution)` for a tenant, if the alert is its own. -/
def alertDetail (host : Host) (settings : Settings) (db : Database) (alertId : Int)
    (windowMinutes : Nat) (resolution : Resolution) (tenant : String) :
    Except PyError (Option AlertDetail) :=
  match fetchAlertById host db alertId tenant with
  | none => .ok none
  | some alert =>
      match alertThreshold host settings alert.metricName alert.detector alert.method with
      | .error e => .error e
      | .ok threshold =>
          let start := alert.createdAtDt - windowMinutes * minute
          let stop := alert.createdAtDt + windowMinutes * minute
          .ok (some
            { toAlertItem := alert.toAlertItem
              method := alert.method
              threshold := threshold
              scoringMode := settings.scoringMode
              explanation := explanation alert threshold settings.scoringMode
              window :=
                { start := host.isoformat start
                  stop := host.isoformat stop
                  minutes := windowMinutes
                  resolution := resolution }
              series := fetchMetricSeries host db alert.metricName (some start) (some stop)
                resolution defaultSeriesLimit tenant })

theorem row_of_alertDetail {host : Host} {settings : Settings} {db : Database}
    {alertId : Int} {windowMinutes : Nat} {resolution : Resolution} {tenant : String}
    {detail : AlertDetail}
    (h : alertDetail host settings db alertId windowMinutes resolution tenant =
      .ok (some detail)) :
    exists row, row ∈ db.alerts ∧ row.tenant = tenant ∧
      detail.toAlertItem = row.item host := by
  unfold alertDetail at h
  cases hfound : fetchAlertById host db alertId tenant with
  | none =>
      rw [hfound] at h
      cases h
  | some alert =>
      rw [hfound] at h
      unfold fetchAlertById at hfound
      rcases Option.map_eq_some_iff.mp hfound with ⟨row, hrow, halert⟩
      rcases List.mem_filter.mp (List.mem_of_head? hrow) with ⟨hmem, hcond⟩
      rw [Bool.and_eq_true, decide_eq_true_eq, decide_eq_true_eq] at hcond
      dsimp only at h
      split at h
      · cases h
      · injection h with h
        injection h with h
        refine ⟨row, hmem, hcond.2, ?_⟩
        rw [← h, ← halert]

end Api
end MetricMesh
