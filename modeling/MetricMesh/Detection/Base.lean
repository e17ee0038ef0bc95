import Mathlib.Data.Rat.Floor
import MetricMesh.Detection.Series
import MetricMesh.Python.Host

/-!
# Detector results

What every detector returns for a point that it reports, and the dictionary
that a task builds from it.  The score of the dictionary is rounded.

The dictionary travels through the result backend and the broker to the alert
tasks.  A missing entry is `none`, and the entries whose type the code does not
rely on are JSON values.
-/

namespace MetricMesh

namespace Alerting

open Python

structure Anomaly where
  timestamp : Option Json := none
  metricName : Option String := none
  value : Option Json := none
  score : Option Json := none
  detector : Option String := none
  method : Option String := none
  labels : Dict String String := []
  tenant : Option String := none
  fingerprint : Option String := none
deriving DecidableEq

namespace Anomaly

/-- `anomaly.get("tenant", "default")`. -/
def tenantName (a : Anomaly) : String :=
  a.tenant.getD "default"

def metric (a : Anomaly) : String :=
  a.metricName.getD ""

def detectorName (a : Anomaly) : String :=
  a.detector.getD ""

def spikeOf (tenant metric : String) : Anomaly where
  timestamp := some (.int 1700000000)
  metricName := some metric
  detector := some "statistical"
  tenant := some tenant

end Anomaly

def spike : Anomaly :=
  Anomaly.spikeOf "acme" "cpu_usage"

def spikeHost : Host :=
  Host.withDigests [("acme:cpu_usage:statistical:5666666",
    "327026f9cbd5d952e0496c5d70834b1cc68578ec")]

end Alerting

namespace Detection

open Python
open Alerting

universe u

variable {K : Type u}

structure AnomalyResult (K : Type u) where
  timestamp : Instant
  metricName : String
  value : Double K
  score : Double K
  detector : String
  method : String := ""
  labels : Dict String String := []
deriving DecidableEq

/-- `{**a.to_dict(), "tenant": tenant}`. -/
def AnomalyResult.toDict (host : Host) (tenant : String) (a : AnomalyResult Rat) :
    Anomaly where
  timestamp := some (.str (host.isoformat a.timestamp))
  metricName := some a.metricName
  value := some (.float a.value)
  score := some (.float (a.score.round 6))
  detector := some a.detector
  method := some a.method
  labels := a.labels
  tenant := some tenant

/-- The scores of a series, with the index of the series. -/
abbrev Scores (K : Type u) : Type u :=
  List (Double K)

def pointsAtOrAbove [LinearOrder K] (threshold : Double K)
    (series : Series K) (scores : Scores K) :
    List ((Instant × Double K) × Double K) :=
  (series.points.zip scores).filter (fun p => threshold ≤ p.2)

theorem exists_mem_zip {α : Type u} {β : Type u} {points : List α} {scores : List β}
    (h : scores.length = points.length) {s : β} (hs : s ∈ scores) :
    exists p, (p, s) ∈ points.zip scores := by
  rw [← List.map_snd_zip (le_of_eq h)] at hs
  rcases List.mem_map.mp hs with ⟨⟨p, s'⟩, hmem, heq⟩
  rw [← heq]
  exact ⟨p, hmem⟩

theorem mem_pointsAtOrAbove [LinearOrder K] {threshold : Double K}
    {series : Series K} {scores : Scores K} {p : (Instant × Double K) × Double K} :
    p ∈ pointsAtOrAbove threshold series scores <->
      p ∈ series.points.zip scores ∧ threshold ≤ p.2 := by
  simp [pointsAtOrAbove]

end Detection
end MetricMesh
