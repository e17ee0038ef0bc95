import Mathlib.Data.Prod.Lex
import MetricMesh.Foundation.Ranking
import MetricMesh.Storage.Queries

/-!
# The detector report

The counts and the recall of a tenant's alerts, put together for each metric.
The detectors of a metric are ranked, and the most precise of those that have
shown a true positive is recommended.
-/

namespace MetricMesh
namespace Api

open Foundation
open Python
open Storage

structure DetectorEntry where
  detector : String
  alerts : Nat
  truePositive : Nat
  falsePositive : Nat
  unlabeled : Nat
  precision : Option Rat
  comparativeRecall : Option Rat
  confirmedEventsCovered : Nat
deriving DecidableEq

structure MetricReport where
  metricName : String
  confirmedTpEvents : Nat
  recommendedDetector : Option String
  detectors : List DetectorEntry
deriving DecidableEq

structure DetectorReport where
  bucketMinutes : Nat
  metrics : List MetricReport
  notes : String
deriving DecidableEq

def covered (recallRows : List RecallRow) : Dict (String × String) Nat :=
  Dict.ofPairs (recallRows.map fun r => ((r.metricName, r.detector), r.coveredBuckets))

def totalBuckets (recallRows : List RecallRow) : Dict String Nat :=
  Dict.ofPairs (recallRows.map fun r => (r.metricName, r.totalBuckets))

def metricTotal (recallRows : List RecallRow) (metric : String) : Nat :=
  ((totalBuckets recallRows).get? metric).getD 0

def detectorEntry (recallRows : List RecallRow) (c : CountRow) : DetectorEntry :=
  let cov := ((covered recallRows).get? (c.metricName, c.detector)).getD 0
  { detector := c.detector
    alerts := c.total
    truePositive := c.tp
    falsePositive := c.fp
    unlabeled := c.unlabeled
    precision := ratio c.tp (c.tp + c.fp)
    comparativeRecall := ratio cov (metricTotal recallRows c.metricName)
    confirmedEventsCovered := cov }

def byMetric (counts : List CountRow) (recallRows : List RecallRow) :
    Dict String (List DetectorEntry) :=
  Dict.collect CountRow.metricName (detectorEntry recallRows) counts

def sortKey (d : DetectorEntry) : Bool ×ₗ Rat ×ₗ Rat ×ₗ Nat :=
  toLex (d.precision.isSome, toLex (d.precision.getD 0,
    toLex (d.comparativeRecall.getD 0, d.alerts)))

def isRecommendable (d : DetectorEntry) : Bool :=
  match d.precision with
  | none => false
  | some precision => 0 < precision

def choiceKey (d : DetectorEntry) : Rat ×ₗ Rat ×ₗ Nat :=
  toLex (d.precision.getD 0, toLex (d.comparativeRecall.getD 0, d.alerts))

/-- `max(recommendable, key=...)["detector"] if recommendable else None`. -/
def recommended (detectors : List DetectorEntry) : Option String :=
  ((detectors.filter isRecommendable).argmax choiceKey).map DetectorEntry.detector

def metricReport (recallRows : List RecallRow) (item : String × List DetectorEntry) :
    MetricReport :=
  let detectors := rank sortKey item.2
  { metricName := item.1
    confirmedTpEvents := metricTotal recallRows item.1
    recommendedDetector := recommended detectors
    detectors := detectors }

def reportNotes (bucketMinutes : Nat) : String :=
  "precision = TP/(TP+FP) over human-labeled alerts. comparative_recall " ++
  "is each detector's coverage of the confirmed anomaly events (distinct " ++
  toString bucketMinutes ++ "-minute buckets) that at least one detector caught and " ++
  "a human marked true; it CANNOT account for anomalies no detector " ++
  "caught, so it is a relative A/B signal, not true recall (which needs " ++
  "ground-truth missed anomalies)."

def assembleDetectorReport (counts : List CountRow) (recallRows : List RecallRow)
    (bucketMinutes : Nat) : DetectorReport where
  bucketMinutes := bucketMinutes
  metrics := ((byMetric counts recallRows).insertionSort (fun a b => a.1 ≤ b.1)).map
    (metricReport recallRows)
  notes := reportNotes bucketMinutes

def detectorReport (collation : Collation) (db : Database) (metric : Option String)
    (bucketMinutes : Nat) (tenant : String) : Option DetectorReport :=
  (detectorReportRows collation db metric bucketMinutes tenant).map fun rows =>
    assembleDetectorReport rows.1 rows.2 bucketMinutes

/-- Two detectors of one metric, one of them without a label. -/
example :
    (assembleDetectorReport
        [{ metricName := "cpu", detector := "prophet",
           tp := 0, fp := 0, unlabeled := 5, total := 5 },
         { metricName := "cpu", detector := "statistical",
           tp := 3, fp := 7, unlabeled := 0, total := 10 }]
        [{ metricName := "cpu", detector := "statistical",
           coveredBuckets := 3, totalBuckets := 3 }] 5).metrics.map
      (fun m => (m.confirmedTpEvents, m.recommendedDetector,
        m.detectors.map DetectorEntry.detector)) =
    [(3, some "statistical", ["statistical", "prophet"])] := by
  decide +kernel

/-!
# The metrics of a report
-/

section Metrics

variable {counts : List CountRow} {recallRows : List RecallRow} {bucketMinutes : Nat}

def metricRows (counts : List CountRow) (metric : String) : List CountRow :=
  counts.filter fun c => c.metricName = metric

theorem mem_metrics {m : MetricReport} :
    m ∈ (assembleDetectorReport counts recallRows bucketMinutes).metrics <->
      m.metricName ∈ counts.map CountRow.metricName ∧
        m = metricReport recallRows
          (m.metricName, (metricRows counts m.metricName).map (detectorEntry recallRows)) := by
  unfold assembleDetectorReport byMetric metricRows
  rw [List.mem_map]
  constructor
  · intro h
    rcases h with ⟨⟨metric, detectors⟩, hitem, hreport⟩
    rw [List.mem_insertionSort, Dict.mem_collect] at hitem
    rcases hitem with ⟨hmetric, hdetectors⟩
    rw [← hreport, hdetectors]
    exact ⟨hmetric, rfl⟩
  · intro h
    exact ⟨_, List.mem_insertionSort _ |>.mpr (Dict.mem_collect.mpr ⟨h.1, rfl⟩), h.2.symm⟩

theorem entries_perm (counts : List CountRow) (recallRows : List RecallRow)
    (bucketMinutes : Nat) :
    ((assembleDetectorReport counts recallRows bucketMinutes).metrics.flatMap
      MetricReport.detectors).Perm (counts.map (detectorEntry recallRows)) := by
  have hranked : ((byMetric counts recallRows).flatMap fun item => rank sortKey item.2).Perm
      ((byMetric counts recallRows).flatMap Prod.snd) := by
    apply List.Perm.flatMap_left
    intro item _
    exact rank_perm _ _
  unfold assembleDetectorReport
  rw [List.flatMap_map]
  exact (((List.perm_insertionSort _ _).flatMap_right _).trans hranked).trans
    (Dict.flatMap_collect_perm _ _ _)

end Metrics

end Api
end MetricMesh
