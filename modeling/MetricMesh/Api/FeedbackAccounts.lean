import MetricMesh.Api.DetectorReport
import MetricMesh.Api.Feedback
import MetricMesh.Foundation.Runs
import MetricMesh.Storage.FeedbackCounts

/-!
# The accounts of the feedback reports

The detector report is put together from two queries, and the statistics are a
third one.  All of them count the same alerts.
-/

namespace MetricMesh
namespace Api

open Foundation
open Python
open Storage

structure EntryAccounts (m : MetricReport) (d : DetectorEntry) : Prop where
  alerts_eq : d.alerts = d.truePositive + d.falsePositive + d.unlabeled
  covered_le : d.confirmedEventsCovered ≤ m.confirmedTpEvents
  covered_pos_iff : 0 < d.confirmedEventsCovered <-> 0 < d.truePositive
  recall_none_iff : d.comparativeRecall = none <-> m.confirmedTpEvents = 0
  recall_mem : forall q, d.comparativeRecall = some q -> 0 ≤ q ∧ q ≤ 1

structure MetricAccounts (m : MetricReport) : Prop where
  entries : forall d, d ∈ m.detectors -> EntryAccounts m d
  events_le : m.confirmedTpEvents ≤ (m.detectors.map DetectorEntry.confirmedEventsCovered).sum

def DetectorReport.sumOf (report : DetectorReport) (detector : String)
    (count : DetectorEntry -> Nat) : Nat :=
  (((report.metrics.flatMap MetricReport.detectors).filter
    fun d => d.detector = detector).map count).sum

/-- A report and the statistics have the same detectors with the same counts. -/
structure AgreesWithStats (report : DetectorReport) (stats : List DetectorStats) : Prop where
  once : (stats.map DetectorStats.detector).Nodup
  detectors : forall detector, detector ∈ stats.map DetectorStats.detector <->
    exists m, m ∈ report.metrics ∧ exists d, d ∈ m.detectors ∧ d.detector = detector
  truePositive : forall s, s ∈ stats ->
    report.sumOf s.detector DetectorEntry.truePositive = s.truePositive
  falsePositive : forall s, s ∈ stats ->
    report.sumOf s.detector DetectorEntry.falsePositive = s.falsePositive
  unlabeled : forall s, s ∈ stats ->
    report.sumOf s.detector DetectorEntry.unlabeled = s.unlabeled
  total : forall s, s ∈ stats -> report.sumOf s.detector DetectorEntry.alerts = s.total

/-!
# The entries of a report on stored alerts
-/

section Entries

variable {collation : Collation} {rows : List AlertRow} {width : Nat}

theorem counts_of_mem_reportRecall {tps : List TpRow} {r : RecallRow}
    (hr : r ∈ reportRecall tps) :
    r.totalBuckets = confirmedEvents tps r.metricName ∧
      r.coveredBuckets = coveredEvents tps (r.metricName, r.detector) := by
  rw [reportRecall_eq] at hr
  rcases List.mem_map.mp hr with ⟨k, _, hrow⟩
  rw [← hrow]
  exact ⟨rfl, rfl⟩

theorem exists_mem_reportRecall {tps : List TpRow} {t : TpRow} (ht : t ∈ tps) :
    exists r, r ∈ reportRecall tps ∧ (r.metricName, r.detector) = t.1 := by
  have hkey : t.1 ∈ groupKeys Prod.fst tps := mem_groupKeys.mpr (List.mem_map_of_mem ht)
  rw [reportRecall_eq]
  exact ⟨recallRow tps t.1, List.mem_map_of_mem hkey, rfl⟩

theorem metricTotal_reportRecall (tps : List TpRow) (metric : String) :
    metricTotal (reportRecall tps) metric = confirmedEvents tps metric := by
  have hpairs : forall p, p ∈ (reportRecall tps).map
      (fun r => (r.metricName, r.totalBuckets)) -> p.2 = confirmedEvents tps p.1 := by
    intro p hp
    rcases List.mem_map.mp hp with ⟨r, hr, hpair⟩
    rw [← hpair]
    exact (counts_of_mem_reportRecall hr).1
  apply Dict.getD_ofPairs_of_determined hpairs
  intro hnone
  apply Nat.eq_zero_of_not_pos
  intro hpos
  rcases (countDistinct_pos_iff _).mp hpos with ⟨t, ht⟩
  rcases List.mem_filter.mp ht with ⟨hmem, hmetric⟩
  rcases exists_mem_reportRecall hmem with ⟨r, hr, hkey⟩
  apply hnone
  rw [List.map_map]
  exact List.mem_map.mpr ⟨r, hr, (congrArg Prod.fst hkey).trans (of_decide_eq_true hmetric)⟩

theorem covered_reportRecall (tps : List TpRow) (k : String × String) :
    ((covered (reportRecall tps)).get? k).getD 0 = coveredEvents tps k := by
  have hpairs : forall p, p ∈ (reportRecall tps).map
      (fun r => ((r.metricName, r.detector), r.coveredBuckets)) ->
        p.2 = coveredEvents tps p.1 := by
    intro p hp
    rcases List.mem_map.mp hp with ⟨r, hr, hpair⟩
    rw [← hpair]
    exact (counts_of_mem_reportRecall hr).2
  apply Dict.getD_ofPairs_of_determined hpairs
  intro hnone
  apply Nat.eq_zero_of_not_pos
  intro hpos
  rcases (countDistinct_pos_iff _).mp hpos with ⟨t, ht⟩
  rcases mem_group.mp ht with ⟨hmem, hkey⟩
  rcases exists_mem_reportRecall hmem with ⟨r, hr, hrow⟩
  apply hnone
  rw [List.map_map]
  exact List.mem_map.mpr ⟨r, hr, hrow.trans hkey⟩

def storedEntry (width : Nat) (rows : List AlertRow) (k : String × String) :
    DetectorEntry :=
  detectorEntry (reportRecall (tpRows width rows)) (countRow rows k)

theorem confirmedEventsCovered_storedEntry (width : Nat) (rows : List AlertRow)
    (k : String × String) :
    (storedEntry width rows k).confirmedEventsCovered =
      coveredEvents (tpRows width rows) k :=
  covered_reportRecall _ k

theorem comparativeRecall_storedEntry (width : Nat) (rows : List AlertRow)
    (k : String × String) :
    (storedEntry width rows k).comparativeRecall =
      ratio (coveredEvents (tpRows width rows) k)
        (confirmedEvents (tpRows width rows) k.1) := by
  rw [← covered_reportRecall, ← metricTotal_reportRecall]
  rfl

def storedReport (collation : Collation) (width : Nat) (rows : List AlertRow) :
    DetectorReport :=
  assembleDetectorReport (reportCounts collation rows) (reportRecall (tpRows width rows)) width

theorem detectors_perm_of_mem {m : MetricReport}
    (hm : m ∈ (storedReport collation width rows).metrics) :
    m.detectors.Perm
      (((groupKeys AlertRow.reportKey rows).filter fun k => k.1 = m.metricName).map
        (storedEntry width rows)) := by
  have hreport := (mem_metrics.mp hm).2
  have hrows : (metricRows (reportCounts collation rows) m.metricName).Perm
      (((groupKeys AlertRow.reportKey rows).filter fun k => k.1 = m.metricName).map
        (countRow rows)) := by
    have hperm := (reportCounts_perm collation rows).filter
      fun c => c.metricName = m.metricName
    rw [List.filter_map] at hperm
    exact hperm
  have hentries := hrows.map (detectorEntry (reportRecall (tpRows width rows)))
  rw [List.map_map] at hentries
  have hranked : m.detectors.Perm ((metricRows (reportCounts collation rows)
      m.metricName).map (detectorEntry (reportRecall (tpRows width rows)))) := by
    rw [hreport]
    exact rank_perm _ _
  exact hranked.trans hentries

theorem confirmedTpEvents_of_mem {m : MetricReport}
    (hm : m ∈ (storedReport collation width rows).metrics) :
    m.confirmedTpEvents = confirmedEvents (tpRows width rows) m.metricName := by
  rw [← metricTotal_reportRecall]
  exact congrArg MetricReport.confirmedTpEvents (mem_metrics.mp hm).2

theorem metricAccounts_of_mem (hlabels : LabelsKnown rows) {m : MetricReport}
    (hm : m ∈ (storedReport collation width rows).metrics) : MetricAccounts m := by
  have hperm := detectors_perm_of_mem hm
  have hevents := confirmedTpEvents_of_mem hm
  constructor
  · intro d hd
    rcases List.mem_map.mp (hperm.mem_iff.mp hd) with ⟨k, hk, hentry⟩
    have hmetric : k.1 = m.metricName := of_decide_eq_true (List.mem_filter.mp hk).2
    have hle := coveredEvents_le (tpRows width rows) k
    rw [← hentry]
    constructor
    · exact (hlabels.filter _).length_eq
    · rw [confirmedEventsCovered_storedEntry, hevents, ← hmetric]
      exact hle
    · rw [confirmedEventsCovered_storedEntry]
      exact coveredEvents_pos_iff width rows k
    · rw [comparativeRecall_storedEntry, ratio_eq_none_iff, hevents, hmetric]
    · intro q hq
      rw [comparativeRecall_storedEntry] at hq
      unfold ratio at hq
      split at hq
      · cases hq
      · injection hq with hq
        rw [← hq]
        exact ⟨roundedQuotient_nonneg _ _, roundedQuotient_le_one hle⟩
  · have hcovered : ((groupKeys AlertRow.reportKey rows).filter
        fun k => k.1 = m.metricName).map
          (DetectorEntry.confirmedEventsCovered ∘ storedEntry width rows) =
        ((groupKeys AlertRow.reportKey rows).filter fun k => k.1 = m.metricName).map
          (coveredEvents (tpRows width rows)) := by
      apply List.map_congr_left
      intro k _
      exact confirmedEventsCovered_storedEntry width rows k
    rw [hevents, (hperm.map _).sum_eq, List.map_map, hcovered]
    exact confirmedEvents_le_sum width rows m.metricName

/-!
# The sums over the metrics
-/

theorem storedEntries_perm (collation : Collation) (width : Nat) (rows : List AlertRow) :
    ((storedReport collation width rows).metrics.flatMap MetricReport.detectors).Perm
      ((groupKeys AlertRow.reportKey rows).map (storedEntry width rows)) := by
  have hmapped := (reportCounts_perm collation rows).map
    (detectorEntry (reportRecall (tpRows width rows)))
  rw [List.map_map] at hmapped
  exact (entries_perm _ _ _).trans hmapped

theorem sumOf_storedReport (collation : Collation) (width : Nat) {rows : List AlertRow}
    (detector : String) {count : DetectorEntry -> Nat} {p : AlertRow -> Bool}
    (hcount : forall k, count (storedEntry width rows k) =
      (group AlertRow.reportKey k rows).countP p) :
    (storedReport collation width rows).sumOf detector count =
      (group (fun r => r.detector) detector rows).countP p := by
  have hfiltered := ((storedEntries_perm collation width rows).filter
    fun d => d.detector = detector).map count
  rw [List.filter_map, List.map_map] at hfiltered
  have hkeys : ((groupKeys AlertRow.reportKey rows).filter
      ((fun d => decide (d.detector = detector)) ∘ storedEntry width rows)).map
        (count ∘ storedEntry width rows) =
      ((groupKeys AlertRow.reportKey rows).filter fun k => k.2 = detector).map fun k =>
        (group AlertRow.reportKey k rows).countP p := by
    apply List.map_congr_left
    intro k _
    exact hcount k
  unfold DetectorReport.sumOf
  rw [hfiltered.sum_eq, hkeys, countP_detector_eq_sum]

theorem mem_detectors_storedReport {detector : String} :
    (exists m, m ∈ (storedReport collation width rows).metrics ∧
      exists d, d ∈ m.detectors ∧ d.detector = detector) <->
        detector ∈ rows.map fun r => r.detector := by
  have hentry : forall d, (exists m, m ∈ (storedReport collation width rows).metrics ∧
      d ∈ m.detectors) <->
        exists k, k ∈ rows.map AlertRow.reportKey ∧ storedEntry width rows k = d := by
    intro d
    rw [← List.mem_flatMap, (storedEntries_perm collation width rows).mem_iff, List.mem_map]
    simp only [mem_groupKeys]
  constructor
  · intro h
    rcases h with ⟨m, hm, d, hd, hdetector⟩
    rcases (hentry d).mp ⟨m, hm, hd⟩ with ⟨k, hk, hd⟩
    rcases List.mem_map.mp hk with ⟨r, hr, hkey⟩
    apply List.mem_map.mpr
    refine ⟨r, hr, ?_⟩
    rw [← hdetector, ← hd, ← hkey]
    rfl
  · intro h
    rcases List.mem_map.mp h with ⟨r, hr, hdetector⟩
    rcases (hentry (storedEntry width rows r.reportKey)).mpr
      ⟨_, List.mem_map_of_mem hr, rfl⟩ with ⟨m, hm, hd⟩
    exact ⟨m, hm, _, hd, hdetector⟩

theorem agreesWithStats_storedReport (collation : Collation) (width : Nat) (db : Database)
    (tenant : String) :
    AgreesWithStats (storedReport collation width (db.alerts.filter fun r => r.tenant = tenant))
      (feedbackStatsByDetector collation db tenant) := by
  have hperm := feedbackStats_perm collation db tenant
  have hrow : forall s, s ∈ feedbackStatsByDetector collation db tenant ->
      s = statsRow (db.alerts.filter fun r => r.tenant = tenant) s.detector := by
    intro s hs
    rcases List.mem_map.mp (hperm.mem_iff.mp hs) with ⟨detector, _, hrow⟩
    rw [← hrow]
    rfl
  have hdetectors : (feedbackStatsByDetector collation db tenant).map
      DetectorStats.detector |>.Perm (groupKeys (fun r => r.detector)
        (db.alerts.filter fun r => r.tenant = tenant)) := by
    have hmapped := hperm.map DetectorStats.detector
    rw [List.map_map] at hmapped
    exact hmapped.trans (List.Perm.of_eq (List.map_id _))
  constructor
  · exact hdetectors.nodup_iff.mpr (List.nodup_dedup _)
  · intro detector
    rw [hdetectors.mem_iff, mem_groupKeys, mem_detectors_storedReport]
  · intro s hs
    rw [hrow s hs]
    exact sumOf_storedReport collation width _ (fun k => rfl)
  · intro s hs
    rw [hrow s hs]
    exact sumOf_storedReport collation width _ (fun k => rfl)
  · intro s hs
    rw [hrow s hs]
    exact sumOf_storedReport collation width _ (fun k => rfl)
  · intro s hs
    rw [hrow s hs]
    show _ = (group _ _ _).length
    rw [← List.countP_true]
    exact sumOf_storedReport collation width _ (fun k => congrFun List.countP_true.symm _)

end Entries

/-!
# Reports on a reachable store
-/

def Submitted (r : Storage.Request) : Prop :=
  match r.op with
  | .setAlertLabel _ label _ => exists submitted : FeedbackLabel, submitted.text = label
  | _ => True

theorem Submitted.knownLabel {r : Storage.Request} (h : Submitted r) : r.KnownLabel := by
  rcases r with ⟨now, op⟩
  cases op with
  | setAlertLabel alertId label tenant =>
      rcases h with ⟨submitted, htext⟩
      show label ∈ knownLabels
      rw [← htext]
      cases submitted with
      | truePositive =>
          decide
      | falsePositive =>
          decide
  | _ =>
      trivial

theorem labelsKnown_of_run (host : Host) (settings : Settings) (collation : Collation)
    {requests : List Storage.Request} (h : forall r, r ∈ requests -> Submitted r) :
    LabelsKnown (finalState (Storage.exec host settings collation) {} requests).alerts :=
  @finalState_invariant _ _ _ (Storage.exec host settings collation)
    (fun db => LabelsKnown db.alerts) Submitted
    (fun db r hr => exec_labelsKnown host settings collation db r hr.knownLabel)
    requests h {} (fun _ hr => absurd hr List.not_mem_nil)

/--
After any run of the store in which labels are set by feedback, the report of a
tenant accounts for every alert, and without a filter on the metric it agrees with
the statistics.
-/
theorem feedback_accounts (host : Host) (settings : Settings) (collation : Collation)
    (requests : List Storage.Request) (hrequests : forall r, r ∈ requests -> Submitted r)
    (db : Database) (hdb : finalState (Storage.exec host settings collation) {} requests = db)
    (tenant : String) (metric : Option String) (bucketMinutes : Nat)
    (hbucket : 0 < bucketMinutes) :
    exists report, detectorReport collation db metric bucketMinutes tenant = some report ∧
      (forall m, m ∈ report.metrics -> MetricAccounts m) ∧
      (metric = none ->
        AgreesWithStats report (feedbackStatsByDetector collation db tenant)) := by
  have hlabels : LabelsKnown db.alerts := by
    rw [← hdb]
    exact labelsKnown_of_run host settings collation hrequests
  have hreport : detectorReport collation db metric bucketMinutes tenant =
      some (storedReport collation bucketMinutes (db.alerts.filter fun r =>
        r.tenant = tenant && textFilter metric r.metricName)) := by
    unfold detectorReport detectorReportRows
    rw [if_neg (by omega)]
    rfl
  refine ⟨_, hreport, ?_, ?_⟩
  · intro m hm
    exact metricAccounts_of_mem (hlabels.filter _) hm
  · intro hmetric
    have hall : (db.alerts.filter fun r =>
        r.tenant = tenant && textFilter metric r.metricName) =
          db.alerts.filter fun r => r.tenant = tenant := by
      apply List.filter_congr
      intro r _
      rw [hmetric]
      exact Bool.and_true _
    rw [hall]
    exact agreesWithStats_storedReport collation bucketMinutes db tenant

def confirmedSpike : List Storage.Request :=
  [{ now := 0, op := .persistAlert 1 (Alerting.Anomaly.spikeOf "acme" "cpu.usage") ["slack"] },
   { now := 60000000, op := .setAlertLabel 1 "true_positive" "acme" }]

theorem submitted_of_mem_confirmedSpike :
    forall r, r ∈ confirmedSpike -> Submitted r := by
  intro r hr
  rcases List.mem_pair.mp hr with heq | heq
  · rw [heq]
    trivial
  · rw [heq]
    exact ⟨.truePositive, rfl⟩

def confirmedSpikeStore : Database :=
  finalState (Storage.exec (Host.withDigests []) Settings.defaults (fun a b => a ≤ b)) {}
    confirmedSpike

theorem feedback_accounts_confirmedSpike :
    exists report,
      detectorReport (fun a b => a ≤ b) confirmedSpikeStore none 5 "acme" = some report ∧
        (forall m, m ∈ report.metrics -> MetricAccounts m) ∧
        ((none : Option String) = none -> AgreesWithStats report
          (feedbackStatsByDetector (fun a b => a ≤ b) confirmedSpikeStore "acme")) :=
  feedback_accounts (Host.withDigests []) Settings.defaults (fun a b => a ≤ b) confirmedSpike
    submitted_of_mem_confirmedSpike confirmedSpikeStore rfl "acme" none 5 (by decide)

/-- The alert is one event, which its detector covers. -/
example :
    (detectorReport (fun a b => a ≤ b) confirmedSpikeStore none 5 "acme").map
      (fun report => report.metrics.map fun m =>
        (m.confirmedTpEvents, m.detectors.map DetectorEntry.confirmedEventsCovered)) =
      some [(1, [1])] := by
  decide +kernel

end Api
end MetricMesh
