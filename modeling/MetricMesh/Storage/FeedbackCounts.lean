import MetricMesh.Foundation.Grouping
import MetricMesh.Storage.Operations

/-!
# What the feedback queries count

The three aggregate queries on the alerts, each row in terms of the alerts that it
stands for.
-/

namespace MetricMesh
namespace Storage

open Foundation
open Python

/-- `GROUP BY metric_name, detector`. -/
def AlertRow.reportKey (r : AlertRow) : String × String :=
  (r.metricName, r.detector)

def countRow (rows : List AlertRow) (k : String × String) : CountRow where
  metricName := k.1
  detector := k.2
  tp := countLabel "true_positive" (group AlertRow.reportKey k rows)
  fp := countLabel "false_positive" (group AlertRow.reportKey k rows)
  unlabeled := countLabel "unlabeled" (group AlertRow.reportKey k rows)
  total := (group AlertRow.reportKey k rows).length

section Counts

variable {collation : Collation} {rows : List AlertRow}

theorem reportCounts_perm (collation : Collation) (rows : List AlertRow) :
    (reportCounts collation rows).Perm
      ((groupKeys AlertRow.reportKey rows).map (countRow rows)) :=
  (List.perm_insertionSort _ _).map _

/-!
The counts of one detector, over its metrics, are those of its alerts.
-/

theorem countP_detector_eq_sum (rows : List AlertRow) (p : AlertRow -> Bool)
    (detector : String) :
    (group (fun r => r.detector) detector rows).countP p =
      (((groupKeys AlertRow.reportKey rows).filter fun k => k.2 = detector).map fun k =>
        (group AlertRow.reportKey k rows).countP p).sum := by
  have hnodup : ((groupKeys AlertRow.reportKey rows).filter
      fun k => k.2 = detector).Nodup :=
    (List.nodup_dedup _).filter _
  have hkeys : forall r, r ∈ group (fun r => r.detector) detector rows ->
      r.reportKey ∈ (groupKeys AlertRow.reportKey rows).filter
        fun k => k.2 = detector := by
    intro r hr
    rcases mem_group.mp hr with ⟨hmem, hdetector⟩
    exact List.mem_filter.mpr
      ⟨mem_groupKeys.mpr (List.mem_map_of_mem hmem), decide_eq_true hdetector⟩
  have hsame : forall k, k ∈ ((groupKeys AlertRow.reportKey rows).filter
      fun k => k.2 = detector) ->
        (group AlertRow.reportKey k (group (fun r => r.detector) detector rows)).countP p =
          (group AlertRow.reportKey k rows).countP p := by
    intro k hk
    have hdetector := of_decide_eq_true (List.mem_filter.mp hk).2
    have hgroup : group AlertRow.reportKey k (group (fun r => r.detector) detector rows) =
        group AlertRow.reportKey k rows := by
      apply filter_filter_of_imp
      intro r hr
      apply decide_eq_true
      rw [← hdetector, ← of_decide_eq_true hr]
      rfl
    rw [hgroup]
  rw [countP_eq_sum_groups AlertRow.reportKey p hnodup _ hkeys, List.map_congr_left hsame]

def statsRow (rows : List AlertRow) (detector : String) : DetectorStats :=
  let members := group (fun r => r.detector) detector rows
  { detector := detector
    truePositive := countLabel "true_positive" members
    falsePositive := countLabel "false_positive" members
    unlabeled := countLabel "unlabeled" members
    total := members.length
    precision := precisionOf (countLabel "true_positive" members)
      (countLabel "false_positive" members) }

theorem feedbackStats_perm (collation : Collation) (db : Database) (tenant : String) :
    (feedbackStatsByDetector collation db tenant).Perm
      ((groupKeys (fun r => r.detector) (db.alerts.filter fun r => r.tenant = tenant)).map
        (statsRow (db.alerts.filter fun r => r.tenant = tenant))) :=
  (List.perm_insertionSort _ _).map _

end Counts

/-!
# Recall
-/

section Recall

variable {tps : List TpRow} {k : String × String}

def coveredEvents (tps : List TpRow) (k : String × String) : Nat :=
  countDistinct Prod.snd (group Prod.fst k tps)

def confirmedEvents (tps : List TpRow) (metric : String) : Nat :=
  countDistinct Prod.snd (tps.filter fun r => r.1.1 = metric)

def recallRow (tps : List TpRow) (k : String × String) : RecallRow where
  metricName := k.1
  detector := k.2
  coveredBuckets := coveredEvents tps k
  totalBuckets := confirmedEvents tps k.1

theorem reportRecall_eq (tps : List TpRow) :
    reportRecall tps = (groupKeys Prod.fst tps).map (recallRow tps) := rfl

theorem coveredEvents_le (tps : List TpRow) (k : String × String) :
    coveredEvents tps k ≤ confirmedEvents tps k.1 := by
  apply countDistinct_mono
  intro t ht
  rcases mem_group.mp ht with ⟨hmem, hkey⟩
  exact List.mem_filter.mpr ⟨hmem, decide_eq_true (congrArg Prod.fst hkey)⟩

/-- A detector covers an event exactly when it has a true positive. -/
theorem coveredEvents_pos_iff (width : Nat) (rows : List AlertRow) (k : String × String) :
    0 < coveredEvents (tpRows width rows) k <->
      0 < countLabel "true_positive" (group AlertRow.reportKey k rows) := by
  unfold coveredEvents countLabel
  rw [countDistinct_pos_iff, List.countP_pos_iff]
  constructor
  · intro h
    rcases h with ⟨t, ht⟩
    rcases mem_group.mp ht with ⟨hmem, hkey⟩
    rcases List.mem_map.mp hmem with ⟨r, hr, hrow⟩
    rcases List.mem_filter.mp hr with ⟨hr, hlabel⟩
    refine ⟨r, mem_group.mpr ⟨hr, ?_⟩, hlabel⟩
    rw [← hkey, ← hrow]
    rfl
  · intro h
    rcases h with ⟨r, hr, hlabel⟩
    rcases mem_group.mp hr with ⟨hr, hkey⟩
    exact ⟨_, mem_group.mpr
      ⟨List.mem_map_of_mem (List.mem_filter.mpr ⟨hr, hlabel⟩), hkey⟩⟩

/-- Every confirmed event of a metric is covered by one of its detectors. -/
theorem confirmedEvents_le_sum (width : Nat) (rows : List AlertRow) (metric : String) :
    confirmedEvents (tpRows width rows) metric ≤
      (((groupKeys AlertRow.reportKey rows).filter fun k => k.1 = metric).map
        (coveredEvents (tpRows width rows))).sum := by
  have hkeys : forall t, t ∈ (tpRows width rows).filter (fun t => t.1.1 = metric) ->
      t.1 ∈ (groupKeys AlertRow.reportKey rows).filter fun k => k.1 = metric := by
    intro t ht
    rcases List.mem_filter.mp ht with ⟨hmem, hmetric⟩
    rcases List.mem_map.mp hmem with ⟨r, hr, hrow⟩
    refine List.mem_filter.mpr ⟨?_, hmetric⟩
    rw [← hrow]
    exact mem_groupKeys.mpr (List.mem_map_of_mem (List.mem_filter.mp hr).1)
  have hsame : forall k, k ∈ ((groupKeys AlertRow.reportKey rows).filter
      fun k => k.1 = metric) ->
        countDistinct Prod.snd (group Prod.fst k
          ((tpRows width rows).filter fun t => t.1.1 = metric)) =
            coveredEvents (tpRows width rows) k := by
    intro k hk
    have hmetric := of_decide_eq_true (List.mem_filter.mp hk).2
    have hgroup : group Prod.fst k ((tpRows width rows).filter fun t => t.1.1 = metric) =
        group Prod.fst k (tpRows width rows) := by
      apply filter_filter_of_imp
      intro t ht
      apply decide_eq_true
      rw [of_decide_eq_true ht, hmetric]
    rw [hgroup]
    rfl
  have hle := countDistinct_le_sum_groups Prod.snd Prod.fst _ _ hkeys
  rw [List.map_congr_left hsame] at hle
  exact hle

end Recall

/-!
# Labels

Alerts are stored without a label and get one of two by feedback.
-/

def knownLabels : List String :=
  ["true_positive", "false_positive", "unlabeled"]

def LabelsKnown (alerts : List AlertRow) : Prop :=
  forall r, r ∈ alerts -> r.label ∈ knownLabels

theorem LabelsKnown.filter {alerts : List AlertRow} (h : LabelsKnown alerts)
    (cond : AlertRow -> Bool) : LabelsKnown (alerts.filter cond) := by
  intro r hr
  exact h r (List.mem_filter.mp hr).1

theorem LabelsKnown.length_eq {alerts : List AlertRow} (h : LabelsKnown alerts) :
    alerts.length = countLabel "true_positive" alerts + countLabel "false_positive" alerts +
      countLabel "unlabeled" alerts := by
  unfold countLabel
  induction alerts with
  | nil =>
      rfl
  | cons r rest ih =>
      have hrest := ih (fun q hq => h q (List.mem_cons_of_mem r hq))
      have hlabel := h r List.mem_cons_self
      unfold knownLabels at hlabel
      rw [List.length_cons, hrest, List.countP_cons, List.countP_cons, List.countP_cons]
      rcases List.mem_cons.mp hlabel with heq | hlabel
      · simp only [heq, decide_true, if_true, String.reduceEq, decide_false,
          Bool.false_eq_true, if_false]
        omega
      · rcases List.mem_pair.mp hlabel with heq | heq
        · simp only [heq, decide_true, if_true, String.reduceEq, decide_false,
            Bool.false_eq_true, if_false]
          omega
        · simp only [heq, decide_true, if_true, String.reduceEq, decide_false,
            Bool.false_eq_true, if_false]
          omega

def Request.KnownLabel (r : Request) : Prop :=
  match r.op with
  | .setAlertLabel _ label _ => label ∈ knownLabels
  | _ => True

theorem persistAlert_labelsKnown {host : Host} {db : Database} {now : Detection.Instant}
    {alertId : Int} {anomaly : Alerting.Anomaly} {routedTo : List String}
    (h : LabelsKnown db.alerts) :
    LabelsKnown (persistAlert host db now alertId anomaly routedTo).2.alerts := by
  unfold persistAlert
  cases alertParams host anomaly routedTo with
  | error e =>
      exact h
  | ok params =>
      intro r hr
      rcases List.mem_append.mp hr with hr | hr
      · exact h r hr
      · rw [List.mem_singleton.mp hr]
        show "unlabeled" ∈ knownLabels
        decide

theorem setAlertLabel_labelsKnown {db : Database} {alertId : Int} {label tenant : String}
    (hlabel : label ∈ knownLabels) (h : LabelsKnown db.alerts) :
    LabelsKnown (setAlertLabel db alertId label tenant).2.alerts := by
  intro r hr
  rcases List.mem_map.mp hr with ⟨q, hq, hrow⟩
  rw [← hrow]
  split
  · exact hlabel
  · exact h q hq

theorem exec_labelsKnown (host : Host) (settings : Settings) (collation : Collation)
    (db : Database) (r : Request) (hr : r.KnownLabel) (h : LabelsKnown db.alerts) :
    LabelsKnown (exec host settings collation db r).2.alerts := by
  rcases r with ⟨now, op⟩
  cases op with
  | bulkInsert points tenant =>
      show LabelsKnown (bulkInsert db points tenant).2.alerts
      unfold bulkInsert
      cases metricRows tenant points with
      | none =>
          exact h
      | some rows =>
          exact h
  | persistAlert alertId anomaly routedTo =>
      exact persistAlert_labelsKnown h
  | setAlertLabel alertId label tenant =>
      exact setAlertLabel_labelsKnown hr h
  | persistDetectorModel metricName detectorType parameters tenant =>
      show LabelsKnown
        (persistDetectorModel db now metricName detectorType parameters tenant).2.alerts
      unfold persistDetectorModel
      split
      · exact h
      · exact h
  | _ =>
      exact h

end Storage
end MetricMesh
