import MetricMesh.Alerting.Isolation
import MetricMesh.Workers.Installation
import MetricMesh.Workers.PathAgreement

/-!
# What the tasks of an installation report

Whatever the order of events, an anomaly in the report of a task carries the
names of that task and the text of an instant.
-/

namespace MetricMesh
namespace Workers

open Foundation
open Python
open Alerting
open Api
open Detection
open Storage

/--
The text of every instant is read back as an instant, and no text of the run has a
lone surrogate; a database would not have stored it.
-/
structure ReadsInstants (host : Host) : Prop where
  instants : forall t : Instant,
    (host.fromisoformat (replaceChar (strip (host.isoformat t)) 'Z' "+00:00")).isSome
  encodes : forall s : String, host.encodes s = true

def punctualHost : Host :=
  { tenantHost with
    isoformat := fun _ => "2023-11-14T22:13:20+00:00"
    fromisoformat := fun _ => some 1700000000 }

def punctual : Libraries :=
  { noLibraries with host := punctualHost }

theorem punctual_readsInstants : ReadsInstants punctual.host where
  instants := fun _ => rfl
  encodes := fun _ => List.all_eq_true.mpr fun _ _ => rfl

structure ReportedBy (host : Host) (task : Signature) (a : Anomaly) : Prop where
  tenant : a.tenantName = task.tenant
  metric : a.metric = task.metricName
  detector : a.detectorName = reportedAs task
  timestamp : exists t : Instant, a.timestamp = some (.str (host.isoformat t))

theorem ReportedBy.hasKey {host : Host} (hreads : ReadsInstants host)
    {task : Signature} {a : Anomaly} (h : ReportedBy host task a) : a.HasKey host := by
  refine ⟨?_, hreads.encodes _, hreads.encodes _, hreads.encodes _⟩
  rcases h.timestamp with ⟨t, ht⟩
  unfold Anomaly.Parseable Anomaly.instant
  rw [ht]
  exact hreads.instants t

/-!
# One execution
-/

section Executions

variable {lib : Libraries} {settings : Settings}

theorem result_of_attempt {stored : StoredModel} {series : Series Rat} {task : Signature}
    {report : DetectorReport} {a : Anomaly}
    (hreport : attempt lib settings stored series task = .ok report)
    (ha : a ∈ report.anomalies.getD []) :
    exists r : AnomalyResult Rat, r.toDict lib.host task.tenant = a ∧
      r.metricName = task.metricName ∧ r.detector = reportedAs task ∧
      (r.timestamp, r.value) ∈ series.points := by
  cases task with
  | runStatistical metricName method tenant =>
      rcases of_mem_detectorTask rfl (fun _ => rfl) hreport ha with
        ⟨_, _, _, _, r, _, _, hdetect, hr, hdict⟩
      rcases StatisticalDetector.detectWith_eq_ok.mp hdetect with ⟨_, _, heq⟩
      rw [← heq] at hr
      rcases List.mem_map.mp hr with ⟨p, hp, hr⟩
      have hpoint := (List.of_mem_zip (mem_pointsAtOrAbove.mp hp).1).1
      refine ⟨r, hdict, ?_⟩
      rw [← hr]
      exact ⟨rfl, rfl, List.mem_of_mem_drop hpoint⟩
  | runIsolationForest metricName tenant =>
      rcases of_mem_detectorTask rfl (fun _ => rfl) hreport ha with
        ⟨_, _, _, _, r, _, _, hdetect, hr, hdict⟩
      rcases IsolationForestDetector.detectWith_eq_ok.mp hdetect with ⟨_, _, heq⟩
      rw [← heq] at hr
      rcases List.mem_map.mp hr with ⟨p, hp, hr⟩
      have hpoint := (List.of_mem_zip (IsolationForestDetector.mem_fired.mp hp).1).1
      refine ⟨r, hdict, ?_⟩
      rw [← hr]
      exact ⟨rfl, rfl, List.mem_of_mem_drop hpoint⟩
  | runProphet metricName tenant =>
      rcases of_mem_detectorTask rfl (fun _ => rfl) hreport ha with
        ⟨_, _, _, _, r, _, _, hdetect, hr, hdict⟩
      rcases ProphetDetector.detectWith_eq_ok.mp hdetect with ⟨_, _, heq⟩
      rw [← heq] at hr
      rcases List.mem_map.mp hr with ⟨p, hp, hr⟩
      have hpoint := (List.of_mem_zip (mem_pointsAtOrAbove.mp hp).1).1
      refine ⟨r, hdict, ?_⟩
      rw [← hr]
      exact ⟨rfl, rfl, List.mem_of_mem_drop hpoint⟩

theorem reportedBy_of_attempt {stored : StoredModel} {series : Series Rat}
    {task : Signature} {report : DetectorReport} {a : Anomaly}
    (hreport : attempt lib settings stored series task = .ok report)
    (ha : a ∈ report.anomalies.getD []) : ReportedBy lib.host task a := by
  rcases result_of_attempt hreport ha with ⟨r, hdict, hmetric, hdetector, _⟩
  rw [← hdict]
  exact ⟨rfl, hmetric, hdetector, r.timestamp, rfl⟩

end Executions

/-!
# Chords
-/

namespace Chord

def Every (P : Signature -> Anomaly -> Prop) (chord : Chord) : Prop :=
  forall entry, entry ∈ chord -> forall report, entry.2 = .done (.ok report) ->
    forall a, a ∈ report.anomalies.getD [] -> P entry.1 a

theorem every_nil (P : Signature -> Anomaly -> Prop) : Every P [] := by
  intro entry hentry
  cases hentry

theorem every_ofTasks (P : Signature -> Anomaly -> Prop) (tasks : List Signature) :
    Every P (ofTasks tasks) := by
  intro entry hentry report hdone
  rcases List.mem_map.mp hentry with ⟨task, _, heq⟩
  rw [← heq] at hdone
  cases hdone

theorem Every.mono {P Q : Signature -> Anomaly -> Prop} {chord : Chord}
    (h : Every P chord) (himp : forall task a, P task a -> Q task a) : Every Q chord := by
  intro entry hentry report hdone a ha
  exact himp entry.1 a (h entry hentry report hdone a ha)

theorem after_eq_done {result outcome : Attempt} {progress : Progress}
    (h : progress.after result = .done outcome) :
    outcome = result ∨ progress = .done outcome := by
  cases progress with
  | waiting retries =>
      left
      cases retries with
      | zero =>
          injection h with h
          exact h.symm
      | succ retries =>
          simp only [Progress.after] at h
          split at h
          · cases h
          · injection h with h
            exact h.symm
  | done earlier =>
      exact Or.inr h

theorem Every.record {P : Signature -> Anomaly -> Prop} {chord : Chord}
    (h : Every P chord) {task : Signature} {result : Attempt}
    (hresult : forall report, result = .ok report ->
      forall a, a ∈ report.anomalies.getD [] -> P task a) :
    Every P (chord.record task result) := by
  intro entry hentry report hdone a ha
  rcases List.mem_map.mp hentry with ⟨earlier, hearlier, heq⟩
  by_cases htask : earlier.1 = task
  · rw [if_pos htask] at heq
    rw [← heq] at hdone
    rw [← heq, htask]
    rcases after_eq_done hdone with hnew | hold
    · exact hresult report hnew.symm a ha
    · rw [← htask]
      exact h earlier hearlier report hold a ha
  · rw [if_neg htask] at heq
    rw [← heq] at hdone
    rw [← heq]
    exact h earlier hearlier report hdone a ha

theorem mem_reported {chord : Chord} {a : Anomaly} :
    a ∈ chord.reported <-> exists entry report, entry ∈ chord ∧
      entry.2 = .done (.ok report) ∧ a ∈ report.anomalies.getD [] := by
  unfold reported
  rw [List.mem_flatMap]
  constructor
  · intro h
    rcases h with ⟨entry, hentry, ha⟩
    split at ha
    · rename_i report hdone
      exact ⟨entry, report, hentry, hdone, ha⟩
    · cases ha
  · intro h
    rcases h with ⟨entry, report, hentry, hdone, ha⟩
    refine ⟨entry, hentry, ?_⟩
    rw [hdone]
    exact ha

theorem Every.of_mem_reported {P : Signature -> Anomaly -> Prop} {chord : Chord}
    (h : Every P chord) {a : Anomaly} (ha : a ∈ chord.reported) :
    exists task, P task a := by
  rcases mem_reported.mp ha with ⟨entry, report, hentry, hdone, ha⟩
  exact ⟨entry.1, h entry hentry report hdone a ha⟩

theorem allAnomalies_results {chord : Chord} :
    forall {reports : List TaskResult}, chord.results = some reports ->
      allAnomalies reports = chord.reported := by
  induction chord with
  | nil =>
      intro reports h
      injection h with h
      rw [← h]
      rfl
  | cons entry rest ih =>
      intro reports h
      rcases entry with ⟨task, progress⟩
      cases progress with
      | waiting retries =>
          cases h
      | done result =>
          cases result with
          | error e =>
              cases h
          | ok report =>
              rcases Option.map_eq_some_iff.mp h with ⟨earlier, hrest, heq⟩
              rw [← heq]
              show report.anomalies.getD [] ++ allAnomalies earlier = _
              rw [ih hrest]
              rfl

def succeeded (entry : Signature × Progress) : Prop :=
  exists report, entry.2 = .done (.ok report)

instance (entry : Signature × Progress) : Decidable (succeeded entry) :=
  match h : entry.2 with
  | .done (.ok report) => .isTrue ⟨report, h⟩
  | .done (.error e) => .isFalse fun ⟨report, hdone⟩ => by
      rw [h] at hdone
      cases hdone
  | .waiting n => .isFalse fun ⟨report, hdone⟩ => by
      rw [h] at hdone
      cases hdone

theorem results_isSome_iff {chord : Chord} :
    chord.results.isSome = true <-> forall entry, entry ∈ chord -> succeeded entry := by
  induction chord with
  | nil =>
      simp [results]
  | cons entry rest ih =>
      rcases entry with ⟨task, progress⟩
      rw [List.forall_mem_cons, ← ih]
      cases progress with
      | waiting retries =>
          apply iff_of_false
          · intro h
            cases h
          · intro h
            rcases h.1 with ⟨report, hdone⟩
            cases hdone
      | done result =>
          cases result with
          | error e =>
              apply iff_of_false
              · intro h
                cases h
              · intro h
                rcases h.1 with ⟨report, hdone⟩
                cases hdone
          | ok report =>
              rw [results, Option.isSome_map]
              exact (and_iff_right ⟨report, rfl⟩).symm

end Chord

/-!
# Runs
-/

namespace Installation

/-- Every report in a chord is about its task. -/
def Reported (host : Host) (s : Installation) : Prop :=
  forall id, (s.chords id).Every (ReportedBy host)

theorem forall_update {P : Chord -> Prop} {chords : Nat -> Chord}
    (h : forall id, P (chords id)) (id : Nat) {chord : Chord} (hchord : P chord) :
    forall i, P (Function.update chords id chord i) :=
  (Function.forall_update_iff chords fun _ c => P c).mpr ⟨hchord, fun i _ => h i⟩

section Steps

variable {lib : Libraries} {settings : Settings} {s : Installation}

variable {P : Signature -> Anomaly -> Prop}

theorem every_execute (h : forall id, (s.chords id).Every P) (id : Nat)
    (task : Signature) (now : Instant)
    (hreport : forall report, (execTask lib settings now s.db task).1 = .ok report ->
      forall a, a ∈ report.anomalies.getD [] -> P task a) :
    forall i, ((s.execute lib settings id task now).chords i).Every P := by
  unfold execute
  split
  · exact forall_update h id ((h id).record hreport)
  · exact h

theorem every_callback (h : forall id, (s.chords id).Every P) (id : Nat) (now : Rat)
    (failure : Failure) :
    forall i, ((s.callback lib settings id now failure).chords i).Every P := by
  unfold callback
  split
  · exact h
  · exact forall_update h id (Chord.every_nil P)

theorem reported_execute (h : s.Reported lib.host) (id : Nat) (task : Signature)
    (now : Instant) : (s.execute lib settings id task now).Reported lib.host := by
  apply every_execute h
  intro report hreport a ha
  exact reportedBy_of_attempt hreport ha

/-- No event puts an anomaly into a report that is not about its task. -/
theorem reported_step (collation : Collation) (h : s.Reported lib.host) (e : Event) :
    (step lib settings collation s e).2.Reported lib.host := by
  cases e with
  | request r =>
      exact h
  | beat id now =>
      exact forall_update h id (Chord.every_ofTasks _ _)
  | execute id task now =>
      exact reported_execute h id task now
  | callback id now failure =>
      exact every_callback h id now failure
  | route anomaly now alertId handling =>
      show (s.route lib anomaly now alertId handling).Reported lib.host
      unfold route
      split
      · exact h
      · exact h

end Steps

end Installation

end Workers
end MetricMesh
