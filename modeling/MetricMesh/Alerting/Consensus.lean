import MetricMesh.Alerting.Dedup
import MetricMesh.Foundation.Quorum

/-!
# Ensemble consensus

An anomaly is kept when enough distinct detectors flag its group, which is its
tenant, its metric, and the bucket of its timestamp.  Over anomalies with groups
the two loops of the code compute a quorum.
-/

namespace MetricMesh
namespace Alerting

open Foundation
open Python

abbrev Group : Type :=
  String × String × Int

def groupOf (host : Host) (settings : Settings) (now : Rat)
    (bucketSeconds : Option Int) (a : Anomaly) : Except PyError Group :=
  match timeBucket host settings now (a.timestamp.getD .null) bucketSeconds with
  | .error e => .error e
  | .ok bucket => .ok (a.tenantName, a.metric, bucket)

def detectorsOf (groups : Dict Group (Finset String)) (g : Group) :
    Finset String :=
  (groups.get? g).getD ∅

/-- The first loop: the distinct detectors of every group. -/
def detectorsByGroup (group : Anomaly -> Except PyError Group) :
    Dict Group (Finset String) -> List Anomaly ->
      Except PyError (Dict Group (Finset String))
  | groups, [] => .ok groups
  | groups, a :: rest =>
      match group a with
      | .error e => .error e
      | .ok g =>
          detectorsByGroup group
            (groups.insert g (insert a.detectorName (detectorsOf groups g))) rest

/-- The second loop: the anomalies whose group has enough detectors. -/
def surviving (group : Anomaly -> Except PyError Group)
    (groups : Dict Group (Finset String)) (minDetectors : Int) :
    List Anomaly -> Except PyError (List Anomaly)
  | [] => .ok []
  | a :: rest =>
      match group a with
      | .error e => .error e
      | .ok g =>
          match surviving group groups minDetectors rest with
          | .error e => .error e
          | .ok kept =>
              .ok (if minDetectors ≤ (detectorsOf groups g).card then a :: kept
                else kept)

/-- `apply_consensus`, run while the clock shows one time. -/
def applyConsensus (host : Host) (settings : Settings) (now : Rat)
    (anomalies : List Anomaly) (minDetectors : Int)
    (bucketSeconds : Option Int) : Except PyError (List Anomaly) :=
  if minDetectors ≤ 1 then
    .ok anomalies
  else
    let group := groupOf host settings now bucketSeconds
    match detectorsByGroup group [] anomalies with
    | .error e => .error e
    | .ok groups => surviving group groups minDetectors anomalies

/-!
# What the two loops compute

When every anomaly has a group, the groups are the keys of a vote and the
detectors are the voters.
-/

section Groups

variable {group : Anomaly -> Except PyError Group} {g : Anomaly -> Group}

theorem detectorsOf_insert (groups : Dict Group (Finset String)) (k k' : Group)
    (names : Finset String) :
    detectorsOf (groups.insert k names) k' =
      if k = k' then names else detectorsOf groups k' := by
  unfold detectorsOf
  rw [Dict.get?_insert]
  by_cases hk : k = k' <;> simp [hk]

theorem detectorsByGroup_ok (anomalies : List Anomaly)
    (h : forall a, a ∈ anomalies -> group a = .ok (g a)) :
    forall groups : Dict Group (Finset String), exists result,
      detectorsByGroup group groups anomalies = .ok result ∧
        forall k, detectorsOf result k =
          detectorsOf groups k ∪ votes g Anomaly.detectorName anomalies k := by
  induction anomalies with
  | nil =>
      intro groups
      exact ⟨groups, rfl, by simp [votes]⟩
  | cons a rest ih =>
      intro groups
      rcases ih (fun b hb => h b (List.mem_cons_of_mem _ hb))
        (groups.insert (g a)
          (insert a.detectorName (detectorsOf groups (g a)))) with
        ⟨result, hresult, hdetectors⟩
      refine ⟨result, ?_, ?_⟩
      · simp only [detectorsByGroup, h a List.mem_cons_self]
        exact hresult
      · intro k
        rw [hdetectors k, detectorsOf_insert]
        by_cases hk : g a = k
        · subst hk
          simp [votes, Finset.insert_union]
        · simp [votes, hk]

theorem surviving_ok {groups : Dict Group (Finset String)} {minDetectors : Int}
    (anomalies : List Anomaly)
    (h : forall a, a ∈ anomalies -> group a = .ok (g a)) :
    surviving group groups minDetectors anomalies =
      .ok (anomalies.filter
        (fun a => minDetectors ≤ (detectorsOf groups (g a)).card)) := by
  induction anomalies with
  | nil =>
      rfl
  | cons a rest ih =>
      have hrest := ih (fun b hb => h b (List.mem_cons_of_mem _ hb))
      simp only [surviving, h a List.mem_cons_self, hrest]
      by_cases hkeep : minDetectors ≤ (detectorsOf groups (g a)).card
      · simp [hkeep]
      · simp [hkeep]

end Groups

/-!
# Parseable batches
-/

/-- The group of a parseable anomaly. -/
def stableGroup (host : Host) (width : Int) (a : Anomaly) : Group :=
  (a.tenantName, a.metric, a.bucket host width)

theorem groupOf_of_parseable {host : Host} {settings : Settings}
    {bucketSeconds : Option Int} {a : Anomaly}
    (hdouble : Host.HasDouble (bucketSeconds.getD settings.dedupBucketSeconds))
    (hwidth : bucketSeconds.getD settings.dedupBucketSeconds ≠ 0)
    (h : a.Parseable host) (now : Rat) :
    groupOf host settings now bucketSeconds a =
      .ok (stableGroup host (bucketSeconds.getD settings.dedupBucketSeconds) a) := by
  unfold groupOf
  rw [h.timeBucket hdouble hwidth]
  rfl

theorem applyConsensus_of_parseable {host : Host} {settings : Settings}
    {bucketSeconds : Option Int} {anomalies : List Anomaly}
    (hdouble : Host.HasDouble (bucketSeconds.getD settings.dedupBucketSeconds))
    (hwidth : bucketSeconds.getD settings.dedupBucketSeconds ≠ 0)
    (h : forall a, a ∈ anomalies -> a.Parseable host) (now : Rat)
    (minDetectors : Int) :
    applyConsensus host settings now anomalies minDetectors bucketSeconds =
      .ok (quorum (stableGroup host (bucketSeconds.getD settings.dedupBucketSeconds))
        Anomaly.detectorName minDetectors anomalies) := by
  unfold applyConsensus
  by_cases hmin : minDetectors ≤ 1
  · rw [if_pos hmin, quorum_of_le_one hmin]
  · have hgroup := fun a ha => groupOf_of_parseable hdouble hwidth (h a ha) now
    rcases detectorsByGroup_ok anomalies hgroup [] with
      ⟨groups, hgroups, hdetectors⟩
    have hempty : forall k : Group, detectorsOf [] k = ∅ := fun _ => rfl
    simp only [if_neg hmin, hgroups]
    rw [surviving_ok anomalies hgroup]
    simp only [hdetectors, hempty, Finset.empty_union]
    rfl

def confirmed (host : Host) (settings : Settings) (minDetectors : Int)
    (batch : List Anomaly) : List Anomaly :=
  quorum (stableGroup host settings.dedupBucketSeconds) Anomaly.detectorName minDetectors
    batch

theorem mem_of_mem_confirmed {host : Host} {settings : Settings}
    {minDetectors : Int} {batch : List Anomaly} {a : Anomaly}
    (h : a ∈ confirmed host settings minDetectors batch) : a ∈ batch :=
  quorum_subset _ _ h

theorem applyConsensus_confirmed {host : Host} {settings : Settings}
    {batch : List Anomaly} (hdouble : Host.HasDouble settings.dedupBucketSeconds)
    (h : forall a, a ∈ batch -> a.Parseable host) (now : Rat) (minDetectors : Int) :
    applyConsensus host settings now batch minDetectors none =
      .ok (confirmed host settings minDetectors batch) :=
  @applyConsensus_of_parseable host settings none batch hdouble
    (dedupBucketSeconds_ne_zero settings) h now minDetectors

end Alerting
end MetricMesh
