import MetricMesh.Alerting.Consensus

/-!
# Laws of consensus

Over anomalies with parseable timestamps and a width with a double, consensus is
a quorum: the groups are the keys and the detectors are the voters.  The laws
below relate two runs, and the clock may show different times in them.
-/

namespace MetricMesh
namespace Alerting

open Foundation
open Python

/-- The two loops, which `apply_consensus` goes through for two detectors or more. -/
def countingConsensus (host : Host) (settings : Settings) (now : Rat)
    (anomalies : List Anomaly) (minDetectors : Int)
    (bucketSeconds : Option Int) : Except PyError (List Anomaly) :=
  let group := groupOf host settings now bucketSeconds
  match detectorsByGroup group [] anomalies with
  | .error e => .error e
  | .ok groups => surviving group groups minDetectors anomalies

theorem applyConsensus_eq_counting (host : Host) (settings : Settings) (now : Rat)
    (anomalies : List Anomaly) {minDetectors : Int} (h : ¬ minDetectors ≤ 1)
    (bucketSeconds : Option Int) :
    applyConsensus host settings now anomalies minDetectors bucketSeconds =
      countingConsensus host settings now anomalies minDetectors bucketSeconds :=
  if_neg h

section Laws

variable {host : Host} {settings : Settings} {bucketSeconds : Option Int}

theorem countingConsensus_of_parseable {anomalies : List Anomaly}
    (hdouble : Host.HasDouble (bucketSeconds.getD settings.dedupBucketSeconds))
    (hwidth : bucketSeconds.getD settings.dedupBucketSeconds ≠ 0)
    (h : forall a, a ∈ anomalies -> a.Parseable host) (now : Rat) (minDetectors : Int) :
    countingConsensus host settings now anomalies minDetectors bucketSeconds =
      .ok (quorum (stableGroup host (bucketSeconds.getD settings.dedupBucketSeconds))
        Anomaly.detectorName minDetectors anomalies) := by
  have hgroup := fun a ha => groupOf_of_parseable hdouble hwidth (h a ha) now
  rcases detectorsByGroup_ok anomalies hgroup [] with ⟨groups, hgroups, hdetectors⟩
  have hempty : forall k : Group, detectorsOf [] k = ∅ := fun _ => rfl
  unfold countingConsensus
  simp only [hgroups]
  rw [surviving_ok anomalies hgroup]
  simp only [hdetectors, hempty, Finset.empty_union]
  rfl

theorem stableGroup_eq_of_groupOf {a b : Anomaly}
    (hdouble : Host.HasDouble (bucketSeconds.getD settings.dedupBucketSeconds))
    (hwidth : bucketSeconds.getD settings.dedupBucketSeconds ≠ 0)
    (ha : a.Parseable host) (hb : b.Parseable host) {now : Rat}
    (h : groupOf host settings now bucketSeconds a =
      groupOf host settings now bucketSeconds b) :
    stableGroup host (bucketSeconds.getD settings.dedupBucketSeconds) a =
      stableGroup host (bucketSeconds.getD settings.dedupBucketSeconds) b := by
  rw [groupOf_of_parseable hdouble hwidth ha, groupOf_of_parseable hdouble hwidth hb] at h
  exact Except.ok.inj h

theorem groupOf_of_wide
    (hwide : ¬ Host.HasDouble (bucketSeconds.getD settings.dedupBucketSeconds)) (now : Rat)
    (a : Anomaly) :
    exists e, groupOf host settings now bucketSeconds a = .error e := by
  unfold groupOf timeBucket
  cases toEpoch host now (a.timestamp.getD .null) with
  | error e =>
      exact ⟨e, rfl⟩
  | ok epoch =>
      dsimp only
      cases hbucket : floorDivInt epoch (bucketSeconds.getD settings.dedupBucketSeconds) with
      | error e =>
          exact ⟨e, rfl⟩
      | ok bucket =>
          exact absurd (hasDouble_of_floorDivInt hbucket) hwide

theorem countingConsensus_of_wide
    (hwide : ¬ Host.HasDouble (bucketSeconds.getD settings.dedupBucketSeconds)) (now : Rat)
    (a : Anomaly) (rest : List Anomaly) (minDetectors : Int) :
    exists e, countingConsensus host settings now (a :: rest) minDetectors bucketSeconds =
      .error e := by
  rcases @groupOf_of_wide host settings bucketSeconds hwide now a with ⟨e, he⟩
  exact ⟨e, by simp [countingConsensus, detectorsByGroup, he]⟩

/--
Consensus is a projection that respects order, permutations, larger batches and
stricter requirements, and that treats a group as a whole.
-/
structure Projects (host : Host) (settings : Settings) (bucketSeconds : Option Int) (now : Rat)
    (minDetectors : Int) (anomalies kept : List Anomaly) : Prop where
  run : applyConsensus host settings now anomalies minDetectors bucketSeconds = .ok kept
  ordered : kept.Sublist anomalies
  idempotent : forall later,
    applyConsensus host settings later kept minDetectors bucketSeconds = .ok kept
  permuted : forall later reordered, reordered.Perm anomalies ->
    applyConsensus host settings later reordered minDetectors bucketSeconds =
      .ok (reordered.filter (fun a => a ∈ kept))
  stricter : forall later, exists fewer,
    applyConsensus host settings later anomalies (minDetectors + 1) bucketSeconds =
      .ok fewer ∧ fewer.Sublist kept
  larger : forall later more, anomalies.Sublist more ->
    (forall a, a ∈ more -> a.Parseable host) -> exists keptOfMore,
      applyConsensus host settings later more minDetectors bucketSeconds =
        .ok keptOfMore ∧ kept.Sublist keptOfMore
  grouped : forall later a b, a ∈ anomalies -> b ∈ anomalies ->
    groupOf host settings later bucketSeconds a =
      groupOf host settings later bucketSeconds b -> (a ∈ kept <-> b ∈ kept)
  shortcut : minDetectors ≤ 1 -> forall later,
    countingConsensus host settings later anomalies 1 bucketSeconds = .ok kept

theorem projects_of_hasDouble
    (hdouble : Host.HasDouble (bucketSeconds.getD settings.dedupBucketSeconds))
    (hwidth : 1 ≤ bucketSeconds.getD settings.dedupBucketSeconds)
    {anomalies : List Anomaly} (h : forall a, a ∈ anomalies -> a.Parseable host)
    (now : Rat) (minDetectors : Int) :
    Projects host settings bucketSeconds now minDetectors anomalies
      (quorum (stableGroup host (bucketSeconds.getD settings.dedupBucketSeconds))
        Anomaly.detectorName minDetectors anomalies) := by
  have hne : bucketSeconds.getD settings.dedupBucketSeconds ≠ 0 := by omega
  have hkept : forall a,
      a ∈ quorum (stableGroup host (bucketSeconds.getD settings.dedupBucketSeconds))
        Anomaly.detectorName minDetectors anomalies -> a.Parseable host :=
    fun a ha => h a (quorum_subset _ _ ha)
  constructor
  · exact applyConsensus_of_parseable hdouble hne h now minDetectors
  · exact quorum_sublist _ _
  · intro later
    rw [applyConsensus_of_parseable hdouble hne hkept]
    exact congrArg Except.ok (quorum_quorum _ _)
  · intro later reordered hperm
    rw [applyConsensus_of_parseable hdouble hne (fun a ha => h a (hperm.subset ha))]
    exact congrArg Except.ok (quorum_perm hperm _)
  · intro later
    exact ⟨_, applyConsensus_of_parseable hdouble hne h later _,
      quorum_antitone (by omega) _⟩
  · intro later more hsub hmore
    exact ⟨_, applyConsensus_of_parseable hdouble hne hmore later _, quorum_mono hsub _⟩
  · intro later a b ha hb hgroup
    exact mem_quorum_congr ha hb
      (stableGroup_eq_of_groupOf hdouble hne (h a ha) (h b hb) hgroup)
  · intro hmin later
    rw [countingConsensus_of_parseable hdouble hne h]
    rw [quorum_of_le_one (le_refl 1), quorum_of_le_one hmin]

/-- Without an anomaly, no width is looked at. -/
theorem projects_nil {minDetectors : Int} (hmin : minDetectors ≤ 1) (now : Rat) :
    Projects host settings bucketSeconds now minDetectors [] [] := by
  have hempty : forall later k,
      applyConsensus host settings later [] k bucketSeconds = .ok [] := by
    intro later k
    unfold applyConsensus
    split_ifs <;> rfl
  constructor
  · exact hempty now minDetectors
  · exact .slnil
  · intro later
    exact hempty later minDetectors
  · intro later reordered hperm
    rw [List.perm_nil.mp hperm]
    exact hempty later minDetectors
  · intro later
    exact ⟨[], hempty later _, .slnil⟩
  · intro later more _ _
    exact ⟨more, if_pos hmin, List.nil_sublist more⟩
  · intro later a b ha
    cases ha
  · intro _ later
    rfl

theorem Projects.hasDouble_of_mem {now : Rat} {minDetectors : Int} {a : Anomaly}
    {rest kept : List Anomaly}
    (h : Projects host settings bucketSeconds now minDetectors (a :: rest) kept) :
    Host.HasDouble (bucketSeconds.getD settings.dedupBucketSeconds) := by
  by_contra hwide
  by_cases hmin : minDetectors ≤ 1
  · rcases @countingConsensus_of_wide host settings bucketSeconds hwide 0 a rest 1 with
      ⟨e, he⟩
    rw [h.shortcut hmin 0] at he
    cases he
  · rcases @countingConsensus_of_wide host settings bucketSeconds hwide now a rest
      minDetectors with ⟨e, he⟩
    rw [← applyConsensus_eq_counting host settings now _ hmin, h.run] at he
    cases he

theorem Projects.hasDouble_of_lt {now : Rat} {minDetectors : Int}
    {anomalies kept : List Anomaly}
    (h : Projects host settings bucketSeconds now minDetectors anomalies kept)
    (hparse : forall a, a ∈ anomalies -> a.Parseable host) (hmin : 1 < minDetectors) :
    Host.HasDouble (bucketSeconds.getD settings.dedupBucketSeconds) := by
  by_contra hwide
  let dated : Anomaly :=
    { Anomaly.spikeOf "acme" "cpu_usage" with timestamp := some (.float (.finite 0)) }
  have hmore : forall a, a ∈ dated :: anomalies -> a.Parseable host := by
    intro a ha
    rcases List.mem_cons.mp ha with rfl | ha
    · rfl
    · exact hparse a ha
  rcases h.larger 0 _ (List.sublist_cons_self dated anomalies) hmore with ⟨more, hrun, _⟩
  rcases @countingConsensus_of_wide host settings bucketSeconds hwide 0 dated anomalies
    minDetectors with ⟨e, he⟩
  rw [← applyConsensus_eq_counting host settings 0 _ (not_le_of_gt hmin), hrun] at he
  cases he

/--
Consensus is such a projection exactly when the bucket width has a double, or
when there is no anomaly and one detector is enough, so that no width is needed.
-/
theorem applyConsensus_projection_iff
    (hwidth : 1 ≤ bucketSeconds.getD settings.dedupBucketSeconds)
    {anomalies : List Anomaly} (h : forall a, a ∈ anomalies -> a.Parseable host)
    (now : Rat) (minDetectors : Int) :
    (exists kept, Projects host settings bucketSeconds now minDetectors anomalies kept) <->
      Host.HasDouble (bucketSeconds.getD settings.dedupBucketSeconds) ∨
        (minDetectors ≤ 1 ∧ anomalies = []) := by
  constructor
  · intro hprojects
    rcases hprojects with ⟨kept, hprojects⟩
    cases anomalies with
    | cons a rest =>
        exact Or.inl hprojects.hasDouble_of_mem
    | nil =>
        rcases le_or_gt minDetectors 1 with hmin | hmin
        · exact Or.inr ⟨hmin, rfl⟩
        · exact Or.inl (hprojects.hasDouble_of_lt h hmin)
  · intro hcond
    rcases hcond with hdouble | ⟨hmin, hnil⟩
    · exact ⟨_, projects_of_hasDouble hdouble hwidth h now minDetectors⟩
    · rw [hnil]
      exact ⟨[], projects_nil hmin now⟩

end Laws

/-!
Two detectors agree on one spike.  Under a width beyond the double range their
agreement is never found.
-/

def agreeingSpikes : List Anomaly :=
  [Anomaly.spikeOf "acme" "cpu_usage",
    { Anomaly.spikeOf "acme" "cpu_usage" with detector := some "prophet" }]

theorem agreeingSpikes_parseable :
    forall a, a ∈ agreeingSpikes -> a.Parseable (Host.withDigests []) := by
  decide +kernel

theorem agreeingSpikes_projection :
    exists kept,
      Projects (Host.withDigests []) Settings.defaults none 0 2 agreeingSpikes kept :=
  (applyConsensus_projection_iff (by decide) agreeingSpikes_parseable 0 2).mpr
    (Or.inl (by decide +kernel))

def wideSettings : Settings :=
  { Settings.defaults with
    dedupBucketSeconds := 10 ^ 309
    dedupBucketSeconds_ge := by decide +kernel }

theorem wideBucket_raises :
    ¬ forall (host : Host) (settings : Settings) (bucketSeconds : Option Int)
      (anomalies : List Anomaly) (now : Rat) (minDetectors : Int),
      1 ≤ bucketSeconds.getD settings.dedupBucketSeconds ->
        (forall a, a ∈ anomalies -> a.Parseable host) ->
          exists kept,
            Projects host settings bucketSeconds now minDetectors anomalies kept := by
  intro h
  rcases h (Host.withDigests []) wideSettings none agreeingSpikes 0 2
    wideSettings.dedupBucketSeconds_ge agreeingSpikes_parseable with ⟨kept, hprojects⟩
  have hdouble := hprojects.hasDouble_of_mem
  revert hdouble
  decide +kernel

end Alerting
end MetricMesh
