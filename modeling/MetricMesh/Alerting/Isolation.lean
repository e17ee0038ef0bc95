import MetricMesh.Alerting.Consensus
import MetricMesh.Alerting.DedupTotality
import MetricMesh.Ingestion.Validators

/-!
# Tenant isolation of the alert pipeline

Consensus groups anomalies by a tuple, and deduplication by a joined text.  The
pipeline keeps tenants apart exactly when no two anomalies of different tenants
in the batch are joined to the same text, and no tenant has a name that cannot be
encoded beside one that can.
-/

namespace MetricMesh
namespace Alerting

open Foundation
open Python

/-- Consensus and then deduplication, as `aggregate_and_alert` composes them. -/
def pipeline (host : Host) (settings : Settings) (now : Rat) (redis : Redis)
    (minDetectors : Int) (batch : List Anomaly) :
    Except PyError (List Anomaly) :=
  match applyConsensus host settings now batch minDetectors none with
  | .error e => .error e
  | .ok confirmed =>
      ((AlertDeduplicator.ofSettings settings).filter host settings now redis
        confirmed).1

def ofTenant (tenant : String) (batch : List Anomaly) : List Anomaly :=
  batch.filter (fun a => a.tenantName = tenant)

def survivors (host : Host) (settings : Settings) (now : Rat) (redis : Redis)
    (minDetectors : Int) (tenant : String) (batch : List Anomaly) :
    List Anomaly :=
  match pipeline host settings now redis minDetectors batch with
  | .ok unique => ofTenant tenant unique
  | .error _ => []

/-- No tenant is affected by the others, and no fingerprint is shared. -/
def Isolated (host : Host) (settings : Settings) (batch : List Anomaly) : Prop :=
  (forall tenant now redis minDetectors,
    survivors host settings now redis minDetectors tenant batch =
      survivors host settings now redis minDetectors tenant
        (ofTenant tenant batch)) ∧
  forall a, a ∈ batch -> forall b, b ∈ batch -> a.tenantName ≠ b.tenantName ->
    forall now fp,
      (AlertDeduplicator.ofSettings settings).fingerprint host settings now a = .ok fp ->
        (AlertDeduplicator.ofSettings settings).fingerprint host settings now b ≠ .ok fp

def detectorNames : List String :=
  ["statistical", "prophet", "isolation_forest"]

/--
The batches in question: parseable timestamps, metric names that a database can
store, the three detectors, and a truncated digest that is injective on the texts
of the batch.
-/
structure DetectorBatch (host : Host) (settings : Settings)
    (batch : List Anomaly) : Prop where
  parseable : forall a, a ∈ batch -> a.Parseable host
  metric : forall a, a ∈ batch -> host.encodes a.metric = true
  detector : forall a, a ∈ batch -> a.detectorName ∈ detectorNames
  injective : forall a, a ∈ batch -> forall b, b ∈ batch ->
    a.Encodes host -> b.Encodes host ->
    (AlertDeduplicator.ofSettings settings).stableFingerprint host a =
      (AlertDeduplicator.ofSettings settings).stableFingerprint host b ->
    (AlertDeduplicator.ofSettings settings).stableText host a =
      (AlertDeduplicator.ofSettings settings).stableText host b

/--
One tenant's name is the other's, a colon and more, and the other's metric
begins with what the longer name adds.
-/
def Overlaps (host : Host) (settings : Settings) (a b : Anomaly) : Prop :=
  a.detectorName = b.detectorName ∧
    a.bucket host settings.dedupBucketSeconds =
      b.bucket host settings.dedupBucketSeconds ∧
    exists s, a.tenantName = b.tenantName ++ ":" ++ s ∧
      b.metric = s ++ ":" ++ a.metric

def AlikeEncoded (host : Host) (batch : List Anomaly) : Prop :=
  forall a, a ∈ batch -> forall b, b ∈ batch ->
    host.encodes a.tenantName = true -> host.encodes b.tenantName = true

/-!
# When two texts agree
-/

theorem colon_not_mem_detector {name : String} (h : name ∈ detectorNames) :
    ':' ∉ name.toList := by
  simp only [detectorNames, List.mem_cons, List.not_mem_nil, or_false] at h
  rcases h with rfl | rfl | rfl <;> decide

/-- The bucket and the detector can be read back from the joined text. -/
theorem keyText_inj {tenant tenant' metric metric' detector detector' : String}
    {bucket bucket' : Int} (hname : detector ∈ detectorNames)
    (hname' : detector' ∈ detectorNames) :
    AlertDeduplicator.keyText tenant metric detector bucket =
        AlertDeduplicator.keyText tenant' metric' detector' bucket' <->
      detector = detector' ∧ bucket = bucket' ∧
        tenant.toList ++ ':' :: metric.toList =
          tenant'.toList ++ ':' :: metric'.toList := by
  constructor
  · intro h
    rcases AlertDeduplicator.bucket_of_keyText h with ⟨hbucket, hrest⟩
    rcases append_sep_inj_right (colon_not_mem_detector hname)
      (colon_not_mem_detector hname') hrest with ⟨hnames, hdetector⟩
    exact ⟨String.toList_inj.mp hdetector, hbucket, hnames⟩
  · intro h
    rcases h with ⟨hdetector, hbucket, hnames⟩
    apply String.toList_inj.mp
    rw [AlertDeduplicator.keyText_toList, AlertDeduplicator.keyText_toList, hdetector, hbucket,
      hnames]

theorem names_overlap_iff {tenant tenant' metric metric' : String}
    (hne : tenant ≠ tenant') :
    tenant.toList ++ ':' :: metric.toList =
        tenant'.toList ++ ':' :: metric'.toList <->
      (exists s, tenant = tenant' ++ ":" ++ s ∧ metric' = s ++ ":" ++ metric) ∨
        exists s, tenant' = tenant ++ ":" ++ s ∧ metric = s ++ ":" ++ metric' := by
  have hchars : forall t t' m m' : String,
      (exists s, t.toList = t'.toList ++ ':' :: s ∧
        m'.toList = s ++ ':' :: m.toList) <->
      exists s, t = t' ++ ":" ++ s ∧ m' = s ++ ":" ++ m := by
    intro t t' m m'
    constructor
    · intro h
      rcases h with ⟨s, ht, hm⟩
      refine ⟨String.ofList s, String.toList_inj.mp ?_, String.toList_inj.mp ?_⟩
      · simp [ht]
      · simp [hm]
    · intro h
      rcases h with ⟨s, ht, hm⟩
      refine ⟨s.toList, ?_, ?_⟩
      · simp [ht]
      · simp [hm]
  rw [append_sep_overlap (fun h => hne (String.toList_inj.mp h)), hchars, hchars]

theorem encodes_detector (host : Host) {name : String} (h : name ∈ detectorNames) :
    host.encodes name = true := by
  have hascii : name.toList.all (fun c => c.toNat < 128) = true := by
    simp only [detectorNames, List.mem_cons, List.not_mem_nil, or_false] at h
    rcases h with rfl | rfl | rfl <;> decide
  unfold Host.encodes
  rw [List.all_eq_true] at hascii ⊢
  intro c hc
  rw [host.ascii_not_surrogate c (of_decide_eq_true (hascii c hc))]
  rfl

theorem DetectorBatch.encodes_iff {host : Host} {settings : Settings}
    {batch : List Anomaly} (h : DetectorBatch host settings batch) {a : Anomaly}
    (ha : a ∈ batch) : a.Encodes host <-> host.encodes a.tenantName = true := by
  constructor
  · intro hencodes
    exact hencodes.1
  · intro htenant
    exact ⟨htenant, h.metric a ha, encodes_detector host (h.detector a ha)⟩

theorem encodes_append (host : Host) (s t : String) :
    host.encodes (s ++ t) = (host.encodes s && host.encodes t) := by
  unfold Host.encodes
  rw [String.toList_append, List.all_append]

theorem encodes_of_overlaps {host : Host} {settings : Settings} {a b : Anomaly}
    (h : Overlaps host settings a b) (hmetric : host.encodes b.metric = true) :
    host.encodes a.tenantName = host.encodes b.tenantName := by
  rcases h with ⟨_, _, s, htenant, hname⟩
  have hcolon : host.encodes ":" = true := by
    simp [Host.encodes, host.ascii_not_surrogate ':' (by decide)]
  rw [hname, encodes_append, encodes_append] at hmetric
  have hs : host.encodes s = true := (Bool.and_eq_true_iff.mp
    (Bool.and_eq_true_iff.mp hmetric).1).1
  rw [htenant, encodes_append, encodes_append, hs, hcolon, Bool.and_true, Bool.and_true]

theorem overlaps_tenant_ne {host : Host} {settings : Settings} {a b : Anomaly}
    (h : Overlaps host settings a b) : a.tenantName ≠ b.tenantName := by
  rcases h with ⟨_, _, s, htenant, _⟩
  intro heq
  rw [htenant] at heq
  have hlength := congrArg (fun t => t.toList.length) heq
  simp at hlength

/-!
# Isolation

On a batch whose names encode, the pipeline claims the keys of the confirmed
anomalies in order.  Both parts respect the tenant when the keys do.  A name that
does not encode makes the call raise, whatever stands before it.
-/

section Batch

variable {host : Host} {settings : Settings} {batch : List Anomaly}

theorem confirmed_ofTenant (minDetectors : Int) (tenant : String)
    (batch : List Anomaly) :
    ofTenant tenant (confirmed host settings minDetectors batch) =
      confirmed host settings minDetectors (ofTenant tenant batch) := by
  apply quorum_filter
  intro a b hgroup
  have htenant : a.tenantName = b.tenantName := congrArg Prod.fst hgroup
  rw [htenant]

theorem pipeline_of_parseable (hdouble : Host.HasDouble settings.dedupBucketSeconds)
    (h : forall a, a ∈ batch -> a.Parseable host) (now : Rat) (redis : Redis)
    (minDetectors : Int) :
    pipeline host settings now redis minDetectors batch =
      ((AlertDeduplicator.ofSettings settings).filter host settings now redis
        (confirmed host settings minDetectors batch)).1 := by
  unfold pipeline
  rw [applyConsensus_confirmed hdouble h]

theorem claim_raises {d : AlertDeduplicator} {now : Rat} {a : Anomaly}
    (h : ¬ a.Encodes host) (redis : Redis) :
    exists e, d.claim host settings now redis a = .error e := by
  cases hfp : d.fingerprint host settings now a with
  | error e =>
      exact ⟨e, by simp [AlertDeduplicator.claim, hfp]⟩
  | ok fp =>
      exact absurd (AlertDeduplicator.hasFingerprint_of_fingerprint hfp).2 h

theorem filterLoop_raises {d : AlertDeduplicator} {now : Rat} {anomalies : List Anomaly}
    {a : Anomaly} (ha : a ∈ anomalies) (h : ¬ a.Encodes host) :
    forall (redis : Redis) (unique : List Anomaly),
      exists e, (d.filterLoop host settings now redis anomalies unique).1 = .error e := by
  induction anomalies with
  | nil =>
      cases ha
  | cons b rest ih =>
      intro redis unique
      cases hclaim : d.claim host settings now redis b with
      | error e =>
          exact ⟨e, by simp [AlertDeduplicator.filterLoop, hclaim]⟩
      | ok verdict =>
          rcases List.mem_cons.mp ha with rfl | ha
          · rcases claim_raises h redis with ⟨e, he⟩
            rw [he] at hclaim
            cases hclaim
          · rcases verdict with ⟨claimed, stamped, redis'⟩
            simp only [AlertDeduplicator.filterLoop, hclaim]
            exact ih ha redis' _

theorem survivors_of_not_canClaim {now : Rat}
    (h : ¬ (AlertDeduplicator.ofSettings settings).CanClaim now) (redis : Redis)
    (minDetectors : Int) (tenant : String) (batch : List Anomaly) :
    survivors host settings now redis minDetectors tenant batch = [] := by
  unfold survivors pipeline
  cases applyConsensus host settings now batch minDetectors none with
  | error e =>
      rfl
  | ok kept =>
      cases kept with
      | nil =>
          rfl
      | cons a rest =>
          rcases AlertDeduplicator.claim_of_not_canClaim h host settings redis a with ⟨e, he⟩
          simp [AlertDeduplicator.filter, AlertDeduplicator.filterLoop, he]

theorem survivors_of_raises (h : forall a, a ∈ batch -> a.Parseable host) (now : Rat)
    (redis : Redis) {minDetectors : Int} (tenant : String) {a : Anomaly}
    (ha : a ∈ confirmed host settings minDetectors batch) (hraises : ¬ a.Encodes host) :
    survivors host settings now redis minDetectors tenant batch = [] := by
  by_cases hclaim : (AlertDeduplicator.ofSettings settings).CanClaim now
  · unfold survivors
    rw [pipeline_of_parseable hclaim.width h]
    unfold AlertDeduplicator.filter
    rcases @filterLoop_raises host settings (AlertDeduplicator.ofSettings settings) now _ a ha
      hraises redis [] with ⟨e, he⟩
    rw [he]
  · exact survivors_of_not_canClaim hclaim redis minDetectors tenant batch

theorem survivors_of_all_raise (h : forall a, a ∈ batch -> a.Parseable host)
    (hraises : forall a, a ∈ batch -> ¬ a.Encodes host) {now : Rat}
    (hclaim : (AlertDeduplicator.ofSettings settings).CanClaim now)
    (redis : Redis) (minDetectors : Int) (tenant : String) :
    survivors host settings now redis minDetectors tenant batch = [] := by
  cases hconfirmed : confirmed host settings minDetectors batch with
  | nil =>
      unfold survivors
      rw [pipeline_of_parseable hclaim.width h, hconfirmed]
      rfl
  | cons a rest =>
      have ha : a ∈ confirmed host settings minDetectors batch := by
        rw [hconfirmed]
        exact List.mem_cons_self
      exact survivors_of_raises h now redis tenant ha (hraises a (mem_of_mem_confirmed ha))

theorem survivors_of_canClaim (h : forall a, a ∈ batch -> a.HasKey host) {now : Rat}
    (hclaim : (AlertDeduplicator.ofSettings settings).CanClaim now) (redis : Redis)
    (minDetectors : Int) (tenant : String) :
    survivors host settings now redis minDetectors tenant batch =
      (ofTenant tenant (redis.claimAll
        ((AlertDeduplicator.ofSettings settings).stableKey host) now
        (now + settings.alertCooldownSeconds)
        (confirmed host settings minDetectors batch)).1).map
          ((AlertDeduplicator.ofSettings settings).stamp host) := by
  have hbatch : forall a, a ∈ confirmed host settings minDetectors batch ->
      a.HasKey host :=
    fun a ha => h a (mem_of_mem_confirmed ha)
  unfold survivors
  rw [pipeline_of_parseable hclaim.width (fun a ha => (h a ha).1),
    AlertDeduplicator.filter_of_hasKey hclaim settings redis hbatch]
  simp only [ofTenant, List.filter_map]
  rfl

/-- Two anomalies of different tenants share a key when their names overlap. -/
theorem stableKey_eq_iff (h : DetectorBatch host settings batch) {a b : Anomaly}
    (ha : a ∈ batch) (hb : b ∈ batch) (hae : a.Encodes host) (hbe : b.Encodes host)
    (hne : a.tenantName ≠ b.tenantName) :
    (AlertDeduplicator.ofSettings settings).stableFingerprint host a =
        (AlertDeduplicator.ofSettings settings).stableFingerprint host b <->
      Overlaps host settings a b ∨ Overlaps host settings b a := by
  constructor
  · intro hprint
    have htext := h.injective a ha b hb hae hbe hprint
    rcases (keyText_inj (h.detector a ha) (h.detector b hb)).mp htext with
      ⟨hdetector, hbucket, hnames⟩
    rcases (names_overlap_iff hne).mp hnames with hoverlap | hoverlap
    · exact Or.inl ⟨hdetector, hbucket, hoverlap⟩
    · exact Or.inr ⟨hdetector.symm, hbucket.symm, hoverlap⟩
  · intro hoverlap
    have htext : (AlertDeduplicator.ofSettings settings).stableText host a =
        (AlertDeduplicator.ofSettings settings).stableText host b := by
      apply (keyText_inj (h.detector a ha) (h.detector b hb)).mpr
      rcases hoverlap with ⟨hdetector, hbucket, hnames⟩ | ⟨hdetector, hbucket, hnames⟩
      · exact ⟨hdetector, hbucket, (names_overlap_iff hne).mpr (Or.inl hnames)⟩
      · exact ⟨hdetector.symm, hbucket.symm,
          (names_overlap_iff hne).mpr (Or.inr hnames)⟩
    unfold AlertDeduplicator.stableFingerprint
    rw [htext]

/--
Claiming a batch in which tenants share no key, restricted to one tenant, is
claiming the anomalies of that tenant.
-/
theorem claimAll_ofTenant {key : Anomaly -> String} {tenant : String}
    {anomalies : List Anomaly}
    (hkey : forall a, a ∈ anomalies -> forall b, b ∈ anomalies ->
      a.tenantName ≠ b.tenantName -> key a ≠ key b)
    (redis : Redis) (now expiry : Rat) :
    ofTenant tenant (redis.claimAll key now expiry anomalies).1 =
      (redis.claimAll key now expiry (ofTenant tenant anomalies)).1 := by
  apply ClaimStore.claimAll_filter
  · intro a ha b hb hat hbt
    apply hkey a ha b hb
    rw [of_decide_eq_true hat]
    exact Ne.symm (of_decide_eq_false hbt)
  · intro a _ _
    rfl

theorem ofTenant_ofTenant (tenant : String) (anomalies : List Anomaly) :
    ofTenant tenant (ofTenant tenant anomalies) = ofTenant tenant anomalies := by
  simp [ofTenant]

theorem claimAll_ofTenant_self (key : Anomaly -> String) (tenant : String)
    (anomalies : List Anomaly) (redis : Redis) (now expiry : Rat) :
    ofTenant tenant (redis.claimAll key now expiry (ofTenant tenant anomalies)).1 =
      (redis.claimAll key now expiry (ofTenant tenant anomalies)).1 := by
  rw [claimAll_ofTenant, ofTenant_ofTenant]
  intro a ha b hb hne
  have hat : a.tenantName = tenant := of_decide_eq_true (List.mem_filter.mp ha).2
  have hbt : b.tenantName = tenant := of_decide_eq_true (List.mem_filter.mp hb).2
  exact absurd (hat.trans hbt.symm) hne

theorem survivors_ofTenant_of_encodes (h : DetectorBatch host settings batch)
    (hencodes : forall a, a ∈ batch -> a.Encodes host)
    (hoverlap : forall a, a ∈ batch -> forall b, b ∈ batch ->
      ¬ Overlaps host settings a b) {now : Rat}
    (hclaim : (AlertDeduplicator.ofSettings settings).CanClaim now)
    (tenant : String) (redis : Redis) (minDetectors : Int) :
    survivors host settings now redis minDetectors tenant batch =
      survivors host settings now redis minDetectors tenant
        (ofTenant tenant batch) := by
  have hall : forall a, a ∈ batch -> a.HasKey host :=
    fun a ha => ⟨h.parseable a ha, hencodes a ha⟩
  have hown : forall a, a ∈ ofTenant tenant batch -> a.HasKey host :=
    fun a ha => hall a (List.mem_filter.mp ha).1
  have hkeys : forall a, a ∈ confirmed host settings minDetectors batch ->
      forall b, b ∈ confirmed host settings minDetectors batch ->
      a.tenantName ≠ b.tenantName ->
      (AlertDeduplicator.ofSettings settings).stableKey host a ≠
        (AlertDeduplicator.ofSettings settings).stableKey host b := by
    intro a ha b hb hne hkey
    have hamem := mem_of_mem_confirmed ha
    have hbmem := mem_of_mem_confirmed hb
    have hprint := (String.append_right_inj _).mp hkey
    rcases (stableKey_eq_iff h hamem hbmem (hencodes a hamem) (hencodes b hbmem) hne).mp
      hprint with hab | hba
    · exact hoverlap a hamem b hbmem hab
    · exact hoverlap b hbmem a hamem hba
  rw [survivors_of_canClaim hall hclaim, survivors_of_canClaim hown hclaim,
    ← confirmed_ofTenant, claimAll_ofTenant hkeys, claimAll_ofTenant_self]

theorem survivors_ofTenant (h : DetectorBatch host settings batch)
    (hoverlap : Host.HasDouble settings.dedupBucketSeconds ->
      forall a, a ∈ batch -> host.encodes a.tenantName = true ->
        forall b, b ∈ batch -> ¬ Overlaps host settings a b)
    (halike : (AlertDeduplicator.ofSettings settings).CanClaim 0 -> AlikeEncoded host batch)
    (tenant : String) (now : Rat) (redis : Redis) (minDetectors : Int) :
    survivors host settings now redis minDetectors tenant batch =
      survivors host settings now redis minDetectors tenant
        (ofTenant tenant batch) := by
  have hown : forall a, a ∈ ofTenant tenant batch -> a ∈ batch :=
    fun a ha => (List.mem_filter.mp ha).1
  have hparse : forall a, a ∈ ofTenant tenant batch -> a.Parseable host :=
    fun a ha => h.parseable a (hown a ha)
  by_cases hclaim : (AlertDeduplicator.ofSettings settings).CanClaim now
  · by_cases hsome : exists a, a ∈ batch ∧ host.encodes a.tenantName = true
    · rcases hsome with ⟨a, ha, hae⟩
      have hall : forall b, b ∈ batch -> b.Encodes host := fun b hb =>
        (h.encodes_iff hb).mpr (halike hclaim.zero a ha b hb hae)
      exact survivors_ofTenant_of_encodes h hall
        (fun b hb => hoverlap hclaim.width b hb (hall b hb).1) hclaim tenant redis
        minDetectors
    · have hnone : forall a, a ∈ batch -> ¬ a.Encodes host :=
        fun a ha hae => hsome ⟨a, ha, hae.1⟩
      rw [survivors_of_all_raise h.parseable hnone hclaim,
        survivors_of_all_raise hparse (fun a ha => hnone a (hown a ha)) hclaim]
  · rw [survivors_of_not_canClaim hclaim, survivors_of_not_canClaim hclaim]

theorem fingerprint_of_mem (h : DetectorBatch host settings batch) {a : Anomaly}
    (ha : a ∈ batch) (hdouble : Host.HasDouble settings.dedupBucketSeconds)
    (hencodes : a.Encodes host) (now : Rat) :
    (AlertDeduplicator.ofSettings settings).fingerprint host settings now a =
      .ok ((AlertDeduplicator.ofSettings settings).stableFingerprint host a) :=
  AlertDeduplicator.fingerprint_of_hasKey hdouble ⟨h.parseable a ha, hencodes⟩ settings now

theorem Isolated.not_overlaps (h : DetectorBatch host settings batch)
    (hisolated : Isolated host settings batch)
    (hdouble : Host.HasDouble settings.dedupBucketSeconds) {a b : Anomaly} (ha : a ∈ batch)
    (hb : b ∈ batch) (hencodes : host.encodes a.tenantName = true) :
    ¬ Overlaps host settings a b := by
  intro hoverlap
  have hne := overlaps_tenant_ne hoverlap
  have hae := (h.encodes_iff ha).mpr hencodes
  have hbe : b.Encodes host := by
    rw [h.encodes_iff hb, ← encodes_of_overlaps hoverlap (h.metric b hb)]
    exact hencodes
  apply hisolated.2 a ha b hb hne 0 _ (fingerprint_of_mem h ha hdouble hae 0)
  rw [fingerprint_of_mem h hb hdouble hbe,
    (stableKey_eq_iff h ha hb hae hbe hne).mpr (Or.inl hoverlap)]

/-- A tenant whose name does not encode takes the others' anomalies with it. -/
theorem Isolated.alikeEncoded (h : DetectorBatch host settings batch)
    (hisolated : Isolated host settings batch)
    (hclaim : (AlertDeduplicator.ofSettings settings).CanClaim 0) :
    AlikeEncoded host batch := by
  intro a ha b hb hencodes
  by_contra hnot
  have hbe : ¬ b.Encodes host := fun hbe => hnot hbe.1
  have hconfirmed : forall anomalies, confirmed host settings 1 anomalies = anomalies :=
    fun anomalies => quorum_of_le_one (le_refl 1) anomalies
  have hown : forall c, c ∈ ofTenant a.tenantName batch -> c.HasKey host := by
    intro c hc
    rcases List.mem_filter.mp hc with ⟨hmem, htenant⟩
    refine ⟨h.parseable c hmem, (h.encodes_iff hmem).mpr ?_⟩
    rw [of_decide_eq_true htenant]
    exact hencodes
  have hnone : survivors host settings 0 ClaimStore.empty 1 a.tenantName batch = [] := by
    apply survivors_of_raises h.parseable _ _ _ _ hbe
    rw [hconfirmed]
    exact hb
  have hpos : (0 : Rat) < 0 + settings.alertCooldownSeconds := by
    rw [zero_add]
    exact_mod_cast hclaim.cooldown.1
  have hsome := hisolated.1 a.tenantName 0 ClaimStore.empty 1
  rw [hnone, survivors_of_canClaim hown hclaim, hconfirmed, claimAll_ofTenant_self,
    eq_comm, List.map_eq_nil_iff, ClaimStore.claimAll_eq_nil_iff _ hpos] at hsome
  have hlive := hsome a (List.mem_filter.mpr ⟨ha, decide_eq_true rfl⟩)
  cases hlive

/--
The alert pipeline isolates the tenants of a batch exactly when, unless the width
has no double, no two of its anomalies overlap in names that encode and, unless
no claim can be made at all, the names of its tenants all encode or all do not.
-/
theorem isolated_iff (h : DetectorBatch host settings batch) :
    Isolated host settings batch <->
      (Host.HasDouble settings.dedupBucketSeconds ->
        forall a, a ∈ batch -> host.encodes a.tenantName = true ->
          forall b, b ∈ batch -> ¬ Overlaps host settings a b) ∧
      ((AlertDeduplicator.ofSettings settings).CanClaim 0 -> AlikeEncoded host batch) := by
  constructor
  · intro hisolated
    constructor
    · intro hdouble a ha hencodes b hb
      exact hisolated.not_overlaps h hdouble ha hb hencodes
    · exact hisolated.alikeEncoded h
  · intro hcond
    rcases hcond with ⟨hoverlap, halike⟩
    constructor
    · intro tenant now redis minDetectors
      exact survivors_ofTenant h hoverlap halike tenant now redis minDetectors
    · intro a ha b hb hne now fp hfp hfp'
      have hae := (AlertDeduplicator.hasFingerprint_of_fingerprint hfp).2
      have hbe := (AlertDeduplicator.hasFingerprint_of_fingerprint hfp').2
      have hdouble : Host.HasDouble settings.dedupBucketSeconds :=
        AlertDeduplicator.hasDouble_of_fingerprint hfp
      rw [fingerprint_of_mem h ha hdouble hae] at hfp
      rw [fingerprint_of_mem h hb hdouble hbe] at hfp'
      have hprint := Except.ok.inj (hfp.trans hfp'.symm)
      rcases (stableKey_eq_iff h ha hb hae hbe hne).mp hprint with hab | hba
      · exact hoverlap hdouble a ha hae.1 b hb hab
      · exact hoverlap hdouble b hb hbe.1 a ha hba

end Batch

/-!
Two tenants with one metric name and one instant are isolated.  A scraped name
with a colon under the default tenant is not isolated from the tenant whose name
takes the colon over.
-/

def plainBatch : List Anomaly :=
  [Anomaly.spikeOf "acme" "cpu_usage", Anomaly.spikeOf "globex" "cpu_usage"]

def overlappingBatch : List Anomaly :=
  [Anomaly.spikeOf "default" "job:rate5m", Anomaly.spikeOf "default:job" "rate5m"]

def overlappingSettings : Settings :=
  { Settings.defaults with
    apiKeys := "k0"
    tenantApiKeys := "\x7b\"k1\": \"default:job\"\x7d" }

def tenantHost : Host :=
  Host.withDigests
    [("acme:cpu_usage:statistical:5666666",
        "327026f9cbd5d952e0496c5d70834b1cc68578ec"),
      ("globex:cpu_usage:statistical:5666666",
        "90f290369794180a638a047ef2daa4644092a4a8"),
      ("default:job:rate5m:statistical:5666666",
        "c57caddfcf9d11c687639bfa085f4ca349bd0999")]

theorem detectorBatch_plain : DetectorBatch tenantHost .defaults plainBatch where
  parseable := by decide +kernel
  metric := by decide +kernel
  detector := by decide +kernel
  injective := by decide +kernel

theorem isolated_iff_plain : Isolated tenantHost .defaults plainBatch := by
  apply (isolated_iff detectorBatch_plain).mpr
  refine ⟨?_, fun _ a _ b _ _ => by simp [Host.encodes, tenantHost, Host.withDigests]⟩
  intro _ a ha _ b hb hoverlap
  have htenant : forall c, c ∈ plainBatch -> ':' ∉ c.tenantName.toList := by
    decide +kernel
  rcases hoverlap with ⟨_, _, s, hname, _⟩
  apply htenant a ha
  rw [hname]
  simp

theorem detectorBatch_overlapping :
    DetectorBatch tenantHost overlappingSettings overlappingBatch where
  parseable := by decide +kernel
  metric := by decide +kernel
  detector := by decide +kernel
  injective := by decide +kernel

theorem overlapping_not_isolated :
    ¬ forall (host : Host) (settings : Settings) (batch : List Anomaly),
      (forall a, a ∈ batch ->
        (exists key, (settings.keyTenantMap host).get? key = some a.tenantName) ∧
          Ingestion.Storable host a.metric) ->
      DetectorBatch host settings batch -> Isolated host settings batch := by
  intro h
  have hadmitted : forall a, a ∈ overlappingBatch ->
      (exists key, (overlappingSettings.keyTenantMap tenantHost).get? key =
        some a.tenantName) ∧ Ingestion.Storable tenantHost a.metric := by
    intro a ha
    simp only [overlappingBatch, List.mem_cons, List.not_mem_nil, or_false] at ha
    rcases ha with rfl | rfl
    · exact ⟨⟨"k0", by decide +kernel⟩, Or.inr ⟨"job:rate5m", by decide +kernel⟩⟩
    · exact ⟨⟨"k1", by decide +kernel⟩, Or.inl (by decide +kernel)⟩
  have hisolated := h tenantHost overlappingSettings overlappingBatch hadmitted
    detectorBatch_overlapping
  have hoverlap : Overlaps tenantHost overlappingSettings
      (Anomaly.spikeOf "default:job" "rate5m") (Anomaly.spikeOf "default" "job:rate5m") :=
    ⟨rfl, rfl, "job", rfl, rfl⟩
  exact hisolated.not_overlaps detectorBatch_overlapping (by decide +kernel)
    (List.mem_cons_of_mem _ List.mem_cons_self) List.mem_cons_self (by decide +kernel) hoverlap

end Alerting
end MetricMesh
