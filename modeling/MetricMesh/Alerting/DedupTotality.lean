import MetricMesh.Alerting.Dedup

/-!
# When deduplication raises

Text and structures that are not dates stand for the current time, so that a bad
timestamp does no harm.  Numbers are not covered by this: one that has no finite
double, or is not a number at all, raises on its way to a bucket.  So does a
bucket width without a double, a name with a lone surrogate raises on its way to
the digest, and Redis refuses a cooldown that is not positive or too long.
-/

namespace MetricMesh
namespace Alerting

open Foundation
open Python

/-!
# Timestamps
-/

/-- The numbers that `float` or `int` refuses. -/
def BadNumber : Json -> Prop
  | .int n => floatLimit ≤ (n : Rat) ∨ (n : Rat) ≤ -floatLimit
  | .float (.finite _) => False
  | .float _ => True
  | _ => False

theorem toEpoch_of_not_bad (host : Host) (now : Rat) {ts : Json} (h : ¬ BadNumber ts) :
    toEpoch host now ts = .ok (.finite ((instantOf host ts).getD now)) := by
  cases hinstant : instantOf host ts with
  | some q =>
      exact toEpoch_of_instant hinstant now
  | none =>
      cases ts with
      | bool b =>
          cases hinstant
      | int n =>
          have hsome : instantOf host (.int n) = some (toDouble (n : Rat)) := if_neg h
          rw [hsome] at hinstant
          cases hinstant
      | float x =>
          cases x with
          | finite q =>
              cases hinstant
          | inf =>
              exact absurd trivial h
          | negInf =>
              exact absurd trivial h
          | nan =>
              exact absurd trivial h
      | null =>
          simp only [instantOf] at hinstant
          simp [toEpoch, hinstant]
      | str s =>
          simp only [instantOf] at hinstant
          simp [toEpoch, hinstant]
      | arr items =>
          simp only [instantOf] at hinstant
          simp [toEpoch, hinstant]
      | obj fields =>
          simp only [instantOf] at hinstant
          simp [toEpoch, hinstant]

theorem toEpoch_of_bad (host : Host) (now : Rat) {ts : Json} (h : BadNumber ts) :
    toEpoch host now ts = .error .overflowError ∨
      exists x, toEpoch host now ts = .ok x ∧ forall q, x ≠ .finite q := by
  cases ts with
  | int n =>
      left
      exact if_pos h
  | float x =>
      right
      refine ⟨x, rfl, ?_⟩
      intro q hq
      rw [hq] at h
      exact h
  | null =>
      exact h.elim
  | bool b =>
      exact h.elim
  | str s =>
      exact h.elim
  | arr items =>
      exact h.elim
  | obj fields =>
      exact h.elim

namespace Anomaly

def HasBadNumber (a : Anomaly) : Prop :=
  exists ts, a.timestamp = some ts ∧ BadNumber ts

def Readable (host : Host) (a : Anomaly) : Prop :=
  a.timestamp = none ∨ a.Parseable host

instance (host : Host) (a : Anomaly) : Decidable (a.Readable host) :=
  inferInstanceAs (Decidable (_ ∨ _))

def bucketAt (host : Host) (now : Rat) (width : Int) (a : Anomaly) : Int :=
  ⌊(a.instant host).getD now / width⌋

theorem toEpoch_of_not_bad (host : Host) (now : Rat) {a : Anomaly} (h : ¬ a.HasBadNumber) :
    toEpoch host now (a.timestamp.getD (.float (.finite now))) =
      .ok (.finite ((a.instant host).getD now)) := by
  unfold instant
  cases hts : a.timestamp with
  | none =>
      rfl
  | some ts =>
      apply Alerting.toEpoch_of_not_bad
      intro hbad
      exact h ⟨ts, hts, hbad⟩

/-- The timestamp has a bucket at every time, and the names have a digest. -/
def HasFingerprint (host : Host) (a : Anomaly) : Prop :=
  ¬ a.HasBadNumber ∧ a.Encodes host

end Anomaly

/-!
# Which anomalies have a fingerprint
-/

namespace AlertDeduplicator

section Fingerprints

variable {d : AlertDeduplicator} {host : Host} {settings : Settings} {now : Rat}

def textAt (d : AlertDeduplicator) (host : Host) (now : Rat) (a : Anomaly) : String :=
  keyText a.tenantName a.metric a.detectorName (a.bucketAt host now d.bucketSeconds)

def fingerprintAt (d : AlertDeduplicator) (host : Host) (now : Rat) (a : Anomaly) : String :=
  take (host.sha1 (d.textAt host now a)) 12

theorem bucketOf_of_not_bad (hdouble : Host.HasDouble d.bucketSeconds) {a : Anomaly}
    (h : ¬ a.HasBadNumber) :
    d.bucketOf host settings now a = .ok (a.bucketAt host now d.bucketSeconds) := by
  unfold bucketOf timeBucket
  rw [Anomaly.toEpoch_of_not_bad host now h]
  exact floorDivInt_of_hasDouble hdouble d.bucketSeconds_ne_zero _

theorem not_bad_of_bucketOf {a : Anomaly} {bucket : Int}
    (h : d.bucketOf host settings now a = .ok bucket) : ¬ a.HasBadNumber := by
  intro hbad
  have hdouble := hasDouble_of_bucketOf h
  rcases hbad with ⟨ts, hts, hbad⟩
  unfold bucketOf timeBucket at h
  rw [hts] at h
  rcases toEpoch_of_bad host now hbad with hraised | ⟨y, hy, hnot⟩
  · have hepoch : toEpoch host now ((some ts).getD (.float (.finite now))) =
        .error .overflowError := hraised
    rw [hepoch] at h
    cases h
  · have hepoch : toEpoch host now ((some ts).getD (.float (.finite now))) = .ok y := hy
    rw [hepoch] at h
    simp only [Option.getD_some,
      floorDivInt_of_hasDouble hdouble d.bucketSeconds_ne_zero] at h
    cases y with
    | finite q =>
        exact hnot q rfl
    | inf =>
        cases h
    | negInf =>
        cases h
    | nan =>
        cases h

theorem fingerprint_of_hasFingerprint (hdouble : Host.HasDouble d.bucketSeconds) {a : Anomaly}
    (h : a.HasFingerprint host) :
    d.fingerprint host settings now a = .ok (d.fingerprintAt host now a) := by
  unfold fingerprint
  rw [bucketOf_of_not_bad hdouble h.1]
  dsimp only
  rw [sha1Of_keyText h.2]
  rfl

theorem hasFingerprint_of_fingerprint {a : Anomaly} {fp : String}
    (h : d.fingerprint host settings now a = .ok fp) : a.HasFingerprint host := by
  unfold fingerprint at h
  cases hbucket : d.bucketOf host settings now a with
  | error e =>
      rw [hbucket] at h
      cases h
  | ok bucket =>
      rw [hbucket] at h
      refine ⟨not_bad_of_bucketOf hbucket, ?_⟩
      by_contra hnot
      have htext : ¬ host.encodes (keyText a.tenantName a.metric a.detectorName bucket) = true :=
        fun hencodes => hnot ((encodes_keyText host _ _ _ _).mp hencodes)
      simp [Host.sha1Of, htext] at h

end Fingerprints

end AlertDeduplicator

namespace AlertDeduplicator

variable {d : AlertDeduplicator} {host : Host} {settings : Settings} {now : Rat}

def keyAt (d : AlertDeduplicator) (host : Host) (now : Rat) (a : Anomaly) : String :=
  keyPrefix ++ d.fingerprintAt host now a

def stampAt (d : AlertDeduplicator) (host : Host) (now : Rat) (a : Anomaly) : Anomaly :=
  { a with fingerprint := some (d.fingerprintAt host now a) }

theorem filter_of_hasFingerprint (hclaim : d.CanClaim now) (redis : Redis)
    {batch : List Anomaly} (h : forall a, a ∈ batch -> a.HasFingerprint host) :
    d.filter host settings now redis batch =
      (.ok ((redis.claimAll (d.keyAt host now) now (now + d.cooldown) batch).1.map
          (d.stampAt host now)),
        (redis.claimAll (d.keyAt host now) now (now + d.cooldown) batch).2) := by
  unfold filter
  rw [filterLoop_of_fingerprints hclaim.cooldown batch
    (fun a ha => fingerprint_of_hasFingerprint hclaim.width (h a ha)), List.nil_append]
  rfl

end AlertDeduplicator

/-!
# Surviving a batch
-/

def passed (outcome : Except PyError (List Anomaly) × Redis) : List Anomaly :=
  match outcome.1 with
  | .ok unique => unique
  | .error _ => []

/-- The timestamp is readable, and no unreadable one of the batch has its fingerprint. -/
def apart (d : AlertDeduplicator) (host : Host) (now : Rat) (batch : List Anomaly)
    (a : Anomaly) : Bool :=
  a.Readable host && batch.all fun b =>
    b.Readable host || d.fingerprintAt host now b ≠ d.fingerprintAt host now a

/-- Two texts with one truncated digest. -/
def Collide (d : AlertDeduplicator) (host : Host) (now : Rat) (a b : Anomaly) : Prop :=
  d.textAt host now a ≠ d.textAt host now b ∧
    d.fingerprintAt host now a = d.fingerprintAt host now b

structure FilterSurvives (host : Host) (settings : Settings) (now : Rat) (redis : Redis)
    (batch : List Anomaly) : Prop where
  finishes : exists unique redis',
    (AlertDeduplicator.ofSettings settings).filter host settings now redis batch =
      (.ok unique, redis')
  /-- The bucket is that of the instant, and that of the current time without one. -/
  assigned : forall a, a ∈ batch ->
    (AlertDeduplicator.ofSettings settings).bucketOf host settings now a =
        .ok (a.bucketAt host now settings.dedupBucketSeconds) ∧
      (AlertDeduplicator.ofSettings settings).fingerprint host settings now a =
        .ok ((AlertDeduplicator.ofSettings settings).fingerprintAt host now a)
  /-- The others pass as if the batch had no unreadable timestamps. -/
  others :
    (passed ((AlertDeduplicator.ofSettings settings).filter host settings now redis
        batch)).filter (apart (AlertDeduplicator.ofSettings settings) host now batch) =
      (passed ((AlertDeduplicator.ofSettings settings).filter host settings now redis
        (batch.filter fun a => a.Readable host))).filter
          (apart (AlertDeduplicator.ofSettings settings) host now batch)
  /-- A readable one that is not apart is in the bucket of the current time. -/
  sharing : forall a, a ∈ batch -> a.Readable host ->
    apart (AlertDeduplicator.ofSettings settings) host now batch a = false ->
      a.bucketAt host now settings.dedupBucketSeconds = ⌊now / settings.dedupBucketSeconds⌋ ∨
        exists b, b ∈ batch ∧ ¬ b.Readable host ∧
          Collide (AlertDeduplicator.ofSettings settings) host now b a

structure Accepted (host : Host) (settings : Settings) (now : Rat) (batch : List Anomaly) :
    Prop where
  claim : (AlertDeduplicator.ofSettings settings).CanClaim now
  fingerprints : forall a, a ∈ batch -> a.HasFingerprint host

/-!
# When a batch survives
-/

section Survival

variable {host : Host} {settings : Settings} {now : Rat} {redis : Redis}

theorem exists_unreadable_of_not_apart {d : AlertDeduplicator} {batch : List Anomaly}
    {a : Anomaly} (ha : a ∈ batch) (h : apart d host now batch a = false) :
    exists b, b ∈ batch ∧ ¬ b.Readable host ∧
      d.fingerprintAt host now b = d.fingerprintAt host now a := by
  by_cases hreadable : a.Readable host
  · unfold apart at h
    rw [decide_eq_true hreadable, Bool.true_and, List.all_eq_false] at h
    rcases h with ⟨b, hb, hcond⟩
    simp only [Bool.or_eq_true, decide_eq_true_iff, not_or, not_not] at hcond
    exact ⟨b, hb, hcond⟩
  · exact ⟨a, ha, hreadable, rfl⟩

theorem bucketAt_of_unreadable {a : Anomaly} (h : ¬ a.Readable host) (width : Int) :
    a.bucketAt host now width = ⌊now / width⌋ := by
  have hparseable : ¬ (a.instant host).isSome = true := fun hsome => h (Or.inr hsome)
  unfold Anomaly.bucketAt
  rw [Option.not_isSome_iff_eq_none.mp hparseable]
  rfl

theorem bucketAt_of_not_apart {d : AlertDeduplicator} {batch : List Anomaly} {a : Anomaly}
    (ha : a ∈ batch) (h : apart d host now batch a = false) :
    a.bucketAt host now d.bucketSeconds = ⌊now / d.bucketSeconds⌋ ∨
      exists b, b ∈ batch ∧ ¬ b.Readable host ∧ Collide d host now b a := by
  rcases exists_unreadable_of_not_apart ha h with ⟨b, hb, hunreadable, hprint⟩
  by_cases htext : d.textAt host now b = d.textAt host now a
  · left
    rw [← bucketAt_of_unreadable hunreadable]
    exact (AlertDeduplicator.bucket_of_keyText htext).1.symm
  · exact Or.inr ⟨b, hb, hunreadable, htext, hprint⟩

/-- Claiming a batch, restricted to the anomalies apart, is claiming those alone. -/
theorem claimAll_apart (d : AlertDeduplicator) {batch anomalies : List Anomaly}
    (hsub : forall a, a ∈ anomalies -> a ∈ batch) (expiry : Rat) :
    (redis.claimAll (d.keyAt host now) now expiry anomalies).1.filter
        (apart d host now batch) =
      (redis.claimAll (d.keyAt host now) now expiry
        (anomalies.filter (apart d host now batch))).1 := by
  apply ClaimStore.claimAll_filter
  · intro a ha b hb hin hout heq
    rcases exists_unreadable_of_not_apart (hsub b hb) hout with ⟨c, hc, hunreadable, hprint⟩
    have hsame : d.fingerprintAt host now c = d.fingerprintAt host now a :=
      hprint.trans ((String.append_right_inj _).mp heq).symm
    have hcond := List.all_eq_true.mp (Bool.and_eq_true_iff.mp hin).2 c hc
    simp [hunreadable, hsame] at hcond
  · intro a _ _
    rfl

theorem passed_apart {d : AlertDeduplicator} (hclaim : d.CanClaim now) {batch : List Anomaly}
    (h : forall a, a ∈ batch -> a.HasFingerprint host) :
    (passed (d.filter host settings now redis batch)).filter
        (apart d host now batch) =
      (passed (d.filter host settings now redis
        (batch.filter fun a => a.Readable host))).filter (apart d host now batch) := by
  have hreadable : forall a, a ∈ batch.filter (fun a => a.Readable host) -> a ∈ batch :=
    fun a ha => (List.mem_filter.mp ha).1
  have hwhole := @AlertDeduplicator.filter_of_hasFingerprint d host settings now hclaim redis
    batch h
  have hpart := @AlertDeduplicator.filter_of_hasFingerprint d host settings now hclaim redis
    (batch.filter fun a => a.Readable host) (fun a ha => h a (hreadable a ha))
  have hsame : (batch.filter fun a => a.Readable host).filter (apart d host now batch) =
      batch.filter (apart d host now batch) := by
    rw [List.filter_filter]
    apply List.filter_congr
    intro a _
    cases hapart : apart d host now batch a with
    | true =>
        exact (Bool.and_eq_true_iff.mp hapart).1
    | false =>
        rfl
  rw [hwhole, hpart]
  show (List.map _ _).filter _ = (List.map _ _).filter _
  rw [List.filter_map, List.filter_map]
  congr 1
  exact (claimAll_apart d (fun a ha => ha) _).trans
    ((congrArg (fun xs => (redis.claimAll (d.keyAt host now) now _ xs).1) hsame.symm).trans
      (claimAll_apart d hreadable _).symm)

theorem canClaim_of_filter {d : AlertDeduplicator} {a : Anomaly} {rest unique : List Anomaly}
    {redis' : Redis}
    (h : d.filter host settings now redis (a :: rest) = (.ok unique, redis')) :
    d.CanClaim now := by
  by_contra hnot
  rcases AlertDeduplicator.claim_of_not_canClaim hnot host settings redis a with ⟨e, he⟩
  unfold AlertDeduplicator.filter AlertDeduplicator.filterLoop at h
  rw [he] at h
  cases h

theorem filterSurvives_of_accepted {batch : List Anomaly}
    (h : Accepted host settings now batch) :
    FilterSurvives host settings now redis batch := by
  constructor
  · exact ⟨_, _, AlertDeduplicator.filter_of_hasFingerprint h.claim redis h.fingerprints⟩
  · intro a ha
    constructor
    · exact AlertDeduplicator.bucketOf_of_not_bad h.claim.width (h.fingerprints a ha).1
    · exact AlertDeduplicator.fingerprint_of_hasFingerprint h.claim.width
        (h.fingerprints a ha)
  · exact passed_apart h.claim h.fingerprints
  · intro a ha _ hnot
    exact bucketAt_of_not_apart ha hnot

theorem accepted_of_filterSurvives {a : Anomaly} {rest : List Anomaly}
    (h : FilterSurvives host settings now redis (a :: rest)) :
    Accepted host settings now (a :: rest) := by
  constructor
  · rcases h.finishes with ⟨unique, redis', hrun⟩
    exact canClaim_of_filter hrun
  · intro b hb
    exact AlertDeduplicator.hasFingerprint_of_fingerprint (h.assigned b hb).2

/--
A call finishes, with a bucket and a fingerprint for every anomaly and without
harm from unreadable ones outside the current bucket, exactly when the batch is
empty or Redis accepts the cooldown, the width converts to a float, no timestamp
is a bad number, and every name encodes.
-/
theorem filterSurvives_iff (host : Host) (settings : Settings) (now : Rat) (redis : Redis)
    (batch : List Anomaly) :
    FilterSurvives host settings now redis batch <->
      batch = [] ∨ Accepted host settings now batch := by
  constructor
  · intro h
    cases batch with
    | nil =>
        exact Or.inl rfl
    | cons a rest =>
        exact Or.inr (accepted_of_filterSurvives h)
  · intro h
    rcases h with hnil | haccepted
    · rw [hnil]
      exact ⟨⟨[], redis, rfl⟩, fun a ha => absurd ha List.not_mem_nil, rfl,
        fun a ha => absurd ha List.not_mem_nil⟩
    · exact filterSurvives_of_accepted haccepted

def nanSpike : Anomaly :=
  { Anomaly.spikeOf "acme" "cpu_usage" with timestamp := some (.float .nan) }

theorem nanSpike_raises :
    ¬ forall (host : Host) (settings : Settings) (now : Rat) (redis : Redis)
      (batch : List Anomaly), FilterSurvives host settings now redis batch := by
  intro h
  rcases (h (Host.withDigests []) Settings.defaults 0 ClaimStore.empty [nanSpike]).finishes with
    ⟨unique, redis', hrun⟩
  have hraised : ((AlertDeduplicator.ofSettings Settings.defaults).filter (Host.withDigests [])
      Settings.defaults 0 ClaimStore.empty [nanSpike]).1 = .error .valueError := by
    decide +kernel
  rw [hrun] at hraised
  cases hraised

end Survival

end Alerting
end MetricMesh
