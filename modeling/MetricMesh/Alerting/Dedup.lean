import MetricMesh.Detection.Base
import MetricMesh.Config
import MetricMesh.Foundation.ClaimBatch

/-!
# Alert deduplication

Time buckets, fingerprints, and the loop that claims one Redis key for every
anomaly of a batch.
-/

namespace MetricMesh
namespace Alerting

open Foundation
open Python

/-!
# Redis

The dedup keys live in one shared expiring map.  `SET key 1 NX EX ex` is one
command.  Redis rejects an expiry that is not positive, and one that ends beyond
the milliseconds of 64 bits.
-/

abbrev Redis : Type := ClaimStore String Rat

def llongMax : Int := 2 ^ 63 - 1

def Redis.Accepts (now : Rat) (ex : Int) : Prop :=
  0 < ex ∧ ex ≤ llongMax / 1000 ∧ ⌊now * 1000⌋ + ex * 1000 ≤ llongMax

instance (now : Rat) (ex : Int) : Decidable (Redis.Accepts now ex) :=
  inferInstanceAs (Decidable (_ ∧ _ ∧ _))

theorem Redis.accepts_zero {now : Rat} {ex : Int} (h : Redis.Accepts now ex) :
    Redis.Accepts 0 ex := by
  refine ⟨h.1, h.2.1, ?_⟩
  have hbound := h.2.1
  rw [zero_mul, Int.floor_zero]
  omega

theorem Redis.accepts_of_le {now later : Rat} {ex : Int} (hle : now ≤ later)
    (h : Redis.Accepts later ex) : Redis.Accepts now ex := by
  refine ⟨h.1, h.2.1, ?_⟩
  have hfloor : ⌊now * 1000⌋ ≤ ⌊later * 1000⌋ :=
    Int.floor_le_floor (mul_le_mul_of_nonneg_right hle (by norm_num))
  have hbound := h.2.2
  omega

def Redis.set (redis : Redis) (key : String) (now : Rat) (ex : Int) :
    Except PyError (Bool × Redis) :=
  if Redis.Accepts now ex then .ok (redis.setNX key now (now + ex))
  else .error .responseError

def keyPrefix : String := "mm:dedup:"

/-!
# Buckets and fingerprints
-/

/--
Epoch seconds of a raw timestamp.  Numbers convert, text is read as ISO-8601,
and text that is not a date stands for the current time.
-/
def toEpoch (host : Host) (now : Rat) (tsRaw : Json) : Except PyError PyFloat :=
  match tsRaw with
  | .bool b => host.float (.bool b)
  | .int n => host.float (.int n)
  | .float x => host.float (.float x)
  | v =>
      match host.fromisoformat (replaceChar (strip (host.str v)) 'Z' "+00:00") with
      | some q => .ok (.finite q)
      | none => .ok (.finite now)

def timeBucket (host : Host) (settings : Settings) (now : Rat) (tsRaw : Json)
    (bucketSeconds : Option Int) : Except PyError Int :=
  match toEpoch host now tsRaw with
  | .error e => .error e
  | .ok epoch =>
      floorDivInt epoch (bucketSeconds.getD settings.dedupBucketSeconds)

structure AlertDeduplicator where
  cooldown : Int
  bucketSeconds : Int
  bucketSeconds_ne_zero : bucketSeconds ≠ 0
deriving DecidableEq

/-- `x or default` for an optional integer. -/
def intOr (x : Option Int) (default : Int) : Int :=
  match x with
  | some n => if n = 0 then default else n
  | none => default

theorem intOr_ne_zero (x : Option Int) {default : Int} (h : default ≠ 0) :
    intOr x default ≠ 0 := by
  unfold intOr
  cases x with
  | none =>
      exact h
  | some n =>
      dsimp only
      split_ifs with hn
      · exact h
      · exact hn

theorem dedupBucketSeconds_ne_zero (settings : Settings) :
    settings.dedupBucketSeconds ≠ 0 := by
  have hge := settings.dedupBucketSeconds_ge
  omega

namespace AlertDeduplicator

def init (settings : Settings) (cooldownSeconds bucketSeconds : Option Int) :
    AlertDeduplicator where
  cooldown := intOr cooldownSeconds settings.alertCooldownSeconds
  bucketSeconds := intOr bucketSeconds settings.dedupBucketSeconds
  bucketSeconds_ne_zero := intOr_ne_zero bucketSeconds (dedupBucketSeconds_ne_zero settings)

def ofSettings (settings : Settings) : AlertDeduplicator :=
  init settings none none

@[simp] theorem ofSettings_bucketSeconds (settings : Settings) :
    (ofSettings settings).bucketSeconds = settings.dedupBucketSeconds := rfl

/-- The width converts to a float, and Redis accepts the cooldown. -/
structure CanClaim (d : AlertDeduplicator) (now : Rat) : Prop where
  width : Host.HasDouble d.bucketSeconds
  cooldown : Redis.Accepts now d.cooldown

instance (d : AlertDeduplicator) (now : Rat) : Decidable (d.CanClaim now) :=
  decidable_of_iff (Host.HasDouble d.bucketSeconds ∧ Redis.Accepts now d.cooldown)
    ⟨fun h => ⟨h.1, h.2⟩, fun h => ⟨h.width, h.cooldown⟩⟩

theorem CanClaim.of_le {d : AlertDeduplicator} {now later : Rat} (hle : now ≤ later)
    (h : d.CanClaim later) : d.CanClaim now where
  width := h.width
  cooldown := Redis.accepts_of_le hle h.cooldown

theorem CanClaim.zero {d : AlertDeduplicator} {now : Rat} (h : d.CanClaim now) :
    d.CanClaim 0 where
  width := h.width
  cooldown := Redis.accepts_zero h.cooldown

def keyText (tenant metric detector : String) (bucket : Int) : String :=
  tenant ++ ":" ++ metric ++ ":" ++ detector ++ ":" ++ toString bucket

theorem keyText_toList (tenant metric detector : String) (bucket : Int) :
    (keyText tenant metric detector bucket).toList =
      ((tenant.toList ++ ':' :: metric.toList) ++ ':' :: detector.toList) ++
        ':' :: (toString bucket).toList := by
  simp [keyText]

theorem bucket_of_keyText {tenant tenant' metric metric' detector detector' : String}
    {bucket bucket' : Int}
    (h : keyText tenant metric detector bucket = keyText tenant' metric' detector' bucket') :
    bucket = bucket' ∧
      (tenant.toList ++ ':' :: metric.toList) ++ ':' :: detector.toList =
        (tenant'.toList ++ ':' :: metric'.toList) ++ ':' :: detector'.toList := by
  have hchars := congrArg String.toList h
  rw [keyText_toList, keyText_toList] at hchars
  rcases append_sep_inj_right (not_mem_toString (by decide) (by decide) bucket)
    (not_mem_toString (by decide) (by decide) bucket') hchars with ⟨hrest, hbucket⟩
  exact ⟨toString_int_inj hbucket, hrest⟩

def bucketOf (d : AlertDeduplicator) (host : Host) (settings : Settings)
    (now : Rat) (anomaly : Anomaly) : Except PyError Int :=
  timeBucket host settings now (anomaly.timestamp.getD (.float (.finite now)))
    (some d.bucketSeconds)

def fingerprint (d : AlertDeduplicator) (host : Host) (settings : Settings)
    (now : Rat) (anomaly : Anomaly) : Except PyError String :=
  match d.bucketOf host settings now anomaly with
  | .error e => .error e
  | .ok bucket =>
      match host.sha1Of (keyText anomaly.tenantName anomaly.metric
        anomaly.detectorName bucket) with
      | .error e => .error e
      | .ok digest => .ok (take digest 12)

/--
One turn of the loop: stamp the anomaly with its fingerprint and try to claim
the key.
-/
def claim (d : AlertDeduplicator) (host : Host) (settings : Settings)
    (now : Rat) (redis : Redis) (anomaly : Anomaly) :
    Except PyError (Bool × Anomaly × Redis) :=
  match d.fingerprint host settings now anomaly with
  | .error e => .error e
  | .ok fp =>
      match redis.set (keyPrefix ++ fp) now d.cooldown with
      | .error e => .error e
      | .ok (claimed, redis) =>
          .ok (claimed, { anomaly with fingerprint := some fp }, redis)

def filterLoop (d : AlertDeduplicator) (host : Host) (settings : Settings)
    (now : Rat) :
    Redis -> List Anomaly -> List Anomaly ->
      Except PyError (List Anomaly) × Redis
  | redis, [], unique => (.ok unique, redis)
  | redis, anomaly :: rest, unique =>
      match d.claim host settings now redis anomaly with
      | .error e => (.error e, redis)
      | .ok (claimed, stamped, redis) =>
          filterLoop d host settings now redis rest
            (if claimed then unique ++ [stamped] else unique)

/-- `filter`, run while the clock shows one time. -/
def filter (d : AlertDeduplicator) (host : Host) (settings : Settings)
    (now : Rat) (redis : Redis) (anomalies : List Anomaly) :
    Except PyError (List Anomaly) × Redis :=
  filterLoop d host settings now redis anomalies []

/-!
# One claim

A turn of the loop is the atomic test-and-set on the key of the anomaly, for
every anomaly that has a fingerprint.
-/

theorem hasDouble_of_bucketOf {d : AlertDeduplicator} {host : Host} {settings : Settings}
    {now : Rat} {anomaly : Anomaly} {bucket : Int}
    (h : d.bucketOf host settings now anomaly = .ok bucket) :
    Host.HasDouble d.bucketSeconds := by
  unfold bucketOf timeBucket at h
  cases hepoch : toEpoch host now (anomaly.timestamp.getD (.float (.finite now))) with
  | error e =>
      rw [hepoch] at h
      cases h
  | ok epoch =>
      rw [hepoch] at h
      exact hasDouble_of_floorDivInt h

theorem hasDouble_of_fingerprint {d : AlertDeduplicator} {host : Host} {settings : Settings}
    {now : Rat} {anomaly : Anomaly} {fp : String}
    (h : d.fingerprint host settings now anomaly = .ok fp) :
    Host.HasDouble d.bucketSeconds := by
  unfold fingerprint at h
  cases hbucket : d.bucketOf host settings now anomaly with
  | error e =>
      rw [hbucket] at h
      cases h
  | ok bucket =>
      exact hasDouble_of_bucketOf hbucket

theorem set_of_accepts {redis : Redis} {key : String} {now : Rat} {ex : Int}
    (hex : Redis.Accepts now ex) :
    redis.set key now ex = .ok (redis.setNX key now (now + ex)) :=
  if_pos hex

theorem claim_of_fingerprint {d : AlertDeduplicator} {host : Host}
    {settings : Settings} {now : Rat} {anomaly : Anomaly} {fp : String}
    (hex : Redis.Accepts now d.cooldown)
    (hfp : d.fingerprint host settings now anomaly = .ok fp) (redis : Redis) :
    d.claim host settings now redis anomaly =
      .ok ((redis.setNX (keyPrefix ++ fp) now (now + d.cooldown)).1,
        { anomaly with fingerprint := some fp },
        (redis.setNX (keyPrefix ++ fp) now (now + d.cooldown)).2) := by
  simp [claim, hfp, set_of_accepts hex]

theorem fingerprint_of_claim {d : AlertDeduplicator} {host : Host} {settings : Settings}
    {now : Rat} {redis redis' : Redis} {anomaly stamped : Anomaly} {claimed : Bool}
    (h : d.claim host settings now redis anomaly = .ok (claimed, stamped, redis')) :
    exists fp, stamped = { anomaly with fingerprint := some fp } ∧
      claimed = (redis.setNX (keyPrefix ++ fp) now (now + d.cooldown)).1 ∧
      redis' = (redis.setNX (keyPrefix ++ fp) now (now + d.cooldown)).2 := by
  cases hfp : d.fingerprint host settings now anomaly with
  | error e =>
      simp [claim, hfp] at h
  | ok fp =>
      by_cases hex : Redis.Accepts now d.cooldown
      · rw [claim_of_fingerprint hex hfp redis] at h
        simp only [Except.ok.injEq, Prod.mk.injEq] at h
        exact ⟨fp, h.2.1.symm, h.1.symm, h.2.2.symm⟩
      · simp [claim, hfp, Redis.set, hex] at h

theorem claim_of_not_canClaim {d : AlertDeduplicator} {now : Rat} (h : ¬ d.CanClaim now)
    (host : Host) (settings : Settings) (redis : Redis) (anomaly : Anomaly) :
    exists e, d.claim host settings now redis anomaly = .error e := by
  cases hfp : d.fingerprint host settings now anomaly with
  | error e =>
      exact ⟨e, by simp [claim, hfp]⟩
  | ok fp =>
      have hex : ¬ Redis.Accepts now d.cooldown := fun hex =>
        h ⟨hasDouble_of_fingerprint hfp, hex⟩
      exact ⟨.responseError, by simp [claim, hfp, Redis.set, hex]⟩

theorem filterLoop_of_fingerprints {d : AlertDeduplicator} {host : Host}
    {settings : Settings} {now : Rat} (hex : Redis.Accepts now d.cooldown)
    {fp : Anomaly -> String} (batch : List Anomaly)
    (h : forall a, a ∈ batch -> d.fingerprint host settings now a = .ok (fp a)) :
    forall (redis : Redis) (unique : List Anomaly),
      d.filterLoop host settings now redis batch unique =
        (.ok (unique ++
          (redis.claimAll (fun a => keyPrefix ++ fp a) now (now + d.cooldown)
            batch).1.map fun a => { a with fingerprint := some (fp a) }),
          (redis.claimAll (fun a => keyPrefix ++ fp a) now (now + d.cooldown) batch).2) := by
  induction batch with
  | nil =>
      intro redis unique
      simp [filterLoop]
  | cons a rest ih =>
      intro redis unique
      have hrest := ih (fun b hb => h b (List.mem_cons_of_mem _ hb))
      have hclaim := claim_of_fingerprint hex (h a List.mem_cons_self) redis
      cases hlive : redis.live (keyPrefix ++ fp a) now with
      | true =>
          rw [ClaimStore.setNX_of_live hlive] at hclaim
          rw [ClaimStore.claimAll_cons_live (fun a => keyPrefix ++ fp a) hlive]
          simp only [filterLoop, hclaim]
          exact hrest redis unique
      | false =>
          rw [ClaimStore.setNX_of_not_live hlive] at hclaim
          rw [ClaimStore.claimAll_cons_free (fun a => keyPrefix ++ fp a) hlive]
          simp only [filterLoop, hclaim, if_true]
          rw [hrest]
          simp

end AlertDeduplicator

/-!
# Timestamps with an instant

A timestamp that denotes an instant has the same bucket whenever it is looked
at.  The other timestamps either raise or stand for the current time.
-/

def instantOf (host : Host) : Json -> Option Rat
  | .bool b => some (if b then 1 else 0)
  | .int n =>
      if floatLimit ≤ (n : Rat) ∨ (n : Rat) ≤ -floatLimit then none
      else some (toDouble (n : Rat))
  | .float (.finite q) => some q
  | .float _ => none
  | v => host.fromisoformat (replaceChar (strip (host.str v)) 'Z' "+00:00")

theorem toEpoch_of_instant {host : Host} {ts : Json} {q : Rat}
    (h : instantOf host ts = some q) (now : Rat) :
    toEpoch host now ts = .ok (.finite q) := by
  cases ts with
  | bool b =>
      have hq : (if b then 1 else 0) = q := by simpa [instantOf] using h
      simp [toEpoch, Host.float, hq]
  | int n =>
      show Host.floatOfInt n = .ok (.finite q)
      unfold Host.floatOfInt
      by_cases hlimit : floatLimit ≤ (n : Rat) ∨ (n : Rat) ≤ -floatLimit
      · simp only [instantOf, if_pos hlimit] at h
        cases h
      · simp only [instantOf, if_neg hlimit, Option.some.injEq] at h
        rw [if_neg hlimit, h]
  | float x =>
      cases x with
      | finite q' =>
          have hq : q' = q := by simpa [instantOf] using h
          simp [toEpoch, Host.float, hq]
      | inf =>
          cases h
      | negInf =>
          cases h
      | nan =>
          cases h
  | null =>
      simp only [instantOf] at h
      simp [toEpoch, h]
  | str s =>
      simp only [instantOf] at h
      simp [toEpoch, h]
  | arr items =>
      simp only [instantOf] at h
      simp [toEpoch, h]
  | obj fields =>
      simp only [instantOf] at h
      simp [toEpoch, h]

namespace Anomaly

def instant (host : Host) (a : Anomaly) : Option Rat :=
  a.timestamp.bind (instantOf host)

def Parseable (host : Host) (a : Anomaly) : Prop :=
  (a.instant host).isSome = true

instance (host : Host) (a : Anomaly) : Decidable (a.Parseable host) :=
  inferInstanceAs (Decidable (_ = true))

def bucket (host : Host) (width : Int) (a : Anomaly) : Int :=
  ⌊(a.instant host).getD 0 / width⌋

theorem Parseable.toEpoch {host : Host} {a : Anomaly} (h : a.Parseable host)
    (now : Rat) (default : Json) :
    toEpoch host now (a.timestamp.getD default) =
      .ok (.finite ((a.instant host).getD 0)) := by
  unfold Parseable instant at h
  cases hts : a.timestamp with
  | none =>
      simp [hts] at h
  | some ts =>
      simp only [hts, Option.bind_some] at h
      rcases Option.isSome_iff_exists.mp h with ⟨q, hq⟩
      simp [toEpoch_of_instant hq now, instant, hts, hq]

theorem Parseable.timeBucket {host : Host} {a : Anomaly} (h : a.Parseable host)
    {settings : Settings} {bucketSeconds : Option Int}
    (hdouble : Host.HasDouble (bucketSeconds.getD settings.dedupBucketSeconds))
    (hwidth : bucketSeconds.getD settings.dedupBucketSeconds ≠ 0) (now : Rat)
    (default : Json) :
    timeBucket host settings now (a.timestamp.getD default) bucketSeconds =
      .ok (a.bucket host (bucketSeconds.getD settings.dedupBucketSeconds)) := by
  unfold Alerting.timeBucket
  rw [h.toEpoch now default]
  dsimp only
  rw [floorDivInt_of_hasDouble hdouble hwidth]
  rfl

def Encodes (host : Host) (a : Anomaly) : Prop :=
  host.encodes a.tenantName = true ∧ host.encodes a.metric = true ∧
    host.encodes a.detectorName = true

instance (host : Host) (a : Anomaly) : Decidable (a.Encodes host) :=
  inferInstanceAs (Decidable (_ ∧ _ ∧ _))

/-- The anomaly has the same dedup key whenever it is looked at. -/
def HasKey (host : Host) (a : Anomaly) : Prop :=
  a.Parseable host ∧ a.Encodes host

instance (host : Host) (a : Anomaly) : Decidable (a.HasKey host) :=
  inferInstanceAs (Decidable (_ ∧ _))

end Anomaly

namespace AlertDeduplicator

/-!
The bucket and the separators are ASCII, so a key text encodes when its names do.
-/

theorem toNat_lt_of_mem_toString {n : Int} {c : Char} (h : c ∈ (toString n).toList) :
    c.toNat < 128 := by
  have hdigit : forall d : Char, d.isDigit = true -> d.toNat < 128 := by
    intro d hd
    simp only [Char.isDigit, Bool.and_eq_true, decide_eq_true_eq] at hd
    have hle : d.toNat ≤ '9'.toNat := hd.2
    exact lt_of_le_of_lt hle (by decide)
  cases n with
  | ofNat m =>
      exact hdigit c (isDigit_of_mem_repr h)
  | negSucc m =>
      rw [toString_negSucc] at h
      rcases List.mem_cons.mp h with heq | hmem
      · rw [heq]
        decide
      · exact hdigit c (isDigit_of_mem_repr hmem)

theorem encodes_keyText (host : Host) (tenant metric detector : String) (bucket : Int) :
    host.encodes (keyText tenant metric detector bucket) = true <->
      host.encodes tenant = true ∧ host.encodes metric = true ∧
        host.encodes detector = true := by
  have hcolon : host.isSurrogate ':' = false := host.ascii_not_surrogate ':' (by decide)
  have hbucket : (toString bucket).toList.all (fun c => !host.isSurrogate c) = true := by
    rw [List.all_eq_true]
    intro c hc
    rw [host.ascii_not_surrogate c (toNat_lt_of_mem_toString hc)]
    rfl
  unfold Host.encodes
  rw [keyText_toList]
  simp only [List.all_append, List.all_cons, hcolon, hbucket, Bool.not_false, Bool.true_and,
    Bool.and_true, Bool.and_eq_true, and_assoc]

theorem sha1Of_keyText {host : Host} {a : Anomaly} (h : a.Encodes host) (bucket : Int) :
    host.sha1Of (keyText a.tenantName a.metric a.detectorName bucket) =
      .ok (host.sha1 (keyText a.tenantName a.metric a.detectorName bucket)) :=
  if_pos ((encodes_keyText host _ _ _ _).mpr h)

def stableText (d : AlertDeduplicator) (host : Host) (a : Anomaly) : String :=
  keyText a.tenantName a.metric a.detectorName (a.bucket host d.bucketSeconds)

def stableFingerprint (d : AlertDeduplicator) (host : Host) (a : Anomaly) :
    String :=
  take (host.sha1 (d.stableText host a)) 12

def stableKey (d : AlertDeduplicator) (host : Host) (a : Anomaly) : String :=
  keyPrefix ++ d.stableFingerprint host a

def stamp (d : AlertDeduplicator) (host : Host) (a : Anomaly) : Anomaly :=
  { a with fingerprint := some (d.stableFingerprint host a) }

theorem fingerprint_of_hasKey {d : AlertDeduplicator} {host : Host}
    {a : Anomaly} (hdouble : Host.HasDouble d.bucketSeconds) (h : a.HasKey host)
    (settings : Settings) (now : Rat) :
    d.fingerprint host settings now a = .ok (d.stableFingerprint host a) := by
  have hbucket : d.bucketOf host settings now a =
      .ok (a.bucket host d.bucketSeconds) := by
    exact @Anomaly.Parseable.timeBucket host a h.1 settings (some d.bucketSeconds) hdouble
      d.bucketSeconds_ne_zero now _
  unfold fingerprint
  rw [hbucket]
  dsimp only
  rw [sha1Of_keyText h.2]
  rfl

theorem claim_of_hasKey {d : AlertDeduplicator} {host : Host} {a : Anomaly} {now : Rat}
    (hclaim : d.CanClaim now) (h : a.HasKey host) (settings : Settings)
    (redis : Redis) :
    d.claim host settings now redis a =
      .ok ((redis.setNX (d.stableKey host a) now (now + d.cooldown)).1,
        d.stamp host a,
        (redis.setNX (d.stableKey host a) now (now + d.cooldown)).2) :=
  claim_of_fingerprint hclaim.cooldown (fingerprint_of_hasKey hclaim.width h settings now) redis

theorem filter_of_hasKey {d : AlertDeduplicator} {host : Host} {now : Rat}
    (hclaim : d.CanClaim now) (settings : Settings) (redis : Redis)
    {batch : List Anomaly} (h : forall a, a ∈ batch -> a.HasKey host) :
    d.filter host settings now redis batch =
      (.ok ((redis.claimAll (d.stableKey host) now (now + d.cooldown)
          batch).1.map (d.stamp host)),
        (redis.claimAll (d.stableKey host) now (now + d.cooldown) batch).2) := by
  unfold filter
  rw [filterLoop_of_fingerprints hclaim.cooldown batch
    (fun a ha => fingerprint_of_hasKey hclaim.width (h a ha) settings now), List.nil_append]
  rfl

end AlertDeduplicator

end Alerting
end MetricMesh
