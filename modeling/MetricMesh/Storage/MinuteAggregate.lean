import Mathlib.Logic.Encodable.Basic
import MetricMesh.Foundation.Downsampling
import MetricMesh.Storage.Queries

/-!
# The one-minute aggregate

The database keeps a materialized view of the points by minute, and the read
path computes the same summary of the points inside its bounds.  Both group the
rows by minute, but the read path drops rows before it groups them.
-/

namespace MetricMesh
namespace Storage

open Foundation
open Python
open Detection

/-!
# The view
-/

structure BucketRow where
  ts : Instant
  avgValue : PyFloat
  maxValue : PyFloat
  minValue : PyFloat
  sampleCount : Nat
deriving DecidableEq

def bucketRow (ts : Instant) (values : List PyFloat) : BucketRow where
  ts := ts
  avgValue := avg values
  maxValue := Storage.maxValue values
  minValue := Storage.minValue values
  sampleCount := values.length

/-- A row of the view `metrics_1min`; its `bucket` is the `ts` of its aggregates. -/
structure AggregateRow extends BucketRow where
  tenant : String
  metricName : String
deriving DecidableEq

def MetricRow.minute (r : MetricRow) : Instant :=
  timeBucket Storage.minute r.time

def MetricRow.aggregateKey (r : MetricRow) : Instant × String × String :=
  (r.minute, r.tenant, r.metricName)

/-- The view `metrics_1min` once it is refreshed over the whole table. -/
def metrics1min (db : Database) : List AggregateRow :=
  (groupKeys MetricRow.aggregateKey db.metrics).map fun k =>
    { toBucketRow :=
        bucketRow k.1 ((group MetricRow.aggregateKey k db.metrics).map MetricRow.value)
      tenant := k.2.1
      metricName := k.2.2 }

/-!
# The read path before its times become text
-/

def minuteRows (limit : Nat) (rows : List MetricRow) : List BucketRow :=
  (((groupKeys MetricRow.minute rows).insertionSort (fun a b => a ≤ b)).take limit).map
    fun ts => bucketRow ts ((group MetricRow.minute ts rows).map MetricRow.value)

def BucketRow.point (host : Host) (b : BucketRow) : MinutePoint where
  ts := host.isoformat b.ts
  avg := b.avgValue
  max := b.maxValue
  min := b.minValue
  count := b.sampleCount

theorem minutePoints_eq (host : Host) (limit : Nat) (rows : List MetricRow) :
    minutePoints host limit rows = (minuteRows limit rows).map (BucketRow.point host) := by
  unfold minuteRows
  rw [List.map_map]
  rfl

theorem pairwise_minuteRows (limit : Nat) (rows : List MetricRow) :
    (minuteRows limit rows).Pairwise (fun a b => a.ts < b.ts) := by
  unfold minuteRows
  rw [List.pairwise_map]
  exact (pairwise_groupKeys MetricRow.minute rows).sublist (List.take_sublist _ _)

theorem timeBucket_minute_dvd (time : Instant) :
    60000000 ∣ timeBucket minute time := by
  have horigin : (60000000 : Int) ∣ 946857600000000 := by decide
  exact Int.dvd_add horigin (Int.dvd_mul_left _ _)

theorem mem_minuteRows {limit : Nat} {rows : List MetricRow} {b : BucketRow} :
    b ∈ minuteRows limit rows <->
      exists ts, (ts ∈ groupKeys MetricRow.minute rows ∧
          ((groupKeys MetricRow.minute rows).countP fun a => a < ts) < limit) ∧
        bucketRow ts ((group MetricRow.minute ts rows).map MetricRow.value) = b := by
  unfold minuteRows
  rw [List.mem_map]
  constructor
  · intro h
    rcases h with ⟨ts, hts, hb⟩
    exact ⟨ts, mem_take_groupKeys_iff.mp hts, hb⟩
  · intro h
    rcases h with ⟨ts, hts, hb⟩
    exact ⟨ts, mem_take_groupKeys_iff.mpr hts, hb⟩

theorem sum_sampleCount {limit : Nat} {rows : List MetricRow}
    (h : (groupKeys MetricRow.minute rows).length ≤ limit) :
    ((minuteRows limit rows).map BucketRow.sampleCount).sum = rows.length := by
  have hall : ((groupKeys MetricRow.minute rows).insertionSort (fun a b => a ≤ b)).length ≤
      limit := by
    rw [List.length_insertionSort]
    exact h
  have hcounts := sum_length_groups MetricRow.minute rows
  unfold minuteRows
  rw [List.take_of_length_le hall, List.map_map, ← hcounts]
  congr 1
  apply List.map_congr_left
  intro ts _
  exact List.length_map _

/-!
# Bounds and minutes

The view groups all points of a series, and the read path groups those inside
the bounds.  So a minute that the read path shows agrees with the view exactly
when the bounds cut nothing off it.
-/

def seriesRows (db : Database) (metricName tenant : String) : List MetricRow :=
  db.metrics.filter fun r => (r.tenant, r.metricName) = (tenant, metricName)

def inBounds (start stop : Option Instant) (r : MetricRow) : Bool :=
  fromFilter start r.time && toFilter stop r.time

section Bounds

variable (db : Database) (metricName : String) (start stop : Option Instant)
variable (tenant : String)

theorem windowRows_eq :
    windowRows db metricName start stop tenant =
      (seriesRows db metricName tenant).filter (inBounds start stop) := by
  unfold windowRows seriesRows
  rw [List.filter_filter]
  apply List.filter_congr
  intro r _
  unfold inBounds
  rw [Bool.eq_iff_iff]
  simp only [Bool.and_eq_true, decide_eq_true_iff, Prod.mk.injEq]
  tauto

def Materialized (b : BucketRow) : Prop :=
  { toBucketRow := b, tenant := tenant, metricName := metricName } ∈ metrics1min db

variable {db metricName tenant} in
theorem materialized_iff {b : BucketRow} :
    Materialized db metricName tenant b <->
      b.ts ∈ groupKeys MetricRow.minute (seriesRows db metricName tenant) ∧
        b = bucketRow b.ts ((group MetricRow.minute b.ts
          (seriesRows db metricName tenant)).map MetricRow.value) := by
  unfold Materialized metrics1min seriesRows
  rw [List.mem_map, mem_groupKeys, List.mem_map, ← group_pair]
  constructor
  · intro h
    rcases h with ⟨⟨ts, owner⟩, hkey, hrow⟩
    simp only [AggregateRow.mk.injEq] at hrow
    rcases hrow with ⟨hb, htenant, hmetric⟩
    subst hb htenant hmetric
    rcases List.mem_map.mp (mem_groupKeys.mp hkey) with ⟨r, hr, hkey⟩
    have hparts : r.minute = ts ∧ (r.tenant, r.metricName) = owner := Prod.mk.inj hkey
    constructor
    · exact ⟨r, List.mem_filter.mpr ⟨hr, decide_eq_true hparts.2⟩, hparts.1⟩
    · rfl
  · intro h
    rcases h with ⟨⟨r, hr, hminute⟩, hb⟩
    rcases List.mem_filter.mp hr with ⟨hmem, howner⟩
    refine ⟨(b.ts, tenant, metricName),
      mem_groupKeys.mpr (List.mem_map.mpr ⟨r, hmem, ?_⟩), ?_⟩
    · exact Prod.ext hminute (of_decide_eq_true howner)
    · exact congrArg (fun b' => AggregateRow.mk b' tenant metricName) hb.symm

/-- Every point that shares a minute with a shown one is inside the bounds. -/
def WholeMinutes (limit : Nat) : Prop :=
  forall r, r ∈ windowRows db metricName start stop tenant ->
    ((groupKeys MetricRow.minute (windowRows db metricName start stop tenant)).countP
      fun earlier => earlier < r.minute) < limit ->
    forall s, s ∈ db.metrics -> s.metricName = metricName -> s.tenant = tenant ->
      s.minute = r.minute -> inBounds start stop s = true

variable {db metricName start stop tenant}

/-- A shown minute is in the view exactly when no point of it is out of bounds. -/
theorem materialized_minute_iff {ts : Instant}
    (hts : ts ∈ groupKeys MetricRow.minute (windowRows db metricName start stop tenant)) :
    Materialized db metricName tenant
        (bucketRow ts ((group MetricRow.minute ts
          (windowRows db metricName start stop tenant)).map MetricRow.value)) <->
      forall s, s ∈ group MetricRow.minute ts (seriesRows db metricName tenant) ->
        inBounds start stop s = true := by
  rw [windowRows_eq] at hts
  rw [windowRows_eq, materialized_iff]
  constructor
  · intro h
    have hcount := congrArg BucketRow.sampleCount h.2
    simp only [bucketRow, List.length_map] at hcount
    exact (length_group_filter_eq_iff _ _ _ _).mp hcount
  · intro h
    constructor
    · rw [mem_groupKeys] at hts
      rw [mem_groupKeys]
      exact (List.filter_sublist.map _).subset hts
    · rw [group_filter_of_forall _ _ _ _ h]
      rfl

theorem materialized_minuteRows_iff {limit : Nat} :
    (forall b, b ∈ minuteRows limit (windowRows db metricName start stop tenant) ->
      Materialized db metricName tenant b) <->
      WholeMinutes db metricName start stop tenant limit := by
  constructor
  · intro h r hr hearly s hs hmetric htenant hminute
    have hkey : r.minute ∈
        groupKeys MetricRow.minute (windowRows db metricName start stop tenant) :=
      mem_groupKeys.mpr (List.mem_map_of_mem hr)
    have hshown := h _ (mem_minuteRows.mpr ⟨r.minute, ⟨hkey, hearly⟩, rfl⟩)
    apply (materialized_minute_iff hkey).mp hshown s
    apply mem_group.mpr
    exact ⟨List.mem_filter.mpr ⟨hs, by simp [hmetric, htenant]⟩, hminute⟩
  · intro h b hb
    rcases mem_minuteRows.mp hb with ⟨ts, ⟨hkey, hearly⟩, hb⟩
    subst hb
    rcases List.mem_map.mp (mem_groupKeys.mp hkey) with ⟨r, hr, hts⟩
    subst hts
    apply (materialized_minute_iff hkey).mpr
    intro s hs
    rcases mem_group.mp hs with ⟨hmem, hminute⟩
    rcases List.mem_filter.mp hmem with ⟨hs, howner⟩
    have hparts := Prod.mk.inj (of_decide_eq_true howner)
    exact h r hr hearly s hs hparts.2 hparts.1 hminute

end Bounds

/-!
# Agreement
-/

def Untruncated (rows : List MetricRow) (limit rawLimit : Nat) : Prop :=
  (groupKeys MetricRow.minute rows).length ≤ limit ∧ rows.length ≤ rawLimit

/-- The one-minute answer consists of these rows, and they agree with the view. -/
structure MinuteSeriesAgrees (db : Database) (metricName : String)
    (start stop : Option Instant) (limit : Nat) (tenant : String)
    (buckets : List BucketRow) : Prop where
  /-- Whatever the text of an instant is. -/
  shown : forall host, fetchMetricSeries host db metricName start stop .oneMinute limit
    tenant = .inr (buckets.map (BucketRow.point host))
  materialized : forall b, b ∈ buckets -> Materialized db metricName tenant b
  increasing : buckets.Pairwise fun a b => a.ts < b.ts
  boundary : forall b, b ∈ buckets -> 60000000 ∣ b.ts
  counted : forall rawLimit,
    Untruncated (windowRows db metricName start stop tenant) limit rawLimit ->
    forall host, exists points,
      fetchMetricSeries host db metricName start stop .raw rawLimit tenant = .inl points ∧
        (buckets.map BucketRow.sampleCount).sum = points.length

def tallyHost : Host :=
  { Host.withDigests [] with
    isoformat := fun t => String.ofList (List.replicate (Encodable.encode t) '|') }

theorem point_tallyHost_injective : Function.Injective (BucketRow.point tallyHost) := by
  intro a b h
  unfold BucketRow.point at h
  rw [MinutePoint.mk.injEq] at h
  rcases h with ⟨hts, havg, hmax, hmin, hcount⟩
  have hlength := congrArg (fun text => text.toList.length) hts
  simp only [tallyHost, String.toList_ofList, List.length_replicate] at hlength
  have hinstant := Encodable.encode_injective hlength
  cases a
  cases b
  rw [BucketRow.mk.injEq]
  exact ⟨hinstant, havg, hmax, hmin, hcount⟩

theorem eq_minuteRows_of_shown {db : Database} {metricName : String}
    {start stop : Option Instant} {limit : Nat} {tenant : String}
    {buckets : List BucketRow}
    (h : fetchMetricSeries tallyHost db metricName start stop .oneMinute limit tenant =
      .inr (buckets.map (BucketRow.point tallyHost))) :
    buckets = minuteRows limit (windowRows db metricName start stop tenant) := by
  unfold fetchMetricSeries at h
  simp only [Sum.inr.injEq, minutePoints_eq] at h
  exact (point_tallyHost_injective.list_map h).symm

/--
The one-minute read path agrees with the refreshed view exactly when no point
outside the bounds shares a minute with a point that is shown.
-/
theorem fetchMetricSeries_agrees_iff (db : Database) (metricName : String)
    (start stop : Option Instant) (limit : Nat) (tenant : String) :
    (exists buckets, MinuteSeriesAgrees db metricName start stop limit tenant buckets) <->
      WholeMinutes db metricName start stop tenant limit := by
  constructor
  · intro h
    rcases h with ⟨buckets, h⟩
    rw [← materialized_minuteRows_iff, ← eq_minuteRows_of_shown (h.shown tallyHost)]
    exact h.materialized
  · intro h
    refine ⟨minuteRows limit (windowRows db metricName start stop tenant), ?_⟩
    constructor
    · intro host
      unfold fetchMetricSeries
      rw [minutePoints_eq]
    · exact materialized_minuteRows_iff.mpr h
    · exact pairwise_minuteRows _ _
    · intro b hb
      rcases mem_minuteRows.mp hb with ⟨ts, ⟨hkey, _⟩, hb⟩
      rcases List.mem_map.mp (mem_groupKeys.mp hkey) with ⟨r, _, hts⟩
      rw [← hb, ← hts]
      exact timeBucket_minute_dvd r.time
    · intro rawLimit huntruncated host
      refine ⟨_, rfl, ?_⟩
      rw [sum_sampleCount huntruncated.1]
      unfold rawPoints
      rw [List.length_map, List.length_take, List.length_insertionSort]
      exact (Nat.min_eq_right huntruncated.2).symm

def splitMinute : Database where
  metrics :=
    [{ time := 10000000, metricName := "cpu", value := .finite 1, tenant := "default" },
     { time := 40000000, metricName := "cpu", value := .finite 3, tenant := "default" }]

/-- A window that starts between them counts one point, and the view counts two. -/
theorem splitMinute_disagrees :
    ¬ forall (db : Database) (metricName : String) (start stop : Option Instant)
      (limit : Nat) (tenant : String),
      exists buckets, MinuteSeriesAgrees db metricName start stop limit tenant buckets := by
  intro h
  rcases h splitMinute "cpu" (some 30000000) none 10000 "default" with ⟨buckets, h⟩
  have hbuckets := eq_minuteRows_of_shown (h.shown tallyHost)
  have hmem : bucketRow 0 [.finite 3] ∈ buckets := by
    rw [hbuckets]
    decide +kernel
  have hview := h.materialized _ hmem
  unfold Materialized at hview
  revert hview
  decide +kernel

end Storage
end MetricMesh
