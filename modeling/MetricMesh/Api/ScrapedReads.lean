import MetricMesh.Api.Auth
import MetricMesh.Ingestion.ScraperLoop

/-!
# Reading what the scraper stored

The scraper inserts under the tenant that `bulk_insert` takes by default.  A
caller with a plain key, and every caller in dev mode, reads under the tenant
that the settings name.  The two are connected by nothing but the default of the
setting.
-/

namespace MetricMesh
namespace Api

open Foundation
open Python
open Storage
open Ingestion
open Detection

/-!
# Callers
-/

/-- Any caller in dev mode, and otherwise a caller with a plain key. -/
def DefaultReader (host : Host) (settings : Settings) (request : Request) : Prop :=
  ¬ settings.HasUsableKey host ∨
    exists key, request.xApiKey = some key ∧ key ∈ settings.apiKeysSet

def readerTenant (host : Host) (settings : Settings) (request : Request) : String :=
  (request.xApiKey.bind (settings.configuredTenant host)).getD settings.defaultTenant

theorem readerTenant_of_open {host : Host} {settings : Settings}
    (h : ¬ settings.HasUsableKey host) (request : Request) :
    readerTenant host settings request = settings.defaultTenant := by
  unfold readerTenant
  cases request.xApiKey with
  | none =>
      rfl
  | some key =>
      rw [Option.bind_some, ← Settings.keyTenantMap_get?,
        (Settings.keyTenantMap_eq_nil host settings).mpr h]
      rfl

theorem configuredTenant_of_plain (host : Host) {settings : Settings} {key : String}
    (h : key ∈ settings.apiKeysSet) :
    exists tenant, settings.configuredTenant host key = some tenant := by
  have hne : key ≠ "" := (Settings.mem_apiKeysSet.mp h).1
  unfold Settings.configuredTenant
  rw [if_neg hne, if_pos h]
  cases Settings.lastField key (settings.tenantFields host) with
  | none =>
      exact ⟨_, rfl⟩
  | some v =>
      exact ⟨_, rfl⟩

theorem requireApiKey_defaultReader (host : Host) {settings : Settings} {request : Request}
    (h : DefaultReader host settings request) :
    exists principal, requireApiKey host settings request =
      .ok { principal := principal, tenant := readerTenant host settings request } := by
  by_cases husable : settings.HasUsableKey host
  · rcases h with hopen | ⟨key, hkey, hplain⟩
    · exact absurd husable hopen
    · rcases configuredTenant_of_plain host hplain with ⟨tenant, htenant⟩
      refine ⟨principalFor host key, ?_⟩
      rw [requireApiKey_closed husable]
      simp [readerTenant, hkey, htenant]
  · refine ⟨"anonymous", ?_⟩
    rw [requireApiKey_open husable, readerTenant_of_open husable]

/-!
# Raw reads
-/

def WindowContains (start stop : Option Instant) : PyFloat -> Prop
  | .finite q =>
      (forall t, start = some t -> (t : Rat) ≤ q * 1000000) ∧
        forall t, stop = some t -> q * 1000000 ≤ (t : Rat)
  | _ => False

def rawPoint (host : Host) (r : MetricRow) : RawPoint where
  ts := host.isoformat r.time
  value := r.value

def scrapedPoint (host : Host) (metricName : String) (start stop : Option Instant)
    (p : PointDict) : Option RawPoint :=
  match toTimestamp p.timestamp with
  | some time =>
      if p.metricName = metricName && fromFilter start time && toFilter stop time then
        some { ts := host.isoformat time, value := p.value }
      else none
  | none => none

theorem rawPoints_perm (host : Host) {limit : Nat} {rows : List MetricRow}
    (h : rows.length ≤ limit) : (rawPoints host limit rows).Perm (rows.map (rawPoint host)) := by
  unfold rawPoints
  rw [List.take_of_length_le (by rw [List.length_insertionSort]; exact h)]
  exact (List.perm_insertionSort _ rows).map _

theorem windowRows_append (db : Database) (rows : List MetricRow) (metricName : String)
    (start stop : Option Instant) (tenant : String) :
    windowRows { db with metrics := db.metrics ++ rows } metricName start stop tenant =
      windowRows db metricName start stop tenant ++
        windowRows { metrics := rows } metricName start stop tenant := by
  unfold windowRows
  rw [List.filter_append]

theorem windowRows_metricRows (host : Host) {tenant : String} {points : List PointDict}
    {rows : List MetricRow}
    (h : Storage.metricRows tenant (points.map PointDict.stored) = some rows)
    (metricName : String) (start stop : Option Instant) :
    (windowRows { metrics := rows } metricName start stop tenant).map (rawPoint host) =
      points.filterMap (scrapedPoint host metricName start stop) := by
  induction points generalizing rows with
  | nil =>
      injection h with h
      rw [← h]
      rfl
  | cons p rest ih =>
      rcases metricRows_cons h with ⟨time, others, htime, hothers, hrows⟩
      have htime : toTimestamp p.timestamp = some time := htime
      have htail := ih hothers
      unfold windowRows at htail
      unfold windowRows
      rw [hrows, List.filterMap_cons, ← htail]
      simp only [scrapedPoint, htime, PointDict.stored, List.filter_cons, decide_true,
        Bool.and_true]
      cases hshown : (decide (p.metricName = metricName) && fromFilter start time &&
          toFilter stop time) with
      | true =>
          rfl
      | false =>
          rfl

theorem windowRows_of_other {tenant other : String} {points : List Point}
    {rows : List MetricRow} (h : Storage.metricRows tenant points = some rows)
    (hne : other ≠ tenant) (metricName : String) (start stop : Option Instant) :
    windowRows { metrics := rows } metricName start stop other = [] := by
  unfold windowRows
  apply List.filter_eq_nil_iff.mpr
  intro r hr
  have htenant := tenant_of_metricRows h hr
  have hother : ¬ r.tenant = other := fun heq => hne (heq.symm.trans htenant)
  simp [hother]

theorem inWindow_of_contains {start stop : Option Instant} {timestamp : PyFloat}
    {time : Instant} (htime : toTimestamp timestamp = some time)
    (h : WindowContains start stop timestamp) :
    fromFilter start time = true ∧ toFilter stop time = true := by
  cases timestamp with
  | finite q =>
      rcases h with ⟨hstart, hstop⟩
      simp only [toTimestamp] at htime
      split_ifs at htime
      injection htime with htime
      rw [← htime]
      constructor
      · cases start with
        | none =>
            rfl
        | some t =>
            exact decide_eq_true (le_roundEven_of_le (hstart t rfl))
      · cases stop with
        | none =>
            rfl
        | some t =>
            exact decide_eq_true (roundEven_le_of_le (hstop t rfl))
  | inf =>
      exact h.elim
  | negInf =>
      exact h.elim
  | nan =>
      exact h.elim

/-!
# Reading back
-/

/--
For a reader of the tenant, the table has gained exactly the committed points:
each is shown once, with its value, by the raw reads whose window has its time.
-/
structure ReadsBack (host : Host) (before after : Database) (committed : List PointDict)
    (tenant : String) : Prop where
  answered : forall metricName start stop limit,
    (windowRows after metricName start stop tenant).length ≤ limit ->
    exists old all,
      fetchMetricSeries host before metricName start stop .raw limit tenant = .inl old ∧
      fetchMetricSeries host after metricName start stop .raw limit tenant = .inl all ∧
      all.Perm (old ++ committed.filterMap (scrapedPoint host metricName start stop))
  covered : forall p, p ∈ committed -> forall start stop,
    WindowContains start stop p.timestamp ->
    exists time, toTimestamp p.timestamp = some time ∧
      scrapedPoint host p.metricName start stop p =
        some { ts := host.isoformat time, value := p.value }

section Store

variable {host : Host} {db : Database} {points : List PointDict} {rows : List MetricRow}

theorem readsBack_of_rows {tenant : String}
    (h : Storage.metricRows tenant (points.map PointDict.stored) = some rows) :
    ReadsBack host db { db with metrics := db.metrics ++ rows } points tenant := by
  constructor
  · intro metricName start stop limit hlimit
    refine ⟨_, _, rfl, rfl, ?_⟩
    have hboth := hlimit
    rw [windowRows_append, List.length_append] at hboth
    have hold := rawPoints_perm host (Nat.le_of_add_right_le hboth)
    have hall := rawPoints_perm host hlimit
    rw [windowRows_append, List.map_append, windowRows_metricRows host h] at hall
    rw [windowRows_append]
    exact hall.trans (hold.symm.append_right _)
  · intro p hp start stop hwindow
    have htimes := (metricRows_isSome tenant (points.map PointDict.stored)).mp
      (by rw [h]; rfl)
    rcases Option.isSome_iff_exists.mp (htimes p.stored (List.mem_map_of_mem hp)) with
      ⟨time, htime⟩
    have htime : toTimestamp p.timestamp = some time := htime
    rcases inWindow_of_contains htime hwindow with ⟨hfrom, hto⟩
    exact ⟨time, htime, by simp [scrapedPoint, htime, hfrom, hto]⟩

theorem eq_nil_of_readsBack_other {tenant other : String}
    (h : Storage.metricRows tenant (points.map PointDict.stored) = some rows)
    (hne : other ≠ tenant)
    (hback : ReadsBack host db { db with metrics := db.metrics ++ rows } points other) :
    points = [] := by
  cases points with
  | nil =>
      rfl
  | cons p rest =>
      rcases hback.answered p.metricName none none
        (windowRows { db with metrics := db.metrics ++ rows } p.metricName none none
          other).length (Nat.le_refl _) with ⟨old, all, hold, hall, hperm⟩
      unfold fetchMetricSeries at hold hall
      rw [windowRows_append, windowRows_of_other h hne, List.append_nil] at hold hall
      have hsame : old = all := Sum.inl.inj (hold.symm.trans hall)
      have hlength := hperm.length_eq
      rw [hsame, List.length_append] at hlength
      have htimes := (metricRows_isSome tenant ((p :: rest).map PointDict.stored)).mp
        (by rw [h]; rfl)
      rcases Option.isSome_iff_exists.mp (htimes p.stored List.mem_cons_self) with
        ⟨time, htime⟩
      have htime : toTimestamp p.timestamp = some time := htime
      have hshown : scrapedPoint host p.metricName none none p =
          some { ts := host.isoformat time, value := p.value } := by
        simp [scrapedPoint, htime, fromFilter, toFilter]
      rw [List.filterMap_cons, hshown, List.length_cons] at hlength
      omega

end Store

/-!
# The loop and its readers
-/

/--
The points are committed in the order of the yields, fewer than a batch are
pending between two of them, and the caller reads back what is committed.
-/
structure ScrapedPointsReadBack (host : Host) (settings : Settings) (batchSize : Nat)
    (db : Database) (yields : List Yield) (request : Request) : Prop where
  ordered : (scraperLoop batchSize db yields).committed <+: yields.map Yield.point
  pending : (scraperLoop batchSize db yields).running = true ->
    (scraperLoop batchSize db yields).committed ++ (scraperLoop batchSize db yields).buffer =
      yields.map Yield.point ∧
    (scraperLoop batchSize db yields).buffer.length ≤ batchSize - 1
  readBack : exists identity, requireApiKey host settings request = .ok identity ∧
    ReadsBack host db (scraperLoop batchSize db yields).store
      (scraperLoop batchSize db yields).committed identity.tenant

/--
A caller with a plain key, or any caller in dev mode, reads back what the scraper
committed exactly when the settings give it the tenant that the scraper writes
under, or no batch is committed at all.
-/
theorem scrapedPoints_readBack_iff (host : Host) (settings : Settings) (batchSize : Nat)
    (db : Database) (yields : List Yield) (request : Request) (hbatch : 1 ≤ batchSize)
    (hreader : DefaultReader host settings request) :
    ScrapedPointsReadBack host settings batchSize db yields request <->
      readerTenant host settings request = "default" ∨
        ¬ FirstBatchCommits batchSize yields := by
  rcases requireApiKey_defaultReader host hreader with ⟨principal, hidentity⟩
  rcases scraperLoop_store batchSize db yields with ⟨rows, hrows, hstore⟩
  rw [← scraperLoop_committed_ne_nil_iff hbatch db, not_not]
  constructor
  · intro h
    rcases h.readBack with ⟨identity, hcaller, hback⟩
    have hsame : identity = _ := Except.ok.inj (hcaller.symm.trans hidentity)
    rw [hsame, hstore] at hback
    by_cases htenant : readerTenant host settings request = "default"
    · exact Or.inl htenant
    · exact Or.inr (eq_nil_of_readsBack_other hrows htenant hback)
  · intro h
    have horder := scraperLoop_inOrder hbatch db yields
    refine ⟨horder.order, ?_, _, hidentity, ?_⟩
    · intro hrunning
      rcases horder.pending hrunning with ⟨hall, hfew⟩
      exact ⟨hall, Nat.le_sub_one_of_lt hfew⟩
    · rcases h with htenant | hnone
      · show ReadsBack host db _ _ (readerTenant host settings request)
        rw [htenant, hstore]
        exact readsBack_of_rows hrows
      · rw [hnone] at hrows
        injection hrows with hrows
        rw [hnone, hstore, ← hrows]
        exact readsBack_of_rows rfl

def acmeByDefault : Settings :=
  { Settings.defaults with defaultTenant := "acme" }

def cpuYield : Yield where
  point := { metricName := "cpu", value := .finite 1, timestamp := .finite 0 }

theorem acmeByDefault_open : ¬ acmeByDefault.HasUsableKey (Host.withDigests []) := by
  rw [← Settings.keyTenantMap_eq_nil (Host.withDigests [])]
  decide +kernel

theorem acmeReader_misses_points :
    ¬ forall (host : Host) (settings : Settings) (batchSize : Nat) (db : Database)
      (yields : List Yield) (request : Request), 1 ≤ batchSize ->
      DefaultReader host settings request ->
      ScrapedPointsReadBack host settings batchSize db yields request := by
  intro h
  rcases (h (Host.withDigests []) acmeByDefault 1 {} [cpuYield] anonymousRequest (by decide)
    (Or.inl acmeByDefault_open)).readBack with ⟨identity, hcaller, hback⟩
  rw [requireApiKey_open acmeByDefault_open] at hcaller
  have hidentity : _ = identity := Except.ok.inj hcaller
  rw [← hidentity] at hback
  rcases scraperLoop_store 1 {} [cpuYield] with ⟨rows, hrows, hstore⟩
  rw [hstore] at hback
  have hnone := eq_nil_of_readsBack_other hrows (by decide) hback
  revert hnone
  decide +kernel

theorem scrapedPoints_readBack_default :
    ScrapedPointsReadBack (Host.withDigests []) Settings.defaults 1 {} [cpuYield]
      anonymousRequest <->
      readerTenant (Host.withDigests []) Settings.defaults anonymousRequest = "default" ∨
        ¬ FirstBatchCommits 1 [cpuYield] :=
  scrapedPoints_readBack_iff (Host.withDigests []) Settings.defaults 1 {} [cpuYield]
    anonymousRequest (by decide)
    (Or.inl (by
      rw [← Settings.keyTenantMap_eq_nil (Host.withDigests [])]
      decide +kernel))

end Api
end MetricMesh
