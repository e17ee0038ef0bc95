import MetricMesh.Foundation.Paging
import MetricMesh.Storage.OperationalLog

/-!
# Pages of the histories

The alert history, the dead letters and the audit trail are all read in pages,
newest first.  Each read issues one statement for the total and one for the
page.  With unique identifiers the order is total even where times are equal, so
consecutive pages neither repeat a row nor leave one out.
-/

namespace MetricMesh
namespace Storage

open Foundation
open Python
open Detection

universe v

/-!
# Newest first
-/

section Order

variable {α : Type} (time : α -> Instant) (id : α -> Int)

instance newestFirstTrans : IsTrans α (NewestFirst time id) := by
  constructor
  intro a b c hab hbc
  rcases hab with hab | ⟨htie, hid⟩
  · rcases hbc with hbc | ⟨htie', _⟩
    · exact Or.inl (lt_trans hbc hab)
    · exact Or.inl (htie' ▸ hab)
  · rcases hbc with hbc | ⟨htie', hid'⟩
    · exact Or.inl (htie ▸ hbc)
    · exact Or.inr ⟨htie.trans htie', le_trans hid' hid⟩

instance newestFirstTotal : Std.Total (NewestFirst time id) := by
  constructor
  intro a b
  rcases lt_trichotomy (time a) (time b) with hlt | htie | hgt
  · exact Or.inr (Or.inl hlt)
  · rcases le_total (id b) (id a) with hid | hid
    · exact Or.inl (Or.inr ⟨htie, hid⟩)
    · exact Or.inr (Or.inr ⟨htie.symm, hid⟩)
  · exact Or.inl (Or.inl hgt)

end Order

/-- The accepted rows, each once, newest first with ties by descending identifier. -/
structure NewestFirstListing {α : Type} (time : α -> Instant) (id : α -> Int)
    (accepted : α -> Prop) (rows listing : List α) : Prop where
  mem : forall r, r ∈ listing <-> r ∈ rows ∧ accepted r
  once : listing.Nodup
  ordered : listing.Pairwise fun a b =>
    time b < time a ∨ (time a = time b ∧ id b < id a)

section Listing

variable {α : Type} {ι : Type v} {time : α -> Instant} {id : α -> Int}

theorem newestFirstListing_insertionSort {rows : List α} (hids : (rows.map id).Nodup)
    {selected : α -> Bool} {accepted : α -> Prop}
    (hselected : forall r, selected r = true <-> accepted r) :
    NewestFirstListing time id accepted rows
      ((rows.filter selected).insertionSort (NewestFirst time id)) := by
  have hperm := List.perm_insertionSort (NewestFirst time id) (rows.filter selected)
  have hkept : ((rows.filter selected).map id).Nodup :=
    hids.sublist (List.filter_sublist.map id)
  have hsorted : (((rows.filter selected).insertionSort (NewestFirst time id)).map id).Nodup :=
    (hperm.map id).nodup_iff.mpr hkept
  constructor
  · intro r
    rw [hperm.mem_iff, List.mem_filter, hselected]
  · exact hsorted.of_map id
  · have hdistinct := List.pairwise_map.mp hsorted
    have hnewest := List.pairwise_insertionSort (NewestFirst time id) (rows.filter selected)
    apply (hnewest.and hdistinct).imp
    intro a b h
    rcases h with ⟨hnewer, hne⟩
    rcases hnewer with hnewer | ⟨htie, hid⟩
    · exact Or.inl hnewer
    · exact Or.inr ⟨htie, lt_of_le_of_ne hid (Ne.symm hne)⟩

/-- The pages of a selection tile the list of the accepted rows. -/
theorem exists_tiled_listing {rows : List α} (hids : (rows.map id).Nodup)
    {selected : α -> Bool} {accepted : α -> Prop}
    (hselected : forall r, selected r = true <-> accepted r) (item : α -> ι) :
    exists listing, NewestFirstListing time id accepted rows listing ∧
      Tiles (fun limit offset =>
        ((page (NewestFirst time id) limit offset (rows.filter selected)).map item,
          (rows.filter selected).length)) (listing.map item) :=
  ⟨_, newestFirstListing_insertionSort hids hselected, tiles_page _ _ item⟩

end Listing

/-!
# Filters
-/

theorem textFilter_iff {given : Option String} (h : given ≠ some "") (column : String) :
    textFilter given column = true <-> forall text, given = some text -> column = text := by
  cases given with
  | none =>
      simp [textFilter]
  | some text =>
      have hne : text ≠ "" := fun heq => h (congrArg some heq)
      simp [textFilter, hne]

theorem fromFilter_iff (start : Option Instant) (time : Instant) :
    fromFilter start time = true <-> forall t, start = some t -> t ≤ time := by
  cases start with
  | none =>
      simp [fromFilter]
  | some t =>
      simp [fromFilter]

theorem toFilter_iff (stop : Option Instant) (time : Instant) :
    toFilter stop time = true <-> forall t, stop = some t -> time ≤ t := by
  cases stop with
  | none =>
      simp [toFilter]
  | some t =>
      simp [toFilter]

structure AlertFilters.Satisfied (filters : AlertFilters) (tenant : String)
    (r : AlertRow) : Prop where
  tenant : r.tenant = tenant
  metricName : forall name, filters.metricName = some name -> r.metricName = name
  detector : forall name, filters.detector = some name -> r.detector = name
  minScore : forall score, filters.minScore = some score -> atLeast r.score score = true
  start : forall t, filters.start = some t -> t ≤ r.createdAt
  stop : forall t, filters.stop = some t -> r.createdAt ≤ t

theorem AlertFilters.accepts_iff {filters : AlertFilters}
    (hmetric : filters.metricName ≠ some "") (hdetector : filters.detector ≠ some "")
    (tenant : String) (r : AlertRow) :
    (decide (r.tenant = tenant) && filters.accepts r) = true <->
      filters.Satisfied tenant r := by
  unfold AlertFilters.accepts
  simp only [Bool.and_eq_true, decide_eq_true_iff, textFilter_iff hmetric,
    textFilter_iff hdetector, fromFilter_iff, toFilter_iff]
  constructor
  · intro h
    rcases h with ⟨htenant, ⟨⟨⟨hmetric, hdetector⟩, hminScore⟩, hstart⟩, hstop⟩
    refine ⟨htenant, hmetric, hdetector, ?_, hstart, hstop⟩
    intro score hscore
    rw [hscore] at hminScore
    exact hminScore
  · intro h
    refine ⟨h.tenant, ⟨⟨⟨h.metricName, h.detector⟩, ?_⟩, h.start⟩, h.stop⟩
    cases hscore : filters.minScore with
    | none =>
        rfl
    | some score =>
        exact h.minScore score hscore

/-!
# The three histories
-/

def AlertPages (host : Host) (db : Database) (filters : AlertFilters) (tenant : String) :
    Prop :=
  exists listing,
    NewestFirstListing AlertRow.createdAt AlertRow.id (filters.Satisfied tenant) db.alerts
      listing ∧
    Tiles (fun limit offset => fetchAlerts host db filters limit offset tenant)
      (listing.map (AlertRow.item host))

def DeadLetterPages (host : Host) (rows : List DeadLetterRow) (taskName : Option String) :
    Prop :=
  exists listing,
    NewestFirstListing DeadLetterRow.failedAt DeadLetterRow.id
      (fun r => forall name, taskName = some name -> r.taskName = name) rows listing ∧
    Tiles (fun limit offset => fetchDeadLetters host rows taskName limit offset)
      (listing.map (DeadLetterRow.item host))

def AuditPages (host : Host) (rows : List AuditRow) (action : Option String) : Prop :=
  exists listing,
    NewestFirstListing AuditRow.loggedAt AuditRow.id
      (fun r => forall name, action = some name -> r.action = name) rows listing ∧
    Tiles (fun limit offset => fetchAuditLog host rows action limit offset)
      (listing.map (AuditRow.item host))

theorem alertPages {host : Host} {db : Database} {filters : AlertFilters}
    (hids : (db.alerts.map fun r => r.id).Nodup) (hmetric : filters.metricName ≠ some "")
    (hdetector : filters.detector ≠ some "") (tenant : String) :
    AlertPages host db filters tenant :=
  exists_tiled_listing hids (AlertFilters.accepts_iff hmetric hdetector tenant)
    (AlertRow.item host)

theorem deadLetterPages {host : Host} {rows : List DeadLetterRow} {taskName : Option String}
    (hids : (rows.map fun r => r.id).Nodup) (htask : taskName ≠ some "") :
    DeadLetterPages host rows taskName :=
  exists_tiled_listing hids (fun r => textFilter_iff htask r.taskName)
    (DeadLetterRow.item host)

theorem auditPages {host : Host} {rows : List AuditRow} {action : Option String}
    (hids : (rows.map fun r => r.id).Nodup) (haction : action ≠ some "") :
    AuditPages host rows action :=
  exists_tiled_listing hids (fun r => textFilter_iff haction r.action) (AuditRow.item host)

/--
The pages of each history tile the list of the rows that satisfy the given
filters: nothing is repeated, nothing is left out, and every total is right.
-/
theorem pages_tile_histories (host : Host) (db : Database) (deadLetters : List DeadLetterRow)
    (auditLog : List AuditRow) (filters : AlertFilters) (tenant : String)
    (taskName action : Option String)
    (halerts : (db.alerts.map fun r => r.id).Nodup)
    (hdeadLetters : (deadLetters.map fun r => r.id).Nodup)
    (hauditLog : (auditLog.map fun r => r.id).Nodup)
    (hmetric : filters.metricName ≠ some "") (hdetector : filters.detector ≠ some "")
    (htask : taskName ≠ some "") (haction : action ≠ some "") :
    AlertPages host db filters tenant ∧ DeadLetterPages host deadLetters taskName ∧
      AuditPages host auditLog action :=
  ⟨alertPages halerts hmetric hdetector tenant, deadLetterPages hdeadLetters htask,
    auditPages hauditLog haction⟩

def tiedAlerts : Database where
  alerts := ["cpu", "cpu", "cpu", "disk"].zipIdx.map fun item =>
    { metricName := item.1
      detector := "zscore"
      method := ""
      score := .finite 1
      value := .finite 2
      fingerprint := ""
      routedTo := []
      tenant := "default"
      id := item.2
      createdAt := if item.2 = 0 then 0 else 60000000 }

theorem pages_tile_tiedAlerts :
    AlertPages (Host.withDigests []) tiedAlerts { metricName := some "cpu" } "default" ∧
      DeadLetterPages (Host.withDigests []) [] (some "workers.tasks.route_alert") ∧
      AuditPages (Host.withDigests []) [] none :=
  pages_tile_histories (Host.withDigests []) tiedAlerts [] []
    { metricName := some "cpu" } "default" (some "workers.tasks.route_alert") none
    (by decide +kernel) List.nodup_nil List.nodup_nil (by decide) (by decide) (by decide)
    (by decide)

end Storage
end MetricMesh
