import MetricMesh.Foundation.Batching
import MetricMesh.Ingestion.Scraper
import MetricMesh.Storage.Operations

/-!
# The scraper and the store

The loop of the scraper as it drives the store: the yielded points gather in a
buffer, and a full buffer is inserted and committed in a session of its own.  An
exception of the insert or of the commit ends the loop.
-/

namespace MetricMesh
namespace Ingestion

open Foundation
open Python
open Storage

structure Yield where
  point : PointDict
  /-- Whether the session raises if this point makes the buffer full. -/
  sessionRaises : Bool := false
deriving DecidableEq

/-- The part of a point that the reads of the store depend on. -/
def PointDict.stored (p : PointDict) : Point where
  timestamp := p.timestamp
  metricName := p.metricName
  value := p.value

/-- `bulk_insert(session, buffer)` and the commit, if neither raises. -/
def insertBuffer (y : Yield) (db : Database) (buffer : List PointDict) : Option Database :=
  if y.sessionRaises then none
  else
    -- The tenant of the insert is left at its default.
    match bulkInsert db (buffer.map PointDict.stored) "default" with
    | (.inserted _, db) => some db
    | _ => none

def scraperLoop (batchSize : Nat) (db : Database) (yields : List Yield) :
    BatchLoop Database PointDict :=
  BatchLoop.run batchSize Yield.point insertBuffer { store := db } yields

theorem scraperLoop_inOrder {batchSize : Nat} (hbatch : 1 ≤ batchSize) (db : Database)
    (yields : List Yield) :
    (scraperLoop batchSize db yields).InOrder batchSize Yield.point yields :=
  (BatchLoop.inOrder_start hbatch db).run hbatch insertBuffer yields

theorem scraperLoop_subset {batchSize : Nat} {db : Database} {yields : List Yield} :
    (scraperLoop batchSize db yields).committed ++ (scraperLoop batchSize db yields).buffer ⊆
      yields.map Yield.point := by
  intro p hp
  simpa using BatchLoop.run_subset yields { store := db } hp

/-!
# Rows
-/

theorem insertBuffer_eq_some {y : Yield} {db db' : Database} {buffer : List PointDict}
    (h : insertBuffer y db buffer = some db') :
    exists rows, metricRows "default" (buffer.map PointDict.stored) = some rows ∧
      db' = { db with metrics := db.metrics ++ rows } := by
  unfold insertBuffer bulkInsert at h
  cases hraises : y.sessionRaises with
  | true =>
      rw [hraises] at h
      cases h
  | false =>
      cases hrows : metricRows "default" (buffer.map PointDict.stored) with
      | none =>
          simp [hraises, hrows] at h
      | some rows =>
          simp only [hraises, hrows, Bool.false_eq_true, if_false, Option.some.injEq] at h
          exact ⟨rows, rfl, h.symm⟩

theorem insertBuffer_isSome_iff {y : Yield} {db : Database} {buffer : List PointDict} :
    (insertBuffer y db buffer).isSome = true <->
      y.sessionRaises = false ∧
        forall p, p ∈ buffer -> (toTimestamp p.timestamp).isSome = true := by
  have htimes : (metricRows "default" (buffer.map PointDict.stored)).isSome = true <->
      forall p, p ∈ buffer -> (toTimestamp p.timestamp).isSome = true := by
    rw [metricRows_isSome, List.forall_mem_map]
    rfl
  rw [← htimes]
  unfold insertBuffer bulkInsert
  cases y.sessionRaises with
  | true =>
      simp
  | false =>
      cases metricRows "default" (buffer.map PointDict.stored) with
      | none =>
          simp
      | some rows =>
          simp

theorem scraperLoop_store (batchSize : Nat) (db : Database) (yields : List Yield) :
    exists rows,
      metricRows "default" ((scraperLoop batchSize db yields).committed.map PointDict.stored) =
        some rows ∧
      (scraperLoop batchSize db yields).store = { db with metrics := db.metrics ++ rows } := by
  apply @BatchLoop.run_store _ _ _ batchSize Yield.point insertBuffer
    (fun db' done => exists rows, metricRows "default" (done.map PointDict.stored) = some rows ∧
      db' = { db with metrics := db.metrics ++ rows })
  · intro y db₁ done batch db₂ hdone hcommit
    rcases hdone with ⟨rows, hrows, hdb⟩
    rcases insertBuffer_eq_some hcommit with ⟨batchRows, hbatch, hdb'⟩
    refine ⟨rows ++ batchRows, ?_, ?_⟩
    · rw [List.map_append]
      exact metricRows_append hrows hbatch
    · rw [hdb', hdb, List.append_assoc]
  · exact ⟨[], rfl, by rw [List.append_nil]⟩

/-!
# The first batch
-/

/--
Enough points arrive to fill the buffer, and neither the session of the last of
them nor the time of any of them makes the insert raise.
-/
def FirstBatchCommits (batchSize : Nat) (yields : List Yield) : Prop :=
  exists front y rest, yields = front ++ y :: rest ∧ front.length + 1 = batchSize ∧
    y.sessionRaises = false ∧
      forall p, p ∈ front.map Yield.point ++ [y.point] ->
        (toTimestamp p.timestamp).isSome = true

theorem scraperLoop_committed_ne_nil_iff {batchSize : Nat} (hbatch : 1 ≤ batchSize)
    (db : Database) (yields : List Yield) :
    (scraperLoop batchSize db yields).committed ≠ [] <->
      FirstBatchCommits batchSize yields := by
  unfold scraperLoop FirstBatchCommits
  rw [BatchLoop.committed_ne_nil_iff hbatch]
  unfold BatchLoop.FirstCommits
  simp only [insertBuffer_isSome_iff]

end Ingestion
end MetricMesh
