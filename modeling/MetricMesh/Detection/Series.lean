import Mathlib.Data.List.Pairwise
import MetricMesh.Python.Double

/-!
# Series

A series pairs the points of one metric with their times.  It comes from one
query that groups by minute and orders by time, so the times of a series
increase strictly, and every slice of it keeps that order.  A value that is
missing is not a number.
-/

namespace MetricMesh
namespace Detection

open Python

universe u

/-- Microseconds since the epoch, in UTC. -/
abbrev Instant : Type :=
  Int

structure Series (K : Type u) where
  points : List (Instant × Double K)
  increasing : points.Pairwise (fun p q => p.1 < q.1)

namespace Series

variable {K : Type u}

def length (series : Series K) : Nat :=
  series.points.length

def values (series : Series K) : List (Double K) :=
  series.points.map Prod.snd

/-- `series.iloc[:n]`. -/
def before (series : Series K) (n : Nat) : Series K where
  points := series.points.take n
  increasing := List.Pairwise.sublist (List.take_sublist n _) series.increasing

/-- `series.iloc[n:]`. -/
def since (series : Series K) (n : Nat) : Series K where
  points := series.points.drop n
  increasing := List.Pairwise.sublist (List.drop_sublist n _) series.increasing

/-- `max(int(len(series) * 0.8), least)`. -/
def split (series : Series K) (least : Nat) : Nat :=
  Nat.max (series.length * 4 / 5) least

theorem not_mem_before {series : Series K} {n : Nat} {p q : Instant × Double K}
    (hp : p ∈ (series.since n).points) (hq : q ∈ (series.before n).points) :
    q.1 ≠ p.1 := by
  have hordered := series.increasing
  rw [← List.take_append_drop n series.points] at hordered
  exact ne_of_lt ((List.pairwise_append.mp hordered).2.2 q hq p hp)

end Series

end Detection
end MetricMesh
