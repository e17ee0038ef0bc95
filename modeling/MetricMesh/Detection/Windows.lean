import Mathlib.Algebra.BigOperators.Group.List.Basic
import Mathlib.Data.List.Sort
import MetricMesh.Python.Double

/-!
# Statistics of a column

The column operations of the detectors: rolling statistics over the last values
of a column, differences, the extremes and the interpolated quantiles.  A window
counts its numbers only, and its statistic is missing when there are fewer of
them than the required minimum.
-/

namespace MetricMesh
namespace Detection

open Python

universe u

variable {K : Type u}

/-- What the mathematical library computes; square roots need not be exact. -/
structure Math (K : Type u) where
  sqrt : K -> K
  exp : K -> K
  sin : K -> K
  cos : K -> K
  pi : K

def windows (width : Nat) (values : List (Double K)) : List (List (Double K)) :=
  (List.range values.length).map fun i =>
    (values.take (i + 1)).drop (i + 1 - width)

/-- `values.rolling(width, min_periods=least)` with one statistic. -/
def rolling (width least : Nat) (statistic : List K -> Double K)
    (values : List (Double K)) : List (Double K) :=
  (windows width values).map fun window =>
    let numbers := window.filterMap Double.number?
    if numbers.length < least then .nan else statistic numbers

@[simp] theorem length_rolling (width least : Nat) (statistic : List K -> Double K)
    (values : List (Double K)) :
    (rolling width least statistic values).length = values.length := by
  simp [rolling, windows]

theorem getElem?_rolling (width least : Nat) (statistic : List K -> Double K)
    {values : List (Double K)} {i : Nat} (hi : i < values.length) :
    (rolling width least statistic values)[i]? =
      some (if (((values.take (i + 1)).drop (i + 1 - width)).filterMap
            Double.number?).length < least then .nan
        else statistic
          (((values.take (i + 1)).drop (i + 1 - width)).filterMap Double.number?)) := by
  simp [rolling, windows, hi]

def dropna (values : List (Double K)) : List (Double K) :=
  values.filter (fun x => !x.isNan)

variable [Field K] [LinearOrder K]

def average (numbers : List K) : K :=
  numbers.sum / numbers.length

/-- The sample variance, with one degree of freedom taken off. -/
def variance (numbers : List K) : K :=
  (numbers.map fun x => (x - average numbers) ^ 2).sum / (numbers.length - 1)

def mean (numbers : List K) : Double K :=
  .finite (average numbers)

/-- The sample standard deviation, missing for a single number. -/
def std (math : Math K) (numbers : List K) : Double K :=
  if numbers.length ≤ 1 then .nan else .finite (math.sqrt (variance numbers))

def greatest : List K -> Double K
  | [] => .nan
  | x :: rest => .finite (rest.foldl max x)

def least : List K -> Double K
  | [] => .nan
  | x :: rest => .finite (rest.foldl min x)

/-- `values.max()`, which skips missing values. -/
def maxOf (values : List (Double K)) : Double K :=
  (dropna values).foldl (fun acc x => if acc.isNan then x else acc.max x) .nan

def diff (n : Nat) (values : List (Double K)) : List (Double K) :=
  List.replicate (Nat.min n values.length) .nan ++
    List.zipWith (fun x y => x - y) (values.drop n) values

/-!
# Quantiles
-/

/-- Between two neighbours, computed from the nearer one. -/
def lerp (a b : Double K) (t : K) : Double K :=
  if t < 1 / 2 then a + (b - a) * .finite t else b - (b - a) * .finite (1 - t)

/-- The quantile `num / den` of a column in increasing order. -/
def quantileSorted (num den : Nat) (sorted : List (Double K)) : Double K :=
  let position := (sorted.length - 1) * num
  match sorted[position / den]? with
  | none => .nan
  | some a =>
      let b := (sorted[position / den + 1]?).getD a
      lerp a b ((position % den : Nat) / (den : K))

/-- `values.quantile(num / den)`, which is missing when every value is. -/
def quantile (num den : Nat) (values : List (Double K)) : Double K :=
  quantileSorted num den ((dropna values).insertionSort (fun x y => x ≤ y))

def median (values : List (Double K)) : Double K :=
  let sorted := (dropna values).insertionSort (fun x y => x ≤ y)
  match sorted[(sorted.length - 1) / 2]?, sorted[sorted.length / 2]? with
  | some a, some b => (a + b) / .finite 2
  | _, _ => .nan

example : quantile 1 4 [.finite 4, .nan, .finite 1, .finite 2] =
    (.finite (3 / 2) : Double Rat) := by
  decide +kernel

end Detection
end MetricMesh
