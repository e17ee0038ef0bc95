import Mathlib.Algebra.BigOperators.Fin
import Mathlib.Algebra.Order.Chebyshev
import Mathlib.Algebra.Order.Field.Basic
import Mathlib.Tactic.Linarith
import Mathlib.Tactic.Ring

/-!
# Deviations from the mean

How far one number of a list can lie from the mean of the list, in terms of the
squared deviations.  The list is given as one number and the others, and the
mean by the equation that defines it.
-/

namespace MetricMesh
namespace Foundation

universe u

variable {K : Type u} [Field K]

def squares (m : K) (numbers : List K) : K :=
  (numbers.map fun y => (y - m) ^ 2).sum

theorem sum_map_sub (m : K) (numbers : List K) :
    (numbers.map fun y => y - m).sum = numbers.sum - numbers.length * m := by
  induction numbers with
  | nil =>
      simp
  | cons y rest ih =>
      rw [List.map_cons, List.sum_cons, List.sum_cons, ih, List.length_cons]
      push_cast
      ring

theorem sum_deviations {others : List K} {x m : K}
    (hm : others.sum + x = (others.length + 1) * m) :
    (others.map fun y => y - m).sum = -(x - m) := by
  have hsum : others.sum = (others.length + 1) * m - x := by
    rw [← hm]
    ring
  rw [sum_map_sub, hsum]
  ring

theorem squares_replicate (m c : K) (n : Nat) :
    squares m (List.replicate n c) = n * (c - m) ^ 2 := by
  unfold squares
  rw [List.map_replicate, List.sum_replicate, nsmul_eq_mul]

theorem deviation_eq_of_all_eq {others : List K} {x c m : K}
    (hm : others.sum + x = (others.length + 1) * m) (h : forall y, y ∈ others -> y = c) :
    (others.length + 1) * (x - m) ^ 2 =
      others.length * (squares m others + (x - m) ^ 2) := by
  have hsum := sum_deviations hm
  have hothers := List.eq_replicate_of_mem h
  have hsquares : squares m others = others.length * (c - m) ^ 2 := by
    rw [hothers, squares_replicate, List.length_replicate]
  have hdeviation : others.length * (c - m) = -(x - m) := by
    rw [← hsum, sum_map_sub, hothers, List.sum_replicate, List.length_replicate, nsmul_eq_mul]
    ring
  have hsquare : (others.length : K) * squares m others = (x - m) ^ 2 := by
    calc (others.length : K) * squares m others
        = (others.length * (c - m)) ^ 2 := by rw [hsquares]; ring
      _ = (x - m) ^ 2 := by rw [hdeviation]; ring
  rw [mul_add, hsquare]
  ring

variable [LinearOrder K] [IsStrictOrderedRing K]

theorem squares_nonneg (m : K) (numbers : List K) : 0 ≤ squares m numbers := by
  apply List.sum_nonneg
  intro q hq
  rcases List.mem_map.mp hq with ⟨y, _, hy⟩
  rw [← hy]
  exact sq_nonneg _

theorem sq_sum_le (f : K -> K) (numbers : List K) :
    (numbers.map f).sum ^ 2 ≤ numbers.length * (numbers.map fun y => f y ^ 2).sum := by
  have h := sq_sum_le_card_mul_sum_sq
    (s := (Finset.univ : Finset (Fin numbers.length))) (f := fun i => f numbers[i])
  rw [Finset.card_univ, Fintype.card_fin] at h
  have hsum := Fin.sum_univ_fun_getElem numbers f
  have hsquares := Fin.sum_univ_fun_getElem numbers (fun y => f y ^ 2)
  rw [← hsum, ← hsquares]
  exact h

/--
Samuelson's inequality: one of `n` numbers deviates from their mean by at most
the square root of `n - 1` times the root mean square deviation.
-/
theorem deviation_le {others : List K} {x m : K}
    (hm : others.sum + x = (others.length + 1) * m) :
    (others.length + 1) * (x - m) ^ 2 ≤
      others.length * (squares m others + (x - m) ^ 2) := by
  have hcauchy := sq_sum_le (fun y => y - m) others
  rw [sum_deviations hm, neg_sq] at hcauchy
  calc (others.length + 1) * (x - m) ^ 2
      = others.length * (x - m) ^ 2 + (x - m) ^ 2 := by ring
    _ ≤ others.length * (x - m) ^ 2 + others.length * squares m others :=
        add_le_add_right hcauchy _
    _ = others.length * (squares m others + (x - m) ^ 2) := by ring

end Foundation
end MetricMesh
