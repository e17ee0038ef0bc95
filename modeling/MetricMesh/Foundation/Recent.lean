import Mathlib.Data.List.Basic
import Mathlib.Tactic.Common

/-!
# The recent entries of a list

The last `n` entries up to a position, fewer near the start.  A shorter stretch
of recent entries is determined by a longer one.
-/

namespace MetricMesh
namespace Foundation

universe u

variable {α : Type u}

def recent (n : Nat) (xs : List α) (i : Nat) : List α :=
  (xs.take (i + 1)).drop (i + 1 - n)

theorem length_recent (n : Nat) {xs : List α} {i : Nat} (hi : i < xs.length) :
    (recent n xs i).length = Nat.min n (i + 1) := by
  unfold recent
  rw [List.length_drop, List.length_take]
  show min (i + 1) xs.length - (i + 1 - n) = min n (i + 1)
  omega

theorem recent_eq_concat {n : Nat} (hn : 0 < n) {xs : List α} {i : Nat} {x : α}
    (hx : xs[i]? = some x) : recent n xs i = (xs.take i).drop (i + 1 - n) ++ [x] := by
  rcases List.getElem?_eq_some_iff.mp hx with ⟨hi, _⟩
  unfold recent
  rw [List.take_add_one, hx, List.drop_append_of_le_length]
  · rfl
  · rw [List.length_take]
    omega

theorem recent_recent {m n : Nat} (h : m ≤ n) {xs : List α} {i : Nat} (hi : i < xs.length) :
    recent m xs i = (recent n xs i).drop ((recent n xs i).length - m) := by
  rw [length_recent n hi]
  unfold recent
  rw [List.drop_drop]
  congr 1
  show i + 1 - m = i + 1 - n + (min n (i + 1) - m)
  omega

theorem recent_congr {m n : Nat} (h : m ≤ n) {xs ys : List α} {i j : Nat}
    (hi : i < xs.length) (hj : j < ys.length) (heq : recent n xs i = recent n ys j) :
    recent m xs i = recent m ys j := by
  rw [recent_recent h hi, recent_recent h hj, heq]

/-!
# Looking back
-/

def ago (d : Nat) (xs : List α) (i : Nat) : Option α :=
  if d ≤ i then xs[i - d]? else none

theorem ago_eq_recent {d n : Nat} (h : d < n) {xs : List α} {i : Nat} (hi : i < xs.length) :
    ago d xs i = (recent n xs i).reverse[d]? := by
  have hlength := length_recent n hi
  unfold ago
  by_cases hd : d ≤ i
  · have hin : d < (recent n xs i).length := by
      rw [hlength]
      show d < min n (i + 1)
      omega
    rw [if_pos hd, List.getElem?_reverse hin, hlength]
    unfold recent
    rw [List.getElem?_drop, List.getElem?_take_of_lt]
    · congr 1
      show i - d = i + 1 - n + (min n (i + 1) - 1 - d)
      omega
    · show i + 1 - n + (min n (i + 1) - 1 - d) < i + 1
      omega
  · rw [if_neg hd, List.getElem?_eq_none]
    rw [List.length_reverse, hlength]
    show min n (i + 1) ≤ d
    omega

theorem ago_congr {d n : Nat} (h : d < n) {xs ys : List α} {i j : Nat} (hi : i < xs.length)
    (hj : j < ys.length) (heq : recent n xs i = recent n ys j) : ago d xs i = ago d ys j := by
  rw [ago_eq_recent h hi, ago_eq_recent h hj, heq]

end Foundation
end MetricMesh
