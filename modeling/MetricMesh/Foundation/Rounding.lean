import Mathlib.Algebra.Order.Floor.Ring
import Mathlib.Algebra.Order.Field.Basic
import Mathlib.Tactic.Linarith
import Mathlib.Tactic.Ring

/-!
# Rounding to a number of decimals

Round to the nearest integer with ties to even, and the same on the grid of
multiples of a power of ten.  The main fact is when a rounded value reaches a
bound: the value itself may fall short of it by half a unit.
-/

namespace MetricMesh
namespace Foundation

universe u

/-!
The numerals that the definitions over a field share, so that they are written
alike in every module.
-/

instance atLeastTwo_two : Nat.AtLeastTwo 2 := inferInstance

instance atLeastTwo_three : Nat.AtLeastTwo 3 := inferInstance

instance atLeastTwo_ten : Nat.AtLeastTwo 10 := inferInstance

variable {K : Type u} [Field K] [LinearOrder K] [FloorRing K]

def roundEven (x : K) : Int :=
  if x - ⌊x⌋ < 1 / 2 then ⌊x⌋
  else if 1 / 2 < x - ⌊x⌋ then ⌊x⌋ + 1
  else ⌊x⌋ + ⌊x⌋ % 2

def roundTo (digits : Nat) (x : K) : K :=
  roundEven (x * 10 ^ digits) / 10 ^ digits

theorem floor_le_roundEven (x : K) : ⌊x⌋ ≤ roundEven x := by
  unfold roundEven
  split_ifs <;> omega

theorem roundEven_le_floor_add_one (x : K) : roundEven x ≤ ⌊x⌋ + 1 := by
  unfold roundEven
  split_ifs <;> omega

theorem floor_lt_roundEven_iff (x : K) :
    ⌊x⌋ < roundEven x <->
      1 / 2 < x - ⌊x⌋ ∨ (1 / 2 = x - ⌊x⌋ ∧ ⌊x⌋ % 2 = 1) := by
  unfold roundEven
  rcases lt_trichotomy (x - ⌊x⌋) (1 / 2) with hdown | hmid | hup
  · rw [if_pos hdown]
    apply iff_of_false
    · exact lt_irrefl _
    · intro h
      rcases h with h | h
      · exact lt_asymm h hdown
      · exact absurd h.1 (ne_of_gt hdown)
  · rw [hmid, if_neg (lt_irrefl _), if_neg (lt_irrefl _)]
    constructor
    · intro h
      refine Or.inr ⟨rfl, ?_⟩
      omega
    · intro h
      rcases h with h | h
      · exact absurd h (lt_irrefl _)
      · omega
  · rw [if_neg (lt_asymm hup), if_pos hup]
    exact iff_of_true (Int.lt_succ _) (Or.inl hup)

variable [IsStrictOrderedRing K]

@[simp] theorem roundEven_intCast (n : Int) : roundEven (n : K) = n := by
  simp [roundEven]

/--
An integer is reached by the rounded value when the value is at least half a
unit below it, the midpoint itself counting for even integers only.
-/
theorem le_roundEven_iff (n : Int) (x : K) :
    n ≤ roundEven x <->
      (n : K) - 1 / 2 < x ∨ ((n : K) - 1 / 2 = x ∧ n % 2 = 0) := by
  have hlow := Int.floor_le x
  have hhigh := Int.lt_floor_add_one x
  rcases lt_trichotomy n (⌊x⌋ + 1) with hlt | heq | hgt
  · have hn : n ≤ ⌊x⌋ := by omega
    have hcast : (n : K) ≤ ⌊x⌋ := by exact_mod_cast hn
    apply iff_of_true
    · exact hn.trans (floor_le_roundEven x)
    · left
      linarith
  · -- The integer above the value is where the three cases differ.
    have hcast : (n : K) = ⌊x⌋ + 1 := by
      rw [heq]
      push_cast
      rfl
    have hparity : n % 2 = 0 <-> ⌊x⌋ % 2 = 1 := by omega
    have hnext : n ≤ roundEven x <-> ⌊x⌋ < roundEven x := by omega
    rw [hnext, floor_lt_roundEven_iff, hparity, hcast]
    constructor
    · intro h
      rcases h with h | h
      · left
        linarith
      · exact Or.inr ⟨by linarith [h.1], h.2⟩
    · intro h
      rcases h with h | h
      · left
        linarith
      · exact Or.inr ⟨by linarith [h.1], h.2⟩
  · have hcast : ((⌊x⌋ + 2 : Int) : K) ≤ n := by
      have hn : ⌊x⌋ + 2 ≤ n := by omega
      exact_mod_cast hn
    push_cast at hcast
    apply iff_of_false
    · have hnext := roundEven_le_floor_add_one x
      omega
    · intro h
      rcases h with h | h
      · linarith
      · linarith [h.1]

theorem roundEven_mono {x y : K} (h : x ≤ y) : roundEven x ≤ roundEven y := by
  rw [le_roundEven_iff]
  rcases (le_roundEven_iff (roundEven x) x).mp (le_refl _) with hx | ⟨hx, heven⟩
  · exact Or.inl (lt_of_lt_of_le hx h)
  · rcases lt_or_eq_of_le (hx.le.trans h) with hlt | heq
    · exact Or.inl hlt
    · exact Or.inr ⟨heq, heven⟩

theorem roundEven_le_of_le {x : K} {n : Int} (h : x ≤ n) : roundEven x ≤ n := by
  have hmono := roundEven_mono h
  rw [roundEven_intCast] at hmono
  exact hmono

theorem le_roundEven_of_le {x : K} {n : Int} (h : (n : K) ≤ x) : n ≤ roundEven x := by
  have hmono := roundEven_mono h
  rw [roundEven_intCast] at hmono
  exact hmono

theorem roundEven_neg (x : K) : roundEven (-x) = -roundEven x := by
  have hle : forall n : Int, n ≤ roundEven (-x) <-> n ≤ -roundEven x := by
    intro n
    have hflip : n ≤ -roundEven x <-> ¬ 1 - n ≤ roundEven x := by omega
    have hparity : (1 - n) % 2 = 0 <-> ¬ n % 2 = 0 := by omega
    rw [hflip, le_roundEven_iff, le_roundEven_iff, hparity]
    push_cast
    rcases lt_trichotomy ((n : K) - 1 / 2) (-x) with hlt | heq | hgt
    · apply iff_of_true (Or.inl hlt)
      intro h
      rcases h with h | h
      · linarith
      · linarith [h.1]
    · constructor
      · intro h hup
        rcases h with h | ⟨_, heven⟩
        · linarith
        · rcases hup with hup | hup
          · linarith
          · exact hup.2 heven
      · intro h
        refine Or.inr ⟨heq, ?_⟩
        by_contra hodd
        exact h (Or.inr ⟨by linarith, hodd⟩)
    · apply iff_of_false
      · intro h
        rcases h with h | h
        · linarith
        · linarith [h.1]
      · intro h
        exact h (Or.inl (by linarith))
  exact le_antisymm ((hle _).mp (le_refl _)) ((hle _).mpr (le_refl _))

theorem roundTo_mono (digits : Nat) {x y : K} (h : x ≤ y) :
    roundTo digits x ≤ roundTo digits y := by
  have hunit : (0 : K) < 10 ^ digits := by positivity
  have hscaled : x * 10 ^ digits ≤ y * 10 ^ digits :=
    mul_le_mul_of_nonneg_right h (le_of_lt hunit)
  unfold roundTo
  apply div_le_div_of_nonneg_right _ (le_of_lt hunit)
  exact_mod_cast roundEven_mono hscaled

theorem roundTo_of_grid {digits : Nat} {x : K} {n : Int}
    (h : x * 10 ^ digits = n) : roundTo digits x = x := by
  have hunit : (10 ^ digits : K) ≠ 0 := by positivity
  unfold roundTo
  rw [h, roundEven_intCast, ← h]
  exact mul_div_cancel_right₀ x hunit

end Foundation
end MetricMesh
