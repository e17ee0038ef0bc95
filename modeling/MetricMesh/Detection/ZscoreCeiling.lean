import Mathlib.Analysis.Real.Sqrt
import Mathlib.Tactic.LinearCombination
import MetricMesh.Detection.Columns
import MetricMesh.Detection.Zscores
import MetricMesh.Foundation.Deviations

/-!
# The ceiling of the absolute z-score

The window of a row holds the row itself, so a spike raises the deviation that
it is measured against.  The score of a row is bounded by the number of values
in its window, whatever the size of the spike.
-/

namespace MetricMesh
namespace Detection

open Foundation
open Python

universe u

variable {K : Type u} [Field K] [LinearOrder K]

def ExactSqrt (math : Math K) : Prop :=
  forall q, 0 ≤ q -> 0 ≤ math.sqrt q ∧ math.sqrt q ^ 2 = q

variable [IsStrictOrderedRing K]

/-!
# One window
-/

omit [LinearOrder K] in
theorem average_concat (others : List K) (x : K) [CharZero K] :
    others.sum + x = (others.length + 1) * average (others ++ [x]) := by
  have hne : ((others.length : K) + 1) ≠ 0 := Nat.cast_add_one_ne_zero others.length
  unfold average
  rw [List.sum_append, List.sum_singleton, List.length_append, List.length_singleton]
  push_cast
  field_simp

omit [LinearOrder K] [IsStrictOrderedRing K] in
theorem variance_concat (others : List K) (x : K) :
    variance (others ++ [x]) =
      (squares (average (others ++ [x])) others + (x - average (others ++ [x])) ^ 2) /
        others.length := by
  unfold variance squares
  rw [List.map_append, List.sum_append, List.map_singleton, List.sum_singleton,
    List.length_append, List.length_singleton]
  push_cast
  rw [add_sub_cancel_right]

omit [LinearOrder K] in
theorem eq_of_deviation_zero {others : List K} {x c : K} [CharZero K] (hne : others ≠ [])
    (h : forall y, y ∈ others -> y = c) (hx : x = average (others ++ [x])) : x = c := by
  have hlength : (others.length : K) ≠ 0 :=
    Nat.cast_ne_zero.mpr (List.length_pos_of_ne_nil hne).ne'
  have hm := average_concat others x
  rw [← hx, List.eq_replicate_of_mem h, List.sum_replicate, List.length_replicate,
    nsmul_eq_mul] at hm
  apply mul_left_cancel₀ hlength
  linear_combination -hm

theorem eq_of_no_spread {others : List K} {x m : K}
    (h : squares m others + (x - m) ^ 2 = 0) : x = m := by
  have hothers := squares_nonneg m others
  have hone := sq_nonneg (x - m)
  have hsquare : (x - m) ^ 2 = 0 := by linarith
  exact sub_eq_zero.mp (pow_eq_zero_iff two_ne_zero |>.mp hsquare)

omit [IsStrictOrderedRing K] in
theorem abs_div_orTiny {q d : K} (hd : d ≠ 0) :
    (Double.finite q / (Double.finite d).orTiny : Double K).abs =
      (Double.finite (q / d)).abs := by
  have htiny : (Double.finite d : Double K).orTiny = .finite d :=
    if_neg (fun h => hd (Double.finite.inj h))
  rw [htiny, Double.finite_div_finite _ hd]

theorem abs_zero_div_orTiny :
    (Double.finite 0 / (Double.finite 0).orTiny : Double K).abs = .finite 0 := by
  have htiny : (Double.finite 0 : Double K).orTiny = .tiny := if_pos rfl
  have hpos : (1 / 10 ^ 9 : K) ≠ 0 := by positivity
  rw [htiny, Double.tiny, Double.finite_div_finite _ hpos, zero_div, Double.abs_finite,
    abs_zero]

theorem zscore_of_window {math : Math K} (hsqrt : ExactSqrt math) {others : List K}
    (hfour : 4 ≤ others.length) (x : K) :
    exists z, 0 ≤ z ∧
      ((Double.finite x - mean (others ++ [x])) / (std math (others ++ [x])).orTiny).abs =
        .finite z ∧
      (others.length + 1) * z ^ 2 ≤ (others.length : K) ^ 2 ∧
      (forall c, (forall y, y ∈ others -> y = c) -> x ≠ c ->
        (others.length + 1) * z ^ 2 = (others.length : K) ^ 2) := by
  have hk : (0 : K) < others.length := Nat.cast_pos.mpr (by omega)
  have hne : others ≠ [] := List.ne_nil_of_length_pos (by omega)
  have hm := average_concat others x
  have hvariance := variance_concat others x
  have hlength : ¬ (others ++ [x]).length ≤ 1 := by
    rw [List.length_append, List.length_singleton]
    omega
  generalize hmean : average (others ++ [x]) = m at hm hvariance
  have hspread : 0 ≤ squares m others + (x - m) ^ 2 :=
    add_nonneg (squares_nonneg m others) (sq_nonneg _)
  rcases hsqrt _ (div_nonneg hspread hk.le) with ⟨hnonneg, hsquare⟩
  have hstd : std math (others ++ [x]) =
      .finite (math.sqrt ((squares m others + (x - m) ^ 2) / others.length)) := by
    rw [std, if_neg hlength, hvariance]
  rw [hstd, mean, hmean, Double.finite_sub_finite]
  generalize math.sqrt ((squares m others + (x - m) ^ 2) / others.length) = deviation
    at hnonneg hsquare
  have htotal : squares m others + (x - m) ^ 2 = others.length * deviation ^ 2 := by
    rw [hsquare]
    field_simp
  by_cases hzero : deviation = 0
  · have hnone : squares m others + (x - m) ^ 2 = 0 := by
      rw [htotal, hzero, zero_pow two_ne_zero, mul_zero]
    have hx := eq_of_no_spread hnone
    refine ⟨0, le_refl 0, ?_, ?_, ?_⟩
    · rw [hzero, hx, sub_self]
      exact abs_zero_div_orTiny
    · rw [zero_pow two_ne_zero, mul_zero]
      exact sq_nonneg _
    · intro c hall hxc
      exact absurd (eq_of_deviation_zero hne hall (hx.trans hmean.symm)) hxc
  · have hsq : |(x - m) / deviation| ^ 2 = (x - m) ^ 2 / deviation ^ 2 := by
      rw [sq_abs, div_pow]
    have hpos : 0 < deviation ^ 2 := by positivity
    refine ⟨|(x - m) / deviation|, abs_nonneg _, ?_, ?_, ?_⟩
    · rw [abs_div_orTiny hzero, Double.abs_finite]
    · rw [hsq, ← mul_div_assoc, div_le_iff₀ hpos]
      calc (others.length + 1) * (x - m) ^ 2
          ≤ others.length * (squares m others + (x - m) ^ 2) := deviation_le hm
        _ = (others.length : K) ^ 2 * deviation ^ 2 := by rw [htotal]; ring
    · intro c hall _
      rw [hsq, ← mul_div_assoc, div_eq_iff hpos.ne']
      calc (others.length + 1) * (x - m) ^ 2
          = others.length * (squares m others + (x - m) ^ 2) := deviation_eq_of_all_eq hm hall
        _ = (others.length : K) ^ 2 * deviation ^ 2 := by rw [htotal]; ring

/-!
# One score
-/

theorem absolute_score_of_zscore {z : K} (hz : 0 ≤ z) :
    exists s, 0 ≤ s ∧ 6 * s ≤ z ∧ (z ≤ 6 -> 6 * s = z) ∧
      ((Double.finite z / StatisticalDetector.zscoreAbsSigma : Double K).clip).fillna =
        .finite s := by
  have hsix : (6 : K) ≠ 0 := by norm_num
  have hlow : ¬ (Double.finite (z / 6) : Double K) < .finite 0 := by
    rw [Double.finite_lt_finite, not_lt]
    positivity
  rw [StatisticalDetector.zscoreAbsSigma, Double.finite_div_finite _ hsix, Double.clip,
    if_neg hlow]
  by_cases hhigh : (1 : K) < z / 6
  · rw [if_pos ((Double.finite_lt_finite _ _).mpr hhigh)]
    have hlarge : 6 < z := by linarith
    exact ⟨1, zero_le_one, by linarith, fun h => absurd hlarge (not_lt.mpr h), rfl⟩
  · rw [if_neg (fun h => hhigh ((Double.finite_lt_finite _ _).mp h))]
    exact ⟨z / 6, by positivity, by linarith, fun _ => by linarith, rfl⟩

omit [Field K] [LinearOrder K] [IsStrictOrderedRing K] in
theorem numbersOf_recent {width : Nat} (hwidth : 0 < width) {values : List (Double K)}
    {i : Nat} {x : K} (hx : values[i]? = some (.finite x)) :
    numbersOf (recent width values i) =
      numbersOf (recent width values i).dropLast ++ [x] := by
  rw [recent_eq_concat hwidth hx, List.dropLast_concat]
  unfold numbersOf
  rw [List.filterMap_append]
  rfl

/-- Up to 37 values, a row that attains the bound is not clipped. -/
theorem le_six_of_attained {k : Nat} (hk : k ≤ 36) {z : K}
    (h : ((k : K) + 1) * z ^ 2 = (k : K) ^ 2) : z ≤ 6 := by
  have hk' : (k : K) ≤ 36 := by exact_mod_cast hk
  have hnonneg : (0 : K) ≤ k := Nat.cast_nonneg k
  by_contra hlarge
  have hsquare : 36 < z ^ 2 := by nlinarith
  nlinarith

def windowCount (width : Nat) (values : List (Double K)) (i : Nat) : Nat :=
  (numbersOf (recent width values i)).length

omit [Field K] [LinearOrder K] [IsStrictOrderedRing K] in
theorem windowCount_le (width : Nat) (values : List (Double K)) (i : Nat) :
    windowCount width values i ≤ i + 1 := by
  have hlength : (recent width values i).length ≤ i + 1 := by
    unfold recent
    rw [List.length_drop, List.length_take]
    omega
  exact (List.length_filterMap_le _ _).trans hlength

/-- What the ceiling says of the score of one row, for a window of `n` values. -/
structure UnderCeiling (width : Nat) (values : List (Double K)) (i : Nat) (s : K) : Prop where
  nonneg : 0 ≤ s
  bound : 36 * (windowCount width values i : K) * s ^ 2 ≤
    ((windowCount width values i : K) - 1) ^ 2
  short : windowCount width values i < 5 -> s = 0
  attained : forall x c, values[i]? = some (.finite x) ->
    (forall y, y ∈ numbersOf (recent width values i).dropLast -> y = c) -> x ≠ c ->
      5 ≤ windowCount width values i -> windowCount width values i ≤ 37 ->
        36 * (windowCount width values i : K) * s ^ 2 =
          ((windowCount width values i : K) - 1) ^ 2

omit [IsStrictOrderedRing K] in
theorem score_of_missing (math : Math K) {width i : Nat} {values : List (Double K)}
    {x : Double K} (hx : values[i]? = some x)
    (h : x = .nan ∨ windowCount width values i < 5) :
    exists z, (StatisticalDetector.zscores math width values)[i]? = some z ∧
      (z / StatisticalDetector.zscoreAbsSigma).clip.fillna = .finite 0 := by
  have hnan : ((Double.nan / StatisticalDetector.zscoreAbsSigma : Double K).clip).fillna =
      .finite 0 := by
    rw [Double.nan_div, Double.clip, if_neg (Double.not_nan_lt _)]
    rfl
  have hmissing : forall y d : Double K, y = .nan -> (y / d).abs = .nan := by
    intro y d hy
    rw [hy, Double.nan_div, Double.abs_nan]
  have hentry := StatisticalDetector.zscores_entry math hx
    (rfl : ((values.take (i + 1)).drop (i + 1 - width)).filterMap Double.number? =
      numbersOf (recent width values i))
  refine ⟨.nan, ?_, hnan⟩
  rw [hentry]
  split_ifs with hshort
  · rw [hmissing _ _ (by cases x <;> rfl)]
  · rcases h with hx | hcount
    · rw [hmissing _ _ (by rw [hx]; rfl)]
    · exact absurd hcount hshort

theorem score_of_number {math : Math K} (hsqrt : ExactSqrt math) {width i : Nat}
    (hwidth : 0 < width) {values : List (Double K)} {q : K}
    (hx : values[i]? = some (.finite q)) (hfive : 5 ≤ windowCount width values i) :
    exists z s, (StatisticalDetector.zscores math width values)[i]? = some z ∧
      (z / StatisticalDetector.zscoreAbsSigma).clip.fillna = .finite s ∧
      UnderCeiling width values i s := by
  have hnumbers := numbersOf_recent hwidth hx
  have hcount : windowCount width values i =
      (numbersOf (recent width values i).dropLast).length + 1 := by
    unfold windowCount
    rw [hnumbers, List.length_append, List.length_singleton]
  generalize hothers : numbersOf (recent width values i).dropLast = others
    at hnumbers hcount
  rcases zscore_of_window hsqrt (by omega : 4 ≤ others.length) q with
    ⟨z, hz, hentry, hbound, hattained⟩
  rcases absolute_score_of_zscore hz with ⟨s, hs, hle, heq, hscore⟩
  have hshort : ¬ (others ++ [q]).length < 5 := by
    rw [List.length_append, List.length_singleton]
    omega
  refine ⟨.finite z, s, ?_, hscore, hs, ?_, ?_, ?_⟩
  · rw [StatisticalDetector.zscores_entry math hx hnumbers, if_neg hshort, hentry]
  · rw [hcount]
    push_cast
    rw [add_sub_cancel_right]
    calc 36 * ((others.length : K) + 1) * s ^ 2
        = (others.length + 1) * (6 * s) ^ 2 := by ring
      _ ≤ (others.length + 1) * z ^ 2 := by gcongr
      _ ≤ (others.length : K) ^ 2 := hbound
  · omega
  · intro y c hy hall hyc _ hlarge
    rw [hx, Option.some.injEq, Double.finite.injEq] at hy
    rw [hothers] at hall
    have hfull := hattained c hall (fun h => hyc (hy.symm.trans h))
    have hsix := le_six_of_attained (by omega) hfull
    rw [hcount]
    push_cast
    rw [add_sub_cancel_right]
    calc 36 * ((others.length : K) + 1) * s ^ 2
        = (others.length + 1) * (6 * s) ^ 2 := by ring
      _ = (others.length + 1) * z ^ 2 := by rw [heq hsix]
      _ = (others.length : K) ^ 2 := hfull

theorem score_underCeiling {math : Math K} (hsqrt : ExactSqrt math) {width i : Nat}
    (hwidth : 0 < width) {values : List (Double K)} (hmeasured : Measured values)
    (hi : i < values.length) :
    exists z s, (StatisticalDetector.zscores math width values)[i]? = some z ∧
      (z / StatisticalDetector.zscoreAbsSigma).clip.fillna = .finite s ∧
      UnderCeiling width values i s := by
  have hx := List.getElem?_eq_getElem hi
  generalize values[i] = x at hx
  by_cases hmissing : x = .nan ∨ windowCount width values i < 5
  · rcases score_of_missing math hx hmissing with ⟨z, hz, hscore⟩
    refine ⟨z, 0, hz, hscore, le_refl 0, ?_, fun _ => rfl, ?_⟩
    · rw [zero_pow two_ne_zero, mul_zero]
      exact sq_nonneg _
    · intro y c hy _ _ hfive _
      rcases hmissing with hnan | hshort
      · rw [hy, hnan] at hx
        cases hx
      · omega
  · rw [not_or, not_lt] at hmissing
    rcases hmissing with ⟨hnumber, hfive⟩
    rcases hmeasured x (List.mem_of_getElem? hx) with hnan | ⟨q, hq⟩
    · exact absurd hnan hnumber
    · rw [hq] at hx
      exact score_of_number hsqrt hwidth hx hfive

/-!
# Which scores a row can reach
-/

/-- A window of at most `n` values keeps the score under what `n` values allow. -/
theorem UnderCeiling.lt_of_count {width i : Nat} {values : List (Double K)} {s : K}
    (h : UnderCeiling width values i s) {n : Nat} {t : K} (ht : 0 < t)
    (hcount : windowCount width values i ≤ n)
    (hreach : ((n : K) - 1) ^ 2 < 36 * n * t ^ 2) : s < t := by
  by_contra hle
  rw [not_lt] at hle
  rcases Nat.lt_or_ge (windowCount width values i) 5 with hshort | hfive
  · rw [h.short hshort] at hle
    exact absurd ht (not_lt.mpr hle)
  · have hbound := h.bound
    generalize windowCount width values i = m at hcount hfive hbound
    have hm : (1 : K) ≤ m := by exact_mod_cast (by omega : 1 ≤ m)
    have hmn : (m : K) ≤ n := by exact_mod_cast hcount
    have hn : (1 : K) ≤ n := hm.trans hmn
    have hsquare : 36 * (m : K) * t ^ 2 ≤ ((m : K) - 1) ^ 2 := by
      calc 36 * (m : K) * t ^ 2
          ≤ 36 * (m : K) * s ^ 2 := by gcongr
        _ ≤ ((m : K) - 1) ^ 2 := hbound
    have hgrow : ((m : K) - 1) ^ 2 * n ≤ ((n : K) - 1) ^ 2 * m := by
      have hdiff : 0 ≤ ((n : K) - m) * (m * n - 1) :=
        mul_nonneg (sub_nonneg.mpr hmn) (sub_nonneg.mpr (one_le_mul_of_one_le_of_one_le hm hn))
      linarith
    have hchain : 36 * (m : K) * t ^ 2 * n < 36 * n * t ^ 2 * m :=
      calc 36 * (m : K) * t ^ 2 * n
          ≤ ((m : K) - 1) ^ 2 * n := by gcongr
        _ ≤ ((n : K) - 1) ^ 2 * m := hgrow
        _ < 36 * n * t ^ 2 * m := by gcongr
    linarith

/-!
# Real arithmetic
-/

theorem exactSqrt_of_real {math : Math Real} (h : math.sqrt = Real.sqrt) : ExactSqrt math := by
  intro q hq
  rw [h]
  exact ⟨Real.sqrt_nonneg q, Real.sq_sqrt hq⟩

/--
Every score of a held-out slice is under the ceiling, which the default threshold
exceeds in the first 24 rows and the full score in the first 37.
-/
theorem zscore_underCeiling {math : Math Real} (hsqrt : math.sqrt = Real.sqrt)
    (stl : Stl Real) {detector : StatisticalDetector Real}
    (hmethod : detector.method = .zscore) (hmode : detector.scoringMode = .absolute)
    (hwindow : detector.window = 60) {series : Series Real}
    (hmeasured : Measured series.values) :
    exists scores, detector.score math stl series = .ok scores ∧
      forall i, i < series.length ->
        exists s, scores[i]? = some (.finite s) ∧ UnderCeiling 60 series.values i s ∧
          (i < 24 -> s < 4 / 5) ∧ (i < 37 -> s < 1) := by
  have hscore : detector.score math stl series =
      .ok ((StatisticalDetector.zscores math 60 series.values).map fun z =>
        (z / StatisticalDetector.zscoreAbsSigma).clip.fillna) := by
    unfold StatisticalDetector.score
    rw [hmethod]
    dsimp only
    rw [StatisticalDetector.scoreZscore_absolute math (by omega) hmode, hwindow]
  refine ⟨_, hscore, ?_⟩
  intro i hi
  have hin : i < series.values.length := by
    rw [Series.values, List.length_map]
    exact hi
  rcases score_underCeiling (exactSqrt_of_real hsqrt) (by decide : 0 < 60) hmeasured hin with
    ⟨z, s, hz, hs, hceiling⟩
  have hcount := windowCount_le 60 series.values i
  refine ⟨s, ?_, hceiling, ?_, ?_⟩
  · rw [List.getElem?_map, hz, Option.map_some, hs]
  · intro hearly
    exact hceiling.lt_of_count (n := 24) (by norm_num) (by omega) (by norm_num)
  · intro hearly
    exact hceiling.lt_of_count (n := 37) (by norm_num) (by omega) (by norm_num)

noncomputable def rootMath : Math Real :=
  { sqrt := Real.sqrt, exp := id, sin := id, cos := id, pi := 3 }

def fifthPoint : Series Real where
  points :=
    [(0, .finite 0), (1, .finite 0), (2, .finite 0), (3, .finite 0), (4, .finite 1)]
  increasing := by simp

theorem fifthPoint_measured : Measured fifthPoint.values := by
  intro x hx
  simp only [fifthPoint, Series.values, List.map_cons, List.map_nil, List.mem_cons,
    List.not_mem_nil, or_false] at hx
  rcases hx with h | h | h | h | h
  all_goals exact Or.inr ⟨_, h⟩

/-- The spike has four times the root of a fifth as z-score. -/
theorem zscore_underCeiling_fifthPoint :
    exists scores s,
      StatisticalDetector.score rootMath (fun _ _ => .error .valueError)
          { method := .zscore, scoringMode := .absolute } fifthPoint = .ok scores ∧
        scores[4]? = some (.finite s) ∧ 36 * 5 * s ^ 2 = 4 ^ 2 := by
  rcases @zscore_underCeiling rootMath rfl (fun _ _ => .error .valueError)
    { method := .zscore, scoringMode := .absolute } rfl rfl rfl fifthPoint
    fifthPoint_measured with ⟨scores, hscores, hrows⟩
  rcases hrows 4 (by decide) with ⟨s, hs, hceiling, _⟩
  have hcount : windowCount 60 fifthPoint.values 4 = 5 := rfl
  have hothers : forall y, y ∈ numbersOf (recent 60 fifthPoint.values 4).dropLast ->
      y = 0 := by
    intro y hy
    have hlist : numbersOf (recent 60 fifthPoint.values 4).dropLast = [0, 0, 0, 0] := rfl
    rw [hlist] at hy
    simpa using hy
  have hfull := hceiling.attained 1 0 rfl hothers one_ne_zero (by rw [hcount])
    (by rw [hcount]; decide)
  rw [hcount] at hfull
  refine ⟨scores, s, hscores, hs, ?_⟩
  push_cast at hfull
  linarith

end Detection
end MetricMesh
