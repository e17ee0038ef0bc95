import MetricMesh.Detection.TukeyFences
import MetricMesh.Detection.ZscoreCeiling

/-!
# Z-scores in other units and relative to a batch

The z-scores of a column do not depend on its unit.  In relative mode they are
divided by the largest of the batch, so what is flagged depends on the batch, and
a batch is silent only when all its z-scores are tiny or one is infinite.
-/

namespace MetricMesh
namespace Detection

open Foundation
open Python

universe u

variable {K : Type u} [Field K] [LinearOrder K] [IsStrictOrderedRing K]

/-!
# A change of unit
-/

section Unit

omit [LinearOrder K] [IsStrictOrderedRing K] in
theorem sum_affine (a b : K) (numbers : List K) :
    (numbers.map (affine a b)).sum = a * numbers.sum + numbers.length * b := by
  induction numbers with
  | nil =>
      simp
  | cons x rest ih =>
      rw [List.map_cons, List.sum_cons, List.sum_cons, ih, List.length_cons]
      unfold affine
      push_cast
      ring

theorem average_affine (a b : K) {numbers : List K} (hne : numbers ≠ []) :
    average (numbers.map (affine a b)) = affine a b (average numbers) := by
  have hlength : (numbers.length : K) ≠ 0 :=
    Nat.cast_ne_zero.mpr (List.length_pos_of_ne_nil hne).ne'
  unfold average
  rw [sum_affine, List.length_map]
  unfold affine
  field_simp

theorem variance_affine (a b : K) {numbers : List K} (hne : numbers ≠ []) :
    variance (numbers.map (affine a b)) = a ^ 2 * variance numbers := by
  have hdeviation : forall x, (affine a b x - affine a b (average numbers)) ^ 2 =
      a ^ 2 * (x - average numbers) ^ 2 := by
    intro x
    unfold affine
    ring
  unfold variance
  rw [average_affine a b hne, List.map_map, List.length_map, mul_div_assoc',
    ← List.sum_map_mul_left]
  congr 2
  apply List.map_congr_left
  intro x _
  exact hdeviation x

theorem variance_nonneg (numbers : List K) (hone : 1 < numbers.length) :
    0 ≤ variance numbers := by
  unfold variance
  apply div_nonneg
  · apply List.sum_nonneg
    intro y hy
    rcases List.mem_map.mp hy with ⟨x, _, heq⟩
    rw [← heq]
    exact sq_nonneg _
  · exact sub_nonneg.mpr (Nat.one_le_cast.mpr hone.le)

theorem eq_average_of_variance {numbers : List K} (hone : 1 < numbers.length)
    (h : variance numbers = 0) {v : K} (hv : v ∈ numbers) : v = average numbers := by
  have hpos : (0 : K) < numbers.length - 1 := sub_pos.mpr (Nat.one_lt_cast.mpr hone)
  have hsum : (numbers.map fun x => (x - average numbers) ^ 2).sum = 0 := by
    unfold variance at h
    exact (div_eq_zero_iff.mp h).resolve_right hpos.ne'
  have hle : (v - average numbers) ^ 2 ≤
      (numbers.map fun x => (x - average numbers) ^ 2).sum := by
    apply List.single_le_sum
    · intro y hy
      rcases List.mem_map.mp hy with ⟨x, _, heq⟩
      rw [← heq]
      exact sq_nonneg _
    · exact List.mem_map_of_mem hv
  have hzero : (v - average numbers) ^ 2 = 0 := le_antisymm (hle.trans hsum.le) (sq_nonneg _)
  exact sub_eq_zero.mp (pow_eq_zero_iff two_ne_zero |>.mp hzero)

theorem sqrt_variance_affine {math : Math K} (hsqrt : ExactSqrt math) (a b : K)
    {numbers : List K} (hone : 1 < numbers.length) :
    math.sqrt (variance (numbers.map (affine a b))) =
      |a| * math.sqrt (variance numbers) := by
  have hne : numbers ≠ [] := List.ne_nil_of_length_pos (by omega)
  have hvariance := variance_nonneg numbers hone
  rw [variance_affine a b hne]
  rcases hsqrt (variance numbers) hvariance with ⟨hnonneg, hsquare⟩
  rcases hsqrt (a ^ 2 * variance numbers) (mul_nonneg (sq_nonneg a) hvariance) with
    ⟨hnonneg', hsquare'⟩
  apply (pow_left_inj₀ hnonneg' (mul_nonneg (abs_nonneg a) hnonneg) two_ne_zero).mp
  rw [hsquare', mul_pow, sq_abs, hsquare]

omit [IsStrictOrderedRing K] in
theorem abs_infinite_div {y : Double K} (hy : y = .inf ∨ y = .negInf) (m d : K) :
    ((y - .finite m) / .finite d : Double K).abs = .inf := by
  have hinf : (Double.inf : Double K).abs = .inf := if_neg Bool.false_ne_true
  have hnegInf : (Double.negInf : Double K).abs = .inf := if_pos rfl
  rcases hy with hy | hy
  · rw [hy]
    show Double.abs (if d < 0 then .negInf else .inf) = .inf
    split
    · exact hnegInf
    · exact hinf
  · rw [hy]
    show Double.abs (if d < 0 then .inf else .negInf) = .inf
    split
    · exact hinf
    · exact hnegInf

/-- The z-score of a value in its window does not depend on the unit. -/
theorem zscore_affine {math : Math K} (hsqrt : ExactSqrt math) {a : K} (ha : a ≠ 0) (b : K)
    {numbers : List K} (hone : 1 < numbers.length) {x : Double K}
    (hx : forall v, x = .finite v -> v ∈ numbers) :
    ((rescale a b x - mean (numbers.map (affine a b))) /
        (std math (numbers.map (affine a b))).orTiny).abs =
      ((x - mean numbers) / (std math numbers).orTiny).abs := by
  have hne : numbers ≠ [] := List.ne_nil_of_length_pos (by omega)
  have hlength : ¬ numbers.length ≤ 1 := by omega
  have hlength' : ¬ (numbers.map (affine a b)).length ≤ 1 := by
    rw [List.length_map]
    exact hlength
  have hmean : mean (numbers.map (affine a b)) = .finite (affine a b (average numbers)) :=
    congrArg Double.finite (average_affine a b hne)
  have hstd : std math (numbers.map (affine a b)) =
      .finite (|a| * math.sqrt (variance numbers)) := by
    rw [std, if_neg hlength', sqrt_variance_affine hsqrt a b hone]
  rw [hmean, hstd, mean, std, if_neg hlength]
  have hinfinite : forall y y' : Double K, (y = .inf ∨ y = .negInf) ->
      (y' = .inf ∨ y' = .negInf) -> forall m m' d d' : K,
        ((y - .finite m) / (Double.finite d).orTiny : Double K).abs =
          ((y' - .finite m') / (Double.finite d').orTiny : Double K).abs := by
    intro y y' hy hy' m m' d d'
    rcases Double.orTiny_finite d with ⟨e, _, he⟩
    rcases Double.orTiny_finite d' with ⟨e', _, he'⟩
    rw [he, he', abs_infinite_div hy, abs_infinite_div hy']
  cases x with
  | nan =>
      rfl
  | inf =>
      exact hinfinite _ _ (rescale_infinite ha b (Or.inl rfl)) (Or.inl rfl) _ _ _ _
  | negInf =>
      exact hinfinite _ _ (rescale_infinite ha b (Or.inr rfl)) (Or.inr rfl) _ _ _ _
  | finite v =>
      have hrescaled : rescale a b (.finite v) = .finite (affine a b v) := rfl
      rw [hrescaled, Double.finite_sub_finite, Double.finite_sub_finite]
      have hdifference : affine a b v - affine a b (average numbers) =
          a * (v - average numbers) := by
        unfold affine
        ring
      by_cases hzero : math.sqrt (variance numbers) = 0
      · have hvariance : variance numbers = 0 := by
          rw [← (hsqrt _ (variance_nonneg numbers hone)).2, hzero, zero_pow two_ne_zero]
        have hv := eq_average_of_variance hone hvariance (hx v rfl)
        rw [hdifference, hzero, mul_zero, hv, sub_self, mul_zero]
      · have hscaled : |a| * math.sqrt (variance numbers) ≠ 0 :=
          mul_ne_zero (abs_ne_zero.mpr ha) hzero
        rw [abs_div_orTiny hscaled, abs_div_orTiny hzero, hdifference, Double.abs_finite,
          Double.abs_finite, abs_div, abs_mul, abs_mul, abs_abs,
          mul_div_mul_left _ _ (abs_ne_zero.mpr ha), abs_div]

theorem zscores_rescale {math : Math K} (hsqrt : ExactSqrt math) {a : K} (ha : a ≠ 0)
    (b : K) (width : Nat) (values : List (Double K)) :
    StatisticalDetector.zscores math width (values.map (rescale a b)) =
      StatisticalDetector.zscores math width values := by
  apply List.ext_getElem?
  intro i
  by_cases hi : i < values.length
  · have hvalue := List.getElem?_eq_getElem hi
    have hvalue' : (values.map (rescale a b))[i]? = some (rescale a b values[i]) := by
      rw [List.getElem?_map, hvalue]
      rfl
    have hnumbers : numbersOf (recent width (values.map (rescale a b)) i) =
        (numbersOf (recent width values i)).map (affine a b) := by
      rw [← numbersOf_rescale ha]
      unfold recent
      rw [List.map_drop, List.map_take]
    have hmissing : forall y : Double K, (y - .nan : Double K) = .nan := by
      intro y
      cases y <;> rfl
    have hwindow : ((values.take (i + 1)).drop (i + 1 - width)).filterMap Double.number? =
        numbersOf (recent width values i) := rfl
    rw [StatisticalDetector.zscores_entry math hvalue' hnumbers,
      StatisticalDetector.zscores_entry math hvalue hwindow, List.length_map]
    by_cases hshort : (numbersOf (recent width values i)).length < 5
    · rw [if_pos hshort, if_pos hshort, hmissing, hmissing]
    · rw [if_neg hshort, if_neg hshort]
      apply congrArg some
      apply zscore_affine hsqrt ha b (by omega)
      intro v hv
      have hwidth : 0 < width := by
        apply Nat.pos_of_ne_zero
        intro hzero
        apply hshort
        rw [hzero]
        simp [recent, numbersOf]
      rw [numbersOf_recent hwidth (hvalue.trans (congrArg some hv))]
      exact List.mem_append_right _ (List.mem_singleton_self v)
  · have hlength : values.length ≤ i := Nat.le_of_not_lt hi
    rw [List.getElem?_eq_none, List.getElem?_eq_none]
    · rw [StatisticalDetector.length_zscores]
      exact hlength
    · rw [StatisticalDetector.length_zscores, List.length_map]
      exact hlength

end Unit

namespace StatisticalDetector

/--
The z-score method scores a series alike in every unit and in both modes, and flags
the same times, whatever the two detectors were fitted on.
-/
theorem zscore_unitFree {math : Math K} (hsqrt : ExactSqrt math) (stl : Stl K)
    {detector detector' : StatisticalDetector K} (hmethod : detector.method = .zscore)
    (hmethod' : detector'.method = .zscore) (hwindow : detector'.window = detector.window)
    (hmode : detector'.scoringMode = detector.scoringMode) (series : Series K) {a : K}
    (ha : a ≠ 0) (b : K) :
    detector'.score math stl (series.rescaled a b) = detector.score math stl series ∧
      forall metricName threshold,
        (detector'.detect math stl (series.rescaled a b) metricName threshold).map
            (List.map AnomalyResult.timestamp) =
          (detector.detect math stl series metricName threshold).map
            (List.map AnomalyResult.timestamp) := by
  have hscore : detector'.score math stl (series.rescaled a b) =
      detector.score math stl series := by
    unfold score
    rw [hmethod, hmethod']
    show scoreZscore math detector' (series.rescaled a b).values =
      scoreZscore math detector series.values
    unfold scoreZscore
    rw [hwindow, hmode, values_rescaled, zscores_rescale hsqrt ha]
  refine ⟨hscore, ?_⟩
  intro metricName threshold
  cases hresult : detector.score math stl series with
  | error e =>
      rw [hresult] at hscore
      rw [detect_eq_of_error hscore, detect_eq_of_error hresult]
  | ok scores =>
      rw [hresult] at hscore
      have htimes : (series.rescaled a b).points.map Prod.fst = series.points.map Prod.fst := by
        unfold Series.rescaled
        rw [List.map_map]
        rfl
      rcases times_of_detect hresult hscore htimes metricName threshold with
        ⟨anomalies, anomalies', hdetect, hdetect', hsame⟩
      rw [hdetect, hdetect']
      exact congrArg Except.ok hsame

/-- A column in degrees of another scale. -/
theorem zscore_unitFree_fifthPoint :
    score rootMath (fun _ _ => .error .valueError) { method := .zscore, window := 30 }
        (fifthPoint.rescaled (9 / 5) 32) =
      score rootMath (fun _ _ => .error .valueError)
        { method := .zscore, window := 30 } fifthPoint :=
  (@zscore_unitFree Real _ _ _ rootMath (exactSqrt_of_real rfl)
    (fun _ _ => .error .valueError) { method := .zscore, window := 30 }
    { method := .zscore, window := 30 } rfl rfl rfl rfl fifthPoint (9 / 5) (by norm_num)
    32).1

end StatisticalDetector

/-!
# The largest of a column

A z-score is missing, infinite, or a number that is not negative.
-/

section Largest

def IsDeviation (x : Double K) : Prop :=
  x = .nan ∨ x = .inf ∨ exists z, 0 ≤ z ∧ x = .finite z

theorem isDeviation_abs (x : Double K) : IsDeviation x.abs := by
  cases x with
  | finite q =>
      exact Or.inr (Or.inr ⟨|q|, abs_nonneg q, Double.abs_finite q⟩)
  | nan =>
      exact Or.inl Double.abs_nan
  | inf =>
      exact Or.inr (Or.inl (if_neg Bool.false_ne_true))
  | negInf =>
      exact Or.inr (Or.inl (if_pos rfl))

theorem isDeviation_of_mem_zscores {math : Math K} {width : Nat} {values : List (Double K)}
    {x : Double K} (h : x ∈ StatisticalDetector.zscores math width values) :
    IsDeviation x := by
  rcases List.mem_iff_getElem?.mp h with ⟨i, hi⟩
  unfold StatisticalDetector.zscores at hi
  rw [List.getElem?_zipWith] at hi
  split at hi
  · injection hi with hi
    rw [← hi]
    exact isDeviation_abs _
  · cases hi

def larger (acc x : Double K) : Double K :=
  if acc.isNan then x else acc.max x

omit [Field K] [IsStrictOrderedRing K] in
theorem foldl_larger_inf (values : List (Double K)) : values.foldl larger .inf = .inf := by
  induction values with
  | nil =>
      rfl
  | cons x rest ih =>
      have hturn : larger .inf x = (.inf : Double K) := by
        cases x <;> rfl
      rw [List.foldl_cons, hturn]
      exact ih

omit [Field K] [IsStrictOrderedRing K] in
theorem larger_finite (m z : K) :
    exists top, larger (.finite m) (.finite z) = .finite top ∧ m ≤ top ∧ z ≤ top ∧
      (top = m ∨ top = z) := by
  have hturn : larger (.finite m) (.finite z) =
      if Double.finite m < Double.finite z then .finite z else .finite m := rfl
  rw [hturn]
  by_cases hlt : m < z
  · rw [if_pos ((Double.finite_lt_finite m z).mpr hlt)]
    exact ⟨z, rfl, hlt.le, le_refl z, Or.inr rfl⟩
  · rw [if_neg (fun h => hlt ((Double.finite_lt_finite m z).mp h))]
    exact ⟨m, rfl, le_refl m, not_lt.mp hlt, Or.inl rfl⟩

omit [Field K] [IsStrictOrderedRing K] in
theorem foldl_larger_finite {values : List (Double K)}
    (h : forall x, x ∈ values -> x = .inf ∨ exists z, x = .finite z) :
    forall m : K,
      (.inf ∈ values ∧ values.foldl larger (.finite m) = .inf) ∨
        (.inf ∉ values ∧ exists top, values.foldl larger (.finite m) = .finite top ∧
          m ≤ top ∧ (top = m ∨ .finite top ∈ values) ∧
          forall z, .finite z ∈ values -> z ≤ top) := by
  induction values with
  | nil =>
      intro m
      refine Or.inr ⟨List.not_mem_nil, m, rfl, le_refl m, Or.inl rfl, ?_⟩
      intro z hz
      cases hz
  | cons x rest ih =>
      intro m
      have hrest := ih fun y hy => h y (List.mem_cons_of_mem x hy)
      rw [List.foldl_cons]
      rcases h x List.mem_cons_self with hx | ⟨z, hx⟩
      · left
        rw [hx]
        exact ⟨List.mem_cons_self, foldl_larger_inf rest⟩
      · rcases larger_finite m z with ⟨first, hfirst, hm, hz, hwhich⟩
        rw [hx, hfirst]
        rcases hrest first with ⟨hinf, hfold⟩ | ⟨hinf, top, hfold, hle, htop, hall⟩
        · exact Or.inl ⟨List.mem_cons_of_mem _ hinf, hfold⟩
        · right
          refine ⟨?_, top, hfold, hm.trans hle, ?_, ?_⟩
          · intro hmem
            rcases List.mem_cons.mp hmem with heq | hmem
            · cases heq
            · exact hinf hmem
          · rcases htop with htop | htop
            · rcases hwhich with hwhich | hwhich
              · exact Or.inl (htop.trans hwhich)
              · right
                rw [htop, hwhich]
                exact List.mem_cons_self
            · exact Or.inr (List.mem_cons_of_mem _ htop)
          · intro y hy
            rcases List.mem_cons.mp hy with heq | hy
            · injection heq with heq
              rw [heq]
              exact hz.trans hle
            · exact hall y hy

omit [Field K] [LinearOrder K] [IsStrictOrderedRing K] in
theorem mem_dropna {values : List (Double K)} {x : Double K} :
    x ∈ dropna values <-> x ∈ values ∧ x ≠ .nan := by
  unfold dropna
  rw [List.mem_filter]
  cases x <;> simp [Double.isNan]

omit [IsStrictOrderedRing K] in
theorem maxOf_deviations {values : List (Double K)}
    (h : forall x, x ∈ values -> IsDeviation x) :
    (.inf ∈ values ∧ maxOf values = .inf) ∨
      (.inf ∉ values ∧ (forall z, .finite z ∉ values) ∧ maxOf values = .nan) ∨
      (.inf ∉ values ∧ exists top, 0 ≤ top ∧ .finite top ∈ values ∧
        (forall z, .finite z ∈ values -> z ≤ top) ∧ maxOf values = .finite top) := by
  have hshape : forall x, x ∈ dropna values ->
      x = .inf ∨ exists z, 0 ≤ z ∧ x = .finite z := by
    intro x hx
    rcases mem_dropna.mp hx with ⟨hmem, hne⟩
    rcases h x hmem with hnan | hnumber
    · exact absurd hnan hne
    · exact hnumber
  have hmem : forall x : Double K, x ≠ .nan -> (x ∈ values <-> x ∈ dropna values) := by
    intro x hne
    rw [mem_dropna]
    exact ⟨fun hx => ⟨hx, hne⟩, fun hx => hx.1⟩
  have hinf := hmem .inf (by simp)
  have hfinite : forall z : K, Double.finite z ∈ values <-> .finite z ∈ dropna values :=
    fun z => hmem (.finite z) (by simp)
  have hfold : maxOf values = (dropna values).foldl larger .nan := rfl
  rw [hfold, hinf]
  simp only [hfinite]
  cases hvalues : dropna values with
  | nil =>
      exact Or.inr (Or.inl ⟨List.not_mem_nil, fun _ => List.not_mem_nil, rfl⟩)
  | cons x rest =>
      rw [hvalues] at hshape
      have hfirst : larger .nan x = x := rfl
      rw [List.foldl_cons, hfirst]
      have hrest : forall y, y ∈ rest -> y = .inf ∨ exists z, y = .finite z := by
        intro y hy
        rcases hshape y (List.mem_cons_of_mem x hy) with hy | ⟨z, _, hy⟩
        · exact Or.inl hy
        · exact Or.inr ⟨z, hy⟩
      rcases hshape x List.mem_cons_self with hx | ⟨z, hz, hx⟩
      · left
        rw [hx]
        exact ⟨List.mem_cons_self, foldl_larger_inf rest⟩
      · rw [hx]
        rcases foldl_larger_finite hrest z with
          ⟨hmem, hfold⟩ | ⟨hno, top, hfold, hle, htop, hall⟩
        · exact Or.inl ⟨List.mem_cons_of_mem _ hmem, hfold⟩
        · refine Or.inr (Or.inr ⟨?_, top, hz.trans hle, ?_, ?_, hfold⟩)
          · intro hmem
            rcases List.mem_cons.mp hmem with heq | hmem
            · cases heq
            · exact hno hmem
          · rcases htop with htop | htop
            · rw [htop]
              exact List.mem_cons_self
            · exact List.mem_cons_of_mem _ htop
          · intro y hy
            rcases List.mem_cons.mp hy with heq | hy
            · injection heq with heq
              rw [heq]
              exact hle
            · exact hall y hy

end Largest

namespace StatisticalDetector

omit [IsStrictOrderedRing K] in
theorem detect_eq_nil_iff {math : Math K} {stl : Stl K} {detector : StatisticalDetector K}
    {series : Series K} {scores : Scores K}
    (h : detector.score math stl series = .ok scores) (metricName : String)
    (threshold : Double K) :
    detector.detect math stl series metricName threshold = .ok [] <->
      forall s, s ∈ scores -> ¬ threshold ≤ s := by
  rw [detect_eq_of_score h, Except.ok.injEq, List.map_eq_nil_iff]
  unfold pointsAtOrAbove
  rw [List.filter_eq_nil_iff]
  constructor
  · intro hnone s hs
    rcases exists_mem_zip (length_of_score h) hs with ⟨p, hp⟩
    have hp := hnone (p, s) hp
    rw [decide_eq_true_eq] at hp
    exact hp
  · intro hnone p hp
    rw [decide_eq_true_eq]
    exact hnone p.2 (List.of_mem_zip hp).2

/-!
# The scores of a batch

Every deviation is divided by the largest one.  A missing or infinite divisor makes
every score zero.
-/

omit [IsStrictOrderedRing K] in
theorem not_le_zero {t : K} (ht : 0 < t) : ¬ (Double.finite t : Double K) ≤ .finite 0 :=
  fun h => absurd ht (not_lt.mpr ((Double.finite_le_finite t 0).mp h))

omit [IsStrictOrderedRing K] in
theorem clip_missing : ((.nan : Double K).clip).fillna = .finite 0 := by
  rw [Double.clip, if_neg (Double.not_nan_lt _)]
  rfl

theorem clip_zero : ((.finite 0 : Double K).clip).fillna = .finite 0 := by
  rw [Double.clip, if_neg (fun h => lt_irrefl (0 : K) ((Double.finite_lt_finite 0 0).mp h)),
    if_neg (fun h => not_lt_of_gt zero_lt_one ((Double.finite_lt_finite (1 : K) 0).mp h))]
  rfl

theorem clip_div_inf {x : Double K} (h : IsDeviation x) :
    ((x / .inf : Double K).clip).fillna = .finite 0 := by
  rcases h with hx | hx | ⟨y, _, hx⟩
  · rw [hx, Double.nan_div, clip_missing]
  · rw [hx, show (Double.inf / .inf : Double K) = .nan from rfl, clip_missing]
  · rw [hx, show (Double.finite y / .inf : Double K) = .finite 0 from rfl, clip_zero]

omit [IsStrictOrderedRing K] in
theorem clip_div_nan (x : Double K) : ((x / .nan : Double K).clip).fillna = .finite 0 := by
  have hquotient : (x / .nan : Double K) = .nan := by
    cases x <;> rfl
  rw [hquotient, clip_missing]

theorem le_clip_div_iff {t d : K} (ht : 0 < t) (hone : t ≤ 1) (hd : 0 < d) (y : K) :
    .finite t ≤ ((.finite y / .finite d : Double K).clip).fillna <-> t * d ≤ y := by
  rw [Double.finite_div_finite y hd.ne', le_clip_iff ht hone, le_div_iff₀ hd]

theorem forall_not_le_iff {t top : K} (ht : 0 < t) (hone : t ≤ 1) (htop : 0 ≤ top)
    {z : List (Double K)} (hdeviations : forall x, x ∈ z -> IsDeviation x)
    (hinf : .inf ∉ z) (hmem : .finite top ∈ z) (hall : forall y, .finite y ∈ z -> y ≤ top) :
    (forall x, x ∈ z ->
      ¬ .finite t ≤ ((x / .finite (top + 1 / 10 ^ 9) : Double K).clip).fillna) <->
      forall y, .finite y ∈ z -> (1 - t) * y < t / 10 ^ 9 := by
  have hpos : 0 < top + 1 / 10 ^ 9 := add_pos_of_nonneg_of_pos htop (by positivity)
  constructor
  · intro hsilent y hy
    have htopSilent := hsilent _ hmem
    rw [le_clip_div_iff ht hone hpos, not_le] at htopSilent
    calc
      (1 - t) * y ≤ (1 - t) * top :=
        mul_le_mul_of_nonneg_left (hall y hy) (sub_nonneg.mpr hone)
      _ < t / 10 ^ 9 := by linarith
  · intro hsmall x hx
    rcases hdeviations x hx with hnan | hinfinite | ⟨y, _, hfinite⟩
    · rw [hnan, Double.nan_div, clip_missing]
      exact not_le_zero ht
    · exact absurd (hinfinite ▸ hx) hinf
    · rw [hfinite, le_clip_div_iff ht hone hpos, not_le]
      have htopSmall := hsmall top hmem
      have hle := hall y (hfinite ▸ hx)
      linarith

/--
In relative mode a batch is silent exactly when one of its z-scores is infinite, or
when all of them are too small to count beside `1e-9`: a threshold of one never
fires, and under any other threshold almost every batch does.
-/
theorem relative_silent_iff (math : Math K) (stl : Stl K) {detector : StatisticalDetector K}
    (hmethod : detector.method = .zscore) (hmode : detector.scoringMode = .relative)
    (hwindow : 5 ≤ detector.window) (series : Series K) (metricName : String) {t : K}
    (ht : 0 < t) (hone : t ≤ 1) :
    detector.detect math stl series metricName (.finite t) = .ok [] <->
      .inf ∈ zscores math detector.window series.values ∨
        forall z, .finite z ∈ zscores math detector.window series.values ->
          (1 - t) * z < t / 10 ^ 9 := by
  have hscore : detector.score math stl series =
      .ok ((zscores math detector.window series.values).map fun x =>
        (x / (maxOf (zscores math detector.window series.values) + .tiny)).clip.fillna) := by
    unfold score
    rw [hmethod]
    dsimp only
    unfold scoreZscore
    rw [if_neg (Nat.not_lt.mpr hwindow), hmode]
  rw [detect_eq_nil_iff hscore, List.forall_mem_map]
  have hdeviations : forall x, x ∈ zscores math detector.window series.values ->
      IsDeviation x := fun x hx => isDeviation_of_mem_zscores hx
  generalize zscores math detector.window series.values = z at hdeviations
  rcases maxOf_deviations hdeviations with
    ⟨hinf, hmax⟩ | ⟨hinf, hnone, hmax⟩ | ⟨hinf, top, htop, hmem, hall, hmax⟩
  · have hdivisor : maxOf z + .tiny = (.inf : Double K) := by
      rw [hmax]
      rfl
    refine iff_of_true ?_ (Or.inl hinf)
    intro x hx
    rw [hdivisor, clip_div_inf (hdeviations x hx)]
    exact not_le_zero ht
  · have hdivisor : maxOf z + .tiny = (.nan : Double K) := by
      rw [hmax]
      rfl
    refine iff_of_true ?_ (Or.inr fun y hy => absurd hy (hnone y))
    intro x _
    rw [hdivisor, clip_div_nan]
    exact not_le_zero ht
  · have hdivisor : maxOf z + .tiny = (.finite (top + 1 / 10 ^ 9) : Double K) := by
      rw [hmax]
      rfl
    rw [hdivisor, forall_not_le_iff ht hone htop hdeviations hinf hmem hall,
      or_iff_right hinf]

def faintPoint : Series Rat where
  points :=
    [(0, .finite 1), (1, .finite (-1)), (2, .finite 1), (3, .finite (-1)),
     (4, .finite (1 / 10 ^ 12))]
  increasing := by simp

/-- A threshold of four fifths leaves the faint point out, but not a clear one. -/
theorem relative_silent_faintPoint :
    detect plainMath noStl { method := .zscore } faintPoint "cpu_usage" (.finite (4 / 5)) =
        .ok [] ∧
      detect plainMath noStl { method := .zscore } (probe 4) "cpu_usage" (.finite (4 / 5)) ≠
        .ok [] := by
  have hfaint : forall x, x ∈ zscores plainMath 60 faintPoint.values ->
      ¬ .finite (4 / 10 ^ 9) ≤ x := by
    decide +kernel
  have hclear : .inf ∉ zscores plainMath 60 (probe 4).values ∧
      .finite 1 ∈ zscores plainMath 60 (probe 4).values := by
    decide +kernel
  constructor
  · apply (relative_silent_iff plainMath noStl rfl rfl (by decide) faintPoint "cpu_usage"
      (by norm_num) (by norm_num)).mpr
    right
    intro z hz
    have hlt := not_le.mp (mt (Double.finite_le_finite _ _).mpr (hfaint _ hz))
    linarith
  · intro hsilent
    rcases (relative_silent_iff plainMath noStl rfl rfl (by decide) (probe 4) "cpu_usage"
      (by norm_num) (by norm_num)).mp hsilent with hinf | hsmall
    · exact hclear.1 hinf
    · have hone := hsmall 1 hclear.2
      norm_num at hone

end StatisticalDetector

end Detection
end MetricMesh
