import Mathlib.Tactic.FieldSimp
import Mathlib.Tactic.Linarith
import Mathlib.Tactic.Positivity
import MetricMesh.Detection.Zscores

/-!
# Reused models

A detector that loads the state of a fitted one takes over its parameters.  The
fences of the interquartile method are all there is to it, and the seasonal
method has no parameters, but the z-scores depend on the window, which stays
that of the loading detector.
-/

namespace MetricMesh
namespace Detection

open Python

namespace StatisticalDetector

/-!
# The round trip of a state
-/

theorem Method.name_inj {m n : Method} (h : m.name = n.name) : m = n := by
  cases m <;> cases n <;> first | rfl | (revert h; decide)

theorem loadState_getState (detector fitted : StatisticalDetector Rat) :
    detector.loadState fitted.getState =
      if detector.method = fitted.method then
        .ok { detector with params := fitted.params }
      else .error .valueError := by
  have hparams : (fitted.params.map fun p => (p.1, p.2.toJson)).map
      (fun p => (p.1, Param.ofJson p.2)) = fitted.params := by
    rw [List.map_map]
    refine (List.map_congr_left ?_).trans (List.map_id _)
    intro p _
    exact Prod.ext rfl (Param.ofJson_toJson p.2)
  have hmethod : Dict.get? [("method", Json.str fitted.method.name),
      ("window", .int fitted.window),
      ("params", .obj (fitted.params.map fun p => (p.1, p.2.toJson)))] "method" =
        some (.str fitted.method.name) := rfl
  have hstored : Dict.get? [("method", Json.str fitted.method.name),
      ("window", .int fitted.window),
      ("params", .obj (fitted.params.map fun p => (p.1, p.2.toJson)))] "params" =
        some (.obj (fitted.params.map fun p => (p.1, p.2.toJson))) := rfl
  unfold loadState getState
  simp only [hmethod, hstored, Option.getD_some, Json.dict, hparams]
  by_cases hsame : detector.method = fitted.method
  · simp [hsame]
  · have hname : ¬ fitted.method.name = detector.method.name := by
      intro h
      exact hsame (Method.name_inj h).symm
    simp [hsame, hname]

/-!
# A series that tells two windows apart

One, and then zeros.  At the last position a window that covers the whole series
sees the one, and a shorter window sees zeros only.
-/

def probe (n : Nat) : Series Rat where
  points := (List.range (n + 1)).map fun i : Nat =>
    ((i : Int), if i = 0 then .finite 1 else .finite 0)
  increasing := by
    rw [List.pairwise_map]
    exact List.pairwise_lt_range.imp (fun h => Int.ofNat_lt.mpr h)

theorem probe_values (n : Nat) :
    (probe n).values = .finite 1 :: List.replicate n (.finite 0) := by
  unfold Series.values probe
  rw [List.map_map, List.range_succ_eq_map]
  simp [Function.comp_def]

theorem length_probe (n : Nat) : (probe n).values.length = n + 1 := by
  rw [probe_values]
  simp

theorem last_probe {n : Nat} (hn : 0 < n) : (probe n).values[n]? = some (.finite 0) := by
  rw [probe_values]
  cases n with
  | zero => cases hn
  | succ n => simp

theorem window_short {n width : Nat} (hwidth : width ≤ n) :
    (((probe n).values.take (n + 1)).drop (n + 1 - width)).filterMap Double.number? =
      List.replicate width 0 := by
  have hdrop : n + 1 - width = (n - width) + 1 := by omega
  have hrest : n - (n - width) = width := by omega
  rw [List.take_of_length_le (le_of_eq (length_probe n)), probe_values, hdrop,
    List.drop_succ_cons, List.drop_replicate, hrest, List.filterMap_replicate]
  rfl

theorem window_whole (n : Nat) :
    (((probe n).values.take (n + 1)).drop (n + 1 - (n + 1))).filterMap Double.number? =
      1 :: List.replicate n 0 := by
  rw [List.take_of_length_le (le_of_eq (length_probe n)), Nat.sub_self, List.drop_zero,
    probe_values, List.filterMap_cons, List.filterMap_replicate]
  rfl

/-!
# Z-scores
-/

def IsMagnitude (z : PyFloat) : Prop :=
  z = .nan ∨ exists q, 0 ≤ q ∧ z = .finite q

theorem zscores_isMagnitude (math : Math Rat) (width : Nat) {values : List PyFloat}
    (hfinite : forall x, x ∈ values -> exists q, x = .finite q) {z : PyFloat}
    (hz : z ∈ zscores math width values) : IsMagnitude z := by
  rcases List.mem_iff_getElem?.mp hz with ⟨i, hi⟩
  rcases List.getElem?_eq_some_iff.mp hi with ⟨hlt, _⟩
  rw [length_zscores] at hlt
  have hx := List.getElem?_eq_getElem hlt
  rcases hfinite _ (List.getElem_mem hlt) with ⟨q, hq⟩
  rw [hq] at hx
  by_cases hshort :
      (((values.take (i + 1)).drop (i + 1 - width)).filterMap Double.number?).length < 5
  · rw [zscores_entry math hx rfl, if_pos hshort] at hi
    have hnan : (Double.finite q - .nan : PyFloat) = .nan := rfl
    rw [hnan, Double.nan_div, Double.abs_nan] at hi
    exact Or.inl (Option.some.inj hi).symm
  · rcases zscores_at math hx rfl (not_lt.mp hshort) with ⟨d, _, hentry⟩
    rw [hentry] at hi
    exact Or.inr ⟨_, abs_nonneg _, (Option.some.inj hi).symm⟩

theorem foldl_max_isMagnitude (zs : List PyFloat)
    (hzs : forall z, z ∈ zs -> exists q, 0 ≤ q ∧ z = .finite q) :
    forall acc : Rat, 0 ≤ acc ->
      exists m, 0 ≤ m ∧
        zs.foldl (fun acc x => if acc.isNan then x else acc.max x) (.finite acc) =
          .finite m := by
  induction zs with
  | nil =>
      intro acc hacc
      exact ⟨acc, hacc, rfl⟩
  | cons z rest ih =>
      intro acc hacc
      rcases hzs z List.mem_cons_self with ⟨q, hq, hz⟩
      have hrest := ih (fun z' h => hzs z' (List.mem_cons_of_mem z h))
      rw [List.foldl_cons, hz]
      by_cases hlt : acc < q
      · have hmax : (Double.finite acc).max (.finite q) = .finite q :=
          if_pos ((Double.finite_lt_finite acc q).mpr hlt)
        simp only [Double.isNan, Bool.false_eq_true, if_false, hmax]
        exact hrest q hq
      · have hmax : (Double.finite acc).max (.finite q) = .finite acc :=
          if_neg (fun h => hlt ((Double.finite_lt_finite acc q).mp h))
        simp only [Double.isNan, Bool.false_eq_true, if_false, hmax]
        exact hrest acc hacc

theorem maxOf_isMagnitude {zs : List PyFloat} (hzs : forall z, z ∈ zs -> IsMagnitude z)
    {q : Rat} (hq : .finite q ∈ zs) : exists m, 0 ≤ m ∧ maxOf zs = .finite m := by
  have hclean : forall z, z ∈ dropna zs -> exists q, 0 ≤ q ∧ z = .finite q := by
    intro z hz
    rcases List.mem_filter.mp hz with ⟨hmem, hnot⟩
    rcases hzs z hmem with hnan | hnumber
    · rw [hnan] at hnot
      cases hnot
    · exact hnumber
  have hmem : .finite q ∈ dropna zs := List.mem_filter.mpr ⟨hq, rfl⟩
  unfold maxOf
  cases hlist : dropna zs with
  | nil =>
      rw [hlist] at hmem
      cases hmem
  | cons z rest =>
      rw [hlist] at hclean
      rcases hclean z List.mem_cons_self with ⟨first, hfirst, hz⟩
      rw [List.foldl_cons, hz]
      exact foldl_max_isMagnitude rest
        (fun z' h => hclean z' (List.mem_cons_of_mem z h)) first hfirst

/-!
# The last score of the probe
-/

/-- What the z-scores of a series are divided by. -/
def zscoreDivisor (math : Math Rat) (detector : StatisticalDetector Rat)
    (values : List PyFloat) : PyFloat :=
  match detector.scoringMode with
  | .absolute => zscoreAbsSigma
  | .relative => maxOf (zscores math detector.window values) + .tiny

theorem scoreZscore_eq (math : Math Rat) {detector : StatisticalDetector Rat}
    (hwindow : 5 ≤ detector.window) (values : List PyFloat) :
    scoreZscore math detector values =
      .ok ((zscores math detector.window values).map fun x =>
        (x / zscoreDivisor math detector values).clip.fillna) :=
  if_neg (Nat.not_lt.mpr hwindow)

theorem clip_zero_div (divisor : PyFloat) :
    ((.finite 0 / divisor : PyFloat).clip).fillna = .finite 0 := by
  have hzero : (Double.finite 0 : PyFloat).clip.fillna = .finite 0 := by decide +kernel
  have hnan : (Double.nan : PyFloat).clip.fillna = .finite 0 := by decide +kernel
  cases divisor with
  | finite q =>
      by_cases hq : q = 0
      · subst hq
        exact hnan
      · rw [Double.finite_div_finite _ hq, zero_div]
        exact hzero
  | nan => exact hnan
  | inf => exact hzero
  | negInf => exact hzero

theorem clip_div_ne_zero {p q : Rat} (hp : 0 < p) (hq : 0 < q) :
    ((.finite p / .finite q : PyFloat).clip).fillna ≠ .finite 0 := by
  have hpos : 0 < p / q := div_pos hp hq
  have hlow : ¬ (Double.finite (p / q) : PyFloat) < .finite 0 := by
    rw [Double.finite_lt_finite]
    exact not_lt.mpr hpos.le
  rw [Double.finite_div_finite _ (ne_of_gt hq), Double.clip, if_neg hlow]
  by_cases hhigh : (Double.finite 1 : PyFloat) < .finite (p / q)
  · rw [if_pos hhigh]
    decide +kernel
  · rw [if_neg hhigh]
    intro h
    injection h with h
    exact ne_of_gt hpos h

theorem average_replicate_zero (n : Nat) : average (List.replicate n (0 : Rat)) = 0 := by
  simp [average]

theorem average_one_zeros (n : Nat) :
    average ((1 : Rat) :: List.replicate n 0) = 1 / ((n : Rat) + 1) := by
  simp [average]

theorem last_zscore_short (math : Math Rat) {n width : Nat} (hfive : 5 ≤ width)
    (hwidth : width ≤ n) :
    (zscores math width (probe n).values)[n]? = some (.finite 0) := by
  have hlength : 5 ≤ (List.replicate width (0 : Rat)).length := by simpa using hfive
  rcases zscores_at math (last_probe (by omega)) (window_short hwidth) hlength with
    ⟨d, _, hentry⟩
  rw [hentry, average_replicate_zero]
  simp

theorem last_zscore_whole (math : Math Rat) {n : Nat} (hfour : 4 ≤ n) :
    exists p, 0 < p ∧ (zscores math (n + 1) (probe n).values)[n]? = some (.finite p) := by
  have hlength : 5 ≤ ((1 : Rat) :: List.replicate n 0).length := by
    rw [List.length_cons, List.length_replicate]
    omega
  rcases zscores_at math (last_probe (by omega)) (window_whole n) hlength with
    ⟨d, hd, hentry⟩
  refine ⟨_, ?_, hentry⟩
  rw [average_one_zeros, abs_pos]
  have hn : ((n : Rat) + 1) ≠ 0 := by positivity
  exact div_ne_zero (by simp [hn]) hd

theorem probe_finite {n : Nat} {x : PyFloat} (hx : x ∈ (probe n).values) :
    exists q, x = .finite q := by
  rw [probe_values] at hx
  rcases List.mem_cons.mp hx with h | h
  · exact ⟨1, h⟩
  · exact ⟨0, (List.mem_replicate.mp h).2⟩

theorem zscoreDivisor_pos (math : Math Rat) (detector : StatisticalDetector Rat) {n : Nat}
    {p : Rat}
    (hlast : (zscores math detector.window (probe n).values)[n]? = some (.finite p)) :
    exists q, 0 < q ∧ zscoreDivisor math detector (probe n).values = .finite q := by
  unfold zscoreDivisor
  cases detector.scoringMode with
  | absolute =>
      exact ⟨6, by norm_num, rfl⟩
  | relative =>
      rcases maxOf_isMagnitude
          (fun z hz => zscores_isMagnitude math detector.window (fun x => probe_finite) hz)
          (List.mem_of_getElem? hlast) with ⟨m, hm, hmax⟩
      refine ⟨m + 1 / 10 ^ 9, by positivity, ?_⟩
      simp only [hmax]
      rfl

/-- With a shorter window the probe of a window has another last score. -/
theorem scoreZscore_ne_of_lt (math : Math Rat) {short long : StatisticalDetector Rat}
    (hfive : 5 ≤ short.window) (hlt : short.window < long.window) :
    scoreZscore math short (probe (long.window - 1)).values ≠
      scoreZscore math long (probe (long.window - 1)).values := by
  have hlong : long.window - 1 + 1 = long.window := by omega
  intro h
  rw [scoreZscore_eq math hfive, scoreZscore_eq math (by omega : 5 ≤ long.window)] at h
  have hentries := congrArg (fun scores => scores[long.window - 1]?) (Except.ok.inj h)
  rcases last_zscore_whole math (by omega : 4 ≤ long.window - 1) with ⟨p, hp, hwhole⟩
  rw [hlong] at hwhole
  rcases zscoreDivisor_pos math long hwhole with ⟨q, hq, hdivisor⟩
  simp only [List.getElem?_map, hwhole, Option.map_some, hdivisor,
    last_zscore_short math hfive (by omega : short.window ≤ long.window - 1),
    clip_zero_div, Option.some.injEq] at hentries
  exact clip_div_ne_zero hp hq hentries.symm

/-!
# When a reused model scores like the fitted one
-/

theorem window_of_fit {math : Math Rat} {detector fitted : StatisticalDetector Rat}
    {training : Series Rat} (h : detector.fit math training = .ok fitted) :
    fitted.window = detector.window ∧ fitted.scoringMode = detector.scoringMode ∧
      (detector.method = .zscore -> 10 ≤ detector.window) := by
  unfold fit at h
  dsimp only at h
  cases hmethod : detector.method with
  | zscore =>
      rw [hmethod] at h
      dsimp only at h
      by_cases hshort : detector.window < 10
      · rw [if_pos hshort] at h
        cases h
      · rw [if_neg hshort] at h
        split at h
        · injection h with h
          rw [← h]
          exact ⟨rfl, rfl, fun _ => not_lt.mp hshort⟩
        · cases h
        · cases h
  | iqr =>
      rw [hmethod] at h
      dsimp only at h
      split at h
      · injection h with h
        rw [← h]
        exact ⟨rfl, rfl, fun hz => by cases hz⟩
      · cases h
      · cases h
  | stl =>
      rw [hmethod] at h
      injection h with h
      rw [← h]
      exact ⟨rfl, rfl, fun hz => by cases hz⟩

/-- Every series is scored by the loaded model as by the fitted one. -/
def ScoresAlike (math : Math Rat) (stl : Stl Rat) (fitted loading : StatisticalDetector Rat) :
    Prop :=
  forall loaded, loading.loadState fitted.getState = .ok loaded ->
    forall series : Series Rat,
      loaded.score math stl series = fitted.score math stl series

theorem scoresAlike_of_zscore (math : Math Rat) (stl : Stl Rat)
    {fitted loading : StatisticalDetector Rat} (hfitted : fitted.method = .zscore)
    (hloading : loading.method = .zscore) (hwindow : 10 ≤ fitted.window)
    (hmode : loading.scoringMode = fitted.scoringMode) :
    ScoresAlike math stl fitted loading <-> loading.window = fitted.window := by
  have hload : loading.loadState fitted.getState =
      .ok { loading with params := fitted.params } := by
    rw [loadState_getState, if_pos (hloading.trans hfitted.symm)]
  have hscores : forall series : Series Rat,
      score math stl { loading with params := fitted.params } series =
          scoreZscore math loading series.values ∧
        fitted.score math stl series = scoreZscore math fitted series.values := by
    intro series
    unfold score
    rw [hfitted]
    simp only [hloading]
    exact ⟨rfl, trivial⟩
  constructor
  · intro h
    have halike : forall n, scoreZscore math loading (probe n).values =
        scoreZscore math fitted (probe n).values := by
      intro n
      have heq := h _ hload (probe n)
      rw [(hscores (probe n)).1, (hscores (probe n)).2] at heq
      exact heq
    by_contra hne
    by_cases hfive : 5 ≤ loading.window
    · rcases Nat.lt_or_gt_of_ne hne with hlt | hgt
      · exact scoreZscore_ne_of_lt math hfive hlt (halike _)
      · exact scoreZscore_ne_of_lt math (by omega) hgt (halike _).symm
    · have hraise : scoreZscore math loading (probe 0).values = .error .valueError :=
        if_pos (by omega)
      have hempty := halike 0
      rw [hraise, scoreZscore_eq math (by omega : 5 ≤ fitted.window)] at hempty
      cases hempty
  · intro hsame loaded hloaded series
    rw [hload] at hloaded
    cases hloaded
    rw [(hscores series).1, (hscores series).2]
    unfold scoreZscore
    rw [hsame, hmode]

theorem scoresAlike_of_not_zscore (math : Math Rat) (stl : Stl Rat)
    {fitted loading : StatisticalDetector Rat} (hfitted : fitted.method ≠ .zscore)
    (hmode : loading.scoringMode = fitted.scoringMode) :
    ScoresAlike math stl fitted loading := by
  intro loaded hloaded series
  rw [loadState_getState] at hloaded
  by_cases hmethod : loading.method = fitted.method
  · rw [if_pos hmethod] at hloaded
    cases hloaded
    unfold score
    cases hcase : fitted.method with
    | zscore => exact absurd hcase hfitted
    | iqr =>
        simp only [hmethod, hcase]
        rfl
    | stl =>
        simp only [hmethod, hcase]
        unfold scoreStl
        simp only [hmode]
  · rw [if_neg hmethod] at hloaded
    cases hloaded

/-- The z-scores of two windows differ on some series, and nothing else does. -/
theorem scoresAlike_iff (math : Math Rat) (stl : Stl Rat)
    {detector fitted loading : StatisticalDetector Rat} {training : Series Rat}
    (hfit : detector.fit math training = .ok fitted)
    (hmode : detector.scoringMode = loading.scoringMode) :
    ScoresAlike math stl fitted loading <->
      loading.method ≠ detector.method ∨ detector.method ≠ .zscore ∨
        loading.window = detector.window := by
  rcases window_of_fit hfit with ⟨hwindow, hmode', hten⟩
  have hmethod := fit_method hfit
  have hsameMode : loading.scoringMode = fitted.scoringMode := by
    rw [hmode', hmode]
  by_cases hz : detector.method = .zscore
  · rw [or_iff_right (not_not_intro hz : ¬ detector.method ≠ .zscore)]
    by_cases hsame : loading.method = detector.method
    · rw [or_iff_right (not_not_intro hsame), ← hwindow]
      exact scoresAlike_of_zscore math stl (hmethod.trans hz) (hsame.trans hz)
        (hwindow ▸ hten hz) hsameMode
    · refine iff_of_true ?_ (Or.inl hsame)
      intro loaded hloaded
      rw [loadState_getState, if_neg (fun h => hsame (h.trans hmethod))] at hloaded
      cases hloaded
  · refine iff_of_true ?_ (Or.inr (Or.inl hz))
    exact scoresAlike_of_not_zscore math stl (fun h => hz (hmethod.symm.trans h)) hsameMode

/-- A library whose square root is exact on zero and one, for runs on fixed inputs. -/
def plainMath : Math Rat :=
  { sqrt := id, exp := id, sin := id, cos := id, pi := 3 }

def noStl : Stl Rat :=
  fun _ _ => .error .valueError

def zscoreOf (window : Nat) : StatisticalDetector Rat :=
  { method := .zscore, window := window }

theorem fit_zscoreOf_ten :
    exists fitted, (zscoreOf 10).fit plainMath (probe 11) = .ok fitted := by
  have hok : ((zscoreOf 10).fit plainMath (probe 11)).isOk = true := by decide +kernel
  cases hfit : (zscoreOf 10).fit plainMath (probe 11) with
  | error e =>
      rw [hfit] at hok
      cases hok
  | ok fitted =>
      exact ⟨fitted, rfl⟩

theorem scoresAlike_sameWindow :
    exists fitted, (zscoreOf 10).fit plainMath (probe 11) = .ok fitted ∧
      ScoresAlike plainMath noStl fitted (zscoreOf 10) := by
  rcases fit_zscoreOf_ten with ⟨fitted, hfit⟩
  exact ⟨fitted, hfit, (scoresAlike_iff plainMath noStl hfit rfl).mpr (Or.inr (Or.inr rfl))⟩

/-- The default window of sixty accepts the state of a window of ten. -/
theorem otherWindow_accepted :
    ¬ forall (math : Math Rat) (stl : Stl Rat)
        (detector fitted loading : StatisticalDetector Rat) (training : Series Rat),
      detector.fit math training = .ok fitted ->
        detector.scoringMode = loading.scoringMode ->
          ScoresAlike math stl fitted loading := by
  intro h
  rcases fit_zscoreOf_ten with ⟨fitted, hfit⟩
  rcases window_of_fit hfit with ⟨hwindow, hmode, hten⟩
  have halike := h plainMath noStl _ fitted (zscoreOf 60) _ hfit rfl
  have hsixty : (zscoreOf 60).scoringMode = fitted.scoringMode := hmode.symm
  have hsame := (scoresAlike_of_zscore plainMath noStl (fit_method hfit) rfl
    (hwindow ▸ hten rfl) hsixty).mp halike
  rw [hwindow] at hsame
  revert hsame
  decide

end StatisticalDetector

end Detection
end MetricMesh
