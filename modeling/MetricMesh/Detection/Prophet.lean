import MetricMesh.Detection.Base

/-!
# The Prophet detector

The fitted model gives an uncertainty band for every time, but `fit` predicts
over the frame that `make_future_dataframe(periods=0)` returns, which holds the
times of the training slice and no others.  `score` looks the band of a point
up in that forecast and leaves the score of a point without a band at zero.

The points that the callers score come after the training slice, so none of
them has a band.
-/

namespace MetricMesh
namespace Detection

open Python

universe u

variable {K : Type u}

structure Band (K : Type u) where
  lower : Double K
  upper : Double K

namespace Band

variable [Field K] [LinearOrder K]

def Outside (band : Band K) (actual : Double K) : Prop :=
  actual < band.lower ∨ band.upper < actual

instance (band : Band K) (actual : Double K) : Decidable (band.Outside actual) :=
  inferInstanceAs (Decidable (_ ∨ _))

def width (band : Band K) : Double K :=
  (band.upper - band.lower).max .tiny

def deviation (band : Band K) (actual : Double K) : Double K :=
  ((actual - band.upper).max (band.lower - actual)).max (.finite 0)

/-- The share of the band by which a value falls outside, at most one. -/
def score (band : Band K) (actual : Double K) : Double K :=
  (band.deviation actual / band.width).min (.finite 1)

end Band

/-- The fitted model: what `Prophet.fit` and `predict` make of a training set. -/
abbrev Prophet (K : Type u) : Type u :=
  Series K -> Except PyError (Instant -> Band K)

structure ProphetDetector (K : Type u) where
  forecast : Option (Dict Instant (Band K)) := none

namespace ProphetDetector

def name : String := "prophet"

/-- The forecast over the times of the training series. -/
def forecastOf (model : Instant -> Band K) (training : Series K) : Dict Instant (Band K) :=
  training.points.map (fun p => (p.1, model p.1))

theorem get?_forecastOf_eq_none {model : Instant -> Band K} {training : Series K}
    {t : Instant} (h : forall p, p ∈ training.points -> p.1 ≠ t) :
    Dict.get? (forecastOf model training) t = none := by
  unfold forecastOf
  generalize training.points = points at h
  induction points with
  | nil =>
      rfl
  | cons p rest ih =>
      rw [List.map_cons, Dict.get?, if_neg (h p List.mem_cons_self)]
      exact ih (fun q hq => h q (List.mem_cons_of_mem p hq))

def fit (prophet : Prophet K) (series : Series K) : Except PyError (ProphetDetector K) :=
  match prophet series with
  | .error e => .error e
  | .ok model => .ok { forecast := some (forecastOf model series) }

/-- `changepoint_prior_scale`, which no caller changes. -/
def changepointPriorScale : Rat := 1 / 20

/-- The hyperparameter, which is all that is stored of a fitted model. -/
def getState (detector : ProphetDetector K) : Json :=
  .obj
    [("changepoint_prior_scale", .float (.finite changepointPriorScale)),
     ("fitted", .bool detector.forecast.isSome)]

variable [Field K] [LinearOrder K]

def scorePoint (forecast : Dict Instant (Band K)) (p : Instant × Double K) : Double K :=
  match forecast.get? p.1 with
  | none => .finite 0
  | some band => if band.Outside p.2 then band.score p.2 else .finite 0

def score (detector : ProphetDetector K) (series : Series K) : Except PyError (Scores K) :=
  match detector.forecast with
  | none => .error (.runtimeError "Call fit() before score()")
  | some forecast => .ok (series.points.map (scorePoint forecast))

/-- The points at or above the threshold, where `read` makes a double of a score. -/
def detectWith (read : Double K -> Double K) (detector : ProphetDetector K)
    (series : Series K) (metricName : String) (threshold : Double K) :
    Except PyError (List (AnomalyResult K)) :=
  match detector.score series with
  | .error e => .error e
  | .ok scores =>
      .ok ((pointsAtOrAbove threshold series (scores.map read)).map fun p =>
        { timestamp := p.1.1
          metricName := metricName
          value := p.1.2
          score := p.2
          detector := name
          method := "prophet_interval" })

theorem detectWith_eq_ok {read : Double K -> Double K} {detector : ProphetDetector K}
    {series : Series K} {metricName : String} {threshold : Double K}
    {anomalies : List (AnomalyResult K)} :
    detector.detectWith read series metricName threshold = .ok anomalies <->
      exists scores, detector.score series = .ok scores ∧
        (pointsAtOrAbove threshold series (scores.map read)).map (fun p =>
          { timestamp := p.1.1
            metricName := metricName
            value := p.1.2
            score := p.2
            detector := name
            method := "prophet_interval" }) = anomalies := by
  unfold detectWith
  cases detector.score series with
  | error e =>
      simp
  | ok scores =>
      simp

/-!
# The held-out slice
-/

/-- After a fit on the slice before them, later points all score zero. -/
theorem score_since {model : Instant -> Band K} {series : Series K} {n : Nat} :
    score { forecast := some (forecastOf model (series.before n)) }
        (series.since n) =
      .ok (List.replicate (series.since n).length (.finite 0)) := by
  unfold score Series.length
  apply congrArg Except.ok
  rw [List.eq_replicate_iff]
  constructor
  · exact List.length_map _
  · intro s hs
    rcases List.mem_map.mp hs with ⟨p, hp, heq⟩
    have hnone : Dict.get? (forecastOf model (series.before n)) p.1 = none :=
      get?_forecastOf_eq_none (fun q hq => Series.not_mem_before hp hq)
    rw [← heq, scorePoint, hnone]

theorem score_of_detectWith_since {read : Double K -> Double K}
    (hread : read (.finite 0) = .finite 0) {model : Instant -> Band K} {series : Series K}
    {n : Nat} {metricName : String} {threshold : Double K}
    {anomalies : List (AnomalyResult K)}
    (h : detectWith read { forecast := some (forecastOf model (series.before n)) }
      (series.since n) metricName threshold = .ok anomalies)
    {r : AnomalyResult K} (hr : r ∈ anomalies) :
    r.detector = name ∧ r.metricName = metricName ∧ r.score = .finite 0 ∧
      threshold ≤ .finite 0 := by
  unfold detectWith at h
  rw [score_since] at h
  injection h with h
  rw [← h] at hr
  rcases List.mem_map.mp hr with ⟨p, hp, heq⟩
  rcases mem_pointsAtOrAbove.mp hp with ⟨hzip, hle⟩
  have hscore : p.2 = .finite 0 := by
    have hmem := (List.of_mem_zip hzip).2
    rw [List.map_replicate, hread] at hmem
    exact List.eq_of_mem_replicate hmem
  rw [← heq]
  refine ⟨rfl, rfl, hscore, ?_⟩
  rw [← hscore]
  exact hle

/-!
# What the callers see

A caller fits on the slice before the split and scores the slice after it;
`run_prophet` keeps at least ten points for the fit and `detect_now` one.
-/

def heldOut (series : Series K) (least : Nat) : Series K :=
  series.since (series.split least)

def heldOutScores (prophet : Prophet K) (series : Series K) (least : Nat) :
    Except PyError (Scores K) :=
  match fit prophet (series.before (series.split least)) with
  | .error e => .error e
  | .ok detector => detector.score (heldOut series least)

/-- Every held-out point outside its band gets its share of the band as score. -/
def CoversHeldOut (model : Instant -> Band K) (series : Series K) (least : Nat) : Prop :=
  exists scores,
    heldOutScores (fun _ => .ok model) series least = .ok scores ∧
      forall (k : Nat) (p : Instant × Double K),
        (heldOut series least).points[k]? = some p ->
          (model p.1).Outside p.2 ->
            scores[k]? = some ((model p.1).score p.2) ∧
              .finite 0 < (model p.1).score p.2

theorem heldOutScores_eq (model : Instant -> Band K) (series : Series K) (least : Nat) :
    heldOutScores (fun _ => .ok model) series least =
      .ok (List.replicate (heldOut series least).length (.finite 0)) :=
  score_since

/--
No held-out point outside its band is ever scored: the slice is covered only
when there is no such point in it.
-/
theorem coversHeldOut_iff (model : Instant -> Band K) (series : Series K)
    (least : Nat) :
    CoversHeldOut model series least <->
      forall p, p ∈ (heldOut series least).points -> ¬ (model p.1).Outside p.2 := by
  constructor
  · intro h p hp houtside
    rcases h with ⟨scores, hscores, hcovers⟩
    rw [heldOutScores_eq] at hscores
    injection hscores with hscores
    rcases List.getElem?_of_mem hp with ⟨k, hk⟩
    rcases hcovers k p hk houtside with ⟨hscore, hpos⟩
    rw [← hscores, List.getElem?_replicate] at hscore
    -- The score on record is zero, and the one that is due is positive.
    have hzero : (model p.1).score p.2 = .finite 0 := by
      split at hscore
      · injection hscore with hscore
        exact hscore.symm
      · cases hscore
    rw [hzero, Double.finite_lt_finite] at hpos
    exact lt_irrefl 0 hpos
  · intro h
    refine ⟨_, heldOutScores_eq model series least, ?_⟩
    intro k p hk houtside
    exact absurd houtside (h p (List.mem_of_getElem? hk))

def lateSpike : Series Rat where
  points := (List.range 20).map fun k =>
    (60000000 * (k : Int), .finite (if k = 19 then 100 else 0))
  increasing := by decide

theorem lateSpike_uncovered :
    ¬ forall (model : Instant -> Band Rat) (series : Series Rat) (least : Nat),
      20 ≤ series.length -> least = 10 ∨ least = 1 ->
        CoversHeldOut model series least := by
  intro h
  have hcovers := h (fun _ => ⟨.finite (-1), .finite 1⟩) lateSpike 10 (by decide)
    (Or.inl rfl)
  rcases hcovers with ⟨scores, hscores, hcovered⟩
  have hlast := (hcovered 3 (1140000000, .finite 100) (by decide +kernel)
    (by decide +kernel)).1
  have hzeros : scores = [.finite 0, .finite 0, .finite 0, .finite 0] := by
    rw [heldOutScores_eq] at hscores
    injection hscores with hscores
    rw [← hscores]
    rfl
  rw [hzeros] at hlast
  revert hlast
  decide +kernel

end ProphetDetector

end Detection
end MetricMesh
