import Mathlib.Data.List.Zip
import MetricMesh.Config
import MetricMesh.Detection.Base
import MetricMesh.Detection.Windows

/-!
# The isolation forest detector

Each point becomes a row of features: its value, rolling statistics around it,
its differences from earlier points and the time of day.  Scaling and the
decision function of the forest belong to a library; both work row by row.  The
library labels a row an anomaly when its decision is negative, and the detector
reports a point for that label as well as for its score.
-/

namespace MetricMesh
namespace Detection

open Python

universe u

variable {K : Type u}

structure Features (K : Type u) where
  value : Double K
  rollingMean5 : Double K
  rollingStd5 : Double K
  rollingMean15 : Double K
  rollingStd15 : Double K
  rollingMax15 : Double K
  rollingMin15 : Double K
  diff1 : Double K
  diff5 : Double K
  diff15 : Double K
  hourSin : Double K
  hourCos : Double K
deriving DecidableEq

structure ForestParams where
  nEstimators : Nat := 100
  contamination : Rat := Foundation.toDouble (1 / 20)
  randomState : Nat := 42

/--
The scaler and the forest.  Fitted on the rows of a training set they give the
decision of any row, and raise on rows that they do not accept.
-/
abbrev Forest (K : Type u) : Type u :=
  ForestParams -> List (Features K) ->
    Except PyError (Features K -> Except PyError K)

structure IsolationForestDetector (K : Type u) where
  params : ForestParams := {}
  scoringMode : ScoringMode := .relative
  model : Option (Features K -> Except PyError K) := none

namespace IsolationForestDetector

def name : String := "isolation_forest"

section Features

variable [Field K] [LinearOrder K]

def hourOf (t : Instant) : Int :=
  t / 3600000000 % 24

/-- `2 * np.pi * hour / 24`. -/
def hourAngle (math : Math K) (t : Instant) : K :=
  2 * math.pi * (hourOf t : K) / 24

/-- The entry of a column at a position, after `fillna(0)`. -/
def cell (column : List (Double K)) (i : Nat) : Double K :=
  ((column[i]?).getD .nan).fillna

def buildFeatures (math : Math K) (series : Series K) : List (Features K) :=
  let values := series.values
  let mean5 := rolling 5 1 mean values
  let std5 := rolling 5 1 (std math) values
  let mean15 := rolling 15 1 mean values
  let std15 := rolling 15 1 (std math) values
  let max15 := rolling 15 1 greatest values
  let min15 := rolling 15 1 least values
  let diff1 := diff 1 values
  let diff5 := diff 5 values
  let diff15 := diff 15 values
  series.points.mapIdx fun i p =>
    { value := p.2.fillna
      rollingMean5 := cell mean5 i
      rollingStd5 := cell std5 i
      rollingMean15 := cell mean15 i
      rollingStd15 := cell std15 i
      rollingMax15 := cell max15 i
      rollingMin15 := cell min15 i
      diff1 := cell diff1 i
      diff5 := cell diff5 i
      diff15 := cell diff15 i
      hourSin := .finite (math.sin (hourAngle math p.1))
      hourCos := .finite (math.cos (hourAngle math p.1)) }

end Features

def decideAll (model : Features K -> Except PyError K) :
    List (Features K) -> Except PyError (List K)
  | [] => .ok []
  | row :: rows =>
      match model row with
      | .error e => .error e
      | .ok raw =>
          match decideAll model rows with
          | .error e => .error e
          | .ok raws => .ok (raw :: raws)

theorem length_decideAll {model : Features K -> Except PyError K}
    (rows : List (Features K)) :
    forall raw, decideAll model rows = .ok raw -> raw.length = rows.length := by
  induction rows with
  | nil =>
      intro raw h
      injection h with h
      rw [← h]
      rfl
  | cons row rest ih =>
      intro raw h
      unfold decideAll at h
      split at h
      · cases h
      · split at h
        · cases h
        · rename_i raws hrest
          injection h with h
          rw [← h, List.length_cons, List.length_cons, ih raws hrest]

section Firing

variable [LinearOrder K]

def fired (threshold : Double K) (series : Series K) (scores : Scores K)
    (predictions : List Int) : List ((Instant × Double K) × (Double K × Int)) :=
  (series.points.zip (scores.zip predictions)).filter fun p =>
    threshold ≤ p.2.1 ∨ p.2.2 = -1

theorem mem_fired {threshold : Double K} {series : Series K} {scores : Scores K}
    {predictions : List Int} {p : (Instant × Double K) × (Double K × Int)} :
    p ∈ fired threshold series scores predictions <->
      p ∈ series.points.zip (scores.zip predictions) ∧
        (threshold ≤ p.2.1 ∨ p.2.2 = -1) := by
  simp [fired]

end Firing

variable [Field K] [LinearOrder K]

def fit (math : Math K) (forest : Forest K) (detector : IsolationForestDetector K)
    (series : Series K) : Except PyError (IsolationForestDetector K) :=
  match forest detector.params (buildFeatures math series) with
  | .error e => .error e
  | .ok model => .ok { detector with model := some model }

/-- The decisions of a series, which the library refuses to take of no rows. -/
def decisionFunction (math : Math K) (detector : IsolationForestDetector K)
    (series : Series K) : Except PyError (List K) :=
  match detector.model with
  | none => .error (.runtimeError "Call fit() before score()")
  | some model =>
      if series.points = [] then .error .valueError
      else decideAll model (buildFeatures math series)

def sigmoid (math : Math K) (raw : K) : K :=
  1 / (1 + math.exp (raw / (1 / 10)))

/-- Inverted decisions, normalised over the batch unless they hardly differ. -/
def normalise (raw : List K) : List K :=
  let inverted := raw.map fun r => -r
  match inverted with
  | [] => []
  | first :: rest =>
      let minV := rest.foldl min first
      let maxV := rest.foldl max first
      if maxV - minV < 1 / 10 ^ 9 then inverted.map fun _ => 0
      else inverted.map fun x => (x - minV) / (maxV - minV)

def scoresOf (math : Math K) (scoringMode : ScoringMode) (raw : List K) : List K :=
  match scoringMode with
  | .absolute => raw.map (sigmoid math)
  | .relative => normalise raw

def score (math : Math K) (detector : IsolationForestDetector K) (series : Series K) :
    Except PyError (Scores K) :=
  match detector.decisionFunction math series with
  | .error e => .error e
  | .ok raw => .ok ((scoresOf math detector.scoringMode raw).map .finite)

/-- `predict` labels a row with -1 when its decision is negative. -/
def predict (raw : K) : Int :=
  if raw < 0 then -1 else 1

/-- The points that fire, where `read` makes a double of a score. -/
def detectWith (read : Double K -> Double K) (math : Math K)
    (detector : IsolationForestDetector K) (series : Series K) (metricName : String)
    (threshold : Double K) : Except PyError (List (AnomalyResult K)) :=
  match detector.score math series with
  | .error e => .error e
  | .ok scores =>
      match detector.decisionFunction math series with
      | .error e => .error e
      | .ok raw =>
          .ok ((fired threshold series (scores.map read) (raw.map predict)).map fun p =>
            { timestamp := p.1.1
              metricName := metricName
              value := p.1.2
              score := p.2.1
              detector := name
              method := "isolation_forest" })

/-!
Every point of a series gets one decision and one score.
-/

/-- The hyperparameters, which are all that is stored of a fitted forest. -/
def getState (detector : IsolationForestDetector K) : Json :=
  .obj
    [("n_estimators", .int detector.params.nEstimators),
     ("contamination", .float (.finite detector.params.contamination)),
     ("random_state", .int detector.params.randomState),
     ("fitted", .bool detector.model.isSome)]

theorem length_of_decisionFunction {math : Math K}
    {detector : IsolationForestDetector K} {series : Series K} {raw : List K}
    (h : detector.decisionFunction math series = .ok raw) :
    raw.length = series.points.length := by
  unfold decisionFunction at h
  split at h
  · cases h
  · split at h
    · cases h
    · rw [length_decideAll _ raw h]
      exact List.length_mapIdx

theorem length_scoresOf (math : Math K) (scoringMode : ScoringMode) (raw : List K) :
    (scoresOf math scoringMode raw).length = raw.length := by
  cases scoringMode with
  | absolute =>
      exact List.length_map _
  | relative =>
      show (normalise raw).length = raw.length
      unfold normalise
      cases raw with
      | nil =>
          rfl
      | cons r rest =>
          simp only [List.map_cons]
          split
          · simp
          · simp

theorem detectWith_eq_ok {read : Double K -> Double K} {math : Math K}
    {detector : IsolationForestDetector K} {series : Series K}
    {metricName : String} {threshold : Double K} {anomalies : List (AnomalyResult K)} :
    detector.detectWith read math series metricName threshold = .ok anomalies <->
      exists raw, detector.decisionFunction math series = .ok raw ∧
        (fired threshold series
            ((scoresOf math detector.scoringMode raw).map fun s => read (.finite s))
            (raw.map predict)).map (fun p =>
          { timestamp := p.1.1
            metricName := metricName
            value := p.1.2
            score := p.2.1
            detector := name
            method := "isolation_forest" }) = anomalies := by
  unfold detectWith score
  cases detector.decisionFunction math series with
  | error e =>
      simp
  | ok raw =>
      simp only [List.map_map, Except.ok.injEq, exists_eq_left']
      rfl

theorem predict_eq_iff (raw : K) : predict raw = -1 <-> raw < 0 := by
  unfold predict
  by_cases hneg : raw < 0
  · rw [if_pos hneg]
    exact iff_of_true rfl hneg
  · rw [if_neg hneg]
    exact iff_of_false (by decide) hneg

theorem forall_fired_iff {read : Double K -> Double K} {math : Math K}
    {scoringMode : ScoringMode} {threshold : Double K} {series : Series K} {raw : List K}
    (hlength : raw.length = series.points.length) (P : Double K -> Prop) :
    (forall p, p ∈ fired threshold series
        ((scoresOf math scoringMode raw).map fun s => read (.finite s))
        (raw.map predict) ->
      P p.2.1) <->
    forall q, q ∈ raw.zip (scoresOf math scoringMode raw) ->
      (threshold ≤ read (.finite q.2) -> P (read (.finite q.2))) ∧
        (q.1 < 0 -> P (read (.finite q.2))) := by
  let row : K × K -> Double K × Int := fun q => (read (.finite q.2), predict q.1)
  have hrows : ((scoresOf math scoringMode raw).map fun s => read (.finite s)).zip
      (raw.map predict) =
      (raw.zip (scoresOf math scoringMode raw)).map row := by
    rw [List.zip_map, ← List.zip_swap, List.map_map]
    rfl
  have hcount : ((raw.zip (scoresOf math scoringMode raw)).map row).length =
      series.points.length := by
    rw [List.length_map, List.length_zip, length_scoresOf, min_self, hlength]
  constructor
  · intro h q hq
    rcases exists_mem_zip hcount (List.mem_map_of_mem hq) with ⟨p, hp⟩
    have hfires : (threshold ≤ read (.finite q.2) ∨ q.1 < 0) -> P (read (.finite q.2)) := by
      intro hfires
      apply h (p, row q)
      rw [mem_fired, hrows, predict_eq_iff]
      exact ⟨hp, hfires⟩
    exact ⟨fun hle => hfires (Or.inl hle), fun hlabel => hfires (Or.inr hlabel)⟩
  · intro h p hp
    rw [mem_fired, hrows] at hp
    rcases List.mem_map.mp (List.of_mem_zip hp.1).2 with ⟨q, hq, heq⟩
    have hfires := hp.2
    rw [← heq, predict_eq_iff] at hfires
    rw [← heq]
    rcases hfires with hle | hlabel
    · exact (h q hq).1 hle
    · exact (h q hq).2 hlabel

end IsolationForestDetector

end Detection
end MetricMesh
