import MetricMesh.Config
import MetricMesh.Detection.Base
import MetricMesh.Detection.Windows

/-!
# The statistical detector

Three univariate methods in one class.  The rolling z-score is computed afresh
from the series it scores, the interquartile fences come from the fitted
parameters, and the seasonal decomposition is a library function of the series.
-/

namespace MetricMesh
namespace Detection

open Python

universe u

variable {K : Type u}

inductive Method where
  | zscore
  | iqr
  | stl
deriving DecidableEq

namespace Method

def name : Method -> String
  | .zscore => "zscore"
  | .iqr => "iqr"
  | .stl => "stl"

def ofName (name : String) : Except PyError Method :=
  if name = "zscore" then .ok .zscore
  else if name = "iqr" then .ok .iqr
  else if name = "stl" then .ok .stl
  else .error .valueError

theorem name_of_ofName {text : String} {method : Method}
    (h : ofName text = .ok method) : method.name = text := by
  unfold ofName at h
  split_ifs at h with hz hi hs
  · injection h with h
    rw [← h, hz]
    rfl
  · injection h with h
    rw [← h, hi]
    rfl
  · injection h with h
    rw [← h, hs]
    rfl

end Method

/--
A fitted parameter.  One that is read back from storage need not be a number;
arithmetic with it then raises, and a blank one counts as false.
-/
inductive Param (K : Type u) where
  | number (x : Double K)
  | blank
  | other

namespace Param

def operand : Param K -> Except PyError (Double K)
  | .number x => .ok x
  | .blank => .error .typeError
  | .other => .error .typeError

def ofJson : Json -> Param Rat
  | .bool b => .number (.finite (if b then 1 else 0))
  -- An operand is converted to a double, which raises when none is near.
  | .int n =>
      match Host.floatOfInt n with
      | .ok x => .number x
      | .error _ => .other
  | .float x => .number x
  | .null => .blank
  | .str s => if s = "" then .blank else .other
  | .arr items => if items.isEmpty then .blank else .other
  | .obj fields => if fields.isEmpty then .blank else .other

def toJson : Param Rat -> Json
  | .number x => .float x
  | .blank => .null
  | .other => .arr [.null]

theorem ofJson_toJson (p : Param Rat) : ofJson p.toJson = p := by
  cases p with
  | number x => rfl
  | blank => rfl
  | other => rfl

end Param

structure StatisticalDetector (K : Type u) where
  method : Method
  window : Nat := 60
  scoringMode : ScoringMode := .relative
  params : Dict String (Param K) := []

/-- The residuals of `STL(values, period=period, robust=True).fit()`. -/
abbrev Stl (K : Type u) : Type u :=
  List (Double K) -> Nat -> Except PyError (List (Double K))

namespace StatisticalDetector

def name : String := "statistical"

/-- `StatisticalDetector(method=method, scoring_mode=scoring_mode)`. -/
def make (method : String) (scoringMode : ScoringMode) :
    Except PyError (StatisticalDetector K) :=
  match Method.ofName method with
  | .error e => .error e
  | .ok method => .ok { method := method, scoringMode := scoringMode }

section Fit

variable [Field K] [LinearOrder K]

/-- `float(column.iloc[-1])`. -/
def lastOf (column : List (Double K)) : Except PyError (Double K) :=
  match column.getLast? with
  | none => .error .indexError
  | some x => .ok x

/-- `float(np.percentile(clean, 100 * num / den))`, which needs a value. -/
def percentile (num den : Nat) (clean : List (Double K)) :
    Except PyError (Double K) :=
  if clean = [] then .error .indexError else .ok (quantile num den clean)

def fit (math : Math K) (detector : StatisticalDetector K) (series : Series K) :
    Except PyError (StatisticalDetector K) :=
  let clean := dropna series.values
  match detector.method with
  | .zscore =>
      -- A rolling window cannot require more values than it is wide.
      if detector.window < 10 then .error .valueError
      else
        match lastOf (rolling detector.window 10 mean clean),
            lastOf (rolling detector.window 10 (std math) clean) with
        | .ok m, .ok s =>
            .ok { detector with params := [("mean", .number m), ("std", .number s)] }
        | .error e, _ => .error e
        | _, .error e => .error e
  | .iqr =>
      match percentile 1 4 clean, percentile 3 4 clean with
      | .ok q1, .ok q3 =>
          .ok
            { detector with
              params :=
                [("q1", .number q1), ("q3", .number q3), ("iqr", .number (q3 - q1))] }
      | .error e, _ => .error e
      | _, .error e => .error e
  | .stl => .ok { detector with params := [] }

end Fit

/-!
# Scores
-/

section Score

variable [Field K] [LinearOrder K]

def zscoreAbsSigma : Double K := .finite 6

def stlAbsScale : Double K := .finite (3 * (14826 / 10000))

/-- The absolute rolling z-scores, with a deviation of zero replaced. -/
def zscores (math : Math K) (window : Nat) (values : List (Double K)) :
    List (Double K) :=
  let means := rolling window 5 mean values
  let stds := (rolling window 5 (std math) values).map Double.orTiny
  List.zipWith (fun x ms => ((x - ms.1) / ms.2).abs) values (means.zip stds)

def scoreZscore (math : Math K) (detector : StatisticalDetector K)
    (values : List (Double K)) : Except PyError (Scores K) :=
  if detector.window < 5 then
    .error .valueError
  else
    let z := zscores math detector.window values
    let divisor :=
      match detector.scoringMode with
      | .absolute => zscoreAbsSigma
      | .relative => maxOf z + .tiny
    .ok (z.map fun x => (x / divisor).clip.fillna)

/-- `self._params.get(key, default)`. -/
def paramOr (detector : StatisticalDetector K) (key : String) (default : Double K) :
    Param K :=
  (detector.params.get? key).getD (.number default)

/-- `iqr or 1e-9`, as an operand. -/
def iqrOrTiny : Param K -> Except PyError (Double K)
  | .number x => .ok x.orTiny
  | .blank => .ok .tiny
  | .other => .error .typeError

def scoreIqr (detector : StatisticalDetector K) (values : List (Double K)) :
    Except PyError (Scores K) :=
  match (paramOr detector "q1" (quantile 1 4 values)).operand,
      (paramOr detector "q3" (quantile 3 4 values)).operand with
  | .ok q1, .ok q3 =>
      match iqrOrTiny (paramOr detector "iqr" (q3 - q1)) with
      | .error e => .error e
      | .ok iqr =>
          let fence := .finite (3 / 2) * iqr
          .ok (values.map fun x =>
            ((x - q3).maximum (q1 - x) / fence).clip.fillna)
  | .error e, _ => .error e
  | _, .error e => .error e

/-- `scores.reindex(index, fill_value=0.0)`: a dropped value scores zero. -/
def reindex : List (Double K) -> List (Double K) -> Scores K
  | [], _ => []
  | x :: values, scores =>
      if x.isNan then .finite 0 :: reindex values scores
      else
        match scores with
        | [] => .finite 0 :: reindex values []
        | s :: rest => s :: reindex values rest

def scoreStl (stl : Stl K) (detector : StatisticalDetector K)
    (values : List (Double K)) : Scores K :=
  let zeros := List.replicate values.length (.finite 0)
  let clean := dropna values
  if clean.length < 4 then zeros
  else
    match stl clean (Nat.min 60 (values.length / 2)) with
    | .error _ => zeros
    | .ok resid =>
        let residuals := resid.map Double.abs
        let divisor :=
          match detector.scoringMode with
          | .absolute =>
              let centre := median residuals
              let mad := median (residuals.map fun r => (r - centre).abs)
              (stlAbsScale * mad).orTiny
          | .relative => (quantile 99 100 residuals).orTiny
        reindex values (residuals.map fun r => (r / divisor).clip)

def score (math : Math K) (stl : Stl K) (detector : StatisticalDetector K)
    (series : Series K) : Except PyError (Scores K) :=
  match detector.method with
  | .zscore => scoreZscore math detector series.values
  | .iqr => scoreIqr detector series.values
  | .stl => .ok (scoreStl stl detector series.values)

/-- The points at or above the threshold, where `read` makes a double of a score. -/
def detectWith (read : Double K -> Double K) (math : Math K) (stl : Stl K)
    (detector : StatisticalDetector K) (series : Series K) (metricName : String)
    (threshold : Double K) : Except PyError (List (AnomalyResult K)) :=
  match detector.score math stl series with
  | .error e => .error e
  | .ok scores =>
      .ok ((pointsAtOrAbove threshold series (scores.map read)).map fun p =>
        { timestamp := p.1.1
          metricName := metricName
          value := p.1.2
          score := p.2
          detector := name
          method := detector.method.name })

/-- A detection that takes the exact scores. -/
def detect (math : Math K) (stl : Stl K) (detector : StatisticalDetector K)
    (series : Series K) (metricName : String) (threshold : Double K) :
    Except PyError (List (AnomalyResult K)) :=
  detector.detectWith id math stl series metricName threshold

theorem detect_eq_of_score {math : Math K} {stl : Stl K} {detector : StatisticalDetector K}
    {series : Series K} {scores : Scores K} (h : detector.score math stl series = .ok scores)
    (metricName : String) (threshold : Double K) :
    detector.detect math stl series metricName threshold =
      .ok ((pointsAtOrAbove threshold series scores).map fun p =>
        { timestamp := p.1.1
          metricName := metricName
          value := p.1.2
          score := p.2
          detector := name
          method := detector.method.name }) := by
  unfold detect detectWith
  rw [h]
  dsimp only
  rw [List.map_id]

theorem detect_eq_of_error {math : Math K} {stl : Stl K} {detector : StatisticalDetector K}
    {series : Series K} {e : PyError} (h : detector.score math stl series = .error e)
    (metricName : String) (threshold : Double K) :
    detector.detect math stl series metricName threshold = .error e := by
  unfold detect detectWith
  rw [h]

/-!
Every point of a series gets one score.
-/

theorem length_zscores (math : Math K) (window : Nat) (values : List (Double K)) :
    (zscores math window values).length = values.length := by
  simp [zscores]

omit [LinearOrder K] in
theorem length_reindex (values : List (Double K)) :
    forall scores, (reindex values scores).length = values.length := by
  induction values with
  | nil =>
      intro scores
      rfl
  | cons x rest ih =>
      intro scores
      unfold reindex
      split
      · rw [List.length_cons, List.length_cons, ih]
      · cases scores with
        | nil =>
            rw [List.length_cons, List.length_cons, ih]
        | cons s scores =>
            rw [List.length_cons, List.length_cons, ih]

theorem length_scoreStl (stl : Stl K) (detector : StatisticalDetector K)
    (values : List (Double K)) :
    (scoreStl stl detector values).length = values.length := by
  unfold scoreStl
  dsimp only
  split
  · exact List.length_replicate
  · split
    · exact List.length_replicate
    · exact length_reindex values _

theorem length_of_score {math : Math K} {stl : Stl K}
    {detector : StatisticalDetector K} {series : Series K} {scores : Scores K}
    (h : detector.score math stl series = .ok scores) :
    scores.length = series.points.length := by
  have hvalues : series.values.length = series.points.length := List.length_map _
  rw [← hvalues]
  unfold score at h
  cases hmethod : detector.method with
  | zscore =>
      simp only [hmethod, scoreZscore] at h
      split at h
      · cases h
      · injection h with h
        rw [← h, List.length_map, length_zscores]
  | iqr =>
      simp only [hmethod, scoreIqr] at h
      split at h
      · split at h
        · cases h
        · injection h with h
          rw [← h, List.length_map]
      · cases h
      · cases h
  | stl =>
      simp only [hmethod] at h
      injection h with h
      rw [← h, length_scoreStl]

theorem detectWith_eq_ok {read : Double K -> Double K} {math : Math K} {stl : Stl K}
    {detector : StatisticalDetector K} {series : Series K} {metricName : String}
    {threshold : Double K} {anomalies : List (AnomalyResult K)} :
    detector.detectWith read math stl series metricName threshold = .ok anomalies <->
      exists scores, detector.score math stl series = .ok scores ∧
        (pointsAtOrAbove threshold series (scores.map read)).map (fun p =>
          { timestamp := p.1.1
            metricName := metricName
            value := p.1.2
            score := p.2
            detector := name
            method := detector.method.name }) = anomalies := by
  unfold detectWith
  cases detector.score math stl series with
  | error e =>
      simp
  | ok scores =>
      simp

theorem detect_eq_ok {math : Math K} {stl : Stl K} {detector : StatisticalDetector K}
    {series : Series K} {metricName : String} {threshold : Double K}
    {anomalies : List (AnomalyResult K)} :
    detector.detect math stl series metricName threshold = .ok anomalies <->
      exists scores, detector.score math stl series = .ok scores ∧
        (pointsAtOrAbove threshold series scores).map (fun p =>
          { timestamp := p.1.1
            metricName := metricName
            value := p.1.2
            score := p.2
            detector := name
            method := detector.method.name }) = anomalies := by
  unfold detect
  rw [detectWith_eq_ok]
  simp only [List.map_id]

end Score

/-!
# Stored state
-/

def getState (detector : StatisticalDetector Rat) : Json :=
  .obj
    [("method", .str detector.method.name),
     ("window", .int detector.window),
     ("params", .obj (detector.params.map fun p => (p.1, p.2.toJson)))]

/-- `load_state(state)`, which refuses the state of another method. -/
def loadState (detector : StatisticalDetector Rat) (state : Json) :
    Except PyError (StatisticalDetector Rat) :=
  match state with
  | .obj fields =>
      if Dict.get? fields "method" ≠ some (.str detector.method.name) then
        .error .valueError
      else
        match ((Dict.get? fields "params").getD (.obj [])).dict with
        | .error e => .error e
        | .ok params =>
            .ok { detector with params := params.map fun p => (p.1, Param.ofJson p.2) }
  | _ => .error .attributeError

theorem loadState_method {detector loaded : StatisticalDetector Rat} {state : Json}
    (h : detector.loadState state = .ok loaded) :
    loaded.method = detector.method := by
  unfold loadState at h
  split at h
  · split_ifs at h
    split at h
    · cases h
    · injection h with h
      rw [← h]
  · cases h

theorem fit_method [Field K] [LinearOrder K] {math : Math K}
    {detector fitted : StatisticalDetector K} {series : Series K}
    (h : detector.fit math series = .ok fitted) :
    fitted.method = detector.method := by
  unfold fit at h
  dsimp only at h
  split at h
  · split_ifs at h
    split at h
    · injection h with h
      rw [← h]
    · cases h
    · cases h
  · split at h
    · injection h with h
      rw [← h]
    · cases h
    · cases h
  · injection h with h
    rw [← h]

end StatisticalDetector

end Detection
end MetricMesh
