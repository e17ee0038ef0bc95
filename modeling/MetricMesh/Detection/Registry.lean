import MetricMesh.Detection.IsolationForest
import MetricMesh.Detection.Prophet
import MetricMesh.Detection.Statistical

/-!
# The detector registry

A detector of any class is built from its key and the scoring mode alone.  What
the classes take besides the scoring mode keeps its default.
-/

namespace MetricMesh
namespace Detection

open Python

inductive AnyDetector where
  | statistical (detector : StatisticalDetector Rat)
  | prophet (detector : ProphetDetector Rat)
  | isolationForest (detector : IsolationForestDetector Rat)

def registry : Dict String (ScoringMode -> AnyDetector) :=
  [("zscore", fun sm => .statistical { method := .zscore, scoringMode := sm }),
   ("iqr", fun sm => .statistical { method := .iqr, scoringMode := sm }),
   ("stl", fun sm => .statistical { method := .stl, scoringMode := sm }),
   ("prophet", fun _ => .prophet {}),
   ("isolation_forest", fun sm => .isolationForest { scoringMode := sm })]

def allDetectorNames : List String :=
  registry.map Prod.fst

/-- `get_detector(name, scoring_mode)`, or the text of its `ValueError`. -/
def getDetector (host : Host) (name : String) (scoringMode : ScoringMode) :
    Except String AnyDetector :=
  match registry.get? name with
  | some factory => .ok (factory scoringMode)
  | none =>
      .error ("Unknown detector " ++ host.quoted name ++ ". Available: " ++
        host.repr (.arr (allDetectorNames.map .str)))

namespace AnyDetector

def fit (math : Math Rat) (forest : Forest Rat) (prophet : Prophet Rat)
    (detector : AnyDetector) (series : Series Rat) : Except PyError AnyDetector :=
  match detector with
  | .statistical d => (d.fit math series).map .statistical
  | .prophet _ => (ProphetDetector.fit prophet series).map .prophet
  | .isolationForest d => (d.fit math forest series).map .isolationForest

/-- `detector.detect(series, metric_name, threshold)`, with doubles for the scores. -/
def detect (math : Math Rat) (stl : Stl Rat) (detector : AnyDetector)
    (series : Series Rat) (metricName : String) (threshold : PyFloat) :
    Except PyError (List (AnomalyResult Rat)) :=
  match detector with
  | .statistical d => d.detectWith Double.nearest math stl series metricName threshold
  | .prophet d => d.detectWith Double.nearest series metricName threshold
  | .isolationForest d => d.detectWith Double.nearest math series metricName threshold

end AnyDetector

end Detection
end MetricMesh
