import MetricMesh.Config
import MetricMesh.Python.Fnmatch

/-!
# Threshold overrides

The setting `metric_thresholds` maps globs to overrides for single detectors.
Text that is not a JSON object counts as no overrides, and an entry that is not
an object of numbers is skipped.  An integer that no double can hold raises
`OverflowError`, which the parser does not catch.
-/

namespace MetricMesh
namespace Detection

open Python

abbrev Overrides : Type :=
  Dict String PyFloat

def floatValues (host : Host) : List (String × Json) -> Except PyError Overrides
  | [] => .ok []
  | (k, v) :: rest =>
      match host.float v with
      | .error e => .error e
      | .ok x =>
          match floatValues host rest with
          | .error e => .error e
          | .ok overrides => .ok ((k, x) :: overrides)

/-- The items of the parsed object, in order, without the malformed ones. -/
def parseItems (host : Host) : List (String × Json) ->
    Except PyError (List (String × Overrides))
  | [] => .ok []
  | (glob, .obj fields) :: rest =>
      match floatValues host fields with
      | .ok overrides =>
          match parseItems host rest with
          | .error e => .error e
          | .ok pairs => .ok ((glob, overrides) :: pairs)
      | .error .typeError => parseItems host rest
      | .error .valueError => parseItems host rest
      | .error e => .error e
  | _ :: rest => parseItems host rest

def parse (host : Host) (raw : String) :
    Except PyError (List (String × Overrides)) :=
  if strip raw = "" then
    .ok []
  else
    match host.loads raw with
    | .error _ => .ok []
    | .ok (.obj data) => parseItems host data
    | .ok _ => .ok []

def firstOverride (metricName detectorKey : String) :
    List (String × Overrides) -> Option PyFloat
  | [] => none
  | (glob, overrides) :: rest =>
      match overrides.get? detectorKey with
      | none => firstOverride metricName detectorKey rest
      | some x =>
          if fnmatchcase metricName glob then some x
          else firstOverride metricName detectorKey rest

def resolveThreshold (host : Host) (settings : Settings)
    (metricName detectorKey : String) (default : PyFloat) :
    Except PyError PyFloat :=
  match parse host settings.metricThresholds with
  | .error e => .error e
  | .ok pairs => .ok ((firstOverride metricName detectorKey pairs).getD default)

/--
The setting named after the key with `_threshold` appended, or the fallback when
there is none.
-/
def defaultThreshold (settings : Settings) (detectorKey : String)
    (fallback : Rat) : Rat :=
  match detectorKey with
  | "zscore" => settings.zscoreThreshold
  | "iqr" => settings.iqrThreshold
  | "prophet" => settings.prophetThreshold
  | "isolation_forest" => settings.isolationForestThreshold
  | _ => fallback

end Detection
end MetricMesh
