import MetricMesh.Api.Auth
import MetricMesh.Detection.Registry
import MetricMesh.Workers.DetectorTasks

/-!
# On-demand detection

The endpoint `POST /anomalies/detect` builds its detector through the registry
and runs it once over the data of the caller's tenant, without a stored model.
-/

namespace MetricMesh
namespace Api

open Python
open Alerting
open Detection
open Workers

structure DetectRequest where
  metricName : String
  detector : String := "zscore"
  threshold : Option PyFloat := none
  lookbackHours : Int := 24

structure DetectResponse where
  metricName : String
  detector : String
  threshold : PyFloat
  scoringMode : ScoringMode
  seriesPoints : Nat
  anomalyCount : Nat
  anomalies : List Anomaly

inductive DetectFailure where
  | http (e : HttpException)
  | raised (e : PyError)

/-- What a path runs: the detector that it builds, its split and its threshold. -/
structure Setup where
  detector : AnyDetector
  split : Nat
  threshold : Except PyError PyFloat

/-- The setup of a request, or the text of the `ValueError` of the registry. -/
def detectNowSetup (host : Host) (settings : Settings) (req : DetectRequest)
    (series : Series Rat) : Except String Setup :=
  match getDetector host req.detector settings.scoringMode with
  | .error text => .error text
  | .ok detector =>
      .ok
        { detector := detector
          split := series.split 1
          threshold :=
            match req.threshold with
            | some threshold => .ok threshold
            | none =>
                resolveThreshold host settings req.metricName req.detector
                  (Double.ofExact (defaultThreshold settings req.detector (4 / 5))) }

/-- `a.to_dict()`, without the tenant that the tasks add. -/
def resultDict (host : Host) (a : AnomalyResult Rat) : Anomaly :=
  { a.toDict host "" with tenant := none }

/--
`detect_now(req)` for a caller; `fetchSeries` reads the series of a metric, a
lookback and a tenant.
-/
def detectNow (lib : Libraries) (settings : Settings)
    (fetchSeries : String -> Int -> String -> Series Rat) (identity : Identity)
    (req : DetectRequest) : Except DetectFailure DetectResponse :=
  let series := fetchSeries req.metricName req.lookbackHours identity.tenant
  if series.points = [] then
    .error (.http
      { statusCode := 404
        detail := "No data found for metric " ++ lib.host.quoted req.metricName })
  else
    match detectNowSetup lib.host settings req series with
    | .error text => .error (.http { statusCode := 400, detail := text })
    | .ok setup =>
        let run := do
          let threshold <- setup.threshold
          let detector <- setup.detector.fit lib.math lib.forest lib.prophet
            (series.before setup.split)
          let anomalies <- detector.detect lib.math lib.stl
            (series.since setup.split) req.metricName threshold
          return (threshold, anomalies)
        match run with
        | .error e => .error (.raised e)
        | .ok (threshold, anomalies) =>
            .ok
              { metricName := req.metricName
                detector := req.detector
                threshold := threshold
                scoringMode := settings.scoringMode
                seriesPoints := series.length
                anomalyCount := anomalies.length
                anomalies := anomalies.map (resultDict lib.host) }

end Api
end MetricMesh
