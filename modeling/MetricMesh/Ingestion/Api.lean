import MetricMesh.Api.Auth
import MetricMesh.Ingestion.Validators
import MetricMesh.Storage.Sessions

/-!
# The ingest API

Both endpoints insert the validated points of the caller's tenant and count them
as accepted or rejected.
-/

namespace MetricMesh
namespace Ingestion

open Python
open Storage

structure MetricBatch where
  points : List MetricPoint
  points_ge : 1 ≤ points.length
  points_le : points.length ≤ 10000

structure IngestResponse where
  accepted : Nat
  rejected : Nat
  errors : List String := []
deriving DecidableEq

inductive Raised where
  | http (e : Api.HttpException)
  | exception (e : PyError)
deriving DecidableEq

def MetricPoint.point (p : MetricPoint) : Point where
  timestamp := p.timestamp
  metricName := p.metricName
  value := p.value

/-- `INGEST_POINTS.labels(status=...).inc(...)` for both outcomes. -/
def countPoints (scope : Scope) (accepted rejected : Nat) : Scope :=
  { scope with
    accepted := scope.accepted + accepted
    rejected := scope.rejected + rejected }

def ingestBatch (faults : Faults) (identity : Api.Identity) (batch : MetricBatch)
    (scope : Scope) : Except Raised IngestResponse × Scope :=
  match scope.bulkInsert faults (batch.points.map MetricPoint.point) identity.tenant with
  | (.error _, scope) =>
      (.error (.http
        { statusCode := 500, detail := "Failed to persist metric batch" }), scope)
  | (.ok inserted, scope) =>
      let rejected := batch.points.length - inserted
      (.ok { accepted := inserted, rejected := rejected },
        countPoints scope inserted rejected)

def ingestSingle (faults : Faults) (identity : Api.Identity) (point : MetricPoint)
    (scope : Scope) : Except Raised IngestResponse × Scope :=
  match scope.bulkInsert faults [point.point] identity.tenant with
  | (.error e, scope) => (.error (.exception e), scope)
  | (.ok inserted, scope) =>
      (.ok { accepted := inserted, rejected := 1 - inserted },
        countPoints scope inserted (1 - inserted))

end Ingestion
end MetricMesh
