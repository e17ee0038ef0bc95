import MetricMesh.Foundation.Runs
import MetricMesh.Foundation.ClaimBatch
import MetricMesh.Api.Auth
import MetricMesh.Alerting.Dedup
import MetricMesh.Alerting.DedupWorkers
import MetricMesh.Alerting.Consensus
import MetricMesh.Ingestion.Validators
import MetricMesh.Alerting.Isolation
import MetricMesh.Workers.Aggregate
import MetricMesh.Workers.AggregateFailures
import MetricMesh.Foundation.Retry
import MetricMesh.Workers.Sweep
import MetricMesh.Alerting.Router
import MetricMesh.Storage.Tables
import MetricMesh.Workers.RouteAlert
import MetricMesh.Detection.Base
import MetricMesh.Detection.Prophet
import MetricMesh.Detection.Thresholds
import MetricMesh.Detection.IsolationForest
import MetricMesh.Detection.Statistical
import MetricMesh.Api.AlertDetail
import MetricMesh.Workers.DetectorTasks
import MetricMesh.Workers.StoredScores
import MetricMesh.Foundation.Tables
import MetricMesh.Storage.Queries
import MetricMesh.Storage.Operations
import MetricMesh.Storage.Isolation
import MetricMesh.Storage.OperationalLog
import MetricMesh.Api.OperationalReads
import MetricMesh.Api.DetectNow
import MetricMesh.Workers.PathAgreement
import MetricMesh.Workers.Dispatch
import MetricMesh.Python.Parts
import MetricMesh.Ingestion.Scraper
import MetricMesh.Ingestion.ScrapedPoints
import MetricMesh.Ingestion.Exposition
import MetricMesh.Ingestion.SampleRoundTrip
import MetricMesh.Api.RateLimit
import MetricMesh.Api.Feedback
import MetricMesh.Api.RecordedSuccess
import MetricMesh.Alerting.Sinks
import MetricMesh.Alerting.Routing
import MetricMesh.Alerting.Sms
import MetricMesh.Detection.ModelReuse
import MetricMesh.Workers.ModelStore
import MetricMesh.Alerting.ConsensusLaws
import MetricMesh.Detection.Columns
import MetricMesh.Detection.Fitting
import MetricMesh.Storage.FittedModels
import MetricMesh.Detection.Contract
import MetricMesh.Detection.ThresholdSafety
import MetricMesh.Detection.Locality
import MetricMesh.Detection.ZscoreCeiling
import MetricMesh.Detection.TukeyFences
import MetricMesh.Foundation.Binary64
import MetricMesh.Foundation.Ranking
import MetricMesh.Api.DetectorReport
import MetricMesh.Api.Recommendation
import MetricMesh.Foundation.Grouping
import MetricMesh.Storage.FeedbackCounts
import MetricMesh.Api.FeedbackAccounts
import MetricMesh.Foundation.Downsampling
import MetricMesh.Storage.MinuteAggregate
import MetricMesh.Foundation.Paging
import MetricMesh.Storage.Pages
import MetricMesh.Foundation.Batching
import MetricMesh.Ingestion.ScraperLoop
import MetricMesh.Api.ScrapedReads
import MetricMesh.Alerting.DedupTotality
import MetricMesh.Workers.Installation
import MetricMesh.Workers.Reports
import MetricMesh.Workers.SharedInstallation
import MetricMesh.Workers.SilentQuorum
import MetricMesh.Foundation.Reordering
import MetricMesh.Storage.ModelKeys
import MetricMesh.Workers.Schedules
import MetricMesh.Workers.Provenance
import MetricMesh.Foundation.ExpiringMemo
import MetricMesh.Workers.ModelAges
import MetricMesh.Api.Main
import MetricMesh.Api.Tenancy
import MetricMesh.Workers.Platform
import MetricMesh.Workers.Acknowledged
import MetricMesh.Foundation.ClaimRate
import MetricMesh.Workers.AlertRate
import MetricMesh.Detection.RelativeScores
import MetricMesh.Foundation.ClaimLead
import MetricMesh.Workers.Tuning
import MetricMesh.Ingestion.ExpositionPages
