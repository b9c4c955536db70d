import DeliveryIntelligence.Library.Table
import DeliveryIntelligence.Library.Text
import DeliveryIntelligence.Library.OrderBy
import DeliveryIntelligence.Library.Program
import DeliveryIntelligence.Library.Trace
import DeliveryIntelligence.Library.Attempts
import DeliveryIntelligence.Library.Base64
import DeliveryIntelligence.Library.Query
import DeliveryIntelligence.Library.DataTests
import DeliveryIntelligence.Library.Finishing
import DeliveryIntelligence.Library.Reorder
import DeliveryIntelligence.Library.ReadCommitted
import DeliveryIntelligence.Library.Runs
import DeliveryIntelligence.Library.Substitution
import DeliveryIntelligence.Library.Retry
import DeliveryIntelligence.Common.Postgres
import DeliveryIntelligence.Common.Python
import DeliveryIntelligence.Common.Json
import DeliveryIntelligence.Common.Datetime
import DeliveryIntelligence.Common.RawEvents
import DeliveryIntelligence.AnalyticsRefresh.Models
import DeliveryIntelligence.AnalyticsRefresh.Storage
import DeliveryIntelligence.AnalyticsRefresh.Constraints
import DeliveryIntelligence.AnalyticsRefresh.StateMachine
import DeliveryIntelligence.AnalyticsRefresh.Terminal
import DeliveryIntelligence.AnalyticsRefresh.Sanitizer
import DeliveryIntelligence.AnalyticsRefresh.Runner
import DeliveryIntelligence.AnalyticsRefresh.Service
import DeliveryIntelligence.AnalyticsRefresh.Evidence
import DeliveryIntelligence.AnalyticsRefresh.Summaries
import DeliveryIntelligence.AnalyticsRefresh.Failures
import DeliveryIntelligence.AnalyticsRefresh.DagRun
import DeliveryIntelligence.AnalyticsRefresh.Ledger
import DeliveryIntelligence.AnalyticsRefresh.PipelineHealth
import DeliveryIntelligence.Consumers.Envelope
import DeliveryIntelligence.Consumers.DeadLetter
import DeliveryIntelligence.Consumers.Worker
import DeliveryIntelligence.Consumers.OffsetProtocol
import DeliveryIntelligence.Consumers.Warehouse
import DeliveryIntelligence.Consumers.WarehouseDelivery
import DeliveryIntelligence.Consumers.PartitionLog
import DeliveryIntelligence.Consumers.WarehouseLineage
import DeliveryIntelligence.Consumers.PrStorage
import DeliveryIntelligence.Consumers.PrEffects
import DeliveryIntelligence.Consumers.PrCoherence
import DeliveryIntelligence.Consumers.PrDelivery
import DeliveryIntelligence.Consumers.PrAbsorption
import DeliveryIntelligence.Consumers.PrMonitor
import DeliveryIntelligence.Consumers.PrReplay
import DeliveryIntelligence.Consumers.PrOrder
import DeliveryIntelligence.Consumers.PrSweep
import DeliveryIntelligence.Consumers.PrJustified
import DeliveryIntelligence.Consumers.PrRedelivery
import DeliveryIntelligence.Backfill.Models
import DeliveryIntelligence.Backfill.Storage
import DeliveryIntelligence.Backfill.Process
import DeliveryIntelligence.Backfill.Coverage
import DeliveryIntelligence.Backfill.RestBackfill
import DeliveryIntelligence.Backfill.RestTraversal
import DeliveryIntelligence.Backfill.RestCompleteness
import DeliveryIntelligence.Backfill.RestNesting
import DeliveryIntelligence.Backfill.Github
import DeliveryIntelligence.Backfill.GithubTraversal
import DeliveryIntelligence.Backfill.GithubSafety
import DeliveryIntelligence.Backfill.Log
import DeliveryIntelligence.Backfill.WorkflowRuns
import DeliveryIntelligence.Backfill.TotalCount
import DeliveryIntelligence.Backfill.Termination
import DeliveryIntelligence.Backfill.Accounting
import DeliveryIntelligence.Backfill.Summaries
import DeliveryIntelligence.Backfill.RateLimit
import DeliveryIntelligence.Backfill.LimitedResponses
import DeliveryIntelligence.Backfill.Cli
import DeliveryIntelligence.Backfill.Rerun
import DeliveryIntelligence.Backfill.Steady
import DeliveryIntelligence.Backfill.RestFinishing
import DeliveryIntelligence.Dbt.Server
import DeliveryIntelligence.Dbt.Staging
import DeliveryIntelligence.Dbt.Intermediate
import DeliveryIntelligence.Dbt.Marts
import DeliveryIntelligence.Dbt.Rows
import DeliveryIntelligence.Dbt.Grain
import DeliveryIntelligence.Dbt.Calendar
import DeliveryIntelligence.Dbt.LeadTime
import DeliveryIntelligence.Dbt.Listing
import DeliveryIntelligence.Dbt.Durations
import DeliveryIntelligence.Dbt.IngestionPath
import DeliveryIntelligence.Consumers.PrConcurrency
import DeliveryIntelligence.Consumers.PrOverlap
import DeliveryIntelligence.Consumers.DeadLettering
import DeliveryIntelligence.Consumers.PoisonPill
import DeliveryIntelligence.Common.Pydantic
import DeliveryIntelligence.Common.PythonJson
import DeliveryIntelligence.Webhook.Models
import DeliveryIntelligence.Common.JsonSchema
import DeliveryIntelligence.Webhook.Contract
import DeliveryIntelligence.Webhook.Receiver
import DeliveryIntelligence.Webhook.RoundTrip
import DeliveryIntelligence.Webhook.Rejection
import DeliveryIntelligence.Webhook.Published
import DeliveryIntelligence.Webhook.Publishing
import DeliveryIntelligence.Agreement.Events
import DeliveryIntelligence.Agreement.Projection
import DeliveryIntelligence.Agreement.Staged
import DeliveryIntelligence.Agreement.Marts
import DeliveryIntelligence.Agreement.Topic
import DeliveryIntelligence.Ingestion.Pipeline
import DeliveryIntelligence.Ingestion.EndToEnd
import DeliveryIntelligence.Dbt.ChangeLinks
import DeliveryIntelligence.Dbt.DailyMetrics
import DeliveryIntelligence.Dbt.DateKeys
import DeliveryIntelligence.Dbt.SchemaTests
import DeliveryIntelligence.Dbt.KnownColumns
import DeliveryIntelligence.Dbt.DeclaredTests
import DeliveryIntelligence.Dbt.ReviewIdentity
import DeliveryIntelligence.Dashboards.Queries
import DeliveryIntelligence.Dashboards.ReviewCards
import DeliveryIntelligence.Dashboards.LocalDates
import DeliveryIntelligence.Dashboards.Cards
import DeliveryIntelligence.Dashboards.Contracts
import DeliveryIntelligence.Dashboards.LeadTimeCard
