import Xygo.Computation.BackReferences
import Xygo.Computation.Comparator
import Xygo.Computation.Connections
import Xygo.Computation.Doubles
import Xygo.Computation.Effect
import Xygo.Computation.Faults
import Xygo.Computation.Filters
import Xygo.Computation.FixedWidth
import Xygo.Computation.Grouped
import Xygo.Computation.Html
import Xygo.Computation.LatestWins
import Xygo.Computation.Linked
import Xygo.Computation.LowerCase
import Xygo.Computation.Machine
import Xygo.Computation.OrderedMap
import Xygo.Computation.Relational
import Xygo.Computation.RowLocks
import Xygo.Computation.Separated
import Xygo.Computation.SharedContent
import Xygo.Computation.Table
import Xygo.Computation.Transactions
import Xygo.Computation.Triple
import Xygo.Computation.TwoRuns
import Xygo.Model.Api
import Xygo.Model.Audit
import Xygo.Model.AuditRecord
import Xygo.Model.AuditWriters
import Xygo.Model.Authorization
import Xygo.Model.Communication
import Xygo.Model.Dashboards
import Xygo.Model.DeliveryQueue
import Xygo.Model.DeliveryWorker
import Xygo.Model.EmailBackends
import Xygo.Model.EmailDelivery
import Xygo.Model.EmailQueue
import Xygo.Model.FieldReportRoutes
import Xygo.Model.FieldReporting
import Xygo.Model.FileRepository
import Xygo.Model.FileRoutes
import Xygo.Model.FileStorage
import Xygo.Model.FindingDisposition
import Xygo.Model.FindingRoutes
import Xygo.Model.Idempotency
import Xygo.Model.InFlight
import Xygo.Model.Input
import Xygo.Model.IsoTime
import Xygo.Model.Js
import Xygo.Model.Json
import Xygo.Model.MailService
import Xygo.Model.Outbox
import Xygo.Model.Pagination
import Xygo.Model.Paths
import Xygo.Model.Permits
import Xygo.Model.PlatformBlueprint
import Xygo.Model.Postgres
import Xygo.Model.PostgresMigrations
import Xygo.Model.PostgresOutbox
import Xygo.Model.PostgresRecords
import Xygo.Model.PostgresSchema
import Xygo.Model.Principals
import Xygo.Model.Provisioning
import Xygo.Model.RateLimit
import Xygo.Model.ReadRoutes
import Xygo.Model.ReadinessChecks
import Xygo.Model.Realtime
import Xygo.Model.RecordRoutes
import Xygo.Model.Records
import Xygo.Model.RemoteJwks
import Xygo.Model.ReportEmails
import Xygo.Model.ReportInterleavings
import Xygo.Model.Repository
import Xygo.Model.RepositoryCalls
import Xygo.Model.RequestListener
import Xygo.Model.RuntimeConfig
import Xygo.Model.Service
import Xygo.Model.SqliteConnections
import Xygo.Model.SqliteOutbox
import Xygo.Model.StaticFiles
import Xygo.Model.Urls
import Xygo.Model.WebFlights
import Xygo.Model.WebSession
import Xygo.Model.Worker
import Xygo.Model.WorkerOptions
import Xygo.Model.Workers
import Xygo.Analysis.AuditChain
import Xygo.Analysis.CallbackOnce
import Xygo.Analysis.CallerLimits
import Xygo.Analysis.CanonicalProvisioning
import Xygo.Analysis.ChannelMembership
import Xygo.Analysis.ClaimBudget
import Xygo.Analysis.ClientReads
import Xygo.Analysis.DefaultKeys
import Xygo.Analysis.DeliveredOnce
import Xygo.Analysis.EmailIntent
import Xygo.Analysis.EmailMarkup
import Xygo.Analysis.EmailSpec
import Xygo.Analysis.EvidenceChains
import Xygo.Analysis.FailedFinalizations
import Xygo.Analysis.FailureEvidence
import Xygo.Analysis.FileEvidence
import Xygo.Analysis.FileLifecycle
import Xygo.Analysis.FileRefinement
import Xygo.Analysis.FileSteps
import Xygo.Analysis.FindingDispositions
import Xygo.Analysis.FindingEvidence
import Xygo.Analysis.ForeignRecords
import Xygo.Analysis.IdempotencyKeys
import Xygo.Analysis.InFlightCount
import Xygo.Analysis.IsoOrder
import Xygo.Analysis.JsonText
import Xygo.Analysis.KeyRotation
import Xygo.Analysis.MessageSearch
import Xygo.Analysis.MigrationRuns
import Xygo.Analysis.OutboxInvariant
import Xygo.Analysis.OutboxSpec
import Xygo.Analysis.PageTraversal
import Xygo.Analysis.PermitLifecycle
import Xygo.Analysis.PostgresOutboxHistory
import Xygo.Analysis.PostgresOutboxRuns
import Xygo.Analysis.PostgresOutboxSafety
import Xygo.Analysis.PostgresSpec
import Xygo.Analysis.ProductionGate
import Xygo.Analysis.QueuedDeliveries
import Xygo.Analysis.RateWindows
import Xygo.Analysis.ReadRights
import Xygo.Analysis.ReadinessAgreement
import Xygo.Analysis.RecommendedModules
import Xygo.Analysis.RepeatedApprovals
import Xygo.Analysis.ReportAnnouncements
import Xygo.Analysis.ReportGate
import Xygo.Analysis.ReportPath
import Xygo.Analysis.RequestAnswers
import Xygo.Analysis.RetryBackoff
import Xygo.Analysis.RunScores
import Xygo.Analysis.SerializedValues
import Xygo.Analysis.SessionContract
import Xygo.Analysis.SessionLife
import Xygo.Analysis.SessionRaces
import Xygo.Analysis.SessionSpec
import Xygo.Analysis.SignedValues
import Xygo.Analysis.SnapshotCounts
import Xygo.Analysis.SqliteFail
import Xygo.Analysis.SqliteRefinement
import Xygo.Analysis.StaticAnswers
import Xygo.Analysis.StatusCounts
import Xygo.Analysis.StorageKeys
import Xygo.Analysis.StoredChecksums
import Xygo.Analysis.SuppressedRecipients
import Xygo.Analysis.SuppressionMerge
import Xygo.Analysis.TamperEvidence
import Xygo.Analysis.TenantReads
import Xygo.Analysis.TerminalStatus
import Xygo.Analysis.TokenClaims
import Xygo.Analysis.TokenSubjects
import Xygo.Analysis.TokenVerification
import Xygo.Analysis.WebhookEvidence
import Xygo.Analysis.WebhookOnce
import Xygo.Analysis.WebhookOrder
import Xygo.Analysis.WorkerDrain
