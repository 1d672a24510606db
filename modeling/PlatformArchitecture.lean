import PlatformArchitecture.Foundations.Run
import PlatformArchitecture.Foundations.Checks
import PlatformArchitecture.Foundations.Json
import PlatformArchitecture.Foundations.JsonPaths
import PlatformArchitecture.Foundations.TtlMap
import PlatformArchitecture.Foundations.RedisKeys
import PlatformArchitecture.Foundations.KeyedRows
import PlatformArchitecture.Foundations.KeyedTables
import PlatformArchitecture.Foundations.KeyedService
import PlatformArchitecture.Foundations.Program
import PlatformArchitecture.Foundations.Concurrent
import PlatformArchitecture.Foundations.Transactions
import PlatformArchitecture.Foundations.PooledSessions
import PlatformArchitecture.Foundations.UniqueKeys
import PlatformArchitecture.Foundations.Versions
import PlatformArchitecture.Security.TenantContext
import PlatformArchitecture.Security.TenantScopedPorts
import PlatformArchitecture.Domain.DomainEvent
import PlatformArchitecture.Postgres.ColumnTypes
import PlatformArchitecture.Postgres.Inbox
import PlatformArchitecture.Postgres.InboxCalls
import PlatformArchitecture.Postgres.InboxIdempotence
import PlatformArchitecture.Postgres.Outbox
import PlatformArchitecture.Postgres.OutboxStages
import PlatformArchitecture.Postgres.OutboxStatements
import PlatformArchitecture.Postgres.OutboxRuns
import PlatformArchitecture.Documents.ZipInspection
import PlatformArchitecture.Documents.ArchiveDirectory
import PlatformArchitecture.PolicyEngine.PlatformPolicy
import PlatformArchitecture.ConfigEngine.Validate
import PlatformArchitecture.ConfigEngine.ValidState
import PlatformArchitecture.ConfigEngine.TypeConformance
import PlatformArchitecture.ConfigEngine.Merge
import PlatformArchitecture.DependencyEngine.Rules
import PlatformArchitecture.DependencyEngine.Agreement
import PlatformArchitecture.PlatformSdk.CapabilityContainer
import PlatformArchitecture.Api.IdempotencyPorts
import PlatformArchitecture.Api.Resources
import PlatformArchitecture.Services.JobQueue
import PlatformArchitecture.Services.TenantJobs
import PlatformArchitecture.Services.WorkflowRuns
import PlatformArchitecture.ControlApi.Operators
import PlatformArchitecture.ControlApi.ChangeMachine
import PlatformArchitecture.ControlApi.SecretMetadata
import PlatformArchitecture.ControlApi.ControlStore
import PlatformArchitecture.ControlApi.Routes
import PlatformArchitecture.ControlApi.ChangeProtocol
import PlatformArchitecture.ControlApi.ChangeLifecycle
import PlatformArchitecture.ControlApi.TransitionRaces
import PlatformArchitecture.Section19.Repository
import PlatformArchitecture.Section19.Adapters
import PlatformArchitecture.Section19.Activation
import PlatformArchitecture.Section19.ActivationTransaction
import PlatformArchitecture.Section19.ActivationRoutes
import PlatformArchitecture.Section19.AdapterContents
import PlatformArchitecture.Section19.AdapterAgreement
import PlatformArchitecture.Section19.Service
import PlatformArchitecture.Section19.Routes
import PlatformArchitecture.Section19.Effects
import PlatformArchitecture.Section19.Attribution
import PlatformArchitecture.Section19.ApprovalProtocol
import PlatformArchitecture.Section19.LockedCapabilities
import PlatformArchitecture.Section19.PooledRoutes
import PlatformArchitecture.Section19.WriteGuard
import PlatformArchitecture.Workers.Runner
import PlatformArchitecture.Workers.RetryLoop
import PlatformArchitecture.Workers.Fleet
import PlatformArchitecture.Workers.Lifecycle
import PlatformArchitecture.Workers.Idempotence
import PlatformArchitecture.ControlApi.DesiredStateReads
import PlatformArchitecture.ControlApi.EmergencySwitches
import PlatformArchitecture.ControlApi.StoreOperations
import PlatformArchitecture.ControlApi.VersionCounter
import PlatformArchitecture.ControlApi.StoreAgreement
import PlatformArchitecture.Foundations.RecordedWrites
import PlatformArchitecture.ControlApi.MutationAudit
import PlatformArchitecture.Section19.MutationAudit
import PlatformArchitecture.Documents.UploadPipeline
import PlatformArchitecture.Documents.UploadKeys
import PlatformArchitecture.Documents.UploadCalls
import PlatformArchitecture.Documents.ApprovedUploads
import PlatformArchitecture.Documents.UploadRecovery
import PlatformArchitecture.Foundations.PercentEncoding
import PlatformArchitecture.Security.TenantScopedStorage
import PlatformArchitecture.Adapters.FilesystemStorage
import PlatformArchitecture.Foundations.JsNumbers
import PlatformArchitecture.PlatformSdk.Bulkhead
import PlatformArchitecture.PlatformSdk.CacheAside
import PlatformArchitecture.PlatformSdk.SingleFlight
import PlatformArchitecture.PlatformSdk.CacheAsideCalls
import PlatformArchitecture.PlatformSdk.CacheOrigins
import PlatformArchitecture.PlatformSdk.CircuitBreaker
import PlatformArchitecture.PlatformSdk.Idempotent
import PlatformArchitecture.Api.RateLimits
import PlatformArchitecture.Api.RateLimitAgreement
import PlatformArchitecture.Api.RateLimitRuns
import PlatformArchitecture.Security.RefreshChains
import PlatformArchitecture.Foundations.TextEncodings
import PlatformArchitecture.Web.Session
import PlatformArchitecture.Postgres.Migrator
import PlatformArchitecture.Postgres.MigratorRuns
import PlatformArchitecture.Foundations.LookThenSave
import PlatformArchitecture.Services.UniqueNames
import PlatformArchitecture.ControlApi.SecretPages
import PlatformArchitecture.ControlApi.SecretPageRuns
import PlatformArchitecture.Foundations.Urls
import PlatformArchitecture.Web.SafeRedirect
import PlatformArchitecture.Foundations.TagRemoval
import PlatformArchitecture.Services.RagPrompts
import PlatformArchitecture.Foundations.ProgramTraces
import PlatformArchitecture.Services.AiGateway
import PlatformArchitecture.Services.AiGatewayTraces
import PlatformArchitecture.Services.AiUsage
import PlatformArchitecture.Services.AiAttempts
import PlatformArchitecture.Adapters.SearchAdapters
import PlatformArchitecture.Domain.EventSchemas
import PlatformArchitecture.Foundations.Redaction
import PlatformArchitecture.Services.Audit
import PlatformArchitecture.PolicyEngine.CapabilitySpellings
import PlatformArchitecture.ControlApi.LockedSpellings
import PlatformArchitecture.Api.RateLimitTracking
import PlatformArchitecture.PlatformSdk.CircuitBreakerCalls
import PlatformArchitecture.Foundations.Recency
import PlatformArchitecture.PlatformSdk.MemoryCache
import PlatformArchitecture.PlatformSdk.ShadowSearch
import PlatformArchitecture.Adapters.SearchPages
import PlatformArchitecture.Foundations.HexTexts
import PlatformArchitecture.Security.SignedWebhooks
import PlatformArchitecture.Security.OutboundUrls
import PlatformArchitecture.Adapters.RedisLock
import PlatformArchitecture.Foundations.RetryLoops
import PlatformArchitecture.PlatformSdk.Retry
import PlatformArchitecture.Web.ApiClient
import PlatformArchitecture.Foundations.Lending
import PlatformArchitecture.Foundations.SessionLocks
import PlatformArchitecture.Postgres.AdvisoryLock
import PlatformArchitecture.Postgres.AdvisoryLockRuns
import PlatformArchitecture.Postgres.TenantTransactions
import PlatformArchitecture.Postgres.TenantIsolation
import PlatformArchitecture.Foundations.StatesLanguage
import PlatformArchitecture.Infrastructure.ChangeOrchestrator
import PlatformArchitecture.Documents.VirusScans
import PlatformArchitecture.Foundations.SharedArrays
import PlatformArchitecture.PlatformSdk.MemoryObjectStorage
import PlatformArchitecture.Adapters.BullMqQueues
import PlatformArchitecture.ControlApi.AdminConsole
import PlatformArchitecture.Foundations.StreamCiphers
import PlatformArchitecture.Foundations.Undisturbed
import PlatformArchitecture.Postgres.OutboxDrain
import PlatformArchitecture.Security.FieldEncryption
import PlatformArchitecture.Api.RequestGate
import PlatformArchitecture.Api.RequestQuotas
import PlatformArchitecture.Adapters.RedisCache
import PlatformArchitecture.Adapters.ScopedFiles
import PlatformArchitecture.Postgres.EventPipeline
import PlatformArchitecture.Foundations.StatementProtocols
import PlatformArchitecture.Services.AiQuota
import PlatformArchitecture.Adapters.S3Storage
