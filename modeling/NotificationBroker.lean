import NotificationBroker.Api.NotificationRequests
import NotificationBroker.Api.Responses
import NotificationBroker.Api.Routers.Notifications
import NotificationBroker.Api.Routers.Users
import NotificationBroker.Api.RunAlone
import NotificationBroker.Api.Server
import NotificationBroker.Core.Auth
import NotificationBroker.Core.Cursors
import NotificationBroker.Core.HttpLimits
import NotificationBroker.Db.Directory
import NotificationBroker.Db.Models
import NotificationBroker.Db.Precedence
import NotificationBroker.Db.Repositories.BulkInserts
import NotificationBroker.Db.Repositories.Notifications
import NotificationBroker.Db.Repositories.Outbox
import NotificationBroker.Db.Repositories.WebNotifications
import NotificationBroker.Db.RunAlone
import NotificationBroker.Db.UnitOfWork
import NotificationBroker.Db.World
import NotificationBroker.Domain.Enums
import NotificationBroker.Domain.Errors
import NotificationBroker.Domain.ReadModels
import NotificationBroker.Domain.Results
import NotificationBroker.Domain.ValueObjects
import NotificationBroker.Framework.Broadcast
import NotificationBroker.Framework.Counters
import NotificationBroker.Framework.Draining
import NotificationBroker.Framework.Growth
import NotificationBroker.Framework.Keeping
import NotificationBroker.Framework.Keyset
import NotificationBroker.Framework.Outcomes
import NotificationBroker.Framework.Parts
import NotificationBroker.Framework.Precedence
import NotificationBroker.Framework.Prog
import NotificationBroker.Framework.Raising
import NotificationBroker.Framework.ReadCommitted
import NotificationBroker.Framework.Refreshing
import NotificationBroker.Framework.RelyGuarantee
import NotificationBroker.Framework.Segments
import NotificationBroker.Framework.Sequential
import NotificationBroker.Framework.Stages
import NotificationBroker.Framework.Stateful
import NotificationBroker.Framework.TwoRuns
import NotificationBroker.Framework.Words
import NotificationBroker.Properties.AcceptedRecords
import NotificationBroker.Properties.Arrivals
import NotificationBroker.Properties.AudienceTargets
import NotificationBroker.Properties.BodyLimits
import NotificationBroker.Properties.BroadcastRefinement
import NotificationBroker.Properties.ConsumerOffsets
import NotificationBroker.Properties.CreationIdempotency
import NotificationBroker.Properties.Cursors
import NotificationBroker.Properties.DeadLetters
import NotificationBroker.Properties.DeliveryAttempts
import NotificationBroker.Properties.DeliveryBatch
import NotificationBroker.Properties.DeliveryOnce
import NotificationBroker.Properties.DeliveryOrigins
import NotificationBroker.Properties.DeliveryRows
import NotificationBroker.Properties.DeliveryTokens
import NotificationBroker.Properties.Draining
import NotificationBroker.Properties.EmailOutcomes
import NotificationBroker.Properties.EmailSubjects
import NotificationBroker.Properties.ErrorMessages
import NotificationBroker.Properties.EventRoundTrip
import NotificationBroker.Properties.FanoutCounts
import NotificationBroker.Properties.FanoutLimits
import NotificationBroker.Properties.FanoutOnce
import NotificationBroker.Properties.FanoutParameters
import NotificationBroker.Properties.FanoutRefused
import NotificationBroker.Properties.FanoutRows
import NotificationBroker.Properties.KeysetPages
import NotificationBroker.Properties.LeaseOverlap
import NotificationBroker.Properties.MetricsRefresh
import NotificationBroker.Properties.NotStranded
import NotificationBroker.Properties.OpenFanouts
import NotificationBroker.Properties.OutboxBatch
import NotificationBroker.Properties.OutboxHistory
import NotificationBroker.Properties.Pagination
import NotificationBroker.Properties.PoisonRecords
import NotificationBroker.Properties.Principals
import NotificationBroker.Properties.ProcessedEvents
import NotificationBroker.Properties.QuotaCounts
import NotificationBroker.Properties.QuotaWindows
import NotificationBroker.Properties.ReadMarks
import NotificationBroker.Properties.ReplayFanout
import NotificationBroker.Properties.RequestHashes
import NotificationBroker.Properties.RetryAudit
import NotificationBroker.Properties.RetryDelay
import NotificationBroker.Properties.SchemaConstraints
import NotificationBroker.Properties.ServerRuns
import NotificationBroker.Properties.TenantReads
import NotificationBroker.Properties.TenantWrites
import NotificationBroker.Python.Base64
import NotificationBroker.Python.Calendar
import NotificationBroker.Python.IntText
import NotificationBroker.Python.IsoFormat
import NotificationBroker.Python.Json
import NotificationBroker.Python.JsonAscii
import NotificationBroker.Python.JsonLimits
import NotificationBroker.Python.JsonParse
import NotificationBroker.Python.JsonRoundTrip
import NotificationBroker.Python.Smtp
import NotificationBroker.Python.SmtpTranscript
import NotificationBroker.Python.Text
import NotificationBroker.Python.Utf8
import NotificationBroker.Services.Idempotency
import NotificationBroker.Services.NotificationCreation
import NotificationBroker.Services.NotificationFanout
import NotificationBroker.Services.PipelineMetrics
import NotificationBroker.Services.ProducerQuota
import NotificationBroker.Services.Retry
import NotificationBroker.Services.WebNotification
import NotificationBroker.System.Calls
import NotificationBroker.System.Conformance.Api
import NotificationBroker.System.Conformance.Fanout
import NotificationBroker.System.Conformance.Rules
import NotificationBroker.System.Conformance.Workers
import NotificationBroker.System.Contract
import NotificationBroker.System.Effects
import NotificationBroker.System.Rows
import NotificationBroker.System.Server
import NotificationBroker.System.Sound
import NotificationBroker.System.Verified
import NotificationBroker.Workers.Delivery
import NotificationBroker.Workers.EmailDelivery
import NotificationBroker.Workers.EmailTemplates
import NotificationBroker.Workers.KafkaConsumer
import NotificationBroker.Workers.KafkaDeadLetters
import NotificationBroker.Workers.KafkaEnvelope
import NotificationBroker.Workers.KafkaRecords
import NotificationBroker.Workers.NotificationConsumer
import NotificationBroker.Workers.OutboxPublisher
