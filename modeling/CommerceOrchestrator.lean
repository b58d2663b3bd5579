import CommerceOrchestrator.Effect.Table
import CommerceOrchestrator.Effect.Prog
import CommerceOrchestrator.Effect.Monitor
import CommerceOrchestrator.Effect.Pool
import CommerceOrchestrator.Effect.Prefixes
import CommerceOrchestrator.Effect.Checked
import CommerceOrchestrator.Effect.Fallible
import CommerceOrchestrator.Effect.Sum
import CommerceOrchestrator.Effect.Machine
import CommerceOrchestrator.Effect.Leads
import CommerceOrchestrator.Effect.WriteThrough
import CommerceOrchestrator.Effect.RwLock
import CommerceOrchestrator.Effect.Files
import CommerceOrchestrator.Text.Json
import CommerceOrchestrator.Text.Chars
import CommerceOrchestrator.Text.Decimal
import CommerceOrchestrator.Text.Base64
import CommerceOrchestrator.Core.Contract
import CommerceOrchestrator.Core.StateMachine
import CommerceOrchestrator.Core.Validation
import CommerceOrchestrator.Runtime.Stores
import CommerceOrchestrator.Runtime.Effects
import CommerceOrchestrator.Runtime.Frames
import CommerceOrchestrator.Runtime.Cart
import CommerceOrchestrator.Runtime.CartPaths
import CommerceOrchestrator.Runtime.Checkout
import CommerceOrchestrator.Runtime.Paths
import CommerceOrchestrator.Runtime.Session
import CommerceOrchestrator.Runtime.Edits
import CommerceOrchestrator.Runtime.Interleaving
import CommerceOrchestrator.Runtime.Totals
import CommerceOrchestrator.Runtime.Fulfillment
import CommerceOrchestrator.Runtime.Repricing
import CommerceOrchestrator.Runtime.EditEffects
import CommerceOrchestrator.Runtime.LostUpdates
import CommerceOrchestrator.Runtime.Ownership
import CommerceOrchestrator.Runtime.Versions
import CommerceOrchestrator.Runtime.CartLeads
import CommerceOrchestrator.Runtime.Endings
import CommerceOrchestrator.Runtime.Atomicity
import CommerceOrchestrator.Runtime.Wedging
import CommerceOrchestrator.Runtime.CartFrames
import CommerceOrchestrator.Runtime.StatusAgreement
import CommerceOrchestrator.Runtime.EventLog
import CommerceOrchestrator.Runtime.Cancellation
import CommerceOrchestrator.Runtime.Charging
import CommerceOrchestrator.Runtime.Belonging
import CommerceOrchestrator.Runtime.Destinations
import CommerceOrchestrator.Runtime.Countries
import CommerceOrchestrator.Runtime.Lifecycle
import CommerceOrchestrator.Runtime.Idempotency
import CommerceOrchestrator.Runtime.Recovery
import CommerceOrchestrator.Runtime.Booking
import CommerceOrchestrator.Runtime.Reservations
import CommerceOrchestrator.Runtime.Accounting
import CommerceOrchestrator.Runtime.Spending
import CommerceOrchestrator.Runtime.Concurrency
import CommerceOrchestrator.Runtime.Reuse
import CommerceOrchestrator.Runtime.Breakdowns
import CommerceOrchestrator.Runtime.Outbox
import CommerceOrchestrator.Runtime.Conservation
import CommerceOrchestrator.Runtime.Commerce
import CommerceOrchestrator.Runtime.Paperwork
import CommerceOrchestrator.Runtime.Integrity
import CommerceOrchestrator.Runtime.PaymentRecords
import CommerceOrchestrator.Runtime.LineIds
import CommerceOrchestrator.Runtime.CartStructure
import CommerceOrchestrator.Runtime.StaleLines
import CommerceOrchestrator.Runtime.Arithmetic
import CommerceOrchestrator.Runtime.Overflow
import CommerceOrchestrator.Runtime.OutboxProcessor
import CommerceOrchestrator.Persistence.PostgresIdempotency
import CommerceOrchestrator.Persistence.Replicas
import CommerceOrchestrator.Persistence.FileBacked
import CommerceOrchestrator.Persistence.KeyEncoding
import CommerceOrchestrator.Persistence.Restarts
import CommerceOrchestrator.Persistence.Crashes
import CommerceOrchestrator.Persistence.FileOutbox
import CommerceOrchestrator.Persistence.PostgresOutbox
import CommerceOrchestrator.Persistence.PostgresRows
import CommerceOrchestrator.Persistence.RowUpdates
import CommerceOrchestrator.Persistence.Durability
import CommerceOrchestrator.Persistence.Leases
import CommerceOrchestrator.Persistence.OutboxOrder
import CommerceOrchestrator.Persistence.Draining
import CommerceOrchestrator.Persistence.SaveFailures
import CommerceOrchestrator.Persistence.ReplayFaults
import CommerceOrchestrator.Runtime.Webhooks
import CommerceOrchestrator.Adapters.PaymentHttp
import CommerceOrchestrator.Adapters.Circuit
import CommerceOrchestrator.Adapters.CircuitRuns
import CommerceOrchestrator.Adapters.Attempts
import CommerceOrchestrator.Adapters.TokenSource
import CommerceOrchestrator.Adapters.TokenRuns
import CommerceOrchestrator.Adapters.FailureCounting
import CommerceOrchestrator.Adapters.Backoff
import CommerceOrchestrator.Api.Facade
import CommerceOrchestrator.Api.Orders
import CommerceOrchestrator.Api.TenantWrites
import CommerceOrchestrator.Api.Transports
import CommerceOrchestrator.Api.A2aMessages
import CommerceOrchestrator.Api.Representations
import CommerceOrchestrator.Api.CartCommands
import CommerceOrchestrator.Api.FulfillmentSelections
import CommerceOrchestrator.Api.Ap2Verification
import CommerceOrchestrator.Api.MandateCaps
import CommerceOrchestrator.Api.AcpComplete
import CommerceOrchestrator.Api.CartUpdates
import CommerceOrchestrator.Api.Mandates
import CommerceOrchestrator.Api.MandateReplays
import CommerceOrchestrator.Api.MandateRetries
import CommerceOrchestrator.Api.Signing
import CommerceOrchestrator.Api.SigningRoundTrip
import CommerceOrchestrator.Api.KeyMaterial
import CommerceOrchestrator.Api.SignedRequests
import CommerceOrchestrator.Api.SignatureTimes
import CommerceOrchestrator.Api.Dictionaries
import CommerceOrchestrator.Api.SignatureQuoting
import CommerceOrchestrator.Api.SignedResponses
import CommerceOrchestrator.Api.EmbeddedLinks
import CommerceOrchestrator.Api.CartCreations
import CommerceOrchestrator.Api.McpTools
import CommerceOrchestrator.Api.McpCommands
import CommerceOrchestrator.Api.CartRoutes
import CommerceOrchestrator.Runtime.OutboxLoop
import CommerceOrchestrator.Runtime.OutboxPacing
import CommerceOrchestrator.Config.ProviderAuth
import CommerceOrchestrator.Config.Server
import CommerceOrchestrator.Config.Startup
import CommerceOrchestrator.Api.Discovery
