import Tomiris.AgentSdk.Signing
import Tomiris.Common.Crypto
import Tomiris.Common.Headers
import Tomiris.Common.Hkdf
import Tomiris.Common.Http
import Tomiris.Common.Validation
import Tomiris.Contracts.Json
import Tomiris.Contracts.Notifications
import Tomiris.Contracts.Orchestration
import Tomiris.Contracts.Signals
import Tomiris.Features.FloatIndicators
import Tomiris.Features.Indicators
import Tomiris.Features.Pipeline
import Tomiris.Fleet
import Tomiris.ForStd.BoundedMap
import Tomiris.ForStd.Branching
import Tomiris.ForStd.Calendar
import Tomiris.ForStd.CircuitBreaker
import Tomiris.ForStd.Except
import Tomiris.ForStd.FloatFunctions
import Tomiris.ForStd.Floats
import Tomiris.ForStd.Journal
import Tomiris.ForStd.List
import Tomiris.ForStd.Separated
import Tomiris.ForStd.Smoothing
import Tomiris.ForStd.Table
import Tomiris.ForStd.Transaction
import Tomiris.ForStd.Transition
import Tomiris.ForStd.UrlSplit
import Tomiris.Hosted
import Tomiris.Hub.Api
import Tomiris.Hub.Authentication
import Tomiris.Hub.Errors
import Tomiris.Hub.Models
import Tomiris.Hub.Security
import Tomiris.Hub.Settings
import Tomiris.Hub.SignalIngestion
import Tomiris.MarketData.Binance
import Tomiris.MarketData.Cache
import Tomiris.MarketData.Models
import Tomiris.MarketData.Service
import Tomiris.MarketData.Transport
import Tomiris.MarketData.Validation
import Tomiris.Notifications.Outbox
import Tomiris.Notifications.Worker
import Tomiris.Orchestrator.Client
import Tomiris.Orchestrator.Dispatch
import Tomiris.Orchestrator.Health
import Tomiris.Orchestrator.Planner
import Tomiris.Orchestrator.Quorum
import Tomiris.Orchestrator.Recovery
import Tomiris.Orchestrator.Service
import Tomiris.Probing
import Tomiris.ReadCommitted
import Tomiris.Roles.FloatTechnical
import Tomiris.Roles.Models
import Tomiris.Roles.Registry
import Tomiris.Roles.Technical
import Tomiris.Runtime.Analytical
import Tomiris.Runtime.Application
import Tomiris.Runtime.Config
import Tomiris.Runtime.Handler
import Tomiris.Runtime.Security
import Tomiris.Runtime.State
import Tomiris.Spec.Absorption
import Tomiris.Spec.Admission
import Tomiris.Spec.Agreement
import Tomiris.Spec.Analysis
import Tomiris.Spec.Api
import Tomiris.Spec.Attempts
import Tomiris.Spec.Batch
import Tomiris.Spec.BoundedJson
import Tomiris.Spec.Bundles
import Tomiris.Spec.Bystanders
import Tomiris.Spec.Circuit
import Tomiris.Spec.Claim
import Tomiris.Spec.CleanSeries
import Tomiris.Spec.Conflicts
import Tomiris.Spec.Delivery
import Tomiris.Spec.DeliveryAttempts
import Tomiris.Spec.Dispatch
import Tomiris.Spec.Eligibility
import Tomiris.Spec.Endpoint
import Tomiris.Spec.Entries
import Tomiris.Spec.Envelope
import Tomiris.Spec.Envelopes
import Tomiris.Spec.ErrorCodes
import Tomiris.Spec.ExactFloats
import Tomiris.Spec.Features
import Tomiris.Spec.Fencing
import Tomiris.Spec.Finality
import Tomiris.Spec.Fleet
import Tomiris.Spec.FloatFeatures
import Tomiris.Spec.FloatTechnical
import Tomiris.Spec.Forgetting
import Tomiris.Spec.HalfOpen
import Tomiris.Spec.Handshake
import Tomiris.Spec.Health
import Tomiris.Spec.Hkdf
import Tomiris.Spec.HonestEnvelope
import Tomiris.Spec.Idempotence
import Tomiris.Spec.Inevitable
import Tomiris.Spec.Journal
import Tomiris.Spec.Klines
import Tomiris.Spec.Lease
import Tomiris.Spec.LeaseColumns
import Tomiris.Spec.Lookahead
import Tomiris.Spec.MalformedAnswers
import Tomiris.Spec.MarketDataCache
import Tomiris.Spec.Measurements
import Tomiris.Spec.Moves
import Tomiris.Spec.OpenCircuit
import Tomiris.Spec.Opinion
import Tomiris.Spec.Outbox
import Tomiris.Spec.Overdue
import Tomiris.Spec.Pacing
import Tomiris.Spec.Plan
import Tomiris.Spec.Planner
import Tomiris.Spec.Prescribed
import Tomiris.Spec.PriceUnit
import Tomiris.Spec.QualityGate
import Tomiris.Spec.Race
import Tomiris.Spec.Ranging
import Tomiris.Spec.ReadCommitted
import Tomiris.Spec.Recovery
import Tomiris.Spec.Replay
import Tomiris.Spec.Resend
import Tomiris.Spec.Retries
import Tomiris.Spec.RoleData
import Tomiris.Spec.Schema
import Tomiris.Spec.SchemaInvariant
import Tomiris.Spec.Settled
import Tomiris.Spec.SignalIngestion
import Tomiris.Spec.SignalStore
import Tomiris.Spec.Signing
import Tomiris.Spec.Stability
import Tomiris.Spec.Steps
import Tomiris.Spec.TaskStore
import Tomiris.Spec.Technical
import Tomiris.Spec.Verdict
import Tomiris.Spec.Window
import Tomiris.Spec.Workers
import Tomiris.System
import Tomiris.Timed
import Tomiris.Workers
