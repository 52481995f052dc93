import ThrevoActions.Interleaving.Machine
import ThrevoActions.Authority
import ThrevoActions.Receipts
import ThrevoActions.Canonical
import ThrevoActions.Store.EffectClaims
import ThrevoActions.Registry
import ThrevoActions.Runtime.Ports
import ThrevoActions.Runtime.Operations
import ThrevoActions.Runtime.Machine
import ThrevoActions.Runtime.Writes
import ThrevoActions.Runtime.Lawful
import ThrevoActions.Runtime.Changes
import ThrevoActions.Runtime.Dispatch
import ThrevoActions.Interleaving.Schedule
import ThrevoActions.Runtime.Schedules
import ThrevoActions.Runtime.Resend
import ThrevoActions.Runtime.Lease
import ThrevoActions.Sha256
import ThrevoActions.Evidence
import ThrevoActions.Runtime.Histories
import ThrevoActions.Runtime.EvidenceConsistency
import ThrevoActions.Money
import ThrevoActions.Stripe.Models
import ThrevoActions.Stripe.CreditNotes
import ThrevoActions.Stripe.Subscriptions
import ThrevoActions.Stripe.Host
import ThrevoActions.Stripe.Workflows
import ThrevoActions.Stripe.Submission
import ThrevoActions.Stripe.LawfulWorkflows
import ThrevoActions.Stripe.Outcomes
import ThrevoActions.Store.Retention
import ThrevoActions.Store.Immutability
import ThrevoActions.Recovery
import ThrevoActions.Runtime.StatusHistory
import ThrevoActions.Runtime.AuthorityHistory
import ThrevoActions.Runtime.Reads
import ThrevoActions.Runtime.DueWork
import ThrevoActions.Store.Takeover
import ThrevoActions.Runtime.EffectOwnership
import ThrevoActions.Runtime.Custody
import ThrevoActions.Runtime.Erasure
import ThrevoActions.Interleaving.Disguise
import ThrevoActions.Runtime.Indifference
import ThrevoActions.Runtime.Masking
import ThrevoActions.Json.Document
import ThrevoActions.Json.Refusals
import ThrevoActions.Json.Loads
import ThrevoActions.Json.RoundTrip
import ThrevoActions.Json.CanonicalForms
import ThrevoActions.Store.Postgres
import ThrevoActions.Store.PostgresErasure
import ThrevoActions.Store.VersionHistory
import ThrevoActions.Approvals.Models
import ThrevoActions.Approvals.Postgres
import ThrevoActions.Approvals.FirstWriteWins
import ThrevoActions.Approvals.Outcomes
import ThrevoActions.Interleaving.Trace
import ThrevoActions.Runtime.Effects
import ThrevoActions.Runtime.Reports
import ThrevoActions.Runtime.ReportedVersions
import ThrevoActions.Runtime.Aborted
import ThrevoActions.Runtime.VerificationBudget
import ThrevoActions.Integrations.PydanticAi
import ThrevoActions.Integrations.Confinement
import ThrevoActions.Integrations.Invocations
import ThrevoActions.Integrations.Unauthorized
import ThrevoActions.Integrations.ToolRuns
import ThrevoActions.RecoveryWorker
import ThrevoActions.Paging.Keyset
import ThrevoActions.Store.WorkSource
import ThrevoActions.ApprovalRequirements
import ThrevoActions.Runtime.Authorization
import ThrevoActions.Paging.Lookup
import ThrevoActions.Stripe.Lookups
import ThrevoActions.Decimals
import ThrevoActions.Stripe.Amounts
import ThrevoActions.DecimalTexts
import ThrevoActions.Stripe.Keys
import ThrevoActions.FrozenJson
import ThrevoActions.EvidenceImport
import ThrevoActions.EvidenceRoundTrip
import ThrevoActions.Store.PostgresTables
import ThrevoActions.Store.PostgresRoundTrip
import ThrevoActions.Conformance.SensitiveData
import ThrevoActions.Boundary.Annotations
import ThrevoActions.Boundary.FloatingFields
import ThrevoActions.Integrations.DecimalArguments
import ThrevoActions.Coding.Framing
import ThrevoActions.Integrations.EnvelopeMetadata
import ThrevoActions.IdentityEncodings
import ThrevoActions.Coding.Base64
import ThrevoActions.Integrations.Envelopes
import ThrevoActions.Integrations.AwsKms
import ThrevoActions.Integrations.LocalKek
import ThrevoActions.Integrations.OrphanKeys
import ThrevoActions.Integrations.EnvelopeGuarantees
import ThrevoActions.Integrations.EnvelopeServices
import ThrevoActions.Calendar.Gregorian
import ThrevoActions.Coding.Replace
import ThrevoActions.Records.Conversion
import ThrevoActions.Store.MySqlDatetimes
import ThrevoActions.Store.MySqlStamps
import ThrevoActions.Store.MySqlMigration
import ThrevoActions.Coding.Lexing
import ThrevoActions.Store.MySqlDefinitions
import ThrevoActions.Store.SqlTokens
import ThrevoActions.Interleaving.Company
import ThrevoActions.Transactions.Database
import ThrevoActions.Transactions.Consistency
import ThrevoActions.Transactions.Occupancy
import ThrevoActions.Transactions.Sessions
import ThrevoActions.Json.Ascii
import ThrevoActions.Stripe.Ledger
import ThrevoActions.Transactions.Progress
import ThrevoActions.Transactions.Testimony
import ThrevoActions.Stripe.LedgerTestimony
import ThrevoActions.Stripe.LedgerCalls
import ThrevoActions.Stripe.LedgerRuns
import ThrevoActions.Store.Sqlite
import ThrevoActions.Store.SqliteRows
import ThrevoActions.Store.SqliteRefinement
import ThrevoActions.Store.SqliteHistory
