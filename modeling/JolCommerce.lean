import JolCommerce.Audit.TamperEvidence
import JolCommerce.Payments.WebhookHandler
import JolCommerce.Payments.WebhookChain
import JolCommerce.Tenancy.Registry
import JolCommerce.Numeric.Significant
import JolCommerce.Python.Decimal
import JolCommerce.Python.DecimalLaws
import JolCommerce.Commissions.Engine
import JolCommerce.Commissions.EngineLaws
import JolCommerce.Commissions.Ledger
import JolCommerce.Orders.Lifecycle
import JolCommerce.Orders.Repository
import JolCommerce.Orders.Service
import JolCommerce.Orders.ServiceLaws
import JolCommerce.Orders.Atomicity
import JolCommerce.Orders.Runs
import JolCommerce.Orders.Cancellation
import JolCommerce.Orders.WriteFrame
import JolCommerce.Orders.Isolation
import JolCommerce.Orders.Books
import JolCommerce.Orders.Reversals
import JolCommerce.Api.ExactlyOnce
import JolCommerce.Orders.PartialReversals
import JolCommerce.Api.RoutesPayment
import JolCommerce.Api.AtMostOnce
import JolCommerce.Payments.WebhookFailure
import JolCommerce.Db.ProvisionerLaws
import JolCommerce.Db.RevisionPrefix
import JolCommerce.Db.FailureIsolation
import JolCommerce.Db.Bookkeeping
import JolCommerce.Db.Rerun
import JolCommerce.Orders.Fulfillment
import JolCommerce.Orders.History
import JolCommerce.Orders.AuditTrail
import JolCommerce.Api.SharedChain
import JolCommerce.Orders.Exclusion
import JolCommerce.Payments.PaymentFlows
import JolCommerce.Payments.Accounts
import JolCommerce.Payments.ChargedOnce
import JolCommerce.Audit.Localisation
import JolCommerce.Commissions.LedgerTotals
import JolCommerce.Commissions.FeeFloor
import JolCommerce.Orders.FullReversal
import JolCommerce.Notifications.Classification
import JolCommerce.Notifications.NotificationQueue
import JolCommerce.Notifications.Conservation
import JolCommerce.Db.RollForward
import JolCommerce.Sql.Lexical
import JolCommerce.Db.Statements
import JolCommerce.Python.JsonReader
import JolCommerce.Python.Lines
import JolCommerce.Audit.Export
import JolCommerce.Numeric.Quotient
import JolCommerce.Numeric.Share
import JolCommerce.Python.DecimalArithmetic
import JolCommerce.Tax.CountryRates
import JolCommerce.Tax.VatCalculator
import JolCommerce.Tax.RoundTrip
import JolCommerce.Python.Calendar
import JolCommerce.Tax.Retention
import JolCommerce.Tax.CountryReports
import JolCommerce.Regex.Pattern
import JolCommerce.Regex.Substitution
import JolCommerce.Security.Idempotency
import JolCommerce.Regex.Redaction
import JolCommerce.Audit.PiiSafeLog
import JolCommerce.Audit.Sanitising
import JolCommerce.Audit.SanitisingDict
import JolCommerce.Bitrix24.PiiScrubber
import JolCommerce.Bitrix24.SyncClient
import JolCommerce.Bitrix24.Noninterference
import JolCommerce.Bitrix24.SyncBatches
import JolCommerce.Payments.PaymentScenarios
import JolCommerce.Payments.Prepayment
import JolCommerce.Payments.ZeroPan
import JolCommerce.Sql.Tokens
import JolCommerce.Db.TenantOnboarding
import JolCommerce.Bitrix24.AddressDeletion
import JolCommerce.Bitrix24.ScrubbedText
import JolCommerce.Python.Fields
import JolCommerce.Tenancy.RegistryInPlace
import JolCommerce.Tenancy.Middleware
import JolCommerce.Numeric.Lexicographic
import JolCommerce.Python.Numerals
import JolCommerce.Orders.ChangeFeed
import JolCommerce.Tax.InvoiceDocument
import JolCommerce.Tax.InvoiceGenerator
import JolCommerce.Tax.InvoiceNumbering
import JolCommerce.Numeric.RoundedSum
import JolCommerce.Tax.InvoiceTotals
import JolCommerce.Frontend.HeaderMonitor
import JolCommerce.Run.RisingEdge
import JolCommerce.Frontend.CookieAlerts
import JolCommerce.Run.Purge
import JolCommerce.Run.Simulation
import JolCommerce.Orders.Pairing
import JolCommerce.Orders.PairedCalls
import JolCommerce.Api.OrderServer
import JolCommerce.Api.TenantPurge
import JolCommerce.Api.ConcurrentRequests
import JolCommerce.Http.Headers
import JolCommerce.Http.SecurityPolicy
import JolCommerce.Security.CspHeaders
import JolCommerce.Api.SecurityHeaders
import JolCommerce.Frontend.HeaderContract
import JolCommerce.Python.DictUpdate
import JolCommerce.Catalog.Catalog
import JolCommerce.Catalog.Governance
import JolCommerce.Orders.AppendOnly
import JolCommerce.Orders.Reconciliation
import JolCommerce.Python.UuidLaws
import JolCommerce.Db.Cli
import JolCommerce.Db.CliScripts
import JolCommerce.Db.Confinement
import JolCommerce.Api.OrderBoard
import JolCommerce.Api.BoardRefinement
import JolCommerce.Api.ReadYourWrites
import JolCommerce.Api.Linearizable
