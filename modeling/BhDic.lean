import BhDic.Application.Ask
import BhDic.Application.AtMostOnce
import BhDic.Application.CompoundPlan
import BhDic.Application.Dispatch
import BhDic.Application.EmployeeResolution
import BhDic.Application.Execution
import BhDic.Application.Masking
import BhDic.Application.MaturationGuard
import BhDic.Application.Outcome
import BhDic.Application.OwnOperation
import BhDic.Application.PendingTarget
import BhDic.Application.Preparation
import BhDic.Application.Preview
import BhDic.Application.Recovery
import BhDic.Application.Resumption
import BhDic.Application.RosterSecrecy
import BhDic.Application.Runs
import BhDic.Application.SensitiveProfile
import BhDic.Application.Snapshot
import BhDic.Application.StaleState
import BhDic.Application.WorkforcePlan
import BhDic.Approvals.Confirmation
import BhDic.Approvals.Confirming
import BhDic.Approvals.Invariant
import BhDic.Approvals.Lifecycle
import BhDic.Approvals.Models
import BhDic.Approvals.Refinement
import BhDic.Approvals.Repository
import BhDic.Approvals.Runs
import BhDic.Approvals.Service
import BhDic.Approvals.SqlLawful
import BhDic.Approvals.SqlStorage
import BhDic.Approvals.Storage
import BhDic.Approvals.StoreAgreement
import BhDic.Audit.Chain
import BhDic.Audit.Events
import BhDic.Audit.Models
import BhDic.Audit.Service
import BhDic.Audit.Verification
import BhDic.Dic.Amounts
import BhDic.Dic.AuthRoutes
import BhDic.Dic.Authenticator
import BhDic.Dic.BalanceCapture
import BhDic.Dic.BalanceReading
import BhDic.Dic.Boundary
import BhDic.Dic.CanonicalDecimals
import BhDic.Dic.ContractVerification
import BhDic.Dic.EmployeeListCapture
import BhDic.Dic.EmployeeResources
import BhDic.Dic.LoginAnswers
import BhDic.Dic.LoginQuiet
import BhDic.Dic.LoginSafety
import BhDic.Dic.PaginatedCapture
import BhDic.Dic.PaginatedServer
import BhDic.Dic.PayrollCapture
import BhDic.Dic.PlaywrightAdapter
import BhDic.Dic.Projections
import BhDic.Dic.Reads
import BhDic.Dic.Reconnect
import BhDic.Dic.ReconnectSafety
import BhDic.Dic.ResourceReads
import BhDic.Dic.Responses
import BhDic.Dic.Roster
import BhDic.Dic.Service
import BhDic.Dic.Values
import BhDic.Discord.Delivery
import BhDic.Discord.EmbedBudget
import BhDic.Discord.EmbedLayout
import BhDic.Discord.Embeds
import BhDic.Discord.Transport
import BhDic.Exports.Chunks
import BhDic.Exports.Tables
import BhDic.Files.Custody
import BhDic.Files.CustodyRuns
import BhDic.Files.Duplicates
import BhDic.Files.Models
import BhDic.Files.Retention
import BhDic.Files.Runs
import BhDic.Files.Service
import BhDic.HrAssistant.ContractIntervals
import BhDic.HrAssistant.LocalIntent
import BhDic.HrAssistant.Patterns
import BhDic.HrAssistant.StatusWording
import BhDic.Library.Dict
import BhDic.Library.HashChain
import BhDic.Library.Interleaving
import BhDic.Library.Json
import BhDic.Library.JsonReader
import BhDic.Library.JsonText
import BhDic.Library.Labelled
import BhDic.Library.Paging
import BhDic.Library.Prog
import BhDic.Library.Regex
import BhDic.Library.RegexCaptures
import BhDic.Library.RegexSyntax
import BhDic.Library.Trace
import BhDic.ModelUsage.Ledger
import BhDic.ModelUsage.Lifecycle
import BhDic.ModelUsage.Loading
import BhDic.ModelUsage.Models
import BhDic.ModelUsage.Repository
import BhDic.ModelUsage.Totals
import BhDic.Onboarding.Completion
import BhDic.Onboarding.Drafts
import BhDic.Onboarding.Models
import BhDic.OpenAI.Redaction
import BhDic.Policies.Catalog
import BhDic.Policies.Engine
import BhDic.Policies.FeatureFlags
import BhDic.Policies.Parameters
import BhDic.Policies.Roles
import BhDic.Python.Calendar
import BhDic.Python.Date
import BhDic.Python.DateTime
import BhDic.Python.Decimal
import BhDic.Python.Digits
import BhDic.Python.Equality
import BhDic.Python.Exceptions
import BhDic.Python.Integer
import BhDic.Python.Lines
import BhDic.Python.Loops
import BhDic.Python.Ordinals
import BhDic.Python.Patterns
import BhDic.Python.Pydantic
import BhDic.Python.Re
import BhDic.Python.Text
import BhDic.Python.Url
import BhDic.Python.UrlParts
import BhDic.Python.Uuid
import BhDic.Query.Accounting
import BhDic.Query.Capacity
import BhDic.Query.Context
import BhDic.Query.Conversation
import BhDic.Query.Execution
import BhDic.Query.Isolation
import BhDic.Query.Periods
import BhDic.Query.Planner
import BhDic.Query.Provenance
import BhDic.Security.Cipher
import BhDic.Security.Envelopes
import BhDic.Security.RateLimit
import BhDic.Security.Sanitization
import BhDic.Services.BreakerRuns
import BhDic.Services.BrowserQueue
import BhDic.Services.CircuitBreaker
import BhDic.Services.QueueRuns
import BhDic.Services.QueueService
