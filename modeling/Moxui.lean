import Moxui.Lib.Table
import Moxui.Lib.Machine
import Moxui.Lib.Dialogue
import Moxui.Lib.Text
import Moxui.Lib.Percent
import Moxui.Lib.Url
import Moxui.Lib.UrlPath
import Moxui.Lib.UrlQuery
import Moxui.Lib.UrlSpelling
import Moxui.Lib.HttpUri
import Moxui.Lib.Sql
import Moxui.Proxmox.Client
import Moxui.Proxmox.Endpoints
import Moxui.Proxmox.PathIntegrity
import Moxui.Audit.Store
import Moxui.Audit.QueryMeaning
import Moxui.Api.Router
import Moxui.Api.Pipeline
import Moxui.Api.AuthGate
import Moxui.Api.Requests
import Moxui.Api.Handlers
import Moxui.Api.Clusters
import Moxui.Api.Calls
import Moxui.Api.ClusterIsolation
import Moxui.Api.ClusterReads
import Moxui.Api.ReadIsolation
import Moxui.Api.ClusterAccess
import Moxui.Api.Users
import Moxui.Api.RoleFloor
import Moxui.Api.CheckedCluster
import Moxui.Api.VncSessions
import Moxui.Auth.Refresh
import Moxui.Auth.RefreshRun
import Moxui.Auth.RefreshSafety
import Moxui.Auth.Ldap
import Moxui.Auth.User
import Moxui.Auth.Totp
import Moxui.Auth.Webauthn
import Moxui.Auth.Oidc
import Moxui.Auth.Handlers
import Moxui.Auth.System
import Moxui.Auth.Sessions
import Moxui.Auth.Accounts
import Moxui.Auth.Disabled
import Moxui.Auth.BackupCodes
import Moxui.Auth.UserIds
import Moxui.Auth.SecondFactor
import Moxui.Auth.Enrolment
import Moxui.Auth.Exchange
import Moxui.Auth.CredentialChange
import Moxui.Audit.Pagination
import Moxui.Api.AuditTrail
import Moxui.Lib.Interleaving
import Moxui.Auth.PasskeyCalls
import Moxui.Auth.PasskeySafety
import Moxui.Auth.PasskeyCeremonies
import Moxui.Proxmox.CircuitBreaker
import Moxui.Proxmox.Transport
import Moxui.Proxmox.BreakerUse
import Moxui.Proxmox.BreakerAccounting
import Moxui.Lib.Base64
import Moxui.Auth.Vnc
import Moxui.Api.VncTokens
import Moxui.Lib.Keyed
import Moxui.Security.RateLimiter
import Moxui.Api.RateIsolation
import Moxui.Auth.Identities
import Moxui.Lib.Overwrite
import Moxui.Auth.PreAuthRuns
import Moxui.Auth.OidcGate
import Moxui.Auth.Jwt
import Moxui.Auth.FirstLogin
import Moxui.Api.Aggregates
import Moxui.Observability.Metrics
import Moxui.Api.TypedClient
import Moxui.Api.Operations
import Moxui.Dashboard.Custom
import Moxui.Dashboard.Persistence
import Moxui.Lib.Replace
import Moxui.Lib.SearchFilter
import Moxui.Lib.FilterReading
import Moxui.Lib.FilterTemplate
import Moxui.Lib.FilterLiteral
import Moxui.Auth.LdapFilter
import Moxui.Auth.StoreEdits
import Moxui.Auth.FailedRefresh
import Moxui.Dashboard.Failures
import Moxui.Dashboard.Ownership
import Moxui.Lib.Selection
import Moxui.Api.Backups
import Moxui.Webhook.Dispatch
import Moxui.Proxmox.BreakerTrace
import Moxui.Proxmox.BreakerRace
import Moxui.Lib.Digits
import Moxui.Security.ClientKey
import Moxui.Auth.ActiveCount
import Moxui.Proxmox.ApiRoot
import Moxui.Auth.BackupRemoval
import Moxui.Auth.TotpAcceptance
import Moxui.Auth.Base32
import Moxui.Auth.OtpauthUrl
import Moxui.Proxmox.TicketRuns
import Moxui.Auth.LogoutAtomicity
import Moxui.Api.VncUrl
import Moxui.Lib.Retry
import Moxui.Proxmox.Retry
import Moxui.Webhook.Retry
import Moxui.Lib.FormFields
import Moxui.Api.Encoders
import Moxui.Api.CreateVm
import Moxui.Api.LxcCreate
import Moxui.Lib.Doubles
import Moxui.Api.Flattening
import Moxui.Api.BulkActions
import Moxui.Lib.Tally
import Moxui.Api.DashboardTotals
import Moxui.Api.Readiness
import Moxui.Lib.Latch
import Moxui.Ui.Page
import Moxui.Ui.VmAction
import Moxui.Api.VncLimiter
import Moxui.Audit.RoundTrip
import Moxui.Ui.VmPolling
import Moxui.Lib.StableSort
import Moxui.Ui.VmTable
import Moxui.Lib.OrderedSet
import Moxui.Ui.VmSelection
import Moxui.Ui.WidgetLayout
import Moxui.Lib.Csv
import Moxui.Ui.CsvExport
import Moxui.Ui.PublicKey
import Moxui.Lib.Intervals
import Moxui.Ui.Session
import Moxui.Ui.VmDetail
import Moxui.Auth.Provenance
import Moxui.Api.Accountability
import Moxui.Lib.Relay
import Moxui.Api.VncRelay
import Moxui.Ui.ServerPaths
import Moxui.Ui.PageCalls
import Moxui.Ui.ActionDelivery
import Moxui.Lib.UrlForm
import Moxui.Audit.Listing
import Moxui.Ui.AuditPage
import Moxui.Lib.Grouping
import Moxui.Observability.Completions
import Moxui.Api.ConsoleTickets
import Moxui.Proxmox.SentOnce
import Moxui.Ui.ClusterLists
