import CortxCsm.Lib.Serial
import CortxCsm.Storage
import CortxCsm.Users
import CortxCsm.SessionSteps
import CortxCsm.Sessions
import CortxCsm.SessionQuota
import CortxCsm.SessionRevocation
import CortxCsm.SessionRoles
import CortxCsm.SessionBackends
import CortxCsm.UserDeletion
import CortxCsm.Gate
import CortxCsm.LastAdmin
import CortxCsm.Privilege
import CortxCsm.UserSerial
import CortxCsm.RgwUsers
import CortxCsm.ErrorReports
import CortxCsm.Throttle
import CortxCsm.Capacity
import CortxCsm.ClusterShutdown
import CortxCsm.Upgrade
import CortxCsm.UserQuota
import CortxCsm.SessionRemoval
import CortxCsm.SingleSession
import CortxCsm.Admission
import CortxCsm.PermissionAlgebra
import CortxCsm.PayloadPop
import CortxCsm.SessionRestore
import CortxCsm.SessionFailure
import CortxCsm.ResolvedAlerts
import CortxCsm.CertificateInstall
import CortxCsm.DomainKeys
import CortxCsm.Lib.Prune
import CortxCsm.Suppression
import CortxCsm.RgwReplies
import CortxCsm.Lib.Forest
import CortxCsm.Health
import CortxCsm.Lib.Pattern
import CortxCsm.Names
import CortxCsm.ClusterAdmin
import CortxCsm.UserPermissions
import CortxCsm.Lib.Slots
import CortxCsm.S3Endpoints
import CortxCsm.Lib.Raising
import CortxCsm.Multipart
import CortxCsm.Lib.Retry
import CortxCsm.StorageRetry
import CortxCsm.Disposition
import CortxCsm.ResourceLimits
import CortxCsm.Lib.WorkQueue
import CortxCsm.EmailQueue
import CortxCsm.Lib.Decimal
import CortxCsm.Lib.Parens
import CortxCsm.AggregationRule
import CortxCsm.Lib.Calendar
import CortxCsm.Lib.Replace
import CortxCsm.TimelionIndex
import CortxCsm.Lib.Binary64
import CortxCsm.TimelionWindow
import CortxCsm.Lib.Percent
import CortxCsm.Lib.Words
import CortxCsm.FilterQuery
import CortxCsm.Lib.JsonText
import CortxCsm.TimelionRequest
import CortxCsm.Lib.Groups
import CortxCsm.StatsMetrics
import CortxCsm.Lib.Ledger
import CortxCsm.Broadcast
import CortxCsm.AlertBus
import CortxCsm.Redelivery
import CortxCsm.Lib.Provision
import CortxCsm.SetupTopics
import CortxCsm.Lib.Schedule
import CortxCsm.ApiKeys
import CortxCsm.AlertComments
import CortxCsm.LyvePilot
import CortxCsm.LyveRegistrations
import CortxCsm.SessionLife
import CortxCsm.LoggedIn
import CortxCsm.Shutdown
import CortxCsm.Lib.Paging
import CortxCsm.Lib.Effects
import CortxCsm.UserListing
import CortxCsm.MailConnection
import CortxCsm.AlertNotices
import CortxCsm.ExpiryWarnings
import CortxCsm.MailStops
