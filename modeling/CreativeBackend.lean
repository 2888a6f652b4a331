import CreativeBackend.Interaction.Program
import CreativeBackend.Interaction.Sequential
import CreativeBackend.Interaction.Embedding
import CreativeBackend.Interaction.Failures
import CreativeBackend.Interaction.Concurrent
import CreativeBackend.Interaction.Service
import CreativeBackend.Interaction.Discipline
import CreativeBackend.Interaction.Results
import CreativeBackend.Interaction.Interference
import CreativeBackend.Interaction.History
import CreativeBackend.Interaction.Reaching
import CreativeBackend.Interaction.OwnLog
import CreativeBackend.Relational.Table
import CreativeBackend.Relational.Order
import CreativeBackend.Runtime.Values
import CreativeBackend.Runtime.Text
import CreativeBackend.Store.Schema
import CreativeBackend.Store.State
import CreativeBackend.Store.Calls
import CreativeBackend.Store.Effects
import CreativeBackend.Qr.OfflineQr
import CreativeBackend.Qr.QrService
import CreativeBackend.Qr.Issue
import CreativeBackend.Scans.Validation
import CreativeBackend.Qr.Codec
import CreativeBackend.Scans.Response
import CreativeBackend.Scans.Ingest
import CreativeBackend.Scans.OfflineScans
import CreativeBackend.Scans.Footprint
import CreativeBackend.Scans.Service
import CreativeBackend.Qr.KeyHistory
import CreativeBackend.Qr.OfflineParsing
import CreativeBackend.Qr.Agreement
import CreativeBackend.Qr.Convergence
import CreativeBackend.Scans.Decisions
import CreativeBackend.Scans.Admission
import CreativeBackend.Scans.OperationIds
import CreativeBackend.Scans.RawAgreement
import CreativeBackend.Scans.ReEntry
import CreativeBackend.Scans.Settlement
import CreativeBackend.Scans.AsScanned
import CreativeBackend.Registrations.CustomFields
import CreativeBackend.Admin.AttendeeTypes
import CreativeBackend.Registrations.Create
import CreativeBackend.Registrations.Creation
import CreativeBackend.Registrations.Remove
import CreativeBackend.Scans.Removed
import CreativeBackend.Admin.Dto
import CreativeBackend.Admin.Rows
import CreativeBackend.Admin.Updates
import CreativeBackend.Admin.PartialUpdates
import CreativeBackend.Registrations.EditStore
import CreativeBackend.Registrations.Update
import CreativeBackend.Registrations.UpdateEffects
import CreativeBackend.Registrations.Duplicates
import CreativeBackend.Registrations.FieldsService
import CreativeBackend.Registrations.FormEdits
import CreativeBackend.Registrations.ChoiceFields
import CreativeBackend.Registrations.FieldKeys
import CreativeBackend.Sync.OfflineRegistration
import CreativeBackend.Sync.SyncStore
import CreativeBackend.Sync.SyncService
import CreativeBackend.Sync.SyncEffects
import CreativeBackend.Sync.Executions
import CreativeBackend.Sync.Ownership
import CreativeBackend.Sync.ExactlyOnce
import CreativeBackend.Sync.Resubmission
import CreativeBackend.Sync.Solo
import CreativeBackend.Sync.Entries
import CreativeBackend.Sync.Submission
import CreativeBackend.Sync.Accounting
import CreativeBackend.Sync.Isolation
import CreativeBackend.Sync.Retryability
import CreativeBackend.Sync.Persons
import CreativeBackend.Sync.Badges
import CreativeBackend.Sync.BadgeOutcomes
import CreativeBackend.Qr.ActiveTokens
import CreativeBackend.Sync.LocalReferences
import CreativeBackend.Sync.Recovery
import CreativeBackend.Relational.Parents
import CreativeBackend.Admin.Zones
import CreativeBackend.Admin.ZoneForest
import CreativeBackend.Visitors.Journal
import CreativeBackend.Visitors.VisitorsService
import CreativeBackend.Visitors.Delta
import CreativeBackend.Visitors.StaffEdits
import CreativeBackend.Visitors.EditConflicts
import CreativeBackend.Relational.Keyset
import CreativeBackend.Runtime.Base64
import CreativeBackend.Runtime.JsonText
import CreativeBackend.Visitors.SnapshotCursor
import CreativeBackend.Visitors.Snapshot
import CreativeBackend.Visitors.SnapshotPages
import CreativeBackend.Accounts.Sessions
import CreativeBackend.Queue.Redis
import CreativeBackend.Queue.Stream
import CreativeBackend.Queue.Delivery
import CreativeBackend.Queue.Jobs
import CreativeBackend.Queue.PendingScans
import CreativeBackend.Queue.FastScans
import CreativeBackend.Whatsapp.Messages
import CreativeBackend.Whatsapp.TicketRequests
import CreativeBackend.Whatsapp.SenderBinding
import CreativeBackend.Whatsapp.Webhooks
import CreativeBackend.Notifications.Store
import CreativeBackend.Notifications.NotificationsService
import CreativeBackend.Notifications.Deliveries
import CreativeBackend.Notifications.Deduplication
import CreativeBackend.Notifications.JobNames
import CreativeBackend.Relational.Alone
import CreativeBackend.Accounts.Rows
import CreativeBackend.Staff.Store
import CreativeBackend.Staff.Services
import CreativeBackend.Staff.Effects
import CreativeBackend.Staff.Runs
import CreativeBackend.Staff.ActiveSessions
import CreativeBackend.Staff.Bindings
import CreativeBackend.Accounts.Store
import CreativeBackend.Accounts.Services
import CreativeBackend.Accounts.TokenEffects
import CreativeBackend.Accounts.TokenRuns
import CreativeBackend.Accounts.SingleUse
import CreativeBackend.Accounts.CutOffs
import CreativeBackend.Runtime.Paths
import CreativeBackend.Storage.StorageCleanup
import CreativeBackend.Storage.LiveImages
import CreativeBackend.Tickets.Store
import CreativeBackend.Tickets.Services
import CreativeBackend.Tickets.Files
import CreativeBackend.Tickets.Trails
import CreativeBackend.Tickets.Names
import CreativeBackend.Tickets.FilesMatch
import CreativeBackend.Tickets.Rendering
import CreativeBackend.Tickets.CurrentToken
import CreativeBackend.Tickets.Pending
import CreativeBackend.Tickets.PublicService
import CreativeBackend.Tickets.PublicFailures
import CreativeBackend.Tickets.PublicRetry
import CreativeBackend.Sync.PayloadConflicts
import CreativeBackend.Whatsapp.PreparedMessage
import CreativeBackend.Notifications.Rendering
import CreativeBackend.Notifications.Rounds
import CreativeBackend.Notifications.ManualRetries
import CreativeBackend.Imports.Spreadsheet
import CreativeBackend.Imports.Columns
import CreativeBackend.Imports.Suggestions
import CreativeBackend.Imports.Matches
import CreativeBackend.Imports.SoundSuggestions
import CreativeBackend.Tickets.Layout
import CreativeBackend.Runtime.Resolution
import CreativeBackend.Storage.SafePaths
import CreativeBackend.Tickets.Backgrounds
import CreativeBackend.Runtime.Calendar
import CreativeBackend.Runtime.Cells
import CreativeBackend.Runtime.Dates
import CreativeBackend.Dashboard.TimeSeries
import CreativeBackend.Qr.Windows
import CreativeBackend.Qr.WindowRuns
import CreativeBackend.Qr.Revocations
import CreativeBackend.Relational.References
import CreativeBackend.Relational.Levels
import CreativeBackend.Deletion.Schema
import CreativeBackend.Deletion.Writes
import CreativeBackend.Deletion.Services
import CreativeBackend.Deletion.Locations
import CreativeBackend.Deletion.Removals
import CreativeBackend.Deletion.Guards
import CreativeBackend.Deletion.Events
import CreativeBackend.Deletion.EventRemovals
import CreativeBackend.Deletion.Subtrees
import CreativeBackend.Runtime.Filling
import CreativeBackend.Tickets.Wrapping
import CreativeBackend.Relational.Offset
import CreativeBackend.Dashboard.Lists
import CreativeBackend.Dashboard.Pagination
import CreativeBackend.Dashboard.ExportColumns
import CreativeBackend.Dashboard.ExportCells
import CreativeBackend.Relational.MovingPages
import CreativeBackend.Dashboard.Attendance
import CreativeBackend.Dashboard.Exporter
import CreativeBackend.Dashboard.ExportPages
import CreativeBackend.Dashboard.Figures
import CreativeBackend.Dashboard.AttendanceFigures
