import CreativeBackend.Dashboard.Attendance
import CreativeBackend.Dashboard.TimeSeries
import Mathlib.Data.List.Sort

/-!
# Figures of attendance

The summary and the analytics of a client and the report of an event count registrations and
movements. Rates are kept in hundredths of a percent, rounded as `toFixed(2)` rounds the exact
quotient.

The counts of movements and tokens in a report and the series of the analytics are left out.
-/

namespace CreativeBackend

/-! ## Counts -/

/-- `groupBy` with `_count`. -/
def groupCounts {α κ : Type} [DecidableEq κ] (key : α → κ) (rows : List α) : List (κ × Nat) :=
  ((rows.map key).eraseDups).map fun k => (k, rows.countP fun a => key a = k)

def getTotalCount {κ : Type} (counts : List (κ × Nat)) : Nat :=
  counts.foldl (fun total item => total + item.2) 0

def getStatusCount {κ : Type} [DecidableEq κ] (counts : List (κ × Nat)) (status : κ) : Nat :=
  ((counts.find? fun item => item.1 = status).map (·.2)).getD 0

/-- A quotient rounded to hundredths, a half upwards. -/
def toFixed2 (numerator denominator : Nat) : Nat :=
  (200 * numerator + denominator) / (2 * denominator)

/-- `Number(((part / whole) * 100).toFixed(2))`, in hundredths. -/
def percentage (part whole : Nat) : Nat := toFixed2 (100 * part) whole

structure RegistrationCounts where
  total : Nat
  active : Nat
  cancelled : Nat
  blocked : Nat
  archived : Nat
  deriving DecidableEq, Repr

def countByStatus (counts : List (RegistrationStatus × Nat)) : RegistrationCounts where
  total := getTotalCount counts
  active := getStatusCount counts .ACTIVE
  cancelled := getStatusCount counts .CANCELLED
  blocked := getStatusCount counts .BLOCKED
  archived := getStatusCount counts .ARCHIVED

section Services

variable {ρ : Type} [Ord ρ] (c : Collation ρ) (db : DashboardDb)

/-- The event belongs to the client. -/
def isEventOf (clientId eventId : Id) : Bool :=
  (db.events.find? fun e => e.id = eventId).any fun e => c.same e.clientId clientId

/-- The registrations with an allowed movement of a type in some events, each once. -/
def uniqueRegistrationIds (inEvent : Id → Bool) (type : MovementType) : List Id :=
  ((db.movementLogs.filter fun m => inEvent m.eventId && m.type = type && m.result = .ALLOWED).map
    (·.registrationId)).eraseDups

/-! ## The summary of a client -/

structure AttendanceFigures where
  uniqueCheckedIn : Nat
  uniqueExited : Nat
  currentInsideApprox : Nat
  attendanceRate : Nat
  deriving DecidableEq, Repr

/-- The rate of no active registrations is 0. -/
def attendanceFigures (uniqueCheckedIn uniqueExited active : Nat) : AttendanceFigures where
  uniqueCheckedIn := uniqueCheckedIn
  uniqueExited := uniqueExited
  currentInsideApprox := uniqueCheckedIn - uniqueExited
  attendanceRate := if active = 0 then 0 else percentage uniqueCheckedIn active

structure EventCounts where
  total : Nat
  draft : Nat
  scheduled : Nat
  active : Nat
  completed : Nat
  cancelled : Nat
  archived : Nat
  deriving DecidableEq, Repr

structure ClientSummary where
  client : Client
  events : EventCounts
  registrations : RegistrationCounts
  pending : Nat
  attendance : AttendanceFigures

namespace ClientDashboardService

open ClientDashboardQueryService

def summary (user : AuthUser) : Except HttpExn ClientSummary := do
  let clientId ← getClientIdOrThrow user
  match db.clients.find? fun client => c.same client.id clientId && client.isActive with
  | none => .error (.forbidden "Client dashboard access is unavailable")
  | some client =>
      let eventCounts := groupCounts (fun e => Event.status e.toEvent)
        (db.events.filter fun e => c.same e.clientId clientId)
      let registrationCounts := groupCounts Registration.status
        (db.registrations.filter fun r => isEventOf c db clientId r.eventId)
      let uniqueEntryRows := uniqueRegistrationIds db (isEventOf c db clientId) .ENTRY
      let uniqueExitRows := uniqueRegistrationIds db (isEventOf c db clientId) .EXIT
      let registrations := countByStatus registrationCounts
      .ok {
        client
        events := {
          total := getTotalCount eventCounts
          draft := getStatusCount eventCounts .DRAFT
          scheduled := getStatusCount eventCounts .SCHEDULED
          active := getStatusCount eventCounts .ACTIVE
          completed := getStatusCount eventCounts .COMPLETED
          cancelled := getStatusCount eventCounts .CANCELLED
          archived := getStatusCount eventCounts .ARCHIVED }
        registrations
        pending := getStatusCount registrationCounts .PENDING
        attendance := attendanceFigures uniqueEntryRows.length uniqueExitRows.length
          registrations.active }

end ClientDashboardService

/-! ## The report of an event -/

structure EventReport where
  event : ListedEvent
  registrations : RegistrationCounts
  attendance : AttendanceFigures

namespace ReportsService

def assertCanViewEvent (user : AuthUser) (eventId : Id) : Except HttpExn ListedEvent :=
  match db.events.find? fun e => c.same e.id eventId with
  | none => .error (.notFound "Event not found")
  | some event =>
      if user.role = .SUPER_ADMIN then .ok event
      else if user.role = .CLIENT_VIEWER ∧ user.clientId = some event.clientId then .ok event
      else .error (.forbidden "You cannot view reports for this event")

def overview (user : AuthUser) (eventId : Id) : Except HttpExn EventReport := do
  let event ← assertCanViewEvent c db user eventId
  let registrationCounts := groupCounts Registration.status
    (db.registrations.filter fun r => c.same r.eventId eventId)
  let uniqueEntryRows := uniqueRegistrationIds db (c.same · eventId) .ENTRY
  let uniqueExitRows := uniqueRegistrationIds db (c.same · eventId) .EXIT
  let registrations := countByStatus registrationCounts
  .ok {
    event
    registrations
    attendance := attendanceFigures uniqueEntryRows.length uniqueExitRows.length
      registrations.active }

end ReportsService

/-! ## The analytics of a client -/

def DEFAULT_ANALYTICS_DAYS : Int := 30
def MAX_ANALYTICS_RANGE_DAYS : Int := 366
def DAY_IN_MILLISECONDS : Int := 24 * 60 * 60 * 1000

/-- The filters and the dates of the query; a date that cannot be read is there without a time. -/
structure ClientAnalyticsQueryDto where
  filters : ClientRegistrationFilterInput := {}
  from_ : Option (Option Time) := none
  to_ : Option (Option Time) := none
  topLimit : Option Nat := none

structure TopEvent where
  event : ListedEvent
  registrations : Nat
  attended : Nat
  attendanceRate : Option Nat

structure ClientAnalytics where
  period : AnalyticsPeriod
  totalRegistrations : Nat
  activeRegistrations : Nat
  cancelledRegistrations : Nat
  uniqueCheckedIn : Nat
  uniqueExited : Nat
  currentInsideApprox : Nat
  attendanceRate : Option Nat
  cancellationRate : Option Nat
  eventsWithRegistrations : Nat
  averageRegistrationsPerEvent : Option Nat
  registrationsByStatus : List (RegistrationStatus × Nat)
  registrationsBySource : List (RegistrationSource × Nat)
  topEvents : List TopEvent

namespace ClientAnalyticsService

open ClientDashboardQueryService

/-- The first day of the default range up to a time, at midnight. -/
def defaultFrom (to_ : Time) : Time :=
  Date.day (to_ - (DEFAULT_ANALYTICS_DAYS - 1) * DAY_IN_MILLISECONDS) * DAY_IN_MILLISECONDS

def resolvePeriod (now : Time) (fromValue toValue : Option (Option Time)) :
    Except HttpExn AnalyticsPeriod :=
  let to_ := toValue.getD (some now)
  let from_ := fromValue.getD (to_.map defaultFrom)
  match from_, to_ with
  | some from_, some to_ =>
      if from_ > to_ then .error (.badRequest "\"from\" must be before or equal to \"to\"")
      else if to_ - from_ > MAX_ANALYTICS_RANGE_DAYS * DAY_IN_MILLISECONDS then
        .error (.badRequest s!"Analytics date range cannot exceed {MAX_ANALYTICS_RANGE_DAYS} days")
      else .ok { from_, to_ }
  | _, _ => .error (.badRequest "Invalid analytics date range")

def calculateRate (numerator denominator : Nat) : Option Nat :=
  if denominator = 0 then none else some (percentage numerator denominator)

/-- The entry of an event group; events that are not the client's have none. -/
def topEvent (clientId : Id) (attendedEventGroups : List (Id × Nat)) (group : Id × Nat) :
    Option TopEvent :=
  (db.events.find? fun e => e.id = group.1 && c.same e.clientId clientId).map fun event =>
    let attended := getStatusCount attendedEventGroups group.1
    { event, registrations := group.2, attended, attendanceRate := calculateRate attended group.2 }

def getAnalytics (now : Time) (user : AuthUser) (query : ClientAnalyticsQueryDto) :
    Except HttpExn ClientAnalytics := do
  let clientId ← getClientIdOrThrow user
  let period ← resolvePeriod now query.from_ query.to_
  let filterQuery := { query.filters with from_ := some period.from_, to_ := some period.to_ }
  let rows := db.registrations.filter (buildRegistrationWhere c db clientId filterQuery)
  let attended := rows.filter (hasAllowed db .ENTRY)
  let exited := rows.filter (hasAllowed db .EXIT)
  let statusGroups := groupCounts Registration.status rows
  let sourceGroups := groupCounts Registration.source rows
  let eventGroups := groupCounts Registration.eventId rows
  let attendedEventGroups := groupCounts Registration.eventId attended
  let activeRegistrations := getStatusCount statusGroups .ACTIVE
  let cancelledRegistrations := getStatusCount statusGroups .CANCELLED
  let topEvents := (eventGroups.filterMap
    (topEvent c db clientId attendedEventGroups)).insertionSort
      fun first second => second.registrations ≤ first.registrations
  let statuses := [RegistrationStatus.PENDING, .ACTIVE, .CANCELLED, .BLOCKED, .ARCHIVED]
  let sources :=
    [RegistrationSource.ONLINE, .ONSITE, .EXCEL_IMPORT, .OFFLINE_DEVICE, .ADMIN, .PUBLIC]
  .ok {
    period
    totalRegistrations := rows.length
    activeRegistrations
    cancelledRegistrations
    uniqueCheckedIn := attended.length
    uniqueExited := exited.length
    currentInsideApprox := attended.length - exited.length
    attendanceRate := calculateRate attended.length activeRegistrations
    cancellationRate := calculateRate cancelledRegistrations rows.length
    eventsWithRegistrations := eventGroups.length
    averageRegistrationsPerEvent :=
      if eventGroups.length = 0 then none else some (toFixed2 rows.length eventGroups.length)
    registrationsByStatus := statuses.map fun status => (status, getStatusCount statusGroups status)
    registrationsBySource := sources.map fun source => (source, getStatusCount sourceGroups source)
    topEvents := topEvents.take (query.topLimit.getD 10) }

end ClientAnalyticsService

end Services

end CreativeBackend
