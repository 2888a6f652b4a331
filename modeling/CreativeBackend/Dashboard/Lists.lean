import CreativeBackend.Accounts.Rows
import CreativeBackend.Registrations.EditStore
import CreativeBackend.Relational.Offset

/-!
# Lists of registrations and events

The queries of the paginated lists: which rows match, in which order they are asked for, and which
part of the answer is a page. How the database compares texts is a parameter. An answer is any
order of the matching rows that the query asks for; rows that compare equal come in any order.

The columns that a list selects are left out.
-/

namespace CreativeBackend

open Relational Relational.Offset

/-! ## The database -/

inductive EventType where
  | EXHIBITION | CONFERENCE | WORKSHOP | SUMMIT | FESTIVAL | CAREER_FAIR | OTHER
  deriving DecidableEq, Repr

structure ListedEvent extends Event where
  clientId : Id
  type : EventType := .EXHIBITION
  createdAt : Time := 0

structure Venue where
  eventId : Id
  country : Option String := none

structure DashboardDb where
  clients : List Client := []
  events : List ListedEvent := []
  venues : List Venue := []
  registrations : List Registration := []
  registrationFields : List RegistrationField := []
  movementLogs : List MovementLog := []
  staffAssignments : List StaffAssignment := []

/-- How the database compares texts. -/
structure Collation (ρ : Type) where
  collate : String → ρ
  contains : String → String → Bool

/-- The exceptions of the endpoints that serve lists. -/
inductive HttpExn where
  | badRequest (message : String)
  | forbidden (message : String)
  | notFound (message : String)
  | payloadTooLarge (message : String)
  deriving DecidableEq, Repr

/-- The place of a value in its `ENUM` column. -/
def EventStatus.index : EventStatus → Nat
  | .DRAFT => 1
  | .SCHEDULED => 2
  | .ACTIVE => 3
  | .COMPLETED => 4
  | .CANCELLED => 5
  | .ARCHIVED => 6

def RegistrationStatus.index : RegistrationStatus → Nat
  | .PENDING => 1
  | .ACTIVE => 2
  | .CANCELLED => 3
  | .BLOCKED => 4
  | .ARCHIVED => 5

/-! ## Orders -/

inductive SortDirection where
  | asc | desc
  deriving DecidableEq, Repr

/-- `{ column: direction }`. -/
def sortedBy {α κ : Type} [Ord κ] (column : α → κ) : SortDirection → α → α → Ordering
  | .asc => compareOn column
  | .desc => fun a b => compareOn column b a

theorem transCmp_sortedBy {α κ : Type} [Ord κ] [Std.TransOrd κ] (column : α → κ)
    (d : SortDirection) : Std.TransCmp (sortedBy column d) := by
  cases d with
  | asc => exact inferInstanceAs (Std.TransCmp (compareOn column))
  | desc => exact inferInstanceAs (Std.TransCmp fun a b => compareOn column b a)

instance {α κ : Type} [Ord κ] [Std.TransOrd κ] (column : α → κ) (d : SortDirection) :
    Std.TransCmp (sortedBy column d) := transCmp_sortedBy column d

/-! ## Pages -/

/-- The page and its size, as the decorators of the query let them through. -/
structure PaginationQueryDto where
  page : Option Nat := none
  limit : Option Nat := none
  page_pos : ∀ n ∈ page, 1 ≤ n := by simp
  limit_pos : ∀ n ∈ limit, 1 ≤ n := by simp
  limit_le : ∀ n ∈ limit, n ≤ 100 := by simp

/-- The request for the page after `k` others. -/
def PaginationQueryDto.after (query : PaginationQueryDto) (k : Nat) : PaginationQueryDto :=
  { query with page := some (k + 1), page_pos := by simp }

structure PaginatedResponse (α : Type) where
  items : List α
  total : Nat
  page : Nat
  limit : Nat
  pages : Nat

def DEFAULT_PAGE : Nat := 1
def DEFAULT_LIMIT : Nat := 20
def MAX_LIMIT : Nat := 100

structure Pagination where
  page : Nat
  limit : Nat
  skip : Nat

def normalizePagination (query : PaginationQueryDto) : Pagination :=
  let page := max (query.page.getD DEFAULT_PAGE) DEFAULT_PAGE
  let limit := min (max (query.limit.getD DEFAULT_LIMIT) 1) MAX_LIMIT
  { page, limit, skip := (page - 1) * limit }

/-- `Math.ceil(total / limit)`. -/
def ceilDiv (total limit : Nat) : Nat := (total + limit - 1) / limit

def createPaginatedResponse {α : Type} (items : List α) (total page limit : Nat) :
    PaginatedResponse α :=
  { items, total, page, limit, pages := ceilDiv total limit }

/-! ## The services -/

section Services

variable {ρ : Type} [Ord ρ] (c : Collation ρ) (db : DashboardDb)

/-- `column = value`. -/
def Collation.same (a b : String) : Bool := compare (c.collate a) (c.collate b) == .eq

/-- `column: { contains: value }` for a nullable column. -/
def Collation.containsOpt (column : Option String) (value : String) : Bool :=
  column.any fun text => c.contains text value

structure ListRegistrationsQueryDto extends PaginationQueryDto where
  eventId : Option Id := none
  attendeeTypeId : Option Id := none
  status : Option RegistrationStatus := none
  source : Option RegistrationSource := none
  search : Option String := none

namespace RegistrationsService

/-- The condition of the list, which the export of the administrators has as well. -/
def listWhere (query : ListRegistrationsQueryDto) (r : Registration) : Bool :=
  (truthy query.eventId).all (c.same r.eventId) &&
    (truthy query.attendeeTypeId).all (c.same r.attendeeTypeId) &&
    query.status.all (fun status => r.status = status) &&
    query.source.all (fun source => r.source = source) &&
    (truthy query.search).all fun search =>
      c.contains r.fullName search || c.containsOpt r.phone search ||
        c.containsOpt r.email search || c.containsOpt r.companyName search ||
        c.containsOpt r.externalId search

def listOrder : Registration → Registration → Ordering := sortedBy (·.registeredAt) .desc

def listMatching (query : ListRegistrationsQueryDto) : List Registration :=
  db.registrations.filter (listWhere c query)

/-- `answer` is the order in which the database has the matching rows. -/
def findAll (query : ListRegistrationsQueryDto) (answer : List Registration) :
    PaginatedResponse Registration :=
  let p := normalizePagination query.toPaginationQueryDto
  createPaginatedResponse (window p.skip p.limit answer) (listMatching c db query).length
    p.page p.limit

end RegistrationsService

structure ListVisitorsQueryDto extends PaginationQueryDto where
  search : Option String := none
  fullName : Option String := none
  phone : Option String := none
  email : Option String := none
  status : Option RegistrationStatus := none
  attendeeTypeId : Option Id := none

structure ListAdminVisitorsQueryDto extends ListVisitorsQueryDto where
  eventId : Option Id := none

namespace VisitorsService

def buildWhere (query : ListVisitorsQueryDto) (eventId : Option Id) (r : Registration) : Bool :=
  (truthy eventId).all (c.same r.eventId) &&
    (truthy query.attendeeTypeId).all (c.same r.attendeeTypeId) &&
    query.status.all (fun status => r.status = status) &&
    (truthy query.fullName).all (c.contains r.fullName) &&
    (truthy query.phone).all (c.containsOpt r.phone) &&
    (truthy query.email).all (c.containsOpt r.email) &&
    (truthy query.search).all fun search =>
      c.contains r.fullName search || c.containsOpt r.phone search ||
        c.containsOpt r.email search || c.contains r.publicId search

def visitorOrder : Registration → Registration → Ordering := sortedBy (·.registeredAt) .desc

def visitorMatching (query : ListVisitorsQueryDto) (eventId : Option Id) : List Registration :=
  db.registrations.filter (buildWhere c query eventId)

def findVisitors (query : ListVisitorsQueryDto) (eventId : Option Id)
    (answer : List Registration) : PaginatedResponse Registration :=
  let p := normalizePagination query.toPaginationQueryDto
  createPaginatedResponse (window p.skip p.limit answer)
    (visitorMatching c db query eventId).length p.page p.limit

def findForAdmin (query : ListAdminVisitorsQueryDto) (answer : List Registration) :
    PaginatedResponse Registration :=
  findVisitors c db query.toListVisitorsQueryDto query.eventId answer

def activeAssignments (userId : Id) : List StaffAssignment :=
  db.staffAssignments.filter fun a => c.same a.userId userId && a.isActive

def assignmentOrder : StaffAssignment → StaffAssignment → Ordering := sortedBy (·.updatedAt) .desc

/-- The list of the event of the latest assignment; `assignments` and `answer` are the orders in
which the database has the assignments and the visitors of an event. -/
def findForStaff (query : ListVisitorsQueryDto) (assignments : List StaffAssignment)
    (answer : Id → List Registration) : Except HttpExn (Id × PaginatedResponse Registration) :=
  match assignments.head? with
  | none => .error (.notFound "No active staff assignment found")
  | some assignment => .ok (assignment.eventId,
      findVisitors c db query (some assignment.eventId) (answer assignment.eventId))

end VisitorsService

/-! ## The lists of a client -/

inductive ClientRegistrationAttendanceFilter where
  | ATTENDED | NOT_ATTENDED
  deriving DecidableEq, Repr

inductive ClientRegistrationSortBy where
  | REGISTERED_AT | FULL_NAME | STATUS | EVENT_TITLE
  deriving DecidableEq, Repr

structure ClientRegistrationFilterInput where
  search : Option String := none
  eventId : Option Id := none
  eventIds : Option (List Id) := none
  attendeeTypeId : Option Id := none
  status : Option RegistrationStatus := none
  source : Option RegistrationSource := none
  attendance : Option ClientRegistrationAttendanceFilter := none
  from_ : Option Time := none
  to_ : Option Time := none
  eventCountry : Option String := none

structure ClientRegistrationsQueryDto
    extends PaginationQueryDto, ClientRegistrationFilterInput where
  sortBy : ClientRegistrationSortBy := .REGISTERED_AT
  sortDirection : SortDirection := .desc

/-- `registration.event`. -/
def DashboardDb.eventOf (r : Registration) : Option ListedEvent :=
  db.events.find? fun e => e.id = r.eventId

namespace ClientDashboardQueryService

def getClientIdOrThrow (user : AuthUser) : Except HttpExn Id :=
  match user.role, truthy user.clientId with
  | .CLIENT_VIEWER, some clientId => .ok clientId
  | _, _ => .error (.forbidden "Client account is not associated with a client")

def validateDateRange (from_ to_ : Option Time) : Except HttpExn Unit :=
  match from_, to_ with
  | some from_, some to_ =>
      if from_ > to_ then .error (.badRequest "\"from\" must be before or equal to \"to\"")
      else .ok ()
  | _, _ => .ok ()

/-- `{ some: { type: 'ENTRY', result: 'ALLOWED' } }`. -/
def hasAllowed (type : MovementType) (r : Registration) : Bool :=
  db.movementLogs.any fun m => m.registrationId = r.id && m.type = type && m.result = .ALLOWED

def buildRegistrationWhere (clientId : Id) (query : ClientRegistrationFilterInput)
    (r : Registration) : Bool :=
  (db.eventOf r).any (fun e => c.same e.clientId clientId) &&
    ((truthy query.search).all fun search =>
      c.contains r.publicId search || c.contains r.fullName search ||
        c.containsOpt r.phone search || c.containsOpt r.email search ||
        c.containsOpt r.companyName search || c.containsOpt r.jobTitle search ||
        (db.eventOf r).any fun e =>
          c.contains e.titleAr search || c.containsOpt e.titleEn search) &&
    (truthy query.eventId).all (c.same r.eventId) &&
    (query.eventIds.all fun ids => ids.isEmpty || ids.any (c.same r.eventId)) &&
    (truthy query.attendeeTypeId).all (c.same r.attendeeTypeId) &&
    query.status.all (fun status => r.status = status) &&
    query.source.all (fun source => r.source = source) &&
    query.from_.all (fun from_ => from_ ≤ r.registeredAt) &&
    query.to_.all (fun to_ => r.registeredAt ≤ to_) &&
    ((truthy query.eventCountry).all fun country => db.venues.any fun v =>
      v.eventId = r.eventId && c.containsOpt v.country country) &&
    query.attendance.all fun
      | .ATTENDED => hasAllowed db .ENTRY r
      | .NOT_ATTENDED => !hasAllowed db .ENTRY r

def buildRegistrationOrderBy (query : ClientRegistrationsQueryDto) :
    Registration → Registration → Ordering :=
  let direction := query.sortDirection
  let id r := c.collate (Registration.id r)
  match query.sortBy with
  | .FULL_NAME =>
      compareLex (sortedBy (fun r => c.collate r.fullName) direction) (sortedBy id direction)
  | .STATUS => compareLex (sortedBy (·.status.index) direction)
      (compareLex (sortedBy (·.registeredAt) .desc) (sortedBy id .desc))
  | .EVENT_TITLE =>
      compareLex (sortedBy (fun r => (db.eventOf r).map fun e => c.collate e.titleAr) direction)
        (compareLex (sortedBy (·.registeredAt) .desc) (sortedBy id .desc))
  | .REGISTERED_AT => compareLex (sortedBy (·.registeredAt) direction) (sortedBy id direction)

end ClientDashboardQueryService

/-- The page of a list of a client. -/
def clientPage {α : Type} (query : PaginationQueryDto) (answer : List α) (total : Nat) :
    PaginatedResponse α :=
  let page := query.page.getD 1
  let limit := query.limit.getD 20
  let skip := (page - 1) * limit
  { items := window skip limit answer, total, page, limit
    pages := if total = 0 then 0 else ceilDiv total limit }

namespace ClientRegistrationsService

open ClientDashboardQueryService

def matching (clientId : Id) (query : ClientRegistrationFilterInput) : List Registration :=
  db.registrations.filter (buildRegistrationWhere c db clientId query)

/-- The list without the attendance of its registrations. -/
def findAll (user : AuthUser) (query : ClientRegistrationsQueryDto)
    (answer : Id → List Registration) : Except HttpExn (PaginatedResponse Registration) := do
  let clientId ← getClientIdOrThrow user
  validateDateRange query.from_ query.to_
  .ok (clientPage query.toPaginationQueryDto (answer clientId)
    (matching c db clientId query.toClientRegistrationFilterInput).length)

end ClientRegistrationsService

inductive ClientEventSortBy where
  | STARTS_AT | ENDS_AT | CREATED_AT | TITLE_AR | STATUS
  deriving DecidableEq, Repr

structure ClientEventsQueryDto extends PaginationQueryDto where
  search : Option String := none
  status : Option EventStatus := none
  type : Option EventType := none
  from_ : Option Time := none
  to_ : Option Time := none
  country : Option String := none
  sortBy : ClientEventSortBy := .STARTS_AT
  sortDirection : SortDirection := .desc

namespace ClientEventsService

open ClientDashboardQueryService

def buildEventWhere (clientId : Id) (query : ClientEventsQueryDto) (e : ListedEvent) : Bool :=
  c.same e.clientId clientId &&
    ((truthy query.search).all fun search =>
      c.contains e.titleAr search || c.containsOpt e.titleEn search) &&
    query.status.all (fun status => e.status = status) &&
    query.type.all (fun type => e.type = type) &&
    query.from_.all (fun from_ => from_ ≤ e.startsAt) &&
    query.to_.all (fun to_ => e.startsAt ≤ to_) &&
    (truthy query.country).all fun country => db.venues.any fun v =>
      v.eventId = e.id && c.containsOpt v.country country

def buildOrderBy (query : ClientEventsQueryDto) : ListedEvent → ListedEvent → Ordering :=
  match query.sortBy with
  | .ENDS_AT => sortedBy (·.endsAt) query.sortDirection
  | .CREATED_AT => sortedBy (·.createdAt) query.sortDirection
  | .TITLE_AR => sortedBy (fun e => c.collate e.titleAr) query.sortDirection
  | .STATUS => sortedBy (·.status.index) query.sortDirection
  | .STARTS_AT => sortedBy (·.startsAt) query.sortDirection

def matching (clientId : Id) (query : ClientEventsQueryDto) : List ListedEvent :=
  db.events.filter (buildEventWhere c db clientId query)

def findAll (user : AuthUser) (query : ClientEventsQueryDto) (answer : Id → List ListedEvent) :
    Except HttpExn (PaginatedResponse ListedEvent) := do
  let clientId ← getClientIdOrThrow user
  validateDateRange query.from_ query.to_
  .ok (clientPage query.toPaginationQueryDto (answer clientId)
    (matching c db clientId query).length)

end ClientEventsService

end Services

end CreativeBackend
