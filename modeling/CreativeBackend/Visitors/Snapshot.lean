import CreativeBackend.Interaction.Sequential
import CreativeBackend.Relational.Keyset
import CreativeBackend.Visitors.SnapshotCursor
import Mathlib.Data.Prod.Lex

/-!
# The offline snapshot

`findOfflineSnapshotForStaff` sends the registrations of an event page by page, in the order of
their times of creation. The first page fixes the time of the snapshot and its change cursor, which
the cursor carries to the pages after it. A page holds the items of a keyset page.

## Implementation notes

`collate` is the order of the collation, in which the database compares primary keys. The event is
that of the active assignment of the staff member. The titles of the event and the badge template
are left out of the reply.
-/

namespace CreativeBackend

open Interaction Relational

/-! ## The queries -/

/-- The queries of the endpoint; the first page is read and counted in one transaction. -/
inductive SnapshotCall where
  | latestChangeAt (eventId : Id) (snapshotAsOf : Time)
  | firstPage (eventId : Id) (snapshotAsOf : Time) (take : Nat)
  | page (eventId : Id) (snapshotAsOf createdAt : Time) (id : Id) (take : Nat)

abbrev SnapshotResp : SnapshotCall → Type
  | .latestChangeAt _ _ => Option Nat
  | .firstPage _ _ _ => List VisitorRow × Nat
  | .page _ _ _ _ _ => List VisitorRow

abbrev SnapshotSvc := Prog SnapshotResp Exn

def snapshotCall (c : SnapshotCall) : SnapshotSvc (SnapshotResp c) := Prog.call c

section Database

variable {ρ : Type} [LinearOrder ρ] (collate : Id → ρ)

namespace VisitorDb

variable (db : VisitorDb)

/-- `_max.id` of the changes up to a time. -/
def latestChangeAt (eventId : Id) (snapshotAsOf : Time) : Option Nat :=
  ((db.journal.committed.filter fun c => c.eventId = eventId ∧ c.changedAt ≤ snapshotAsOf).map
    (·.id)).max?

/-- The registrations of an event up to a time. -/
def registrationsUntil (eventId : Id) (snapshotAsOf : Time) : List VisitorRegistration :=
  db.rows.registrations.filter fun x => x.eventId = eventId ∧ x.createdAt ≤ snapshotAsOf

/-- `orderBy: [createdAt, id]`, and the rows after a row of that order. -/
def orderedAfter (rows : List VisitorRegistration) (start : Option (Time × Id)) :
    List VisitorRegistration :=
  (rows.filter fun x => start.all fun s => decide
    (s.1 < x.createdAt ∨ x.createdAt = s.1 ∧ collate s.2 < collate x.id)).insertionSort fun x y =>
      x.createdAt < y.createdAt ∨ x.createdAt = y.createdAt ∧ collate x.id ≤ collate y.id

/-- A registration with the relations that the query selects. -/
def withRelations (x : VisitorRegistration) : VisitorRow where
  registration := x
  attendeeType := db.rows.attendeeTypes.find? fun t => t.id = x.attendeeTypeId
  qrToken := db.rows.qrTokens.find? fun t => t.registrationId = x.id

def snapshotRows (eventId : Id) (snapshotAsOf : Time) (start : Option (Time × Id)) (take : Nat) :
    List VisitorRow :=
  ((orderedAfter collate (db.registrationsUntil eventId snapshotAsOf) start).take take).map
    db.withRelations

end VisitorDb

end Database

/-! ## The endpoint -/

structure StaffOfflineSnapshotQueryDto where
  cursor : Option String := none
  limit : Int := 500

structure SnapshotReply where
  version : Nat
  id : String
  eventId : Id
  snapshotAsOf : String
  changeCursor : Json
  pageSize : Nat
  returnedCount : Nat
  totalCount : Option Nat
  hasMore : Bool
  nextCursor : Option String
  visitors : List OfflineVisitor

/-- What a request asks for: the page after a cursor, or a new snapshot. -/
structure SnapshotRequest where
  snapshotAsOf : Time
  changeCursor : Option Json := none
  start : Option (Time × Id) := none

variable (rt : Runtime) (lib : TextLibrary)

namespace VisitorsService

/-- `Math.min(Math.max(query.limit || 500, 50), 500)`. -/
def snapshotLimit (limit : Int) : Nat :=
  (min (max (if limit = 0 then 500 else limit) 50) 500).toNat

/-- The request of a cursor; without one the snapshot begins now. -/
def snapshotRequest (eventId : Id) (now : Time) (cursor : Option String) :
    Except Exn SnapshotRequest :=
  match truthy cursor with
  | none => .ok { snapshotAsOf := now }
  | some cursor => do
      let decodedCursor ← decodeOfflineSnapshotCursor rt lib cursor
      if decodedCursor.eventId ≠ eventId then
        throw (.badRequest "Offline snapshot cursor belongs to a different event")
      else
        let snapshotAsOf ← parseCursorDate rt decodedCursor.snapshotAsOf
          "Invalid snapshotAsOf inside offline snapshot cursor"
        let createdAt ← parseCursorDate rt decodedCursor.createdAt
          "Invalid createdAt inside offline snapshot cursor"
        return {
          snapshotAsOf
          changeCursor := decodedCursor.changeCursor
          start := some (createdAt, decodedCursor.id) }

def getLatestVisitorChangeCursorAt (eventId : Id) (snapshotAsOf : Time) : SnapshotSvc String := do
  let latest ← snapshotCall (.latestChangeAt eventId snapshotAsOf)
  return toString (latest.getD 0)

/-- `decodedCursor?.changeCursor`, or else the latest one. -/
def readChangeCursor (eventId : Id) (request : SnapshotRequest) : SnapshotSvc Json :=
  match request.changeCursor with
  | some changeCursor => return changeCursor
  | none => do
      let latest ← getLatestVisitorChangeCursorAt eventId request.snapshotAsOf
      return .str latest

/-- The rows of a page, and on the first page their number in all. -/
def readRows (eventId : Id) (request : SnapshotRequest) (take : Nat) :
    SnapshotSvc (List VisitorRow × Option Nat) :=
  match request.start with
  | none => do
      let (rows, totalCount) ← snapshotCall (.firstPage eventId request.snapshotAsOf take)
      return (rows, some totalCount)
  | some (createdAt, id) => do
      let rows ← snapshotCall (.page eventId request.snapshotAsOf createdAt id take)
      return (rows, none)

/-- The cursor of the page after a row. -/
def cursorAfter (eventId : Id) (snapshotAsOf : Time) (changeCursor : Json)
    (last : VisitorRegistration) : StaffOfflineSnapshotCursor where
  version := 3
  eventId := eventId
  snapshotAsOf := rt.toISOString snapshotAsOf
  createdAt := rt.toISOString last.createdAt
  id := last.id
  changeCursor := some changeCursor

/-- The reply for a page. -/
def snapshotReply (eventId : Id) (snapshotAsOf : Time) (changeCursor : Json) (limit : Nat)
    (items : List VisitorRow) (hasMore : Bool) (totalCount : Option Nat)
    (visitors : List OfflineVisitor) : SnapshotReply where
  version := 3
  id := createSnapshotId rt eventId (rt.toISOString snapshotAsOf)
  eventId := eventId
  snapshotAsOf := rt.toISOString snapshotAsOf
  changeCursor := changeCursor
  pageSize := limit
  returnedCount := items.length
  totalCount := totalCount
  hasMore := hasMore
  nextCursor := if hasMore then
      items.getLast?.map fun last => encodeOfflineSnapshotCursor rt
        (cursorAfter rt eventId snapshotAsOf changeCursor last.registration)
    else none
  visitors := visitors

def findOfflineSnapshotForStaff (eventId : Id) (now : Time) (query : StaffOfflineSnapshotQueryDto) :
    SnapshotSvc SnapshotReply := do
  let limit := snapshotLimit query.limit
  let request ← Prog.ofExcept (snapshotRequest rt lib eventId now query.cursor)
  let changeCursor ← readChangeCursor eventId request
  let (rows, totalCount) ← readRows eventId request (limit + 1)
  let hasMore : Bool := rows.length > limit
  let items := if hasMore then rows.take limit else rows
  let visitors ← Prog.ofExcept (items.mapM (formatOfflineVisitor rt))
  return snapshotReply rt eventId request.snapshotAsOf changeCursor limit items hasMore totalCount
    visitors

end VisitorsService

/-! ## The requests of a download -/

section Requests

variable {ρ : Type} [LinearOrder ρ] (collate : Id → ρ)

open VisitorsService

/-- The time and the limit of each request, and the databases that answer its queries: anything may
be written in between. -/
structure SnapshotRequests where
  now : Nat → Time
  limit : Nat → Int
  changes : Nat → VisitorDb
  rows : Nat → VisitorDb

namespace SnapshotRequests

variable (R : SnapshotRequests)

/-- The answers to the queries of a request. -/
def machine (n : Nat) : Machine SnapshotResp Exn Unit
  | .latestChangeAt eventId snapshotAsOf, s =>
      (.ok ((R.changes n).latestChangeAt eventId snapshotAsOf), s)
  | .firstPage eventId snapshotAsOf take, s =>
      (.ok ((R.rows n).snapshotRows collate eventId snapshotAsOf none take,
        ((R.rows n).registrationsUntil eventId snapshotAsOf).length), s)
  | .page eventId snapshotAsOf createdAt id take, s =>
      (.ok ((R.rows n).snapshotRows collate eventId snapshotAsOf (some (createdAt, id)) take), s)

/-- The reply to a request with a cursor. -/
def reply (eventId : Id) (n : Nat) (cursor : Option String) : Except Exn SnapshotReply :=
  ((findOfflineSnapshotForStaff rt lib eventId (R.now n) { cursor, limit := R.limit n }).run
    (R.machine collate n) ()).1

/-- The replies of a download: `nextCursor` is followed until there is no more. -/
inductive Download (eventId : Id) : Nat → Option String → List SnapshotReply → Prop
  | last {n : Nat} {cursor : Option String} {reply : SnapshotReply}
      (h : R.reply rt lib collate eventId n cursor = .ok reply) (hmore : reply.hasMore = false) :
      Download eventId n cursor [reply]
  | more {n : Nat} {cursor : Option String} {reply : SnapshotReply} {next : String}
      {rest : List SnapshotReply}
      (h : R.reply rt lib collate eventId n cursor = .ok reply) (hmore : reply.hasMore = true)
      (hnext : reply.nextCursor = some next) (hrest : Download eventId (n + 1) (some next) rest) :
      Download eventId n cursor (reply :: rest)

end SnapshotRequests

end Requests

end CreativeBackend
