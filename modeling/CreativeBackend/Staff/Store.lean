import CreativeBackend.Accounts.Rows
import CreativeBackend.Registrations.EditStore

/-!
# Staff sessions and assignments in the store

The rows that staff sessions and assignments are checked against, the statements of the two
services, and their transactions. A transaction is one step; one that fails leaves the store alone.

## Implementation notes

The `notes` of an assignment, and the columns that only listings return, are left out.
-/

namespace CreativeBackend

open Relational Interaction

inductive StaffScanMode where
  | ENTRY | EXIT | CHECKPOINT | BOOTH_VISIT | SESSION_ATTENDANCE | VIP_ACCESS
  deriving DecidableEq, Repr

namespace Staff

/-! ## Rows -/

/-- A staff session with all its columns. -/
structure Session where
  id : Id := ""
  eventId : Id
  staffUserId : Id
  deviceId : Id
  checkpointId : Id
  mode : StaffScanMode
  status : StaffSessionStatus := .ACTIVE
  startedAt : Time := 0
  endedAt : Option Time := none
  lastSeenAt : Option Time := none
  metadata : Option Json := none

instance : Record Session Id where
  key := (·.id)
  withKey k a := { a with id := k }
  key_withKey _ _ := rfl
  clash _ _ := false

/-- The columns of a new session. -/
structure NewSession where
  eventId : Id
  staffUserId : Id
  deviceId : Id
  checkpointId : Id
  mode : StaffScanMode
  metadata : Option Json

/-- `CreateStaffAssignmentDto`. -/
structure CreateStaffAssignmentDto where
  eventId : Id
  userId : Id
  checkpointId : Id
  deviceId : Id

/-- `UpdateAssignmentInput`, and the columns that an update writes. -/
structure AssignmentInput where
  checkpointId : Given Id := .undefined
  deviceId : Given Id := .undefined
  isActive : Given Bool := .undefined

/-- A session with the rows of `staffSessionInclude` that a response shows. -/
structure SessionView where
  session : Session
  event : Option Event
  checkpoint : Option Checkpoint
  device : Option Device

/-- An assignment with its checkpoint and device. -/
structure AssignmentView where
  assignment : StaffAssignment
  checkpoint : Option Checkpoint
  device : Option Device

/-- The `where` of the session that `startMySession` may reuse. -/
structure SessionWhere where
  eventId : Id
  staffUserId : Id
  deviceId : Id
  checkpointId : Id
  mode : StaffScanMode

def SessionWhere.holds (w : SessionWhere) (a : Session) : Bool :=
  a.eventId == w.eventId && a.staffUserId == w.staffUserId && a.deviceId == w.deviceId &&
    a.checkpointId == w.checkpointId && a.mode == w.mode && a.status == .ACTIVE && a.endedAt.isNone

structure StaffStore where
  clock : Time := 0
  events : Table Event := .empty
  users : Table User := .empty
  devices : Table Device := .empty
  checkpoints : Table Checkpoint := .empty
  sessions : Table Session := .empty
  assignments : Table StaffAssignment := .empty

namespace StaffStore

variable (s : StaffStore)

abbrev Answer (α : Type) := Except Exn α × StaffStore

def view (a : Session) : SessionView where
  session := a
  event := s.events.find? a.eventId
  checkpoint := s.checkpoints.find? a.checkpointId
  device := s.devices.find? a.deviceId

/-! ## Statements -/

/-- An active session with a property ends. -/
def endSession (where_ : Session → Bool) (now : Time) (a : Session) : Session :=
  if a.status = .ACTIVE ∧ where_ a = true then { a with status := .ENDED, endedAt := some now }
  else a

theorem endSession_id (where_ : Session → Bool) (now : Time) (a : Session) :
    (endSession where_ now a).id = a.id := by
  unfold endSession
  split <;> rfl

/-- `staffSession.updateMany` of active sessions to `ENDED`. -/
def endSessions (where_ : Session → Bool) (now : Time) : StaffStore :=
  { s with
    sessions := s.sessions.mapRows (endSession where_ now) (endSession_id where_ now)
      fun _ _ h => h }

/-- An active assignment with a property is deactivated. -/
def deactivate (where_ : StaffAssignment → Bool) (now : Time) (a : StaffAssignment) :
    StaffAssignment :=
  if a.isActive = true ∧ where_ a = true then { a with isActive := false, updatedAt := now } else a

theorem deactivate_id (where_ : StaffAssignment → Bool) (now : Time) (a : StaffAssignment) :
    (deactivate where_ now a).id = a.id := by
  unfold deactivate
  split <;> rfl

theorem deactivate_keys (where_ : StaffAssignment → Bool) (now : Time) (a : StaffAssignment) :
    (deactivate where_ now a).eventId = a.eventId ∧ (deactivate where_ now a).userId = a.userId := by
  unfold deactivate
  split <;> exact ⟨rfl, rfl⟩

theorem clash_of_deactivate (where_ : StaffAssignment → Bool) (now : Time) (a b : StaffAssignment)
    (h : clash (deactivate where_ now a) (deactivate where_ now b) = true) : clash a b = true := by
  obtain ⟨ha, ha'⟩ := deactivate_keys where_ now a
  obtain ⟨hb, hb'⟩ := deactivate_keys where_ now b
  simpa [clash, ha, ha', hb, hb'] using h

/-- `staffAssignment.updateMany` of active assignments to `isActive: false`. -/
def deactivateAssignments (where_ : StaffAssignment → Bool) : StaffStore :=
  { s with
    assignments := s.assignments.mapRows (deactivate where_ s.clock) (deactivate_id where_ s.clock)
      (clash_of_deactivate where_ s.clock) }

/-- `staffSession.create`. -/
def createSession (d : NewSession) (now : Time) : Except Exn (SessionView × StaffStore) :=
  if Store.refers s.events d.eventId && Store.refers s.users d.staffUserId &&
      Store.refers s.devices d.deviceId && Store.refers s.checkpoints d.checkpointId then
    match s.sessions.create {
        eventId := d.eventId
        staffUserId := d.staffUserId
        deviceId := d.deviceId
        checkpointId := d.checkpointId
        mode := d.mode
        startedAt := now
        lastSeenAt := some now
        metadata := d.metadata } with
    | none => .error (.prisma .uniqueConstraint)
    | some (row, t) => .ok (s.view row, { s with sessions := t })
  else .error (.prisma .foreignKey)

/-- `staffSession.update` of columns other than the keys. -/
def updateSession (id : Id) (f : Session → Session) : Except Exn (SessionView × StaffStore) :=
  match s.sessions.update id f with
  | .missing => .error (.prisma .notFound)
  | .duplicate => .error (.prisma .uniqueConstraint)
  | .done row t => .ok (s.view row, { s with sessions := t })

/-- `device.update` of `lastSeenAt`. -/
def touchDevice (id : Id) (now : Time) : Except Exn StaffStore :=
  match s.devices.update id fun d => { d with lastSeenAt := some now } with
  | .missing => .error (.prisma .notFound)
  | .duplicate => .error (.prisma .uniqueConstraint)
  | .done _ t => .ok { s with devices := t }

/-- The columns of an input written over an assignment. -/
def applyInput (now : Time) (p : AssignmentInput) (a : StaffAssignment) : StaffAssignment :=
  { a with
    checkpointId := p.checkpointId.orKeep a.checkpointId
    deviceId := p.deviceId.orKeep a.deviceId
    isActive := p.isActive.value?.getD a.isActive
    updatedAt := now }

/-- `staffAssignment.update`; `null` fits no required column. -/
def updateAssignment (id : Id) (p : AssignmentInput) :
    Except Exn (StaffAssignment × StaffStore) :=
  if p.isActive.isNull then .error (.prisma .validation)
  else if Store.refersOpt s.checkpoints p.checkpointId.value? &&
      Store.refersOpt s.devices p.deviceId.value? then
    match s.assignments.update id (applyInput s.clock p) with
    | .missing => .error (.prisma .notFound)
    | .duplicate => .error (.prisma .uniqueConstraint)
    | .done row t => .ok (row, { s with assignments := t })
  else .error (.prisma .foreignKey)

/-- `staffAssignment.create`. -/
def createAssignment (dto : CreateStaffAssignmentDto) :
    Except Exn (StaffAssignment × StaffStore) :=
  if Store.refers s.events dto.eventId && Store.refers s.users dto.userId &&
      Store.refers s.checkpoints dto.checkpointId && Store.refers s.devices dto.deviceId then
    match s.assignments.create {
        eventId := dto.eventId
        userId := dto.userId
        checkpointId := some dto.checkpointId
        deviceId := some dto.deviceId
        updatedAt := s.clock } with
    | none => .error (.prisma .uniqueConstraint)
    | some (row, t) => .ok (row, { s with assignments := t })
  else .error (.prisma .foreignKey)

/-! ## Transactions -/

/-- A transaction commits, or rolls back. -/
def commit {α : Type} : Except Exn (α × StaffStore) → Answer α
  | .ok (a, s') => (.ok a, s')
  | .error e => (.error e, s)

/-- The transaction of `start`. -/
def start (d : NewSession) (now : Time) : Except Exn (SessionView × StaffStore) := do
  let s := s.endSessions (fun a => a.staffUserId = d.staffUserId) now
  let s := s.endSessions (fun a => a.eventId = d.eventId ∧ a.deviceId = d.deviceId) now
  let (session, s) ← s.createSession d now
  let s ← s.touchDevice d.deviceId now
  return (session, s)

/-- The other sessions that a reused session ends. -/
def isSuperfluous (userId : Id) (assignment : StaffAssignment) (sessionId : Id) (a : Session) :
    Bool :=
  a.id ≠ sessionId && (a.staffUserId = userId || a.eventId = assignment.eventId &&
    (truthy (assignment.deviceId.map trim)).all (a.deviceId = ·))

/-- What a reused session is told. -/
def reusedMetadata (assignment : StaffAssignment) : Json :=
  .obj [("source", .str "START_MY_SESSION_REUSED"), ("assignmentId", .str assignment.id)]

/-- The transaction of `startMySession` for a session that can be reused. -/
def reuse (userId : Id) (assignment : StaffAssignment) (deviceId sessionId : Id) (now : Time) :
    Except Exn (SessionView × StaffStore) := do
  let s := s.endSessions (isSuperfluous userId assignment sessionId) now
  let (session, s) ← s.updateSession sessionId fun a =>
    { a with lastSeenAt := some now, metadata := some (reusedMetadata assignment) }
  let s ← s.touchDevice deviceId now
  return (session, s)

/-- The transaction of `StaffAssignmentsService.create`. -/
def assign (dto : CreateStaffAssignmentDto) (now : Time) :
    Except Exn (StaffAssignment × StaffStore) :=
  let s := s.endSessions (fun a => a.staffUserId = dto.userId) now
  let s := s.deactivateAssignments fun a => a.userId = dto.userId
  match s.assignments.rows.find? fun a => a.eventId = dto.eventId ∧ a.userId = dto.userId with
  | some existing => s.updateAssignment existing.id {
      checkpointId := .value dto.checkpointId
      deviceId := .value dto.deviceId
      isActive := .value true }
  | none => s.createAssignment dto

/-- The transaction that activates an assignment. -/
def activate (userId id : Id) (p : AssignmentInput) (now : Time) :
    Except Exn (StaffAssignment × StaffStore) :=
  let s := s.endSessions (fun a => a.staffUserId = userId) now
  let s := s.deactivateAssignments fun a => a.userId = userId ∧ a.id ≠ id
  s.updateAssignment id { p with isActive := .value true }

/-- The transaction that changes or deactivates an assignment. -/
def change (eventId userId id : Id) (p : AssignmentInput) (now : Time) :
    Except Exn (StaffAssignment × StaffStore) :=
  let s := s.endSessions (fun a => a.eventId = eventId ∧ a.staffUserId = userId) now
  s.updateAssignment id p

end StaffStore

/-! ## Calls -/

inductive StaffCall where
  | now
  | eventById (id : Id)
  | userById (id : Id)
  | deviceById (id : Id)
  | checkpointById (id : Id)
  | assignmentByEventAndUser (eventId userId : Id)
  | assignmentActive (userId : Id)
  | assignmentById (id : Id)
  | sessionReusable (w : SessionWhere)
  | sessionsActive (userId : Id)
  | sessionById (id : Id)
  | sessionsEnd (ids : List Id) (now : Time)
  | sessionEnd (id : Id) (now : Time)
  | assignmentUpdate (id : Id) (p : AssignmentInput)
  | start (d : NewSession) (now : Time)
  | reuse (userId : Id) (assignment : StaffAssignment) (deviceId sessionId : Id) (now : Time)
  | assign (dto : CreateStaffAssignmentDto) (now : Time)
  | activate (userId id : Id) (p : AssignmentInput) (now : Time)
  | change (eventId userId id : Id) (p : AssignmentInput) (now : Time)

/-- The answer of each call. -/
@[reducible] def StaffResp : StaffCall → Type
  | .now => Time
  | .eventById _ => Option Event
  | .userById _ => Option User
  | .deviceById _ => Option Device
  | .checkpointById _ => Option Checkpoint
  | .assignmentByEventAndUser _ _ => Option StaffAssignment
  | .assignmentActive _ => Option AssignmentView
  | .assignmentById _ => Option StaffAssignment
  | .sessionReusable _ => Option Session
  | .sessionsActive _ => List Id
  | .sessionById _ => Option SessionView
  | .sessionsEnd _ _ => Nat
  | .sessionEnd _ _ => SessionView
  | .assignmentUpdate _ _ => StaffAssignment
  | .start _ _ => SessionView
  | .reuse _ _ _ _ _ => SessionView
  | .assign _ _ => StaffAssignment
  | .activate _ _ _ _ => StaffAssignment
  | .change _ _ _ _ _ => StaffAssignment

abbrev StaffSvc (α : Type) := Prog StaffResp Exn α

/-- A call of the staff services. -/
def staffCall (c : StaffCall) : StaffSvc (StaffResp c) := Prog.call c

/-- A query answers from the store and leaves it alone. -/
def staffQuery {α : Type} (s : StaffStore) (a : α) : StaffStore.Answer α := (.ok a, s)

/-- The descending order of a nullable column; `NULL` comes last. -/
def laterTime : Option Time → Option Time → Bool
  | some a, some b => b < a
  | some _, none => true
  | none, _ => false

/-- `orderBy: [{ lastSeenAt: 'desc' }, { startedAt: 'desc' }]`. -/
def seenLater (ch : Choice) (a b : Session) : Prop :=
  laterTime a.lastSeenAt b.lastSeenAt = true ∨ a.lastSeenAt = b.lastSeenAt ∧ (b.startedAt < a.startedAt ∨
    a.startedAt = b.startedAt ∧ ch.rank a.id ≤ ch.rank b.id)

instance (ch : Choice) : DecidableRel (seenLater ch) :=
  fun _ _ => inferInstanceAs (Decidable (_ ∨ _))

namespace StaffStore

variable (ch : Choice) (s : StaffStore)

/-- The active assignment of a user that was updated last. -/
def activeAssignment (userId : Id) : Option AssignmentView :=
  (((s.assignments.rows.filter fun a => a.userId = userId ∧ a.isActive = true).insertionSort
    ch.newestAssignment).head?).map fun a =>
      ⟨a, a.checkpointId.bind s.checkpoints.find?, a.deviceId.bind s.devices.find?⟩

/-- The session that can be reused and was seen last. -/
def reusableSession (w : SessionWhere) : Option Session :=
  ((s.sessions.rows.filter w.holds).insertionSort (seenLater ch)).head?

/-- The sessions of `ids` that are active. -/
def stillActive (ids : List Id) : List Session :=
  s.sessions.rows.filter fun a => a.id ∈ ids ∧ a.status = .ACTIVE

end StaffStore

/-- Answer a call from the store. -/
def staffMachine (ch : Choice) : Machine StaffResp Exn StaffStore
  | .now, s => staffQuery s s.clock
  | .eventById id, s => staffQuery s (s.events.find? id)
  | .userById id, s => staffQuery s (s.users.find? id)
  | .deviceById id, s => staffQuery s (s.devices.find? id)
  | .checkpointById id, s => staffQuery s (s.checkpoints.find? id)
  | .assignmentByEventAndUser eventId userId, s => staffQuery s
      (s.assignments.rows.find? fun a => a.eventId = eventId ∧ a.userId = userId)
  | .assignmentActive userId, s => staffQuery s (s.activeAssignment ch userId)
  | .assignmentById id, s => staffQuery s (s.assignments.find? id)
  | .sessionReusable w, s => staffQuery s (s.reusableSession ch w)
  | .sessionsActive userId, s => staffQuery s
      ((s.sessions.rows.filter fun a => a.staffUserId = userId ∧ a.status = .ACTIVE).map (·.id))
  | .sessionById id, s => staffQuery s ((s.sessions.find? id).map s.view)
  | .sessionsEnd ids now, s =>
      (.ok (s.stillActive ids).length, s.endSessions (fun a => a.id ∈ ids) now)
  | .sessionEnd id now, s => s.commit
      (s.updateSession id fun a => { a with status := .ENDED, endedAt := some now })
  | .assignmentUpdate id p, s => s.commit (s.updateAssignment id p)
  | .start d now, s => s.commit (s.start d now)
  | .reuse userId assignment deviceId sessionId now, s =>
      s.commit (s.reuse userId assignment deviceId sessionId now)
  | .assign dto now, s => s.commit (s.assign dto now)
  | .activate userId id p now, s => s.commit (s.activate userId id p now)
  | .change eventId userId id p now, s => s.commit (s.change eventId userId id p now)

end Staff

end CreativeBackend
