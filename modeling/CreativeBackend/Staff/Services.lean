import CreativeBackend.Staff.Store

/-!
# Staff sessions and assignments

`StaffSessionsService` and `StaffAssignmentsService`: checks made with single calls, and one
transaction or one update at the end.
-/

namespace CreativeBackend.Staff

open Interaction

/-- `StartStaffSessionDto`. -/
structure StartStaffSessionDto where
  eventId : Id
  deviceId : Id
  checkpointId : Id
  mode : StaffScanMode
  metadata : Option Json := none
  staffUserId : Option Id := none

/-- A refused request; the status of `ForbiddenException` is not told apart. -/
def forbidden {α : Type} (message : String) : StaffSvc α := throw (.error message)

/-! ## Checks that both services make -/

def ensureEventCanBeModified (eventId : Id) : StaffSvc Event := do
  match ← staffCall (.eventById eventId) with
  | none => throw (.notFound "Event not found")
  | some event =>
      if event.status = .ARCHIVED then throw (.badRequest "Archived events cannot be modified")
      else return event

def ensureStaffUser (userId : Id) : StaffSvc User := do
  match ← staffCall (.userById userId) with
  | none => throw (.notFound "User not found")
  | some user =>
      if user.role ≠ .STAFF then throw (.badRequest "User must have STAFF role")
      else if user.status ≠ .ACTIVE then throw (.badRequest "Staff user must be ACTIVE")
      else return user

/-- `ensureActiveDeviceBelongsToEvent` of the sessions and `ensureDeviceBelongsToEvent` of the
assignments. -/
def ensureDeviceBelongsToEvent (deviceId eventId : Id) : StaffSvc Device := do
  match ← staffCall (.deviceById deviceId) with
  | none => throw (.notFound "Device not found")
  | some device =>
      if device.eventId ≠ eventId then
        throw (.badRequest "Device must belong to the same event")
      else if device.status ≠ .ACTIVE then throw (.badRequest "Device must be ACTIVE")
      else return device

/-- `ensureActiveCheckpointBelongsToEvent` of the sessions and `ensureCheckpointBelongsToEvent` of
the assignments. -/
def ensureCheckpointBelongsToEvent (checkpointId eventId : Id) : StaffSvc Checkpoint := do
  match ← staffCall (.checkpointById checkpointId) with
  | none => throw (.notFound "Checkpoint not found")
  | some checkpoint =>
      if checkpoint.eventId ≠ eventId then
        throw (.badRequest "Checkpoint must belong to the same event")
      else if checkpoint.isActive = false then throw (.badRequest "Checkpoint must be active")
      else return checkpoint

/-! ## Sessions -/

namespace StaffSessionsService

def resolveStaffUserId (currentUser : AuthUser) (staffUserId : Option Id) : StaffSvc Id :=
  match currentUser.role with
  | .STAFF =>
      if (truthy staffUserId).any (· ≠ currentUser.id) then
        forbidden "STAFF cannot start a session for another user"
      else return currentUser.id
  | .SUPER_ADMIN =>
      match truthy staffUserId with
      | none => throw (.badRequest "staffUserId is required for SUPER_ADMIN")
      | some staffUserId => return staffUserId
  | .CLIENT_VIEWER => forbidden "Only STAFF or SUPER_ADMIN can start sessions"

def ensureActiveAssignmentBinding (eventId staffUserId deviceId checkpointId : Id) :
    StaffSvc StaffAssignment := do
  match ← staffCall (.assignmentByEventAndUser eventId staffUserId) with
  | none => throw (.badRequest "Staff user must have an active assignment for this event")
  | some assignment =>
      if assignment.isActive = false then
        throw (.badRequest "Staff user must have an active assignment for this event")
      else
        match truthy assignment.deviceId, truthy assignment.checkpointId with
        | none, _ => throw (.badRequest "Staff assignment does not include a device")
        | some _, none => throw (.badRequest "Staff assignment does not include a checkpoint")
        | some device, some checkpoint =>
            if device ≠ deviceId then
              throw (.badRequest "Session device must match the staff assignment device")
            else if checkpoint ≠ checkpointId then
              throw (.badRequest "Session checkpoint must match the staff assignment checkpoint")
            else return assignment

def resolveModeForCheckpoint : CheckpointType → StaffScanMode
  | .ENTRY => .ENTRY
  | .EXIT => .EXIT
  | .BOOTH => .BOOTH_VISIT
  | .SESSION_ROOM => .SESSION_ATTENDANCE
  | .VIP_AREA => .VIP_ACCESS
  | _ => .CHECKPOINT

/-- The name of a mode. -/
def modeName : StaffScanMode → String
  | .ENTRY => "ENTRY"
  | .EXIT => "EXIT"
  | .CHECKPOINT => "CHECKPOINT"
  | .BOOTH_VISIT => "BOOTH_VISIT"
  | .SESSION_ATTENDANCE => "SESSION_ATTENDANCE"
  | .VIP_ACCESS => "VIP_ACCESS"

def start (currentUser : AuthUser) (dto : StartStaffSessionDto) : StaffSvc SessionView := do
  let staffUserId ← resolveStaffUserId currentUser dto.staffUserId
  let _ ← ensureEventCanBeModified dto.eventId
  let _ ← ensureStaffUser staffUserId
  let device ← ensureDeviceBelongsToEvent dto.deviceId dto.eventId
  let checkpoint ← ensureCheckpointBelongsToEvent dto.checkpointId dto.eventId
  let _ ← ensureActiveAssignmentBinding dto.eventId staffUserId device.id checkpoint.id
  let expectedMode := resolveModeForCheckpoint checkpoint.type
  if dto.mode ≠ expectedMode then
    throw (.badRequest ("Staff session mode must match checkpoint type. Expected " ++
      modeName expectedMode))
  else do
    let now ← staffCall .now
    staffCall (.start {
      eventId := dto.eventId
      staffUserId
      deviceId := dto.deviceId
      checkpointId := dto.checkpointId
      mode := expectedMode
      metadata := dto.metadata } now)

/-- The assignment that `startMySession` works with, and its device and checkpoint. -/
def usableAssignment (userId : Id) : StaffSvc (StaffAssignment × Id × Checkpoint × Id) := do
  match ← staffCall (.assignmentActive userId) with
  | none => throw (.notFound "No active staff assignment found")
  | some view =>
      match truthy view.assignment.checkpointId, view.checkpoint with
      | some checkpointId, some checkpoint =>
          match truthy view.assignment.deviceId, view.device with
          | some deviceId, some device =>
              if checkpoint.isActive = false then
                throw (.badRequest "Assigned checkpoint must be active")
              else if device.status ≠ .ACTIVE then
                throw (.badRequest "Assigned device must be ACTIVE")
              else return (view.assignment, checkpointId, checkpoint, deviceId)
          | _, _ => throw (.badRequest "Active staff assignment must include deviceId")
      | _, _ => throw (.badRequest "Active staff assignment must include checkpointId")

/-- The columns of a session that a member of staff is shown. -/
structure SafeSession where
  session : Session
  event : Option (Id × String × Option String)
  checkpoint : Option (Id × String × Option String × String × CheckpointType)
  device : Option (Id × String × String)

def toSafeSessionResponse (v : SessionView) : SafeSession where
  session := { v.session with metadata := none }
  event := v.event.map fun e => (e.id, e.titleAr, e.titleEn)
  checkpoint := v.checkpoint.map fun c => (c.id, c.nameAr, c.nameEn, c.code, c.type)
  device := v.device.map fun d => (d.id, d.name, d.code)

/-- `startMySession` from the look-up of a session to reuse on. -/
def reuseOrStart (currentUser : AuthUser) (assignment : StaffAssignment) (checkpointId : Id)
    (deviceId : Id) (expectedMode : StaffScanMode) : StaffSvc SafeSession := do
  let now ← staffCall .now
  match ← staffCall (.sessionReusable {
      eventId := assignment.eventId
      staffUserId := currentUser.id
      deviceId
      checkpointId
      mode := expectedMode }) with
  | some reusable => do
      let refreshed ← staffCall (.reuse currentUser.id assignment deviceId reusable.id now)
      return toSafeSessionResponse refreshed
  | none => do
      let staffSession ← start currentUser {
        eventId := assignment.eventId
        staffUserId := some currentUser.id
        checkpointId
        deviceId
        mode := expectedMode
        metadata := some (.obj [("source", .str "START_MY_SESSION"),
          ("assignmentId", .str assignment.id)]) }
      return toSafeSessionResponse staffSession

def startMySession (currentUser : AuthUser) : StaffSvc SafeSession := do
  if currentUser.role ≠ .STAFF then forbidden "Only STAFF can start their own scanner session"
  else do
    let _ ← ensureStaffUser currentUser.id
    let (assignment, checkpointId, checkpoint, deviceId) ← usableAssignment currentUser.id
    reuseOrStart currentUser assignment checkpointId deviceId
      (resolveModeForCheckpoint checkpoint.type)

/-- The count of the sessions that were ended. -/
def endMySession (currentUser : AuthUser) : StaffSvc Nat := do
  if currentUser.role ≠ .STAFF then forbidden "Only STAFF can end their own scanner session"
  else do
    let now ← staffCall .now
    let activeSessions ← staffCall (.sessionsActive currentUser.id)
    if activeSessions = [] then return 0
    else staffCall (.sessionsEnd activeSessions now)

/-- `end`. -/
def endById (id : Id) : StaffSvc SessionView := do
  match ← staffCall (.sessionById id) with
  | none => throw (.notFound "Staff session not found")
  | some view =>
      if view.session.status = .ENDED then return view
      else do
        let now ← staffCall .now
        staffCall (.sessionEnd id now)

end StaffSessionsService

/-! ## Assignments -/

namespace StaffAssignmentsService

def create (dto : CreateStaffAssignmentDto) : StaffSvc StaffAssignment := do
  let _ ← ensureEventCanBeModified dto.eventId
  let _ ← ensureStaffUser dto.userId
  let _ ← ensureCheckpointBelongsToEvent dto.checkpointId dto.eventId
  let _ ← ensureDeviceBelongsToEvent dto.deviceId dto.eventId
  let now ← staffCall .now
  staffCall (.assign dto now)

def findOne (id : Id) : StaffSvc StaffAssignment := do
  match ← staffCall (.assignmentById id) with
  | none => throw (.notFound "Staff assignment not found")
  | some assignment => return assignment

/-- An input names another value than the assignment has: `undefined` names none. -/
def isChanged (input : Given Id) (old : Option Id) : Bool :=
  match input with
  | .undefined => false
  | .null => old.isSome
  | .value id => old ≠ some id

/-- The end of `update`, from `new Date()` on. -/
def writeUpdate (assignment : StaffAssignment) (id : Id) (input : AssignmentInput) :
    StaffSvc StaffAssignment := do
  let checkpointChanged := isChanged input.checkpointId assignment.checkpointId
  let deviceChanged := isChanged input.deviceId assignment.deviceId
  let now ← staffCall .now
  if input.isActive.value? = some true then
    staffCall (.activate assignment.userId id input now)
  else if input.isActive.value? = some false ∨ checkpointChanged = true ∨ deviceChanged = true then
    staffCall (.change assignment.eventId assignment.userId id input now)
  else staffCall (.assignmentUpdate id input)

/-- `input.checkpointId ?? assignment.checkpointId`, where it is not empty. -/
def nextId (input : Given Id) (old : Option Id) : Option Id := truthy (input.value?.or old)

def update (id : Id) (input : AssignmentInput) : StaffSvc StaffAssignment := do
  let assignment ← findOne id
  let _ ← ensureEventCanBeModified assignment.eventId
  let _ ← ensureStaffUser assignment.userId
  match nextId input.checkpointId assignment.checkpointId, nextId input.deviceId assignment.deviceId with
  | none, _ => throw (.badRequest "Active staff assignment must include checkpointId")
  | some _, none => throw (.badRequest "Active staff assignment must include deviceId")
  | some nextCheckpointId, some nextDeviceId => do
      let _ ← ensureCheckpointBelongsToEvent nextCheckpointId assignment.eventId
      let _ ← ensureDeviceBelongsToEvent nextDeviceId assignment.eventId
      writeUpdate assignment id input

def deactivate (id : Id) : StaffSvc StaffAssignment := do
  let assignment ← findOne id
  let _ ← ensureEventCanBeModified assignment.eventId
  let now ← staffCall .now
  staffCall (.change assignment.eventId assignment.userId id { isActive := .value false } now)

def activate (id : Id) : StaffSvc StaffAssignment := do
  let assignment ← findOne id
  let _ ← ensureEventCanBeModified assignment.eventId
  let now ← staffCall .now
  let _ ← ensureStaffUser assignment.userId
  match truthy assignment.checkpointId, truthy assignment.deviceId with
  | none, _ =>
      throw (.badRequest "Staff assignment must include checkpointId before activation")
  | some _, none =>
      throw (.badRequest "Staff assignment must include deviceId before activation")
  | some checkpointId, some deviceId => do
      let _ ← ensureCheckpointBelongsToEvent checkpointId assignment.eventId
      let _ ← ensureDeviceBelongsToEvent deviceId assignment.eventId
      staffCall (.activate assignment.userId id {} now)

end StaffAssignmentsService

/-! ## The operations together -/

/-- The operations on sessions and assignments. -/
inductive StaffOp where
  | start (currentUser : AuthUser) (dto : StartStaffSessionDto)
  | startMySession (currentUser : AuthUser)
  | endMySession (currentUser : AuthUser)
  | endById (id : Id)
  | create (dto : CreateStaffAssignmentDto)
  | update (id : Id) (input : AssignmentInput)
  | activate (id : Id)
  | deactivate (id : Id)

def StaffOp.program : StaffOp → StaffSvc Unit
  | start currentUser dto => (StaffSessionsService.start currentUser dto).void
  | startMySession currentUser => (StaffSessionsService.startMySession currentUser).void
  | endMySession currentUser => (StaffSessionsService.endMySession currentUser).void
  | endById id => (StaffSessionsService.endById id).void
  | create dto => (StaffAssignmentsService.create dto).void
  | update id input => (StaffAssignmentsService.update id input).void
  | activate id => (StaffAssignmentsService.activate id).void
  | deactivate id => (StaffAssignmentsService.deactivate id).void

/-- Any number of operations over one store; others may change the rows that are checked. -/
def staffService : Service StaffResp Exn StaffStore where
  Choice := Choice
  machine := staffMachine
  faulty _ := True
  env s s' := s'.sessions = s.sessions ∧ s'.assignments = s.assignments
  starts s p s' := s' = s ∧ ∃ op : StaffOp, p = op.program

end CreativeBackend.Staff
