import CreativeBackend.Scans.Ingest

/-!
# Redis, the scan queue and the flusher's table

The calls of `RedisService`, `RedisScanFlusherService` and `ScanProcessingProcessor`: a
command of Redis, a bulk insertion of raw scans, an access to the memory of the flusher,
or a transition of a job.

## Implementation notes

The ids of the stream are numbers in the order of XADD, and `0` is `0-0`. `createMany` rejects
values that no column can hold. A row whose references are missing is skipped with the duplicates,
or fails the statement, as `strict` says. A job is named by its position in the queue; it is run
again until it completes or has failed three times.
-/

namespace CreativeBackend

open Relational Interaction

/-- An entry of the stream with its flat list of fields and values. -/
structure StreamEntry where
  id : Nat
  fields : List String
  deriving DecidableEq, Repr

structure Redis where
  keys : List (String × Time) := []
  stream : List StreamEntry := []
  lastStreamId : Nat := 0

/-- The data of one row of `scanEventRaw.createMany`; `none` is `undefined`, or an invalid
date. -/
structure RawScanData where
  operationId : Option String
  eventId : Option Id
  deviceId : Option Id
  staffSessionId : Option Id
  checkpointId : Option Id
  qrRaw : Option String
  type : Option String
  scannedAtDevice : Option Time
  receivedAtServer : Option Time
  payload : Option Json

/-- The attempts of a queue job. -/
def SCAN_JOB_ATTEMPTS : Nat := 3

/-- The database, Redis, the memory of the flusher, and what became of the queue jobs. -/
structure QueueStore where
  base : Store
  redis : Redis := {}
  lastId : Nat := 0
  flushing : Bool := false
  completed : List Nat := []
  failures : List Nat := []

/-! ## The bulk insertion -/

/-- The names of the enumeration. -/
def MovementType.text : MovementType → String
  | .ENTRY => "ENTRY"
  | .EXIT => "EXIT"
  | .CHECKPOINT => "CHECKPOINT"
  | .BOOTH_VISIT => "BOOTH_VISIT"
  | .SESSION_ATTENDANCE => "SESSION_ATTENDANCE"
  | .VIP_ACCESS => "VIP_ACCESS"

def MovementType.ofText (text : String) : Option MovementType :=
  [MovementType.ENTRY, .EXIT, .CHECKPOINT, .BOOTH_VISIT, .SESSION_ATTENDANCE, .VIP_ACCESS].find?
    fun type => type.text = text

namespace RawScanData

/-- The row, unless a value is missing or of the wrong type. -/
def row? (d : RawScanData) : Option ScanEventRaw := do
  let operationId ← d.operationId
  let eventId ← d.eventId
  let deviceId ← d.deviceId
  let type ← d.type.bind MovementType.ofText
  let scannedAtDevice ← d.scannedAtDevice
  let receivedAtServer ← d.receivedAtServer
  return {
    operationId
    eventId
    deviceId
    staffSessionId := d.staffSessionId
    checkpointId := d.checkpointId
    qrRaw := d.qrRaw
    type
    scannedAtDevice
    receivedAtServer
    payload := d.payload }

theorem operationId_of_row? {d : RawScanData} {a : ScanEventRaw} (h : d.row? = some a) :
    d.operationId = some a.operationId := by
  simp only [row?, Option.bind_eq_bind, Option.bind_eq_some_iff] at h
  obtain ⟨operationId, hop, _, -, _, -, _, -, _, -, _, -, hrow⟩ := h
  cases hrow
  exact hop

end RawScanData

namespace Store

/-- The row's references exist. -/
def refersAll (s : Store) (a : ScanEventRaw) : Bool :=
  refers s.events a.eventId && refers s.devices a.deviceId &&
    refersOpt s.staffSessions a.staffSessionId && refersOpt s.checkpoints a.checkpointId

/-- Some raw scan has the operation id. -/
def hasRawScan (s : Store) (operationId : String) : Bool :=
  s.rawScans.rows.any fun a => a.operationId = operationId

/-- Insert a row, unless its operation id is stored already; `none` rejects the statement. -/
def insertRawScan (strict : Bool) (s : Store) (a : ScanEventRaw) : Option Store :=
  if s.hasRawScan a.operationId then some s
  else if s.refersAll a then
    some ((s.rawScans.create a).elim s fun created => { s with rawScans := created.2 })
  else if strict then none else some s

/-- Insert rows one after the other. -/
def insertRawScans (strict : Bool) : Store → List ScanEventRaw → Option Store
  | s, [] => some s
  | s, a :: rest => (insertRawScan strict s a).bind fun s' => insertRawScans strict s' rest

/-- `scanEventRaw.createMany` with `skipDuplicates`. -/
def createManyRawScans (strict : Bool) (s : Store) (data : List RawScanData) : Answer Unit :=
  match data.mapM RawScanData.row? with
  | none => (.error (.prisma .validation), s)
  | some rows =>
      match insertRawScans strict s rows with
      | none => (.error (.prisma .foreignKey), s)
      | some s' => (.ok (), s')

end Store

/-! ## The calls -/

inductive QueueCall where
  | base (c : Call)
  | connect
  | setNx (key : String) (seconds : Nat)
  | xadd (fields : List String)
  | xread (count lastId : Nat)
  | createManyRawScans (data : List RawScanData)
  | beginFlush
  | lastId
  | advance (id : Nat)
  | endFlush
  | updateProgress (progress : Nat)
  | jobCompleted (job : Nat)
  | jobFailed (job : Nat)

@[reducible] def QueueResp : QueueCall → Type
  | .base c => Resp c
  | .connect => Unit
  | .setNx _ _ => Bool
  | .xadd _ => Unit
  | .xread _ _ => List StreamEntry
  | .createManyRawScans _ => Unit
  | .beginFlush => Bool
  | .lastId => Nat
  | .advance _ => Unit
  | .endFlush => Unit
  | .updateProgress _ => Unit
  | .jobCompleted _ => Unit
  | .jobFailed _ => Unit

abbrev QueueSvc := Prog QueueResp Exn

def queueCall (c : QueueCall) : QueueSvc (QueueResp c) := Prog.call c

/-- A program of the scan service among the calls of the queue. -/
def onDatabase {α : Type} : Svc α → QueueSvc α
  | .ret a => .ret a
  | .throw e => .throw e
  | .ask c k => .ask (.base c) fun r => onDatabase (k r)

namespace Redis

variable (r : Redis)

/-- The key is set and has not expired. -/
def isSet (now : Time) (key : String) : Bool := r.keys.any fun k => k.1 = key ∧ now < k.2

/-- `XADD` with an id of its own. -/
def add (fields : List String) : Redis :=
  { r with
    stream := r.stream ++ [⟨r.lastStreamId + 1, fields⟩]
    lastStreamId := r.lastStreamId + 1 }

/-- `XREAD COUNT`; a count of zero is no limit. -/
def read (count lastId : Nat) : List StreamEntry :=
  let later := r.stream.filter fun e => lastId < e.id
  if count = 0 then later else later.take count

end Redis

/-- The answer of a call on the database. -/
def onQueueBase {α : Type} (s : QueueStore) (a : Store.Answer α) : Except Exn α × QueueStore :=
  (a.1, { s with base := a.2 })

/-- Answer a call. -/
def queueMachine (rt : Runtime) (strict : Bool) (ch : Choice) : Machine QueueResp Exn QueueStore
  | .base c, s => onQueueBase s (machine rt ch c s.base)
  | .connect, s => (.ok (), s)
  | .setNx key seconds, s =>
      if s.redis.isSet s.base.clock key then (.ok false, s)
      else (.ok true, { s with redis := { s.redis with
        keys := (key, s.base.clock + 1000 * seconds) :: s.redis.keys } })
  | .xadd fields, s => (.ok (), { s with redis := s.redis.add fields })
  | .xread count lastId, s => (.ok (s.redis.read count lastId), s)
  | .createManyRawScans data, s => onQueueBase s (s.base.createManyRawScans strict data)
  | .beginFlush, s => (.ok s.flushing, { s with flushing := true })
  | .lastId, s => (.ok s.lastId, s)
  | .advance id, s => (.ok (), { s with lastId := id })
  | .endFlush, s => (.ok (), { s with flushing := false })
  | .updateProgress _, s => (.ok (), s)
  | .jobCompleted job, s => (.ok (), { s with completed := s.completed ++ [job] })
  | .jobFailed job, s => (.ok (), { s with failures := s.failures ++ [job] })

/-! ## The services -/

/-- The settings of the Redis ingest. -/
structure RedisConfig where
  scanIngestEnabled : Bool := true
  flushBatchSize : Nat := 500

variable (rt : Runtime) (config : RedisConfig)

structure EnqueueReply where
  accepted : Bool := true
  duplicate : Bool := false
  queued : Bool := true
  transport : String := "redis-stream"

namespace RedisService

/-- The key that stands for an operation. -/
def operationKey (operationId : String) : String := "scan:op:" ++ operationId

/-- The fields of a stream entry. -/
def scanFields (dto : CreateScanDto) (receivedAtServer : Time) : List String :=
  ["operationId", dto.operationId, "eventId", dto.eventId, "deviceId", dto.deviceId,
    "staffSessionId", dto.staffSessionId.getD "", "checkpointId", dto.checkpointId.getD "",
    "qrRaw", dto.qrToken, "type", dto.type.text, "scannedAtDevice", dto.scannedAtDevice,
    "payload", (dto.payload.map rt.jsonStringify).getD "",
    "receivedAtServer", rt.toISOString receivedAtServer]

def ensureConnected (connected : Bool) : QueueSvc Unit :=
  if connected then return () else queueCall .connect

/-- The `try` block of `enqueueRawScan`. -/
def tryEnqueue (connected : Bool) (dto : CreateScanDto) : QueueSvc EnqueueReply := do
  ensureConnected connected
  let operationCreated ← queueCall (.setNx (operationKey dto.operationId) 86400)
  if operationCreated = false then return { duplicate := true }
  else
    let now ← queueCall (.base .now)
    queueCall (.xadd (scanFields rt dto now))
    return {}

def enqueueRawScan (connected : Bool) (dto : CreateScanDto) : QueueSvc EnqueueReply := do
  if config.scanIngestEnabled = false then throw (.error "Redis scan ingest is disabled")
  else
    tryCatch (tryEnqueue rt connected dto) fun _ =>
      throw (.error "Redis scan ingest is unavailable")

end RedisService

namespace RedisScanFlusherService

/-- The properties that the flat list of an entry sets, the last one first. -/
def fieldsToRecord : List String → List (String × Option String) → List (String × Option String)
  | key :: value :: rest, record => fieldsToRecord rest ((key, some value) :: record)
  | [key], record => (key, none) :: record
  | [], record => record

/-- `item.payload ? JSON.parse(item.payload) : undefined`. -/
def parsePayload (payload : Option String) : Except Exn (Option Json) :=
  match truthy payload with
  | none => .ok none
  | some text =>
      match rt.jsonParse text with
      | none => .error (.error "Unexpected token in JSON")
      | some payload => .ok (some payload)

def toScanEventRawCreateMany (entry : StreamEntry) : Except Exn RawScanData := do
  let item (key : String) : Option String := ((fieldsToRecord entry.fields []).lookup key).join
  let payload ← parsePayload rt (item "payload")
  return {
    operationId := item "operationId"
    eventId := item "eventId"
    deviceId := item "deviceId"
    staffSessionId := truthy (item "staffSessionId")
    checkpointId := truthy (item "checkpointId")
    qrRaw := item "qrRaw"
    type := item "type"
    scannedAtDevice := (item "scannedAtDevice").bind rt.parseDate
    receivedAtServer := (item "receivedAtServer").bind rt.parseDate
    payload }

/-- The `try` block of `flushOnce`. -/
def tryFlush : QueueSvc Unit := do
  let lastId ← queueCall .lastId
  let entries ← queueCall (.xread config.flushBatchSize lastId)
  match entries.getLast? with
  | none => return ()
  | some last => do
      let data ← Prog.ofExcept (entries.mapM (toScanEventRawCreateMany rt))
      queueCall (.createManyRawScans data)
      queueCall (.advance last.id)

def flushOnce : QueueSvc Unit := do
  let flushing ← queueCall .beginFlush
  if flushing then return ()
  else
    tryCatch (tryFlush rt config) fun _ => return ()
    queueCall .endFlush

end RedisScanFlusherService

namespace ScanProcessingProcessor

/-- `process`. -/
def process (scanEventRawId : Id) : QueueSvc Unit := do
  queueCall (.updateProgress 10)
  let _ ← onDatabase (ScansService.processRawScan rt scanEventRawId)
  queueCall (.updateProgress 100)

/-- One attempt of the worker on a job. -/
def attempt (job : Nat) (scanEventRawId : Id) : QueueSvc Unit := do
  let succeeded ← tryCatch
    (do
      process rt scanEventRawId
      return true)
    fun _ => return false
  if succeeded then queueCall (.jobCompleted job) else queueCall (.jobFailed job)

end ScanProcessingProcessor

end CreativeBackend
