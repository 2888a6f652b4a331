import CreativeBackend.Sync.OfflineRegistration

/-!
# The sync tables and their statements

The rows of `SyncBatch` and `SyncOperation`, the store that adds both tables to the
scan store, and the calls of the sync service on it. A call that an execution of
`runOperation` makes carries the operation id of the execution.

## Implementation notes

`SyncOperation.output`, `SyncBatch.payload` and `SyncBatch.result` are only written with
values of the types they are stored at. The foreign key of the operations is a field of
the store.
-/

namespace CreativeBackend

open Relational Interaction

inductive SyncOperationStatus where
  | PENDING | PROCESSED | FAILED | DUPLICATE | SKIPPED
  deriving DecidableEq, Repr

inductive SyncBatchStatus where
  | RECEIVED | PROCESSING | COMPLETED | PARTIAL_FAILED | FAILED | DUPLICATE
  deriving DecidableEq, Repr

structure SyncOperation where
  id : Id := ""
  syncBatchId : Id
  operationId : String
  type : SyncOperationType
  status : SyncOperationStatus := .PENDING
  input : Json
  output : Option SyncOutput := none
  errorCode : Option String := none
  errorMessage : Option String := none
  processedAt : Option Time := none
  createdAt : Time := 0

/-- One entry of the results of a batch. -/
structure OperationResult where
  operationId : String
  status : SyncOperationStatus
  output : Option SyncOutput := none
  errorCode : Option String := none
  errorMessage : Option String := none
  retryable : Option Bool := none
  retried : Bool := false
  reason : Option String := none

/-- The `result` of a batch. -/
structure BatchResult where
  processedCount : Nat
  failedCount : Nat
  duplicateCount : Nat
  operations : List OperationResult

structure SyncBatch where
  id : Id := ""
  batchId : String
  eventId : Id
  deviceId : Id
  staffSessionId : Option Id := none
  status : SyncBatchStatus := .RECEIVED
  totalOperations : Nat := 0
  processedCount : Nat := 0
  failedCount : Nat := 0
  duplicateCount : Nat := 0
  receivedAt : Time := 0
  processedAt : Option Time := none
  payload : SubmitSyncBatchDto
  result : Option BatchResult := none

instance : Record SyncOperation Id where
  key := (·.id)
  withKey k a := { a with id := k }
  key_withKey _ _ := rfl
  clash a b := a.operationId == b.operationId

instance : Record SyncBatch Id where
  key := (·.id)
  withKey k a := { a with id := k }
  key_withKey _ _ := rfl
  clash a b := a.batchId == b.batchId

@[simp] theorem key_syncOperation (a : SyncOperation) : key a = a.id := rfl

@[simp] theorem key_syncBatch (a : SyncBatch) : key a = a.id := rfl

/-- Every operation belongs to a batch. -/
def BelongToBatches (batches : Table SyncBatch) (operations : Table SyncOperation) : Prop :=
  ∀ x ∈ operations.rows, ∃ b ∈ batches.rows, b.id = x.syncBatchId

structure SyncStore where
  base : Store
  batches : Table SyncBatch
  operations : Table SyncOperation
  belong : BelongToBatches batches operations

/-- `syncBatchInclude`: a batch with its operations. -/
structure SyncBatchView where
  batch : SyncBatch
  operations : List SyncOperation

/-- The columns that the end of an execution sets. -/
inductive OperationPatch where
  | processed (output : SyncOutput)
  | failed (errorCode errorMessage : String)

/-- The final columns of a batch. -/
structure BatchPatch where
  status : SyncBatchStatus
  result : BatchResult

/-- The `where` and `take` of the recovery. -/
structure RecoverInput where
  eventId : Option Id := none
  deviceId : Option Id := none
  limit : Option Int := none
  dryRun : Bool := false

namespace SyncStore

variable (s : SyncStore)

/-- The answer of a statement and the store after it. -/
abbrev Answer (α : Type) := Except Exn α × SyncStore

/-- The row of a new operation. -/
def operationRow (now : Time) (syncBatchId : Id) (operation : SubmitSyncOperationDto) :
    SyncOperation where
  syncBatchId
  operationId := operation.operationId
  type := operation.type
  input := .obj operation.payload
  createdAt := now

/-- The operations of a nested create, in order. -/
def createOperations (now : Time) (syncBatchId : Id) :
    List SubmitSyncOperationDto → Table SyncOperation → Option (Table SyncOperation)
  | [], t => some t
  | operation :: rest, t =>
      match t.create (operationRow now syncBatchId operation) with
      | none => none
      | some (_, t') => createOperations now syncBatchId rest t'

/-- The row of a new batch. -/
def batchRow (now : Time) (dto : SubmitSyncBatchDto) (duplicateCount : Nat) : SyncBatch where
  batchId := dto.batchId
  eventId := dto.eventId
  deviceId := dto.deviceId
  staffSessionId := dto.staffSessionId
  totalOperations := dto.operations.length
  duplicateCount
  receivedAt := now
  payload := dto

/-- The columns that the end of an execution sets. -/
def applyOperationPatch (now : Time) (x : SyncOperation) : OperationPatch → SyncOperation
  | .processed output =>
      { x with status := .PROCESSED, output := some output, errorCode := none,
               errorMessage := none, processedAt := some now }
  | .failed errorCode errorMessage =>
      { x with status := .FAILED, errorCode := some errorCode, errorMessage := some errorMessage,
               processedAt := some now }

/-- The columns of an operation that is claimed for another execution. -/
def claimedRow (x : SyncOperation) : SyncOperation :=
  { x with status := .PENDING, errorCode := none, errorMessage := none, processedAt := none }

/-- The final columns of a batch. -/
def applyBatchPatch (now : Time) (p : BatchPatch) (b : SyncBatch) : SyncBatch :=
  { b with
    status := p.status
    processedCount := p.result.processedCount
    failedCount := p.result.failedCount
    duplicateCount := p.result.duplicateCount
    processedAt := some now
    result := some p.result }

variable {s}

/-- The rows after a nested create are the earlier ones and those of the new batch. -/
theorem createOperations_rows {now : Time} {syncBatchId : Id}
    {operations : List SubmitSyncOperationDto} {t t' : Table SyncOperation}
    (h : createOperations now syncBatchId operations t = some t') {x : SyncOperation}
    (hx : x ∈ t'.rows) : x ∈ t.rows ∨ x.syncBatchId = syncBatchId := by
  induction operations generalizing t with
  | nil =>
      cases h
      exact .inl hx
  | cons operation rest ih =>
      simp only [createOperations] at h
      split at h
      · cases h
      · next row t₁ hcreate =>
          rcases ih h with h₁ | h₁
          · rcases (Table.mem_create hcreate).mp h₁ with h₀ | rfl
            · exact .inl h₀
            · exact .inr (by rw [(Table.create_eq_some hcreate).1]; rfl)
          · exact .inr h₁

/-- A new batch and its operations. -/
theorem belong_create {row : SyncBatch} {data : SyncBatch} {batches : Table SyncBatch}
    (hb : s.batches.create data = some (row, batches)) {now : Time}
    {operations : List SubmitSyncOperationDto} {t : Table SyncOperation}
    (ho : createOperations now row.id operations s.operations = some t) :
    BelongToBatches batches t := by
  intro x hx
  rcases createOperations_rows ho hx with h | h
  · obtain ⟨b, hb₀, hid⟩ := s.belong x h
    exact ⟨b, (Table.mem_create hb).mpr (.inl hb₀), hid⟩
  · exact ⟨row, (Table.mem_create hb).mpr (.inr rfl), h.symm⟩

/-- An update of an operation that leaves its batch alone. -/
theorem belong_operation {id : Id} {f : SyncOperation → SyncOperation}
    (hf : ∀ x, (f x).syncBatchId = x.syncBatchId) {row : SyncOperation}
    {t : Table SyncOperation} (hu : s.operations.update id f = .done row t) :
    BelongToBatches s.batches t := by
  intro x hx
  rcases (Table.mem_update hu).mp hx with ⟨h, -⟩ | rfl
  · exact s.belong x h
  · obtain ⟨old, hold, -, hrow, -, -⟩ := Table.update_eq_done hu
    obtain ⟨b, hb, hid⟩ := s.belong old hold
    exact ⟨b, hb, by rw [hid, hrow]; exact (hf old).symm⟩

theorem belong_batch {id : Id} {f : SyncBatch → SyncBatch} {row : SyncBatch}
    {t : Table SyncBatch} (hu : s.batches.update id f = .done row t) :
    BelongToBatches t s.operations := by
  intro x hx
  obtain ⟨b, hb, hid⟩ := s.belong x hx
  obtain ⟨b', hb', hkey⟩ := Table.Keeps.update hu b hb
  exact ⟨b', hb', hkey.trans hid⟩

variable (s)

/-- The order of operations by `createdAt`. -/
def createdFirst (ch : Choice) (a b : SyncOperation) : Prop :=
  a.createdAt < b.createdAt ∨ a.createdAt = b.createdAt ∧ ch.rank a.id ≤ ch.rank b.id

instance (ch : Choice) : DecidableRel (createdFirst ch) :=
  fun _ _ => inferInstanceAs (Decidable (_ ∨ _))

/-- The operations with a property, oldest first. -/
def operationsWhere (ch : Choice) (holds : SyncOperation → Bool) : List SyncOperation :=
  (s.operations.rows.filter holds).insertionSort (createdFirst ch)

/-- A batch with its operations. -/
def view (ch : Choice) (b : SyncBatch) : SyncBatchView where
  batch := b
  operations := s.operationsWhere ch fun x => x.syncBatchId = b.id

/-- `syncBatch.create` with its operations. -/
def createBatch (ch : Choice) (dto : SubmitSyncBatchDto)
    (operations : List SubmitSyncOperationDto) (duplicateCount : Nat) : Answer SyncBatchView :=
  if Store.refers s.base.events dto.eventId && Store.refers s.base.devices dto.deviceId &&
      Store.refersOpt s.base.staffSessions dto.staffSessionId then
    match hb : s.batches.create (batchRow s.base.clock dto duplicateCount) with
    | none => (.error (.prisma .uniqueConstraint), s)
    | some (row, batches) =>
        match ho : createOperations s.base.clock row.id operations s.operations with
        | none => (.error (.prisma .uniqueConstraint), s)
        | some t =>
            let s' := { s with batches, operations := t, belong := belong_create hb ho }
            (.ok (s'.view ch row), s')
  else (.error (.prisma .foreignKey), s)

/-- `syncBatch.update`. -/
def updateBatch (ch : Choice) (id : Id) (f : SyncBatch → SyncBatch) : Answer SyncBatchView :=
  match hu : s.batches.update id f with
  | .missing => (.error (.prisma .notFound), s)
  | .duplicate => (.error (.prisma .uniqueConstraint), s)
  | .done row t =>
      let s' := { s with batches := t, belong := belong_batch hu }
      (.ok (s'.view ch row), s')

theorem claimedRow_syncBatchId (x : SyncOperation) :
    (claimedRow x).syncBatchId = x.syncBatchId := rfl

/-- `syncOperation.updateMany` with the id and the status FAILED; the answer is the
number of rows changed. -/
def claimOperation (id : Id) : Answer Nat :=
  match s.operations.find? id with
  | none => (.ok 0, s)
  | some x =>
      if x.status = .FAILED then
        match hu : s.operations.update id claimedRow with
        | .missing => (.ok 0, s)
        | .duplicate => (.error (.prisma .uniqueConstraint), s)
        | .done _ t =>
            (.ok 1, { s with operations := t, belong := belong_operation claimedRow_syncBatchId hu })
      else (.ok 0, s)

theorem applyOperationPatch_syncBatchId (now : Time) (p : OperationPatch) (x : SyncOperation) :
    (applyOperationPatch now x p).syncBatchId = x.syncBatchId := by
  cases p <;> rfl

/-- `syncOperation.update` of `processOperation`. -/
def finishOperation (id : Id) (p : OperationPatch) : Answer SyncOperation :=
  match hu : s.operations.update id fun x => applyOperationPatch s.base.clock x p with
  | .missing => (.error (.prisma .notFound), s)
  | .duplicate => (.error (.prisma .uniqueConstraint), s)
  | .done row t =>
      (.ok row, { s with
        operations := t
        belong := belong_operation (applyOperationPatch_syncBatchId s.base.clock p) hu })

/-- The failed offline registrations, with their batches, oldest first. -/
def failedRegistrations (ch : Choice) (input : RecoverInput) (limit : Nat) :
    List (SyncOperation × SyncBatch) :=
  let rows := s.operationsWhere ch fun x => x.type = .OFFLINE_REGISTRATION ∧ x.status = .FAILED
  let joined := rows.filterMap fun x => (s.batches.find? x.syncBatchId).map fun b => (x, b)
  let filtered := joined.filter fun (_, b) =>
    (truthy input.eventId).all (b.eventId = ·) && (truthy input.deviceId).all (b.deviceId = ·)
  filtered.take limit

end SyncStore

/-! ## Calls -/

inductive SyncCall where
  | base (c : Call)
  | run (operationId : String) (c : Call)
  | batchByBatchId (batchId : String)
  | operationsByIds (operationIds : List String)
  | operationsOfBatch (syncBatchId : Id)
  | batchCreate (dto : SubmitSyncBatchDto) (operations : List SubmitSyncOperationDto)
      (duplicateCount : Nat)
  | batchProcessing (id : Id)
  | batchFinish (id : Id) (p : BatchPatch)
  | operationClaim (id : Id)
  | operationFinish (id : Id) (p : OperationPatch)
  | failedRegistrations (input : RecoverInput) (limit : Nat)

/-- The answer of each call. -/
@[reducible] def SyncResp : SyncCall → Type
  | .base c => Resp c
  | .run _ c => Resp c
  | .batchByBatchId _ => Option SyncBatchView
  | .operationsByIds _ => List SyncOperation
  | .operationsOfBatch _ => List SyncOperation
  | .batchCreate _ _ _ => SyncBatchView
  | .batchProcessing _ => SyncBatchView
  | .batchFinish _ _ => SyncBatchView
  | .operationClaim _ => Nat
  | .operationFinish _ _ => SyncOperation
  | .failedRegistrations _ _ => List (SyncOperation × SyncBatch)

/-- A program of the sync service. -/
abbrev SyncSvc (α : Type) := Prog SyncResp Exn α

/-- A query answers from the store and leaves it alone. -/
def syncQuery {α : Type} (s : SyncStore) (a : α) : SyncStore.Answer α := (.ok a, s)

/-- Answer a call of the scan store. -/
def onBase {α : Type} (s : SyncStore) (a : Store.Answer α) : SyncStore.Answer α :=
  (a.1, { s with base := a.2 })

/-- Answer a call from the store. -/
def syncMachine (rt : Runtime) (ch : Choice) : Machine SyncResp Exn SyncStore
  | .base c, s => onBase s (machine rt ch c s.base)
  | .run _ c, s => onBase s (machine rt ch c s.base)
  | .batchByBatchId batchId, s =>
      syncQuery s ((s.batches.rows.find? fun b => b.batchId = batchId).map (s.view ch))
  | .operationsByIds operationIds, s =>
      syncQuery s (s.operationsWhere ch fun x => operationIds.contains x.operationId)
  | .operationsOfBatch syncBatchId, s =>
      syncQuery s (s.operationsWhere ch fun x => x.syncBatchId = syncBatchId)
  | .batchCreate dto operations duplicateCount, s =>
      s.createBatch ch dto operations duplicateCount
  | .batchProcessing id, s => s.updateBatch ch id fun b => { b with status := .PROCESSING }
  | .batchFinish id p, s => s.updateBatch ch id (SyncStore.applyBatchPatch s.base.clock p)
  | .operationClaim id, s => s.claimOperation id
  | .operationFinish id p, s => s.finishOperation id p
  | .failedRegistrations input limit, s => syncQuery s (s.failedRegistrations ch input limit)

/-- Reading the clock or random bytes cannot fail. -/
def SyncCall.faulty : SyncCall → Prop
  | .base c => c.faulty
  | .run _ c => c.faulty
  | _ => True

/-- A call of the sync service. -/
def syncCall (c : SyncCall) : SyncSvc (SyncResp c) := Prog.call c

/-- A program of the scan store, in the sync service. -/
def onScanStore {α : Type} : Svc α → SyncSvc α
  | .ret a => .ret a
  | .throw e => .throw e
  | .ask c k => .ask (.base c) fun r => onScanStore (k r)

/-- A program of the scan store that executes an operation. -/
def inOperation {α : Type} (operationId : String) : Svc α → SyncSvc α
  | .ret a => .ret a
  | .throw e => .throw e
  | .ask c k => .ask (.run operationId c) fun r => inOperation operationId (k r)

section Distribute

variable {α β : Type} (operationId : String)

@[simp] theorem inOperation_bind (p : Svc α) (f : α → Svc β) :
    inOperation operationId (p.bind f) =
      (inOperation operationId p).bind fun a => inOperation operationId (f a) := by
  induction p with
  | ret a => rfl
  | throw e => rfl
  | ask c k ih => simp only [Prog.bind_ask, inOperation, ih]

@[simp] theorem inOperation_tryCatch (p : Svc α) (h : Exn → Svc α) :
    inOperation operationId (p.tryCatch h) =
      (inOperation operationId p).tryCatch fun e => inOperation operationId (h e) := by
  induction p with
  | ret a => rfl
  | throw e => rfl
  | ask c k ih =>
      simp only [Prog.tryCatch, inOperation]
      exact congrArg _ (funext ih)

@[simp] theorem inOperation_ofExcept (x : Except Exn α) :
    inOperation operationId (Prog.ofExcept x) = Prog.ofExcept x := by
  cases x <;> rfl

@[simp] theorem inOperation_call (c : Call) :
    inOperation operationId (call c) = syncCall (.run operationId c) := by
  simp only [call, syncCall, Prog.call, inOperation]
  exact congrArg _ (funext fun r => inOperation_ofExcept operationId r)

end Distribute

section Run

variable {rt : Runtime} {ch : Choice} {α : Type}

/-- On its own, a program of the scan store changes only the scan store. -/
theorem run_onScanStore (p : Svc α) (s : SyncStore) :
    (onScanStore p).run (syncMachine rt ch) s = onBase s (p.run (machine rt ch) s.base) := by
  induction p generalizing s with
  | ret a => rfl
  | throw e => rfl
  | ask c k ih =>
      simp only [onScanStore, Prog.run_ask, syncMachine, onBase]
      exact ih _ _

theorem run_inOperation (operationId : String) (p : Svc α) (s : SyncStore) :
    (inOperation operationId p).run (syncMachine rt ch) s =
      onBase s (p.run (machine rt ch) s.base) := by
  induction p generalizing s with
  | ret a => rfl
  | throw e => rfl
  | ask c k ih =>
      simp only [inOperation, Prog.run_ask, syncMachine, onBase]
      exact ih _ _

end Run

end CreativeBackend
