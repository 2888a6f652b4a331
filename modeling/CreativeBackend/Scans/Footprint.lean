import CreativeBackend.Scans.Reads

/-!
# The calls of the scan operations

An operation prepares and settles. To prepare is to read, format, touch, enqueue,
park a scan, or write a raw scan without a movement; to settle is to commit a raw
scan together with its movement. `R` bounds the raw scans that are settled, and
`O` the operation id, event and movement type of every row that is created.
-/

namespace CreativeBackend

open Interaction Prog

/-- No bound on the rows that are created. -/
abbrev anyOperation : String → Id → MovementType → Prop := fun _ _ _ => True

/-- The calls of `ingest`, `ingestFast` and `processRawScan` that settle nothing. -/
inductive Call.Prepares (O : String → Id → MovementType → Prop) : Call → Prop
  | format {c : Call} (h : c.formats = true) : Prepares O c
  | touch (deviceId : Id) (staffSessionId : Option Id) :
      Prepares O (.touchActivity deviceId staffSessionId)
  | enqueue (id : Id) : Prepares O (.enqueueScan id)
  | remove (id : Id) : Prepares O (.rawScanDelete id)
  | park (d : OfflineScanData) (h : d.status = .PENDING_LINK ∨ d.status = .LINKED)
      (ho : O d.operationId d.eventId d.movementType) : Prepares O (.offlineScanCreate d)
  | accept (dto : CreateScanDto) (scannedAt : Option Time)
      (ho : O dto.operationId dto.eventId dto.type) :
      Prepares O (.rawScanCreate dto scannedAt ScansService.pendingVerdict)
  | refuse (dto : CreateScanDto) (scannedAt : Option Time) (reason : String)
      (payload : Option Json) (qrTokenId registrationId : Option Id)
      (ho : O dto.operationId dto.eventId dto.type) :
      Prepares O (.rawScanCreate dto scannedAt
        (ScansService.invalidVerdict reason payload qrTokenId registrationId))
  | refuseRaw (id : Id) (reason : String) (payload : Option Json)
      (qrTokenId registrationId : Option Id) :
      Prepares O (.rawScanUpdate id
        (ScansService.invalidVerdict reason payload qrTokenId registrationId))
  | fail (id : Id) (result : MovementResult) (reason : String) :
      Prepares O (.rawScanUpdate id (ScansService.failedVerdict result reason))

/-- The calls of `ingestOfflineScan` and `reconcileOfflineRegistration` outside
`processOfflineScanOperation`. -/
inductive Call.Submits (O : String → Id → MovementType → Prop) : Call → Prop
  | format {c : Call} (h : c.formats = true) : Submits O c
  | park (d : OfflineScanData) (h : d.status = .PENDING_LINK ∨ d.status = .LINKED)
      (ho : O d.operationId d.eventId d.movementType) : Submits O (.offlineScanCreate d)
  | conflict (id : Id) : Submits O (.offlineScanUpdate id ScansService.conflictPatch)
  | relink (input : OfflineScanInput) (existing : OfflineScanOperation) (registrationId : Id) :
      Submits O (.offlineScanUpdate existing.id
        (ScansService.relinkPatch input existing registrationId))
  | link (id registrationId : Id) :
      Submits O (.offlineScanUpdate id (ScansService.linkPatch registrationId))
  | fail (id : Id) (error : Exn) :
      Submits O (.offlineScanUpdate id (ScansService.reconciliationFailedPatch error))

/-- The transactions that settle a scan. -/
inductive Call.Settles (R : ScanEventRaw → Prop) (O : String → Id → MovementType → Prop) :
    Call → Prop
  | create (dto : CreateScanDto) (scannedAt : Option Time) (context : ValidQrContext)
      (reason : String) (ho : O dto.operationId dto.eventId dto.type) :
      Settles R O (.createProcessed dto scannedAt
        (context.decide (ScansService.decisionResult reason) reason))
  | update (scan : ScanEventRaw) (h : R scan) (context : ValidQrContext) (reason : String) :
      Settles R O (.updateProcessed scan
        (context.decide (ScansService.decisionResult reason) reason))

/-- The calls of `ingest`, `ingestFast` and `processRawScan`. -/
inductive Call.Online (R : ScanEventRaw → Prop) (O : String → Id → MovementType → Prop) :
    Call → Prop
  | prepare {c : Call} (h : c.Prepares O) : Online R O c
  | settle {c : Call} (h : c.Settles R O) : Online R O c

/-- The calls of `ingestOfflineScan` and `reconcileOfflineRegistration`. -/
inductive Call.Offline (R : ScanEventRaw → Prop) (O : String → Id → MovementType → Prop) :
    Call → Prop
  | submit {c : Call} (h : c.Submits O) : Offline R O c
  | touch (deviceId : Id) (staffSessionId : Option Id) :
      Offline R O (.touchActivity deviceId staffSessionId)
  | finish (id scanEventRawId movementId : Id) (registrationId : Option Id) :
      Offline R O (.offlineScanUpdate id
        (ScansService.settledPatch scanEventRawId movementId registrationId))
  | settle {c : Call} (h : c.Settles R O) : Offline R O c

variable {R R' : ScanEventRaw → Prop} {O : String → Id → MovementType → Prop} {α : Type}

/-- No raw scan is created as processed without its movement. -/
theorem Call.Prepares.create_status {dto : CreateScanDto} {scannedAt : Option Time}
    {v : RawScanVerdict} (h : Call.Prepares O (.rawScanCreate dto scannedAt v)) :
    v.status ≠ .PROCESSED := by
  cases h with
  | format h => cases h
  | accept => exact fun h => by cases h
  | refuse => exact fun h => by cases h

/-- No raw scan is updated to processed without its movement. -/
theorem Call.Prepares.update_status {id : Id} {v : RawScanVerdict}
    (h : Call.Prepares O (.rawScanUpdate id v)) : v.status ≠ .PROCESSED := by
  cases h with
  | format h => cases h
  | refuseRaw => exact fun h => by cases h
  | fail => exact fun h => by cases h

theorem Call.Settles.settled_raw {scan : ScanEventRaw} {d : Decision}
    (h : Call.Settles R O (.updateProcessed scan d)) : R scan := by
  cases h with
  | update _ hs => exact hs

/-- The raw scan that was read for an offline scan. -/
def IsScanOf (existingRawScan : Option RawScanView) (a : ScanEventRaw) : Prop :=
  existingRawScan.map (·.scan) = some a

theorem Formats.prepares {p : Svc α} (h : Formats p) : p.All (Call.Prepares O) :=
  h.mono fun _ hc => .format hc

theorem Reads.prepares {p : Svc α} (h : Reads p) : p.All (Call.Prepares O) := h.formats.prepares

theorem Reads.submits {p : Svc α} (h : Reads p) : p.All (Call.Submits O) :=
  h.formats.mono fun _ hc => .format hc

theorem Reads.online {p : Svc α} (h : Reads p) : p.All (Call.Online R O) :=
  h.prepares.mono fun _ hc => .prepare hc

theorem Formats.online {p : Svc α} (h : Formats p) : p.All (Call.Online R O) :=
  h.prepares.mono fun _ hc => .prepare hc

theorem Reads.offline {p : Svc α} (h : Reads p) : p.All (Call.Offline R O) :=
  h.submits.mono fun _ hc => .submit hc

theorem Checks.online {p : Svc α} (h : Checks p) : p.All (Call.Online R O) := h.reads.online

theorem Checks.offline {p : Svc α} (h : Checks p) : p.All (Call.Offline R O) := h.reads.offline

theorem Checks.submits {p : Svc α} (h : Checks p) : p.All (Call.Submits O) := h.reads.submits

namespace ScansService

variable (rt : Runtime)

/-! ## Online operations -/

theorem parkedStatus (o : Option Id) :
    (if (truthy o).isSome = true then OfflineScanOperationStatus.LINKED else .PENDING_LINK) =
        .PENDING_LINK ∨
      (if (truthy o).isSome = true then OfflineScanOperationStatus.LINKED else .PENDING_LINK) =
        .LINKED := by
  split <;> simp

theorem createPendingScan_prepares {dto : CreateScanDto} {data : Id → OfflineScanData}
    (h : ∀ id, (data id).status = .PENDING_LINK ∨ (data id).status = .LINKED)
    (ho : ∀ id, O (data id).operationId (data id).eventId (data id).movementType) :
    (createPendingScan dto data).All (Call.Prepares O) := by
  unfold createPendingScan
  split
  · trivial
  · next checkpointId _ =>
      refine all_bind (all_call (.format rfl)) fun existing => ?_
      cases existing with
      | none => exact all_call (.park _ (h checkpointId) (ho checkpointId))
      | some existing => trivial

/-- A code that is not accepted is refused or parked. -/
theorem ingestDecision_prepares {dto : CreateScanDto} (ho : O dto.operationId dto.eventId dto.type)
    (scannedAtDevice : Option Time) (event : Event) (device : Device)
    (staffSession : Option StaffSession) (checkpoint : Option Checkpoint) {context : QrContext}
    (h : ∀ accepted, context ≠ .valid accepted) :
    (ingestDecision rt dto scannedAtDevice event device staffSession checkpoint context).All
      (Call.Prepares O) := by
  cases context with
  | pendingOfflineReference offlineQrToken payload registrationId =>
      refine all_bind (createPendingScan_prepares (fun _ => parkedStatus _) fun _ => ho) fun _ => ?_
      exact all_bind (all_call (.touch _ _)) fun _ => trivial
  | pendingOffline verified =>
      refine all_bind (createPendingScan_prepares (fun _ => .inl rfl) fun _ => ho) fun _ => ?_
      exact all_bind (all_call (.touch _ _)) fun _ => trivial
  | invalid reason payload qrTokenId registrationId =>
      refine all_bind (all_call (.refuse _ _ _ _ _ _ ho)) fun _ => ?_
      refine all_bind (all_call (.touch _ _)) fun _ => ?_
      exact all_bind (formatScanResponse_formats rt _ _ _ _ _).prepares fun _ => trivial
  | valid context => exact absurd rfl (h context)

theorem ingestDecision_online {dto : CreateScanDto} (ho : O dto.operationId dto.eventId dto.type)
    (scannedAtDevice : Option Time) (event : Event) (device : Device)
    (staffSession : Option StaffSession) (checkpoint : Option Checkpoint) (context : QrContext) :
    (ingestDecision rt dto scannedAtDevice event device staffSession checkpoint context).All
      (Call.Online R O) := by
  cases context with
  | valid context =>
      refine all_bind (scanReason_checks rt _ _ _ _).online fun reason => ?_
      refine all_bind (all_call (.settle (.create _ _ _ _ ho))) fun _ => ?_
      refine all_bind (all_call (.prepare (.touch _ _))) fun _ => ?_
      exact all_bind (formatScanResponse_formats rt _ _ _ _ _).online fun _ => trivial
  | _ =>
      exact (ingestDecision_prepares rt ho scannedAtDevice event device staffSession checkpoint
        fun _ h => by cases h).mono fun _ => .prepare

theorem ingestNew_online {dto : CreateScanDto} (ho : O dto.operationId dto.eventId dto.type) :
    (ingestNew rt dto).All (Call.Online R O) := by
  refine all_bind (ensureEventCanBeModified_checks _).online fun event => ?_
  refine all_bind (ensureActiveDevice_checks _ _).online fun device => ?_
  refine all_bind (ensureActiveStaffSession_checks _ _).online fun staffSession => ?_
  refine all_bind (ensureActiveCheckpoint_checks _ _).online fun checkpoint => ?_
  refine all_bind (validateQrForScan_reads rt _ _).online fun context => ?_
  exact ingestDecision_online rt ho _ event device staffSession checkpoint context

theorem ingestDuplicate_formats (existing : RawScanView) :
    Formats (ingestDuplicate rt existing) := by
  unfold ingestDuplicate
  split
  · exact all_bind (formatScanResponse_formats rt _ _ _ _ _) fun _ => trivial
  · trivial

theorem ingest_online {dto : CreateScanDto} (ho : O dto.operationId dto.eventId dto.type) :
    (ingest rt dto).All (Call.Online R O) := by
  refine all_bind (all_call (.prepare (.format rfl))) fun existing => ?_
  cases existing with
  | none => exact ingestNew_online rt ho
  | some existing =>
      dsimp only
      split
      · exact all_bind (all_call (.prepare (.remove _))) fun _ => ingestNew_online rt ho
      · exact (ingestDuplicate_formats rt existing).online

theorem ingestFast_prepares {dto : CreateScanDto} (ho : O dto.operationId dto.eventId dto.type) :
    (ingestFast rt dto).All (Call.Prepares O) := by
  refine all_bind (all_call (.format rfl)) fun existing => ?_
  cases existing with
  | some existing => trivial
  | none =>
      refine all_bind (all_call (.accept _ _ ho)) fun created => ?_
      dsimp only
      split
      · trivial
      · exact all_tryCatch (all_bind (all_call (.enqueue _)) fun _ => trivial) fun _ => trivial

/-- A stored code that is not accepted is refused or parked. -/
theorem processDecision_prepares {scanEvent : ScanEventRaw}
    (ho : O scanEvent.operationId scanEvent.eventId scanEvent.type) (event : Event)
    (device : Device) (staffSession : Option StaffSession) (checkpoint : Option Checkpoint)
    {context : QrContext} (h : ∀ accepted, context ≠ .valid accepted) :
    (processDecision rt scanEvent event device staffSession checkpoint context).All
      (Call.Prepares O) := by
  cases context with
  | pendingOfflineReference offlineQrToken payload registrationId =>
      simp only [processDecision]
      split
      · trivial
      · refine all_bind (createPendingScan_prepares (fun _ => parkedStatus _) fun _ => ho) fun _ => ?_
        refine all_bind (all_call (.fail _ _ _)) fun _ => ?_
        exact all_bind (all_call (.touch _ _)) fun _ => trivial
  | pendingOffline verified =>
      simp only [processDecision]
      split
      · trivial
      · refine all_bind (createPendingScan_prepares (fun _ => .inl rfl) fun _ => ho) fun _ => ?_
        refine all_bind (all_call (.fail _ _ _)) fun _ => ?_
        exact all_bind (all_call (.touch _ _)) fun _ => trivial
  | invalid reason payload qrTokenId registrationId =>
      refine all_bind (all_call (.refuseRaw _ _ _ _ _)) fun _ => ?_
      refine all_bind (all_call (.touch _ _)) fun _ => ?_
      exact all_bind (formatScanResponse_formats rt _ _ _ _ _).prepares fun _ => trivial
  | valid context => exact absurd rfl (h context)

theorem processDecision_online {scanEvent : ScanEventRaw}
    (ho : O scanEvent.operationId scanEvent.eventId scanEvent.type) (hr : R scanEvent)
    (event : Event) (device : Device) (staffSession : Option StaffSession)
    (checkpoint : Option Checkpoint) (context : QrContext) :
    (processDecision rt scanEvent event device staffSession checkpoint context).All
      (Call.Online R O) := by
  cases context with
  | valid context =>
      refine all_bind (scanReason_checks rt _ _ _ _).online fun reason => ?_
      refine all_bind (all_call (.settle (.update _ hr _ _))) fun _ => ?_
      refine all_bind (all_call (.prepare (.touch _ _))) fun _ => ?_
      exact all_bind (formatScanResponse_formats rt _ _ _ _ _).online fun _ => trivial
  | _ =>
      exact (processDecision_prepares rt ho event device staffSession checkpoint
        fun _ h => by cases h).mono fun _ => .prepare

theorem processPending_online {scanEvent : ScanEventRaw}
    (ho : O scanEvent.operationId scanEvent.eventId scanEvent.type) (hr : R scanEvent) :
    (processPending rt scanEvent).All (Call.Online R O) := by
  refine all_bind (ensureEventCanBeModified_checks _).online fun event => ?_
  refine all_bind (ensureActiveDevice_checks _ _).online fun device => ?_
  refine all_bind (ensureActiveStaffSession_checks _ _).online fun staffSession => ?_
  refine all_bind (ensureActiveCheckpoint_checks _ _).online fun checkpoint => ?_
  refine all_bind (validateQrForScan_reads rt _ _).online fun context => ?_
  exact processDecision_online rt ho hr event device staffSession checkpoint context

theorem failRawScan_prepares (scanEvent : ScanEventRaw) (error : Exn) :
    (failRawScan scanEvent error).All (Call.Prepares O) :=
  all_bind (all_call (.fail _ _ _)) fun _ => trivial

theorem processRawScan_online (scanEventRawId : Id)
    (ho : ∀ a : ScanEventRaw, O a.operationId a.eventId a.type) :
    (processRawScan rt scanEventRawId).All (Call.Online (fun _ => True) O) := by
  refine all_bind (all_call (.prepare (.format rfl))) fun scanEvent => ?_
  cases scanEvent with
  | none => trivial
  | some scanEvent =>
      dsimp only
      split
      · trivial
      · refine all_tryCatch (processPending_online rt (ho scanEvent) trivial) fun e => ?_
        exact (failRawScan_prepares scanEvent e).mono fun _ => .prepare

/-! ## Offline operations -/

theorem writeSettlement_settles {offlineScan : OfflineScanOperation}
    {existingRawScan : Option RawScanView} (hr : ∀ a, IsScanOf existingRawScan a → R a)
    (ho : O offlineScan.operationId offlineScan.eventId offlineScan.movementType)
    (context : ValidQrContext) (reason : String) :
    (writeSettlement rt offlineScan existingRawScan (context.decide (decisionResult reason)
      reason)).All (Call.Settles R O) := by
  cases existingRawScan with
  | none => exact all_call (.create _ _ _ _ ho)
  | some existing => exact all_call (.update _ (hr _ rfl) _ _)

theorem settleOfflineScan_offline {offlineScan : OfflineScanOperation}
    {existingRawScan : Option RawScanView} (hr : ∀ a, IsScanOf existingRawScan a → R a)
    (ho : O offlineScan.operationId offlineScan.eventId offlineScan.movementType)
    (context : ValidQrContext) :
    (settleOfflineScan rt offlineScan existingRawScan context).All (Call.Offline R O) := by
  refine all_bind (ensureEventCanBeModified_checks _).offline fun event => ?_
  refine all_bind (ensureActiveDevice_checks _ _).offline fun device => ?_
  refine all_bind (ensureStaffSessionForOfflineReplay_checks _ _ _ _).offline fun staffSession => ?_
  refine all_bind (ensureActiveCheckpoint_checks _ _).offline fun checkpoint => ?_
  refine all_bind (scanReason_checks rt _ _ _ _).offline fun reason => ?_
  refine all_bind ((writeSettlement_settles rt hr ho context reason).mono fun _ => .settle)
    fun written => ?_
  refine all_bind (all_call (.finish _ _ _ _)) fun updated => ?_
  exact all_bind (all_call (.touch _ _)) fun _ => trivial

theorem settleNew_offline {offlineScan : OfflineScanOperation}
    {existingRawScan : Option RawScanView} (hr : ∀ a, IsScanOf existingRawScan a → R a)
    (ho : O offlineScan.operationId offlineScan.eventId offlineScan.movementType) :
    (settleNew rt offlineScan existingRawScan).All (Call.Offline R O) := by
  refine all_bind (getCanonicalContextForOfflineScan_reads _).offline fun context => ?_
  cases context with
  | none => trivial
  | some context => exact settleOfflineScan_offline rt hr ho context

/-- The offline calls, whatever raw scan they settle. -/
abbrev AnyOffline : Call → Prop := Call.Offline (fun _ => True) anyOperation

theorem processOfflineScanOperation_offline (id : Id) :
    (processOfflineScanOperation rt id).All AnyOffline := by
  refine all_bind (all_call (.submit (.format rfl))) fun x => ?_
  cases x with
  | none => trivial
  | some x =>
      dsimp only
      split
      · trivial
      · refine all_bind (all_call (.submit (.format rfl))) fun existing => ?_
        cases existing with
        | none => exact settleNew_offline rt (fun _ _ => trivial) trivial
        | some existing =>
            dsimp only
            split
            · exact settleNew_offline rt (fun _ _ => trivial) trivial
            · exact all_bind (all_call (.finish _ _ _ _)) fun _ => trivial

theorem ingestOfflineExisting_offline (input : OfflineScanInput) (verified : VerifiedOfflineQr)
    (existing : OfflineScanOperation) (registrationId : Option Id) :
    (ingestOfflineExisting rt input verified existing registrationId).All AnyOffline := by
  unfold ingestOfflineExisting
  split
  · exact all_bind (all_call (.submit (.conflict _))) fun _ => trivial
  · split
    · split
      · exact all_bind (all_call (.submit (.relink _ _ _))) fun _ =>
          processOfflineScanOperation_offline rt _
      · trivial
    · split <;> trivial

theorem ingestOfflineScan_offline (mappingFirst : Bool) (input : OfflineScanInput) :
    (ingestOfflineScan rt mappingFirst input).All AnyOffline := by
  refine all_bind (verifySignedOfflineQr_reads rt _ _).offline fun verified => ?_
  dsimp only
  split
  · trivial
  · refine all_bind (ensureEventCanBeModified_checks _).offline fun _ => ?_
    refine all_bind (ensureActiveDevice_checks _ _).offline fun _ => ?_
    refine all_bind (ensureActiveStaffSession_checks _ _).offline fun _ => ?_
    refine all_bind (ensureActiveCheckpoint_checks _ _).offline fun _ => ?_
    refine all_bind (readScanAndMapping_reads _ _ _).offline fun found => ?_
    obtain ⟨existing, mapping⟩ := found
    cases existing with
    | some existing => exact ingestOfflineExisting_offline rt _ _ _ _
    | none =>
        refine all_bind (all_call (.submit (.park _ (parkedStatus _) trivial))) fun _ => ?_
        split
        · trivial
        · exact processOfflineScanOperation_offline rt _

theorem reconcileScan_offline (registrationId : Id) (x : OfflineScanOperation) :
    (reconcileScan rt registrationId x).All AnyOffline := by
  refine all_tryCatch (all_bind (all_call (.submit (.link _ _))) fun _ => ?_) fun error => ?_
  · exact all_bind (processOfflineScanOperation_offline rt _) fun _ => trivial
  · exact all_bind (all_call (.submit (.fail _ _))) fun _ => trivial

theorem reconcileScans_offline (registrationId : Id) (xs : List OfflineScanOperation) :
    (reconcileScans rt registrationId xs).All AnyOffline := by
  induction xs with
  | nil => trivial
  | cons x rest ih =>
      exact all_bind (reconcileScan_offline rt _ _) fun _ => all_bind ih fun _ => trivial

theorem reconcileOfflineRegistration_offline (input : ReconcileInput) :
    (reconcileOfflineRegistration rt input).All AnyOffline :=
  all_bind (all_call (.submit (.format rfl))) fun _ => reconcileScans_offline rt _ _

end ScansService

end CreativeBackend
