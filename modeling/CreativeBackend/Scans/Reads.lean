import CreativeBackend.Store.Effects
import CreativeBackend.Scans.OfflineScans

/-!
# Functions that only read or format

Validation only reads. Formatting a response reads, draws random values, writes
images, and may create or refresh a QR token.
-/

namespace CreativeBackend

open Interaction Prog

/-- The calls of QR generation and of formatting a response. -/
def Call.formats : Call → Bool
  | .random => true
  | .imageWrite _ => true
  | .qrTokenRefresh _ _ => true
  | .qrTokenCreate _ => true
  | c => c.reads

theorem Call.formats_of_reads {c : Call} (h : c.reads = true) : c.formats = true := by
  cases c <;> first | rfl | exact h

/-- The calls of the checks around a code: reads that are neither lookups of a mapping
or a token nor reads of a scan. -/
def Call.checks : Call → Bool
  | .now => true
  | .eventById _ => true
  | .deviceById _ => true
  | .staffSessionById _ => true
  | .checkpointById _ => true
  | .entryMovement _ _ => true
  | _ => false

theorem Call.reads_of_checks {c : Call} (h : c.checks = true) : c.reads = true := by
  cases c <;> first | rfl | exact h

/-- Programs that only check. -/
abbrev Checks {α : Type} (p : Svc α) : Prop := p.All (·.checks = true)

/-- Programs that only read. -/
abbrev Reads {α : Type} (p : Svc α) : Prop := p.All (·.reads = true)

/-- Programs that only format. -/
abbrev Formats {α : Type} (p : Svc α) : Prop := p.All (·.formats = true)

theorem Checks.reads {α : Type} {p : Svc α} (h : Checks p) : Reads p :=
  h.mono fun _ => Call.reads_of_checks

/-- On its own, a program that reads leaves the store alone. -/
theorem Reads.run {α : Type} {p : Svc α} (h : Reads p) (rt : Runtime) (ch : Choice) (s : Store) :
    (p.run (machine rt ch) s).2 = s :=
  run_invariant (machine rt ch) (I := (· = s))
    (fun c hc u hu => hu ▸ machine_reads rt ch hc u) h rfl

theorem Reads.formats {α : Type} {p : Svc α} (h : Reads p) : Formats p :=
  h.mono fun _ => Call.formats_of_reads

/-- The tables that formatting leaves alone. -/
structure SameRows (s s' : Store) : Prop where
  clock : s'.clock = s.clock
  events : s'.events = s.events
  attendeeTypes : s'.attendeeTypes = s.attendeeTypes
  registrations : s'.registrations = s.registrations
  devices : s'.devices = s.devices
  offlineKeys : s'.offlineKeys = s.offlineKeys
  mappings : s'.mappings = s.mappings

namespace SameRows

theorem refl (s : Store) : SameRows s s := ⟨rfl, rfl, rfl, rfl, rfl, rfl, rfl⟩

theorem trans {s₀ s₁ s₂ : Store} (h : SameRows s₀ s₁) (h' : SameRows s₁ s₂) : SameRows s₀ s₂ where
  clock := h'.clock.trans h.clock
  events := h'.events.trans h.events
  attendeeTypes := h'.attendeeTypes.trans h.attendeeTypes
  registrations := h'.registrations.trans h.registrations
  devices := h'.devices.trans h.devices
  offlineKeys := h'.offlineKeys.trans h.offlineKeys
  mappings := h'.mappings.trans h.mappings

end SameRows

theorem sameRows_of_effect {s s' : Store} {c : Call} {x : Except Exn (Resp c)} (hc : c.formats = true)
    (h : Effect s c x s') : SameRows s s' := by
  cases h with
  | read => exact .refl s
  | failed => exact .refl s
  | _ => first | exact ⟨rfl, rfl, rfl, rfl, rfl, rfl, rfl⟩ | exact Bool.noConfusion hc

/-- On its own, a program that formats leaves the other tables alone. -/
theorem Formats.sameRows {α : Type} {p : Svc α} (hp : Formats p) (rt : Runtime) (ch : Choice)
    (s : Store) : SameRows s (p.run (machine rt ch) s).2 :=
  Prog.run_relation (machine rt ch) SameRows.refl (fun _ _ _ h h' => h.trans h')
    (fun _ hc _ => sameRows_of_effect hc (effect_of_machine rfl)) hp s

variable (rt : Runtime)

/-! ## Validation -/

theorem verifySignedOfflineQr_reads (signedOfflineQr : String) (expectedEventId : Option Id) :
    Reads (verifySignedOfflineQr rt signedOfflineQr expectedEventId) :=
  all_bind (all_call rfl) fun _ => all_bind (all_ofExcept _) fun _ =>
    all_bind (all_call rfl) fun _ => all_bind (all_ofExcept _) fun _ => trivial

namespace ScansService

theorem ensureEventCanBeModified_checks (eventId : Id) :
    Checks (ensureEventCanBeModified eventId) := by
  refine all_bind (all_call rfl) fun event => ?_
  cases event with
  | none => trivial
  | some event =>
      dsimp only
      split <;> trivial

theorem ensureActiveDevice_checks (deviceId eventId : Id) :
    Checks (ensureActiveDevice deviceId eventId) := by
  refine all_bind (all_call rfl) fun device => ?_
  cases device with
  | none => trivial
  | some device =>
      dsimp only
      split
      · trivial
      · split <;> trivial

theorem ensureActiveStaffSession_checks (staffSessionId : Option Id) (eventId : Id) :
    Checks (ensureActiveStaffSession staffSessionId eventId) := by
  unfold ensureActiveStaffSession
  cases truthy staffSessionId with
  | none => trivial
  | some id =>
      refine all_bind (all_call rfl) fun staffSession => ?_
      cases staffSession with
      | none => trivial
      | some staffSession =>
          dsimp only
          split
          · trivial
          · split <;> trivial

theorem ensureStaffSessionForOfflineReplay_checks (staffSessionId : Option Id)
    (eventId deviceId checkpointId : Id) :
    Checks (ensureStaffSessionForOfflineReplay staffSessionId eventId deviceId checkpointId) := by
  unfold ensureStaffSessionForOfflineReplay
  cases truthy staffSessionId with
  | none => trivial
  | some id =>
      refine all_bind (all_call rfl) fun staffSession => ?_
      cases staffSession with
      | none => trivial
      | some staffSession =>
          dsimp only
          split <;> trivial

theorem ensureActiveCheckpoint_checks (checkpointId : Option Id) (eventId : Id) :
    Checks (ensureActiveCheckpoint checkpointId eventId) := by
  unfold ensureActiveCheckpoint
  cases truthy checkpointId with
  | none => trivial
  | some id =>
      refine all_bind (all_call rfl) fun checkpoint => ?_
      cases checkpoint with
      | none => trivial
      | some checkpoint =>
          dsimp only
          split
          · trivial
          · split <;> trivial

theorem getReentryDenial_checks (event : Event) (registrationId : Id) (type : MovementType) :
    Checks (getReentryDenial event registrationId type) := by
  unfold getReentryDenial
  split
  · trivial
  · refine all_bind (all_call rfl) fun movement => ?_
    cases movement <;> trivial

theorem scanReason_checks (event : Event) (checkpoint : Option Checkpoint) (stored : QrTokenView)
    (type : MovementType) : Checks (scanReason rt event checkpoint stored type) :=
  all_bind (getReentryDenial_checks _ _ _) fun _ => trivial

theorem checkStoredQr_checks (stored : QrTokenView) (payload accepted : Json) :
    Checks (checkStoredQr stored payload accepted) := by
  unfold checkStoredQr
  split
  · trivial
  · refine all_bind (all_call rfl) fun now => ?_
    split
    · trivial
    · split <;> trivial

theorem validateServerQrForScan_reads (payload : Json) (eventId : Id) :
    Reads (validateServerQrForScan payload eventId) := by
  unfold validateServerQrForScan
  dsimp only
  split
  · trivial
  · refine all_bind (all_call rfl) fun stored => ?_
    cases stored with
    | none => trivial
    | some stored =>
        dsimp only
        split
        · trivial
        · exact (checkStoredQr_checks _ _ _).reads

theorem validateOfflineReferenceQrForScan_reads (offlineQrToken : String) (eventId : Id) :
    Reads (validateOfflineReferenceQrForScan offlineQrToken eventId) := by
  refine all_bind (all_call rfl) fun mapping => ?_
  cases mapping with
  | none => trivial
  | some mapping =>
      dsimp only
      split
      · trivial
      · cases truthy mapping.registrationId with
        | none => trivial
        | some registrationId =>
            dsimp only
            split
            · trivial
            · split
              · trivial
              · split
                · trivial
                · refine all_bind (all_call rfl) fun stored => ?_
                  cases stored with
                  | none => trivial
                  | some stored =>
                      dsimp only
                      split
                      · trivial
                      · exact (checkStoredQr_checks _ _ _).reads

theorem validateOfflineQrForScan_reads (qrRaw : String) (eventId : Id) :
    Reads (validateOfflineQrForScan rt qrRaw eventId) := by
  refine all_bind (verifySignedOfflineQr_reads rt _ _) fun verified => ?_
  refine all_bind (all_call rfl) fun mapping => ?_
  cases mapping with
  | none => trivial
  | some mapping =>
      dsimp only
      cases truthy mapping.registrationId with
      | none => trivial
      | some registrationId =>
          dsimp only
          split
          · trivial
          · refine all_bind (all_call rfl) fun stored => ?_
            cases stored with
            | none => trivial
            | some stored =>
                dsimp only
                split
                · trivial
                · exact (checkStoredQr_checks _ _ _).reads

theorem validateQrForScan_reads (qrRaw : String) (eventId : Id) :
    Reads (validateQrForScan rt qrRaw eventId) := by
  unfold validateQrForScan
  apply all_ite
  · trivial
  · apply all_ite
    · exact validateOfflineReferenceQrForScan_reads _ _
    · cases verifyServerQr rt (trim qrRaw) with
      | ok payload => exact validateServerQrForScan_reads _ _
      | error e => exact all_tryCatch (validateOfflineQrForScan_reads rt _ _) fun _ => trivial

theorem getCanonicalContextForOfflineScan_reads (offlineScan : OfflineScanOperation) :
    Reads (getCanonicalContextForOfflineScan offlineScan) := by
  refine all_bind (all_call rfl) fun mapping => ?_
  cases mapping with
  | none => trivial
  | some mapping =>
      dsimp only
      cases truthy mapping.registrationId with
      | none => trivial
      | some registrationId =>
          refine all_bind (all_call rfl) fun stored => ?_
          cases stored <;> trivial

theorem readScanAndMapping_reads (mappingFirst : Bool) (operationId offlineQrToken : String) :
    Reads (readScanAndMapping mappingFirst operationId offlineQrToken) := by
  unfold readScanAndMapping
  split <;> exact all_bind (all_call rfl) fun _ => all_bind (all_call rfl) fun _ => trivial

end ScansService

/-! ## QR generation and formatting -/

namespace QrService

theorem findRegistrationWithRelations_reads (registrationId : Id) :
    Reads (findRegistrationWithRelations registrationId) := by
  refine all_bind (all_call rfl) fun registration => ?_
  cases registration <;> trivial

theorem tryTokenIds_formats (attempts : Nat) : Formats (tryTokenIds attempts) := by
  induction attempts with
  | zero => trivial
  | succ attempts ih =>
      refine all_bind (all_call rfl) fun hex => all_bind (all_call rfl) fun stored => ?_
      cases stored with
      | none => trivial
      | some stored => exact ih

theorem findActive_reads (registrationId : Id) (otherwise : Exn) :
    Reads (findActive registrationId otherwise) := by
  refine all_bind (all_call rfl) fun view => ?_
  cases view <;> trivial

theorem createOrRefreshQrToken_formats (data : QrTokenData) (existing : Option QrToken) :
    Formats (createOrRefreshQrToken data existing) := by
  cases existing with
  | none =>
      refine all_tryCatch (all_call rfl) fun e => ?_
      split
      · exact (findActive_reads _ _).formats
      · trivial
  | some existing =>
      refine all_bind (all_call rfl) fun count => ?_
      split
      · refine all_bind (all_call rfl) fun refreshed => ?_
        cases refreshed <;> trivial
      · exact (findActive_reads _ _).formats

theorem issue_formats (registration : RegistrationView) (existing : Option QrToken) :
    Formats (issue rt registration existing) :=
  all_bind (tryTokenIds_formats 5) fun _ => all_bind (all_call rfl) fun _ =>
    all_bind (all_call rfl) fun _ => all_bind (createOrRefreshQrToken_formats _ _) fun _ =>
      all_ofExcept _

theorem generate_formats (registrationId : Id) : Formats (generate rt registrationId) := by
  refine all_bind (findRegistrationWithRelations_reads _).formats fun registration => ?_
  split
  · trivial
  · refine all_bind (all_call rfl) fun existing => ?_
    cases existing with
    | none => exact issue_formats rt _ _
    | some q =>
        dsimp only
        split
        · exact all_ofExcept _
        · exact issue_formats rt _ _

theorem findByRegistration_reads (registrationId : Id) :
    Reads (findByRegistration rt registrationId) := by
  refine all_bind (findRegistrationWithRelations_reads _) fun _ =>
    all_bind (all_call rfl) fun q => ?_
  cases q with
  | none => trivial
  | some q => exact all_ofExcept _

end QrService

theorem getRegistrationQrImageMetadata_reads (registrationPublicId qrToken : String) :
    Reads (QrImageService.getRegistrationQrImageMetadata rt registrationPublicId qrToken) := by
  refine all_bind (all_tryCatch (all_call rfl) fun _ => trivial) fun found => ?_
  cases found <;> trivial

theorem generateRegistrationQrImage_formats (registrationPublicId qrToken : String) :
    Formats (QrImageService.generateRegistrationQrImage rt registrationPublicId qrToken) :=
  all_bind (all_call rfl) fun _ => trivial

theorem getQrMetadata_formats (registrationId registrationPublicId : String) :
    Formats (BadgeTemplatesService.getQrMetadata rt registrationId registrationPublicId) := by
  refine all_bind (QrService.generate_formats rt _) fun qr =>
    all_bind (getRegistrationQrImageMetadata_reads rt _ _).formats fun existing => ?_
  cases existing with
  | none => exact all_bind (generateRegistrationQrImage_formats rt _ _) fun _ => trivial
  | some image => trivial

theorem resolveActiveBadgeForRegistration_formats (eventId : Id) (registration : Registration)
    (qr : Option BadgeTemplatesService.BadgeQr) :
    Formats (BadgeTemplatesService.resolveActiveBadgeForRegistration rt eventId registration
      qr) := by
  refine all_bind (all_call rfl) fun template => ?_
  cases template with
  | none => trivial
  | some template =>
      dsimp only
      split
      · trivial
      · cases qr with
        | none => exact all_bind (getQrMetadata_formats rt _ _) fun _ => trivial
        | some qr => trivial

namespace ScansService

theorem qrMetadata_formats (registration : Registration) (generateQrImage : Bool) :
    Formats (qrMetadata rt registration generateQrImage) := by
  refine all_bind (QrService.findByRegistration_reads rt _).formats fun qr =>
    all_bind (getRegistrationQrImageMetadata_reads rt _ _).formats fun existing => ?_
  cases existing with
  | some image => trivial
  | none =>
      dsimp only
      split
      · exact all_bind (generateRegistrationQrImage_formats rt _ _) fun _ => trivial
      · trivial

theorem formatQrMetadata_formats (view : RawScanView) (generateQrImage : Bool) :
    Formats (formatQrMetadata rt view generateQrImage) := by
  unfold formatQrMetadata
  split
  · exact all_tryCatch (all_bind (qrMetadata_formats rt _ _) fun _ => trivial) fun _ => trivial
  · trivial

theorem formatBadgeMetadata_formats (view : RawScanView) (qr : Option QrMetadata) :
    Formats (formatBadgeMetadata rt view qr) := by
  unfold formatBadgeMetadata
  split
  · trivial
  · exact all_tryCatch (resolveActiveBadgeForRegistration_formats rt _ _ _) fun _ => trivial

theorem formatRegistrationFields_reads (view : RawScanView) :
    Reads (formatRegistrationFields view) := by
  unfold formatRegistrationFields
  split
  · trivial
  · exact all_call rfl

theorem formatScanResponse_formats (allowed : Bool) (reason : String) (scanEvent : RawScanView)
    (movement : Option MovementLog) (generateQrImage : Bool) :
    Formats (formatScanResponse rt allowed reason scanEvent movement generateQrImage) :=
  all_bind (formatQrMetadata_formats rt _ _) fun _ =>
    all_bind (formatBadgeMetadata_formats rt _ _) fun _ =>
      all_bind (formatRegistrationFields_reads _).formats fun _ => trivial

end ScansService

end CreativeBackend
