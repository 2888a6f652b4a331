import CreativeBackend.Interaction.Discipline
import CreativeBackend.Scans.Footprint

/-!
# The scan service

Any number of scan operations run against one store. A raw scan job may be
delivered again, also while an earlier delivery is in progress, so an operation
may start at any time with any input. Other parties change the store as `env`
allows.
-/

namespace CreativeBackend

open Interaction

/-- The operations of the scan service. -/
inductive ScanRun (rt : Runtime) : Svc Unit → Prop
  | ingest (dto : CreateScanDto) : ScanRun rt (ScansService.ingest rt dto).void
  | ingestFast (dto : CreateScanDto) : ScanRun rt (ScansService.ingestFast rt dto).void
  | processRawScan (scanEventRawId : Id) :
      ScanRun rt (ScansService.processRawScan rt scanEventRawId).void
  | ingestOfflineScan (mappingFirst : Bool) (input : OfflineScanInput) :
      ScanRun rt (ScansService.ingestOfflineScan rt mappingFirst input).void
  | reconcileOfflineRegistration (input : ReconcileInput) :
      ScanRun rt (ScansService.reconcileOfflineRegistration rt input).void

/-- What surrounds the operations: the calls that may fail without effect, the
changes that others make, and the operations that may start. -/
structure Surroundings where
  faulty : Call → Prop := Call.faulty
  env : Store → Store → Prop
  starts : Store → Svc Unit → Store → Prop

/-- Any scan operation may start at any time, any database, queue or file call may
fail, and others leave the scan tables alone. -/
def anyScans (rt : Runtime) : Surroundings where
  env := Store.SameScans
  starts s p s' := ScanRun rt p ∧ s' = s

/-- The scan service. -/
def scanService (rt : Runtime) (σ : Surroundings) : Service Resp Exn Store where
  Choice := Choice
  machine := machine rt
  faulty := σ.faulty
  env := σ.env
  starts := σ.starts

variable {rt : Runtime} {σ : Surroundings}

/-- What a call answers and does, whether it fails or not. -/
theorem effect_of_outcome {c : Call} {s s' : Store} {x : Except Exn (Resp c)}
    (h : (scanService rt σ).Outcome c s x s') : Effect s c x s' := by
  rcases h with ⟨ch, h⟩ | ⟨-, rfl, e, rfl⟩
  · exact effect_of_machine h
  · exact .failed

/-- An empty scan store. -/
def EmptyScans (s : Store) : Prop :=
  s.rawScans.rows = [] ∧ s.movements.rows = [] ∧ s.offlineScans.rows = []

/-- A raw scan as it was stored at some earlier time. -/
def WasRawScan (a : ScanEventRaw) (s : Store) : Prop :=
  ∃ s₀, Store.Later s₀ s ∧ a ∈ s₀.rawScans.rows

theorem WasRawScan.later {a : ScanEventRaw} {s s' : Store} (h : WasRawScan a s)
    (hl : Store.Later s s') : WasRawScan a s' := by
  obtain ⟨s₀, h₀, ha⟩ := h
  exact ⟨s₀, h₀.trans hl, ha⟩

/-- The row under the key of an earlier raw scan is the same scan. -/
theorem WasRawScan.identity {a b : ScanEventRaw} {s : Store} (h : WasRawScan a s)
    (hb : b ∈ s.rawScans.rows) (hk : b.id = a.id) : Store.rawIdentity a = Store.rawIdentity b := by
  obtain ⟨s₀, h₀, ha⟩ := h
  exact h₀.rawScans.core_eq ha hb hk.symm

/-- An offline scan as it was stored at some earlier time. -/
def WasOfflineScan (x : OfflineScanOperation) (s : Store) : Prop :=
  ∃ s₀, Store.Later s₀ s ∧ x ∈ s₀.offlineScans.rows

theorem WasOfflineScan.later {x : OfflineScanOperation} {s s' : Store} (h : WasOfflineScan x s)
    (hl : Store.Later s s') : WasOfflineScan x s' := by
  obtain ⟨s₀, h₀, hx⟩ := h
  exact ⟨s₀, h₀.trans hl, hx⟩

/-- The row under the key of an earlier offline scan is the same scan. -/
theorem WasOfflineScan.identity {x y : OfflineScanOperation} {s : Store}
    (h : WasOfflineScan x s) (hy : y ∈ s.offlineScans.rows) (hk : y.id = x.id) :
    Store.offlineIdentity x = Store.offlineIdentity y := by
  obtain ⟨s₀, h₀, hx⟩ := h
  exact h₀.offlineScans.core_eq hx hy hk.symm

/-! ## What an answer says -/

section Answered

variable {permits : Nat → Call → World Resp Exn Store → Prop}
variable {D : Discipline (scanService rt σ) permits} {t : Nat} {u w : World Resp Exn Store}

/-- A read was answered from a store that came before the present one, and is logged. -/
theorem answered_read {c : Call} {a : Resp c} (hc : c.reads = true)
    (h : D.Answered t u c (.ok a) w) :
    ∃ w₀ ch, D.Leads u w₀ ∧ D.inv w₀ ∧ machine rt ch c w₀.store = (.ok a, w₀.store) ∧
      D.Leads (w₀.log t c (.ok a) w₀.store) w := by
  obtain ⟨w₀, s₀, hu, hi, -, ho, hl⟩ := h
  rcases ho with ⟨ch, hm⟩ | ⟨-, -, e, he⟩
  · have hs : s₀ = w₀.store := (congrArg Prod.snd hm).symm.trans (machine_reads rt ch hc w₀.store)
    subst hs
    exact ⟨w₀, ch, hu, hi, hm, hl⟩
  · cases he

/-- A read that was answered is logged with the store it was answered from. -/
theorem logged_read {c : Call} {a : Resp c} (hc : c.reads = true)
    (h : D.Answered t u c (.ok a) w) :
    ∃ s₀ ch, ⟨t, c, .ok a, s₀⟩ ∈ w.trace ∧ D.rely u.store s₀ ∧
      machine rt ch c s₀ = (.ok a, s₀) := by
  obtain ⟨w₀, ch, hu, -, hm, -, new, hn⟩ := answered_read hc h
  refine ⟨w₀.store, ch, ?_, hu.1, hm⟩
  rw [hn]
  exact List.mem_append_right _ (List.mem_cons_self ..)

/-- A read was permitted where the thread had made no other call since `u`. -/
theorem permitted_read {c : Call} {a : Resp c} (hc : c.reads = true)
    (h : D.Performed t u c (.ok a) w) :
    ∃ w₀ ch, w₀.own t = u.own t ∧ permits t c w₀ ∧
      machine rt ch c w₀.store = (.ok a, w₀.store) ∧
        w.own t = ⟨t, c, .ok a, w₀.store⟩ :: u.own t ∧ D.rely w₀.store w.store := by
  obtain ⟨w₀, s₀, hown, hp, ⟨ch, hm⟩ | ⟨-, -, e, he⟩, hlog, hrely⟩ := h.permitted
  · have hs : s₀ = w₀.store := (congrArg Prod.snd hm).symm.trans (machine_reads rt ch hc w₀.store)
    subst hs
    exact ⟨w₀, ch, hown, hp, hm, hlog, hrely⟩
  · cases he

/-- What a call did that was answered. -/
theorem answered_effect {c : Call} {x : Except Exn (Resp c)} (h : D.Answered t u c x w) :
    ∃ w₀ s₀, D.Leads u w₀ ∧ D.inv w₀ ∧ permits t c w₀ ∧ Effect w₀.store c x s₀ ∧
      D.Leads (w₀.log t c x s₀) w := by
  obtain ⟨w₀, s₀, hu, hi, hp, ho, hl⟩ := h
  exact ⟨w₀, s₀, hu, hi, hp, effect_of_outcome ho, hl⟩

/-- The raw scan that was read by its id. -/
theorem answered_rawScanById (hD : ∀ s s', D.rely s s' → Store.Later s s') {id : Id}
    {a : ScanEventRaw} (h : D.Answered t u (.rawScanById id) (.ok (some a)) w) :
    WasRawScan a w.store := by
  obtain ⟨w₀, ch, -, -, hm, hl⟩ := answered_read rfl h
  have hfind : w₀.store.rawScans.find? id = some a := by simpa [machine, query] using hm
  exact ⟨w₀.store, hD _ _ hl.1, (Relational.Table.find?_eq_some_iff.mp hfind).1⟩

/-- The offline scan that was read by its id. -/
theorem answered_offlineScanById (hD : ∀ s s', D.rely s s' → Store.Later s s') {id : Id}
    {x : OfflineScanOperation} (h : D.Answered t u (.offlineScanById id) (.ok (some x)) w) :
    WasOfflineScan x w.store := by
  obtain ⟨w₀, ch, -, -, hm, hl⟩ := answered_read rfl h
  have hfind : w₀.store.offlineScans.find? id = some x := by simpa [machine, query] using hm
  exact ⟨w₀.store, hD _ _ hl.1, (Relational.Table.find?_eq_some_iff.mp hfind).1⟩

/-- The raw scan that was read by its operation id, with its movement. -/
theorem answered_rawScanByOperation (hD : ∀ s s', D.rely s s' → Store.Later s s')
    {operationId : String} {view : RawScanView}
    (h : D.Answered t u (.rawScanByOperation operationId) (.ok (some view)) w) :
    ∃ s₀, Store.Later s₀ w.store ∧ view.scan ∈ s₀.rawScans.rows ∧
      view.scan.operationId = operationId ∧ view.movementLog = s₀.movementOf view.scan.id := by
  obtain ⟨w₀, ch, -, -, hm, hl⟩ := answered_read rfl h
  simp only [machine, query, Prod.mk.injEq, Except.ok.injEq, Option.map_eq_some_iff] at hm
  obtain ⟨⟨a, ha, rfl⟩, -⟩ := hm
  have hop : a.operationId = operationId := by simpa using List.find?_some ha
  exact ⟨w₀.store, hD _ _ hl.1, List.mem_of_find?_eq_some ha, hop, rfl⟩

end Answered

/-! ## Operations around `processOfflineScanOperation` -/

/-- Every call in `P` keeps the invariant, whoever issues it. -/
def Preserves {permits : Nat → Call → World Resp Exn Store → Prop}
    (D : Discipline (scanService rt σ) permits) (P : Call → Prop) : Prop :=
  ∀ c, P c → ∀ t w, D.inv w → permits t c w → ∀ x s', Effect w.store c x s' →
    D.inv (w.log t c x s')

section Submission

variable {permits : Nat → Call → World Resp Exn Store → Prop}
variable {D : Discipline (scanService rt σ) permits} {P : Call → Prop}
variable {O : String → Id → MovementType → Prop} {t : Nat} {w : World Resp Exn Store}

theorem Preserves.keeps (hD : Preserves D P) {c : Call} (hc : P c) : D.Keeps t c w :=
  fun _ _ hi hp x s' h => hD c hc t _ hi hp x s' (effect_of_outcome h)

theorem Preserves.safe (hD : Preserves D P) {α : Type} {p : Svc α} (hp : p.All P) :
    D.logic.Safe t p w :=
  Discipline.safe_of_all (fun c hc t w hi hp x s' h => hD c hc t w hi hp x s'
    (effect_of_outcome h)) hp w

variable (hD : Preserves D (Call.Submits O))
  (hproc : ∀ id w, D.inv w → D.logic.Safe t (ScansService.processOfflineScanOperation rt id) w)

include hD hproc

theorem safe_ingestOfflineScan (mappingFirst : Bool) {input : OfflineScanInput}
    (ho : O input.operationId input.eventId input.movementType) (hi : D.inv w) :
    D.logic.Safe t (ScansService.ingestOfflineScan rt mappingFirst input) w := by
  refine Discipline.safe_bind hi (hD.safe (verifySignedOfflineQr_reads rt _ _).submits)
    fun verified w₁ hi₁ _ => ?_
  dsimp only
  split
  · exact fun _ _ _ => trivial
  refine Discipline.safe_bind hi₁ (hD.safe (ScansService.ensureEventCanBeModified_checks _).submits)
    fun _ w₂ hi₂ _ => ?_
  refine Discipline.safe_bind hi₂ (hD.safe (ScansService.ensureActiveDevice_checks _ _).submits)
    fun _ w₃ hi₃ _ => ?_
  refine Discipline.safe_bind hi₃
    (hD.safe (ScansService.ensureActiveStaffSession_checks _ _).submits) fun _ w₄ hi₄ _ => ?_
  refine Discipline.safe_bind hi₄
    (hD.safe (ScansService.ensureActiveCheckpoint_checks _ _).submits) fun _ w₅ hi₅ _ => ?_
  refine Discipline.safe_bind hi₅ (hD.safe (ScansService.readScanAndMapping_reads _ _ _).submits)
    fun found w₆ hi₆ _ => ?_
  obtain ⟨existing, mapping⟩ := found
  cases existing with
  | none =>
      refine Discipline.safe_call_bind hi₆
        (hD.keeps (.park _ (by exact ScansService.parkedStatus _) ho)) fun x w₇ hi₇ _ _ => ?_
      split
      · exact fun _ _ _ => trivial
      · exact hproc _ w₇ hi₇
  | some existing =>
      simp only [ScansService.ingestOfflineExisting]
      split
      · exact Discipline.safe_call_bind hi₆ (hD.keeps (.conflict _)) fun _ _ _ _ _ _ _ _ => trivial
      · split
        · split
          · exact Discipline.safe_call_bind hi₆ (hD.keeps (.relink _ _ _))
              fun _ w₇ hi₇ _ _ => hproc _ w₇ hi₇
          · exact fun _ _ _ => trivial
        · split <;> exact fun _ _ _ => trivial

theorem safe_reconcileScan (registrationId : Id) (x : OfflineScanOperation) (hi : D.inv w) :
    D.logic.Safe t (ScansService.reconcileScan rt registrationId x) w := by
  refine Discipline.safe_tryCatch hi ?_ fun error w₁ hi₁ _ => ?_
  · refine Discipline.safe_call_bind hi (hD.keeps (.link _ _)) fun _ w₁ hi₁ _ _ => ?_
    exact Discipline.safe_bind hi₁ (hproc _ w₁ hi₁) fun _ _ _ _ _ _ _ => trivial
  · exact Discipline.safe_call_bind hi₁ (hD.keeps (.fail _ _)) fun _ _ _ _ _ _ _ _ => trivial

theorem safe_reconcileScans (registrationId : Id) (xs : List OfflineScanOperation)
    (hi : D.inv w) : D.logic.Safe t (ScansService.reconcileScans rt registrationId xs) w := by
  induction xs generalizing w with
  | nil => exact fun _ _ _ => trivial
  | cons x rest ih =>
      refine Discipline.safe_bind hi (safe_reconcileScan hD hproc registrationId x hi)
        fun _ w₁ hi₁ _ => ?_
      exact Discipline.safe_bind hi₁ (ih hi₁) fun _ _ _ _ _ _ _ => trivial

theorem safe_reconcileOfflineRegistration (input : ReconcileInput) (hi : D.inv w) :
    D.logic.Safe t (ScansService.reconcileOfflineRegistration rt input) w :=
  Discipline.safe_call_bind hi (hD.keeps (.format rfl))
    fun xs _ hi₁ _ _ => safe_reconcileScans hD hproc _ xs hi₁

end Submission

/-! ## A small deployment -/

/-- The payload of a card that was printed offline. -/
def sampleCard : Json := .obj [
  ("v", .num 1), ("type", .str "OFFLINE_REGISTRATION"), ("eventId", .str "c0"),
  ("issuerDeviceId", .str "c0"), ("issuerKeyVersion", .num 1),
  ("offlineRegistrationOperationId", .str "reg-1"), ("offlineQrToken", .str "O2.card"),
  ("attendeeTypeId", .str "c0"), ("issuedAt", .str "-"), ("validUntil", .str "-")]

/-- A deployment whose signatures are constant. -/
def sampleRuntime : Runtime where
  qrSigningSecret := "secret"
  scanProcessingEnabled := true
  registrationPipelineEnabled := false
  publicBaseUrl := "http://localhost:3000"
  hmacSha256 _ _ := []
  sha256Hex s := s
  base64url _ := "s"
  decodeBase64Url s := s
  encodeBase64Url s := s
  jsonParse s := if s = "card" then some sampleCard else none
  jsonStringify _ := ""
  numberToString _ := ""
  isEd25519PublicKey _ := true
  verifyEd25519 _ _ _ := true
  parseDate _ := some 5
  toISOString _ := ""
  random n := Nat.repr n

/-- One event without re-entry, one device, and one active registration with its token. -/
def sampleStore : Store where
  clock := 5
  events := .ofData [{ status := .ACTIVE, startsAt := 0, endsAt := 10, allowReEntry := false }]
  attendeeTypes := .ofData [{ eventId := "c0", code := "VISITOR" }]
  registrations := .ofData
    [{ publicId := "REG-1", eventId := "c0", attendeeTypeId := "c0", fullName := "Visitor" }]
  qrTokens := .ofData [{
    registrationId := "c0"
    eventId := "c0"
    tokenId := "T"
    payload := {
      tokenId := "T"
      eventId := "c0"
      registrationId := "c0"
      registrationPublicId := "REG-1"
      attendeeTypeId := "c0"
      attendeeTypeCode := "VISITOR"
      issuedAt := ""
      validFrom := ""
      validUntil := ""
      nonce := "" }
    signature := "s"
    validFrom := 0
    validUntil := 10 }]
  devices := .ofData [{ eventId := "c0", code := "GATE-1", status := .ACTIVE }]
  offlineKeys := .ofData [{ deviceId := "c0", version := 1, publicKey := "", validFrom := 0 }]
  checkpoints := .ofData [{ eventId := "c0", code := "MAIN" }]

/-- An entry scan of a code at the only checkpoint. -/
def sampleScan (operationId qrToken : String) : CreateScanDto where
  operationId
  eventId := "c0"
  deviceId := "c0"
  checkpointId := some "c0"
  qrToken
  type := .ENTRY
  scannedAtDevice := ""

/-- An entry scan of the compact sample token. -/
def sampleDto (operationId : String) : CreateScanDto := sampleScan operationId "Q2.T.s"

/-- An offline scan of the signed sample card. -/
def sampleOfflineScan (operationId : String) : OfflineScanInput where
  operationId
  eventId := "c0"
  scannerDeviceId := "c0"
  checkpointId := "c0"
  signedOfflineQr := "card.-"
  movementType := .ENTRY
  scannedAtDevice := ""

/-- A synchronised mapping of an offline card to the sample registration. -/
def sampleMapping (offlineQrToken offlineRegistrationOperationId : String) :
    OfflineRegistrationMapping where
  eventId := "c0"
  issuerDeviceId := "c0"
  offlineRegistrationOperationId
  offlineRegistrationId := offlineRegistrationOperationId
  offlineQrToken
  issuerKeyVersion := 1
  payloadHash := ""
  registrationId := some "c0"
  canonicalQrTokenId := some "c0"
  status := .SYNCED

/-- Reconciliation of an offline card with the sample registration. -/
def sampleReconcile (offlineQrToken offlineRegistrationOperationId : String) :
    ReconcileInput where
  eventId := "c0"
  offlineQrToken
  offlineRegistrationOperationId
  registrationId := "c0"

/-- Start an operation without further effect. -/
def launch {rt : Runtime} {σ : Surroundings} (p : Svc Unit) : (scanService rt σ).Action :=
  .start p (fun _ => true) id

/-- The next calls of a thread. -/
def steps {rt : Runtime} {σ : Surroundings} (t n : Nat) : List (scanService rt σ).Action :=
  List.replicate n (.step t ({} : Choice))

variable {rt : Runtime} {σ : Surroundings}

theorem launch_legal {p : Svc Unit} (hp : ScanRun rt p) :
    (launch p : (scanService rt (anyScans rt)).Action).Legal :=
  fun _ _ => ⟨hp, rfl⟩

@[simp] theorem steps_legal {t n : Nat} :
    Service.Legal (steps t n : List (scanService rt σ).Action) := by
  intro a ha
  rw [List.eq_of_mem_replicate ha]
  trivial

/-- An unknown card is scanned, its registration arrives, and the scan is settled. -/
def lateRegistration : List (scanService sampleRuntime (anyScans sampleRuntime)).Action :=
  [launch (ScansService.ingest sampleRuntime (sampleScan "op-1" "O2.card")).void] ++ steps 0 8 ++
    [.change (fun _ => true)
        fun s => { s with mappings := .ofData [sampleMapping "O2.card" "reg-1"] },
      launch (ScansService.reconcileOfflineRegistration sampleRuntime
        (sampleReconcile "O2.card" "reg-1")).void] ++ steps 1 13

theorem lateRegistration_legal : Service.Legal lateRegistration := by
  have hchange : Service.Action.Legal (v := scanService sampleRuntime (anyScans sampleRuntime))
      (.change (fun _ => true)
        fun s => { s with mappings := .ofData [sampleMapping "O2.card" "reg-1"] }) :=
    fun _ _ => ⟨rfl, rfl, rfl⟩
  simp [lateRegistration, launch_legal, hchange, ScanRun.ingest,
    ScanRun.reconcileOfflineRegistration]

end CreativeBackend
