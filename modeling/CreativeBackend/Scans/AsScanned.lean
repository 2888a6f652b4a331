import CreativeBackend.Scans.Settlement

/-!
# What a settled scan records

A parked scan is decided on its own columns. Where a raw scan is stored under its
operation id, though, the movement is written from the columns of that raw scan, or
is the one that the raw scan has already. In the runs in which the two rows
record the same scan, the movement is that of the scan that was parked, and it was
decided for it.
-/

namespace CreativeBackend

open Relational Interaction Prog Discipline Store

/-- What was scanned, as a raw scan, a parked scan and a movement record it. -/
structure Scanned where
  type : MovementType
  eventId : Id
  deviceId : Id
  checkpointId : Option Id
  scannedAtDevice : Time
  deriving DecidableEq

def ScanEventRaw.scanned (a : ScanEventRaw) : Scanned where
  type := a.type
  eventId := a.eventId
  deviceId := a.deviceId
  checkpointId := a.checkpointId
  scannedAtDevice := a.scannedAtDevice

def OfflineScanOperation.scanned (x : OfflineScanOperation) : Scanned where
  type := x.movementType
  eventId := x.eventId
  deviceId := x.scannerDeviceId
  checkpointId := some x.checkpointId
  scannedAtDevice := x.scannedAtDevice

def MovementLog.scanned (m : MovementLog) : Scanned where
  type := m.type
  eventId := m.eventId
  deviceId := m.deviceId
  checkpointId := m.checkpointId
  scannedAtDevice := m.occurredAt

/-- The movement that a call has written. -/
def writtenMovement : (c : Call) → Except Exn (Resp c) → Option MovementLog
  | .createProcessed _ _ _, .ok (_, m) => some m
  | .updateProcessed _ _, .ok (_, m) => some m
  | _, _ => none

/-- A call of the log was answered. -/
def HasAnswer (log : List Entry) (c : Call) (a : Resp c) : Prop :=
  ∃ t s, (⟨t, c, .ok a, s⟩ : Entry) ∈ log

/-- The result of the movement is the decision on what was scanned, by the answers in the
log: the event, the checkpoint if the scan names one, the earlier entry if the event and
the type ask for it, and the token with its registration. -/
def TakenFor (rt : Runtime) (log : List Entry) (scanned : Scanned) (m : MovementLog) : Prop :=
  ∃ event checkpoint entered stored,
    HasAnswer log (.eventById scanned.eventId) (some event) ∧
    (match truthy scanned.checkpointId with
      | none => checkpoint = none
      | some id => ∃ c, checkpoint = some c ∧ HasAnswer log (.checkpointById id) (some c)) ∧
    (event.allowReEntry = true ∨ scanned.type ≠ .ENTRY ∨
      HasAnswer log (.entryMovement event.id m.registrationId) entered) ∧
    ((∃ tokenId, HasAnswer log (.qrTokenByTokenId tokenId) (some stored)) ∨
      ∃ q, HasAnswer log (.qrTokenFirst q) (some stored)) ∧
    m.registrationId = stored.registration.id ∧ m.qrTokenId = some stored.token.id ∧
    ∃ reason, m.reason = some reason ∧ m.result = ScansService.decisionResult reason ∧
      reason = ScansService.decisionReason
        (ScansService.getCheckpointAccessDenial rt checkpoint stored.attendeeType.code)
        (reentryReason event scanned.type entered)

/-- A logged call wrote the movement, by a decision of its operation on what was scanned. -/
def DecidedFor (rt : Runtime) (log : List Entry) (scanned : Scanned) (m : MovementLog) : Prop :=
  ∃ later e past, log = later ++ e :: past ∧ writtenMovement e.call e.answer = some m ∧
    TakenFor rt (ownLog e.thread past) scanned m

/-- Every scan that was settled on a movement is recorded by it, and its decision is
stored as the result. -/
def SettledAsScanned (rt : Runtime) (w : World Resp Exn Store) : Prop :=
  ∀ x ∈ w.store.offlineScans.rows, x.status = .PROCESSED → ∀ movementId,
    x.movementId = some movementId → ∃ m ∈ w.store.movements.rows, m.id = movementId ∧
      m.scanned = x.scanned ∧ DecidedFor rt w.trace x.scanned m

/-- The raw scan that a call settles. -/
def Call.settlesRaw : Call → Option ScanEventRaw
  | .updateProcessed scan _ => some scan
  | _ => none

/-- The parked scans that a thread has read. -/
def scansRead (log : List Entry) : List OfflineScanOperation :=
  log.filterMap fun
    | ⟨_, .offlineScanById _, .ok x, _⟩ => x
    | _ => none

/-- The settlement of a parked scan meets only its own scan under the operation id: a raw
scan that has a movement when it is looked up records what the parked scan does, and so
does a raw scan from which the movement is written. -/
def MeetsOwnScan (t : Nat) (c : Call) (w : World Resp Exn Store) : Prop :=
  (∀ operationId ∈ c.findsRawScan, ∀ x ∈ scanInHand (w.own t), ∀ a ∈ w.store.rawScans.rows,
    a.operationId = operationId → (∃ m ∈ w.store.movements.rows, m.scanEventRawId = a.id) →
      a.scanned = x.scanned) ∧
  ∀ scan ∈ c.settlesRaw, ∀ x ∈ scansRead (w.own t), x.operationId = scan.operationId →
    scan.scanned = x.scanned

instance (t : Nat) (c : Call) (w : World Resp Exn Store) : Decidable (MeetsOwnScan t c w) :=
  inferInstanceAs (Decidable ((∀ operationId ∈ c.findsRawScan, ∀ x ∈ scanInHand (w.own t),
      ∀ a ∈ w.store.rawScans.rows, a.operationId = operationId →
        (∃ m ∈ w.store.movements.rows, m.scanEventRawId = a.id) → a.scanned = x.scanned) ∧
    ∀ scan ∈ c.settlesRaw, ∀ x ∈ scansRead (w.own t), x.operationId = scan.operationId →
      scan.scanned = x.scanned))

namespace AsScanned

open OperationIds

variable {rt : Runtime} {t : Nat} {s s' : Store} {u v w : World Resp Exn Store}

theorem scanned_of_rawIdentity {a b : ScanEventRaw} (h : rawIdentity a = rawIdentity b) :
    a.scanned = b.scanned := by
  simp only [rawIdentity, Prod.mk.injEq] at h
  simp [ScanEventRaw.scanned, h]

theorem scanned_of_offlineIdentity {x y : OfflineScanOperation}
    (h : offlineIdentity x = offlineIdentity y) : x.scanned = y.scanned := by
  simp only [offlineIdentity, Prod.mk.injEq] at h
  simp [OfflineScanOperation.scanned, h]

/-! ## Movements and their raw scans -/

/-- The raw scan of a movement is stored, and records the same scan. -/
def Mirrored (s : Store) (m : MovementLog) : Prop :=
  ∃ a ∈ s.rawScans.rows, a.id = m.scanEventRawId ∧ a.scanned = m.scanned

theorem Mirrored.later {m : MovementLog} (h : Mirrored s m) (hm : m ∈ s.movements.rows)
    (hl : Later s s') : Mirrored s' m := by
  obtain ⟨a, ha, hid, hsame⟩ := h
  obtain ⟨b, hb, hba⟩ := hl.rawScansKept a ha ⟨m, hm, hid.symm⟩
  have hcore : rawIdentity a = rawIdentity b := hl.rawScans.core_eq ha hb hba.symm
  exact ⟨b, hb, hba.trans hid, (scanned_of_rawIdentity hcore).symm.trans hsame⟩

/-- A movement is new only where the call has written it. -/
theorem mem_movements_of_effect {c : Call} {y : Except Exn (Resp c)} (h : Effect s c y s')
    {m : MovementLog} (hm : m ∈ s'.movements.rows) :
    m ∈ s.movements.rows ∨ writtenMovement c y = some m := by
  cases h with
  | settle _ hc | settleRaw _ hc =>
      rcases (Table.mem_create hc).mp hm with hm | rfl
      · exact .inl hm
      · exact .inr rfl
  | _ => exact .inl hm

theorem mem_of_written {c : Call} {y : Except Exn (Resp c)} {m : MovementLog}
    (heff : Effect s c y s') (hm : writtenMovement c y = some m) : m ∈ s'.movements.rows := by
  cases heff with
  | settle _ hcreate | settleRaw _ hcreate =>
      cases hm
      exact (Table.mem_create hcreate).mpr (.inr rfl)
  | @read c y hc => cases c <;> cases hc <;> cases hm
  | @failed c e => cases c <;> cases hm
  | _ => cases hm

/-- The movement that `createProcessed` has written. -/
theorem created_of_written {dto : CreateScanDto} {scannedAt : Option Time} {d : Decision}
    {y : Except Exn (Resp (.createProcessed dto scannedAt d))} {m : MovementLog}
    (heff : Effect s (.createProcessed dto scannedAt d) y s')
    (hm : writtenMovement (.createProcessed dto scannedAt d) y = some m) :
    m.registrationId = d.registrationId ∧ m.qrTokenId = some d.qrTokenId ∧ m.result = d.result ∧
      m.reason = some d.reason ∧ ∃ scannedAtDevice, scannedAt = some scannedAtDevice ∧
        m.scanned = ⟨dto.type, dto.eventId, dto.deviceId, dto.checkpointId, scannedAtDevice⟩ := by
  cases heff with
  | read hc => cases hc
  | failed => cases hm
  | settle hc hcreate =>
      have hraw := (Table.create_eq_some hc).1
      have hrow := (Table.create_eq_some hcreate).1
      simp only [writtenMovement, Option.some.injEq] at hm
      subst hm
      rw [hrow, hraw]
      exact ⟨rfl, rfl, rfl, rfl, _, rfl, rfl⟩

/-- The movement that `updateProcessed` has written. -/
theorem updated_of_written {scan : ScanEventRaw} {d : Decision}
    {y : Except Exn (Resp (.updateProcessed scan d))} {m : MovementLog}
    (heff : Effect s (.updateProcessed scan d) y s')
    (hm : writtenMovement (.updateProcessed scan d) y = some m) :
    m.registrationId = d.registrationId ∧ m.qrTokenId = some d.qrTokenId ∧ m.result = d.result ∧
      m.reason = some d.reason ∧ m.scanned = scan.scanned := by
  cases heff with
  | read hc => cases hc
  | failed => cases hm
  | settleRaw hu hcreate =>
      have hrow := (Table.create_eq_some hcreate).1
      simp only [writtenMovement, Option.some.injEq] at hm
      subst hm
      rw [hrow]
      exact ⟨rfl, rfl, rfl, rfl, rfl⟩

/-- A transaction writes a movement of the raw scan that it settles. -/
theorem mirrored_of_written {c : Call} {y : Except Exn (Resp c)} {m : MovementLog}
    (heff : Effect s c y s') (hscan : ∀ scan ∈ c.settlesRaw, WasRawScan scan s)
    (hm : writtenMovement c y = some m) : Mirrored s' m := by
  cases heff with
  | @settle _ _ _ row _ _ _ hc hcreate =>
      have hrow := (Table.create_eq_some hcreate).1
      simp only [writtenMovement, Option.some.injEq] at hm
      subst hm
      exact ⟨row, (Table.mem_create hc).mpr (.inr rfl), by rw [hrow]; rfl, by rw [hrow]; rfl⟩
  | @settleRaw scan _ row _ _ _ hu hcreate =>
      obtain ⟨a, ha, hk, hraw, -, -⟩ := Table.update_eq_done hu
      have hrow := (Table.create_eq_some hcreate).1
      have hcore : rawIdentity scan = rawIdentity a := (hscan scan rfl).identity ha hk
      simp only [writtenMovement, Option.some.injEq] at hm
      subst hm
      refine ⟨row, (Table.mem_update hu).mpr (.inr rfl), by rw [hrow, hraw]; rfl, ?_⟩
      calc row.scanned = a.scanned := by rw [hraw]; rfl
        _ = scan.scanned := (scanned_of_rawIdentity hcore).symm
        _ = _ := by rw [hrow]; rfl
  | @read c y hc => cases c <;> cases hc <;> cases hm
  | @failed c e => cases c <;> cases hm
  | _ => cases hm

/-! ## What each call preserves -/

/-- The invariant. -/
structure Inv (rt : Runtime) (w : World Resp Exn Store) : Prop where
  mirrored : ∀ m ∈ w.store.movements.rows, Mirrored w.store m
  decided : ∀ m ∈ w.store.movements.rows, DecidedFor rt w.trace m.scanned m
  settled : ∀ x ∈ w.store.offlineScans.rows, x.status = .PROCESSED → ∀ movementId,
    x.movementId = some movementId →
      ∃ m ∈ w.store.movements.rows, m.id = movementId ∧ m.scanned = x.scanned

theorem Inv.settledAsScanned (h : Inv rt w) : SettledAsScanned rt w := by
  intro x hx hst movementId hmid
  obtain ⟨m, hm, hid, hsame⟩ := h.settled x hx hst movementId hmid
  exact ⟨m, hm, hid, hsame, hsame ▸ h.decided m hm⟩

/-- The part of the invariant that is about one parked scan. -/
def SettledRow (s : Store) (x : OfflineScanOperation) : Prop :=
  x.status = .PROCESSED → ∀ movementId, x.movementId = some movementId →
    ∃ m ∈ s.movements.rows, m.id = movementId ∧ m.scanned = x.scanned

theorem SettledRow.later {x : OfflineScanOperation} (h : SettledRow s x) (hl : Later s s') :
    SettledRow s' x := by
  intro hst movementId hmid
  obtain ⟨m, hm, hrest⟩ := h hst movementId hmid
  exact ⟨m, hl.mem_movements hm, hrest⟩

theorem settledRow_clearRawScan {id : Id} {x : OfflineScanOperation} (h : SettledRow s x) :
    SettledRow s (clearRawScan id x) := by
  unfold clearRawScan
  split
  · exact h
  · exact h

/-- What one call preserves of the parked scans that settles none. -/
theorem settled_of_effect {c : Call} {y : Except Exn (Resp c)}
    (hi : ∀ x ∈ s.offlineScans.rows, SettledRow s x) (hc : QuietCall c) (heff : Effect s c y s') :
    ∀ x ∈ s'.offlineScans.rows, SettledRow s' x := by
  have hlater := heff.later
  have hold : ∀ x ∈ s.offlineScans.rows, SettledRow s' x := fun x hx => (hi x hx).later hlater
  cases heff with
  | remove hm =>
      intro x hx
      obtain ⟨z, hz, rfl | rfl⟩ := mem_detachRawScan hx
      · exact hold x hz
      · exact settledRow_clearRawScan (hold z hz)
  | park _ hcr =>
      intro x hx
      rcases (Table.mem_create hcr).mp hx with hx | rfl
      · exact hold x hx
      · intro hst
        rw [(Table.create_eq_some hcr).1] at hst
        exact absurd hst hc
  | patch hu =>
      intro x hx
      rcases (Table.mem_update hu).mp hx with ⟨hx, -⟩ | rfl
      · exact hold x hx
      · obtain ⟨z, hz, -, hrow, -, -⟩ := Table.update_eq_done hu
        intro hst
        rw [hrow] at hst
        exact absurd hst hc.1
  | _ => exact hold

theorem DecidedFor.log {c : Call} {y : Except Exn (Resp c)} {f : Scanned} {m : MovementLog}
    (h : DecidedFor rt w.trace f m) : DecidedFor rt (w.log t c y s).trace f m := by
  obtain ⟨later, e, past, htrace, hrest⟩ := h
  exact ⟨⟨t, c, y, w.store⟩ :: later, e, past, by simp [World.log, htrace], hrest⟩

/-- A call keeps the invariant if the movement that it writes was decided for what it
records, and the parked scans agree with their movements. -/
theorem inv_log {c : Call} {y : Except Exn (Resp c)} (hi : Inv rt w) (heff : Effect w.store c y s)
    (hscan : ∀ scan ∈ c.settlesRaw, WasRawScan scan w.store)
    (hdecided : ∀ m, writtenMovement c y = some m → TakenFor rt (w.own t) m.scanned m)
    (hsettled : ∀ x ∈ s.offlineScans.rows, SettledRow s x) : Inv rt (w.log t c y s) where
  mirrored m hm := by
    rcases mem_movements_of_effect heff hm with hold | hnew
    · exact (hi.mirrored m hold).later hold heff.later
    · exact mirrored_of_written heff hscan hnew
  decided m hm := by
    rcases mem_movements_of_effect heff hm with hold | hnew
    · exact DecidedFor.log (hi.decided m hold)
    · exact ⟨[], _, w.trace, rfl, hnew, hdecided m hnew⟩
  settled := hsettled

/-- The calls that settle nothing. -/
def SettlesNothing (c : Call) : Prop :=
  QuietCall c ∧ c.settlesRaw = none ∧ ∀ y, writtenMovement c y = none

theorem settlesNothing_of_formats {c : Call} (h : c.formats = true) : SettlesNothing c := by
  refine ⟨quiet_of_formats h, ?_, fun y => ?_⟩
  · cases c <;> first | rfl | cases h
  · cases c <;> first | rfl | cases h

theorem settlesNothing_of_prepares {O : String → Id → MovementType → Prop} {c : Call}
    (h : c.Prepares O) : SettlesNothing c := by
  refine ⟨quiet_of_prepares h, ?_⟩
  cases h with
  | format h => exact (settlesNothing_of_formats h).2
  | _ => exact ⟨rfl, fun _ => rfl⟩

theorem settlesNothing_of_submits {O : String → Id → MovementType → Prop} {c : Call}
    (h : c.Submits O) : SettlesNothing c := by
  refine ⟨quiet_of_submits h, ?_⟩
  cases h with
  | format h => exact (settlesNothing_of_formats h).2
  | _ => exact ⟨rfl, fun _ => rfl⟩

/-! ## The programs -/

def discipline (rt : Runtime) : Discipline (scanService rt (anyScans rt)) MeetsOwnScan where
  inv := Inv rt
  rely := Later
  rely_refl := Later.refl
  rely_trans := Later.trans
  call_rely _ _ h := (effect_of_outcome h).later
  env_inv {w s'} hi h := by
    constructor
    · intro m hm
      rw [h.movements] at hm
      exact (hi.mirrored m hm).later hm h.later
    · intro m hm
      rw [h.movements] at hm
      exact hi.decided m hm
    · intro x hx
      rw [h.offlineScans] at hx
      exact SettledRow.later (hi.settled x hx) h.later
  env_rely _ h := h.later
  start_inv hi h := h.2 ▸ hi
  start_rely _ h := h.2 ▸ Later.refl _

theorem preserves : Preserves (discipline rt) SettlesNothing := by
  intro c hc t w hi _ y s' heff
  refine inv_log hi heff (fun scan hscan => ?_) (fun m hm => ?_)
    (settled_of_effect hi.settled hc.1 heff)
  · rw [hc.2.1] at hscan
    cases hscan
  · rw [hc.2.2 y] at hm
    cases hm

/-- What was answered since `u` is in the log of the thread. -/
theorem hasAnswer_of_answered {c : Call} {a : Resp c} (hc : c.reads = true)
    (h : (discipline rt).Answered t u c (.ok a) w) : HasAnswer (w.own t) c a := by
  obtain ⟨s, ch, hlog, -, -⟩ := logged_read hc h
  exact ⟨t, s, World.mem_own.mpr ⟨hlog, rfl⟩⟩

/-- A lookup has found the token. -/
def TokenRead (rt : Runtime) (t : Nat) (u : World Resp Exn Store) (stored : QrTokenView)
    (w : World Resp Exn Store) : Prop :=
  (∃ tokenId, (discipline rt).Answered t u (.qrTokenByTokenId tokenId) (.ok (some stored)) w) ∨
    ∃ q, (discipline rt).Answered t u (.qrTokenFirst q) (.ok (some stored)) w

theorem TokenRead.stable {stored : QrTokenView} (h : TokenRead rt t u stored v)
    (hl : (discipline rt).Leads v w) : TokenRead rt t u stored w :=
  h.imp (fun h => h.imp fun _ h => h.stable hl) fun h => h.imp fun _ h => h.stable hl

/-- The result of a movement that a decision has given. -/
theorem takenFor_of_reasoned {f : Scanned} {stored : QrTokenView} {reason : String}
    {m : MovementLog}
    (hr : Reasoned (discipline rt) t u f.eventId f.checkpointId f.type stored reason w)
    (htoken : TokenRead rt t u stored w)
    (hregistration : m.registrationId = stored.registration.id)
    (hqr : m.qrTokenId = some stored.token.id)
    (hresult : m.result = ScansService.decisionResult reason) (hreason : m.reason = some reason) :
    TakenFor rt (w.own t) f m := by
  obtain ⟨event, checkpoint, entered, he, hc, hm, hdecision⟩ := hr
  refine ⟨event, checkpoint, entered, stored, hasAnswer_of_answered rfl he, ?_, ?_, ?_,
    hregistration, hqr, reason, hreason, hresult, hdecision⟩
  · unfold CheckpointRead at hc
    revert hc
    cases truthy f.checkpointId with
    | none => exact fun hc => hc
    | some id =>
        rintro ⟨c, hcheckpoint, hread⟩
        exact ⟨c, hcheckpoint, hasAnswer_of_answered rfl hread⟩
  · rw [hregistration]
    exact hm.imp_right fun h => h.imp_right (hasAnswer_of_answered rfl)
  · exact htoken.imp (fun h => h.imp fun _ => hasAnswer_of_answered rfl)
      fun h => h.imp fun _ => hasAnswer_of_answered rfl

/-! ## What each operation keeps -/

theorem keeps_createProcessed {dto : CreateScanDto} {scannedAt : Option Time}
    {context : ValidQrContext} {reason : String}
    (hr : Reasoned (discipline rt) t u dto.eventId dto.checkpointId dto.type context.qr reason w)
    (htoken : TokenRead rt t u context.qr w) :
    (discipline rt).Keeps t (.createProcessed dto scannedAt
      (context.decide (ScansService.decisionResult reason) reason)) w := by
  intro w' hw' hi _ y s' h
  have heff := effect_of_outcome h
  refine inv_log hi heff (fun _ h => by cases h) (fun m hm => ?_)
    (settled_of_effect hi.settled (by trivial) heff)
  obtain ⟨hregistration, hqr, hresult, hreason, at_, -, hscanned⟩ := created_of_written heff hm
  have hl := Since.leads hw'
  refine takenFor_of_reasoned (u := u) ?_ (htoken.stable hl) hregistration hqr hresult hreason
  rw [hscanned]
  exact hr.stable hl

/-- A raw scan is settled by a decision on what it records. -/
theorem keeps_updateProcessed {scan : ScanEventRaw} {f : Scanned} {context : ValidQrContext}
    {reason : String} (hscan : WasRawScan scan w.store)
    (hr : Reasoned (discipline rt) t u f.eventId f.checkpointId f.type context.qr reason w)
    (htoken : TokenRead rt t u context.qr w)
    (hf : ∀ d w', (discipline rt).Leads w w' → MeetsOwnScan t (.updateProcessed scan d) w' →
      scan.scanned = f) :
    (discipline rt).Keeps t (.updateProcessed scan
      (context.decide (ScansService.decisionResult reason) reason)) w := by
  intro w' hw' hi hp y s' h
  have heff := effect_of_outcome h
  refine inv_log hi heff (fun a ha => ?_) (fun m hm => ?_)
    (settled_of_effect hi.settled (by trivial) heff)
  · cases ha
    exact hscan.later hw'.1
  · obtain ⟨hregistration, hqr, hresult, hreason, hscanned⟩ := updated_of_written heff hm
    have hl := Since.leads hw'
    refine takenFor_of_reasoned (u := u) ?_ (htoken.stable hl) hregistration hqr hresult hreason
    rw [hscanned, hf _ w' hl hp]
    exact hr.stable hl

/-- The parked scan is settled on a movement that records it. -/
theorem keeps_settle {x : OfflineScanOperation} {m : MovementLog} {scanEventRawId : Id}
    {registrationId : Option Id} (hx : WasOfflineScan x w.store)
    (hm : m ∈ w.store.movements.rows)
    (hsame : ∀ w', (discipline rt).Leads w w' → Inv rt w' → m.scanned = x.scanned) :
    (discipline rt).Keeps t (.offlineScanUpdate x.id
      (ScansService.settledPatch scanEventRawId m.id registrationId)) w := by
  intro w' hw' hi _ y s' h
  have heff := effect_of_outcome h
  have hlater := heff.later
  refine inv_log hi heff (fun _ h => by cases h) (fun _ h => by cases y <;> cases h) ?_
  have hold : ∀ z ∈ w'.store.offlineScans.rows, SettledRow s' z :=
    fun z hz => SettledRow.later (hi.settled z hz) hlater
  cases heff with
  | read hc => cases hc
  | failed => exact hold
  | patch hu =>
      obtain ⟨z, hz, hk, hrow, -, -⟩ := Table.update_eq_done hu
      have hcore : x.scanned = z.scanned :=
        scanned_of_offlineIdentity ((hx.later hw'.1).identity hz hk)
      intro z' hz'
      rcases (Table.mem_update hu).mp hz' with ⟨hz', -⟩ | rfl
      · exact hold z' hz'
      · intro _ movementId hmid
        have hid : m.id = movementId := by
          simpa [hrow, applyOfflinePatch, ScansService.settledPatch] using hmid
        refine ⟨m, hlater.mem_movements (hw'.1.mem_movements hm), hid, ?_⟩
        calc m.scanned = x.scanned := hsame w' (Since.leads hw') hi
          _ = z.scanned := hcore
          _ = z'.scanned := by rw [hrow]; rfl

/-- A thread keeps in its log the parked scan that it has read. -/
theorem mem_scansRead {id : Id} {x : OfflineScanOperation} {existing : Option RawScanView}
    (h : ReadScan (discipline rt) t u id x existing v) (hl : (discipline rt).Leads v w) :
    x ∈ scansRead (w.own t) := by
  obtain ⟨s₁, s₂, hown⟩ := h.own
  obtain ⟨new, hn⟩ := hl.own t
  rw [hn, hown]
  simp [scansRead]

/-- The movement that a parked scan is settled on, after the settling transaction. -/
def Records (x : OfflineScanOperation) (m : MovementLog) (w : World Resp Exn Store) : Prop :=
  m ∈ w.store.movements.rows ∧ m.scanned = x.scanned

theorem records_of_answered {c : Call} {m : MovementLog} {x : OfflineScanOperation}
    {a : Resp c} (h : (discipline rt).Answered t u c (.ok a) w)
    (hm : writtenMovement c (.ok a) = some m)
    (hsame : ∀ w₀ s₀, (discipline rt).Leads u w₀ → MeetsOwnScan t c w₀ →
      Effect w₀.store c (.ok a) s₀ → m.scanned = x.scanned) : Records x m w := by
  obtain ⟨w₀, s₀, hu, -, hp, heff, hl⟩ := answered_effect h
  have hlater : Later s₀ w.store := hl.1
  exact ⟨hlater.mem_movements (mem_of_written heff hm), hsame w₀ s₀ hu hp heff⟩

/-- A raw scan from which the movement of a parked scan is written records that scan. -/
theorem scanned_of_meets {id : Id} {x : OfflineScanOperation} {view : RawScanView} {d : Decision}
    (h : ReadScan (discipline rt) t u id x (some view) v) (hl : (discipline rt).Leads v w)
    (hp : MeetsOwnScan t (.updateProcessed view.scan d) w) : view.scan.scanned = x.scanned := by
  obtain ⟨-, -, -, hop, -⟩ := answered_rawScanByOperation (fun _ _ h => h) h.raw
  exact hp.2 _ rfl x (mem_scansRead h hl) hop.symm

theorem returns_writeSettlement {id : Id} {x : OfflineScanOperation}
    {existing : Option RawScanView} {context : ValidQrContext} {reason : String}
    (hread : ReadScan (discipline rt) t u id x existing v) (hl : (discipline rt).Leads v w)
    (hr : Resolved (discipline rt) t v x context.qr w)
    (hd : Reasoned (discipline rt) t v x.eventId (some x.checkpointId) x.movementType context.qr
      reason w) :
    (discipline rt).Returns t (fun written w' => Records x written.2 w')
      (ScansService.writeSettlement rt x existing
        (context.decide (ScansService.decisionResult reason) reason)) w := by
  have htoken : TokenRead rt t v context.qr w := by
    obtain ⟨mapping, registrationId, v₁, v₂, hmapping, -, hfound, hl₂⟩ := hr
    exact .inr ⟨_, (hfound.answered.since hmapping.leads).stable hl₂⟩
  cases existing with
  | none =>
      refine (returns_call (keeps_createProcessed (u := v) hd htoken)).mono fun written w' h => ?_
      refine records_of_answered h rfl fun w₀ s₀ _ _ heff => ?_
      obtain ⟨-, -, -, -, at_, hat, hscanned⟩ := created_of_written heff rfl
      cases hat
      exact hscanned
  | some view =>
      obtain ⟨s₀, h₀, hmem, -, -⟩ := answered_rawScanByOperation (fun _ _ h => h) hread.raw
      have hwas : WasRawScan view.scan w.store := ⟨s₀, h₀.trans hl.1, hmem⟩
      refine (returns_call (keeps_updateProcessed (u := v) (f := x.scanned) hwas hd htoken
        fun d w' hl' hp => scanned_of_meets hread (hl.trans hl') hp)).mono fun written w' h => ?_
      refine records_of_answered h rfl fun w₀ s₀ hl₀ hp heff => ?_
      obtain ⟨-, -, -, -, hscanned⟩ := updated_of_written heff rfl
      exact hscanned.trans (scanned_of_meets hread (hl.trans hl₀) hp)

/-- The movement that was already stored under the operation id of a parked scan. -/
theorem records_of_read {id : Id} {x : OfflineScanOperation} {view : RawScanView}
    {m : MovementLog} (h : ReadScan (discipline rt) t u id x (some view) w)
    (hview : view.movementLog = some m) : m ∈ w.store.movements.rows ∧
      ∀ w', (discipline rt).Leads w w' → Inv rt w' → m.scanned = x.scanned := by
  obtain ⟨v, hx, hraw⟩ := h
  obtain ⟨w₁, ch₁, -, -, -, hown₁, -⟩ := permitted_read rfl hx
  obtain ⟨w₂, ch₂, hown₂, hp, hm, hlog, hrely⟩ := permitted_read rfl hraw
  have hhand : scanInHand (w₂.own t) = some x := by
    rw [hown₂, hown₁]
    rfl
  have hlater : Later w₂.store w.store := hrely
  simp only [machine, query, Prod.mk.injEq, Except.ok.injEq, Option.map_eq_some_iff] at hm
  obtain ⟨⟨a, ha, rfl⟩, -⟩ := hm
  have hop : a.operationId = x.operationId := by simpa using List.find?_some ha
  have hamem : a ∈ w₂.store.rawScans.rows := List.mem_of_find?_eq_some ha
  obtain ⟨hmem, hscan⟩ := movementOf_eq_some_iff.mp hview
  refine ⟨hlater.mem_movements hmem, fun w' hl hi => ?_⟩
  have hlater' : Later w₂.store w'.store := hlater.trans hl.1
  obtain ⟨b, hb, hbm, hsame⟩ := hi.mirrored m (hlater'.mem_movements hmem)
  have hcore : rawIdentity a = rawIdentity b :=
    hlater'.rawScans.core_eq hamem hb (hscan.symm.trans hbm.symm)
  calc m.scanned = b.scanned := hsame.symm
    _ = a.scanned := (scanned_of_rawIdentity hcore).symm
    _ = x.scanned := hp.1 _ rfl x hhand a hamem hop ⟨m, hmem, hscan⟩

theorem safe_processOfflineScanOperation {id : Id} (hi : Inv rt w) :
    (discipline rt).logic.Safe t (ScansService.processOfflineScanOperation rt id) w := by
  have hreads : Preserves (discipline rt) (·.reads = true) :=
    preserves.reads fun _ => settlesNothing_of_formats
  have hwas : ∀ {x existing w₁}, ReadScan (discipline rt) t w id x existing w₁ →
      WasOfflineScan x w₁.store :=
    fun h => answered_offlineScanById (fun _ _ h => h) h.scan
  refine safe_processOfflineScan hreads hi (fun x existing w₁ hi₁ _ hscan => ?_)
    fun x view m w₁ _ hscan hview => ?_
  · refine safe_settleNew (F := fun _ written w' => Records x written.2 w') hreads hi₁
      (fun context reason w₂ _ hl hr _ hd => returns_writeSettlement hscan hl hr hd)
      (fun context written w₂ hl hw => ?_)
      fun _ _ => preserves.keeps ⟨trivial, rfl, fun _ => rfl⟩
    exact keeps_settle ((hwas hscan).later hl.1) hw.1 fun _ _ _ => hw.2
  · obtain ⟨hmem, hsame⟩ := records_of_read hscan hview
    exact keeps_settle (hwas hscan) hmem hsame

theorem safe_run {p : Svc Unit} (hp : ScanRun rt p) (hi : Inv rt w) :
    (discipline rt).logic.Safe t p w := by
  have hprep : Preserves (discipline rt) (Call.Prepares anyOperation) :=
    fun c hc => preserves c (settlesNothing_of_prepares hc)
  have hsubmit : Preserves (discipline rt) (Call.Submits anyOperation) :=
    fun c hc => preserves c (settlesNothing_of_submits hc)
  cases hp with
  | ingest dto =>
      refine safe_void hi (safe_ingest hprep hi fun w' hi' _ => ?_)
      exact safe_ingestNew hprep trivial hi' fun _ _ _ ha _ hd =>
        keeps_createProcessed hd ha.token
  | ingestFast dto =>
      exact hprep.safe (all_void (ScansService.ingestFast_prepares rt trivial))
  | processRawScan id =>
      refine safe_void hi (safe_processRawScan hprep hi fun scan w' hi' hread _ => ?_)
      have hwas : WasRawScan scan w'.store := answered_rawScanById (fun _ _ h => h) hread
      exact safe_processPending hprep trivial hi' fun _ _ _ hl ha _ hd =>
        keeps_updateProcessed (f := scan.scanned) (hwas.later hl.1) hd ha.token fun _ _ _ _ => rfl
  | ingestOfflineScan mappingFirst input =>
      exact safe_void hi (safe_ingestOfflineScan hsubmit
        (fun _ _ => safe_processOfflineScanOperation) mappingFirst trivial hi)
  | reconcileOfflineRegistration input =>
      exact safe_void hi (safe_reconcileOfflineRegistration hsubmit
        (fun _ _ => safe_processOfflineScanOperation) input hi)

end AsScanned

open AsScanned

/-- In the runs in which a settlement meets only its own scan under the operation id, the
movement of a settled scan records what was scanned, and was decided for it. -/
theorem settled_as_scanned_of_reach {rt : Runtime} {s : Store} (hs : EmptyScans s)
    {cfg : Config Resp Exn (World Resp Exn Store)}
    (hr : ((scanService rt (anyScans rt)).system.restrict MeetsOwnScan).Reach
      (Service.init s) cfg) : SettledAsScanned rt cfg.world := by
  refine Inv.settledAsScanned (inv_of_reach (D := discipline rt) (fun t w p s' _ hi h => ?_) ?_ hr)
  · obtain ⟨hp, rfl⟩ := h
    exact safe_run hp hi
  · obtain ⟨-, hm, hx⟩ := hs
    exact ⟨fun m h => by simp [hm] at h, fun m h => by simp [hm] at h,
      fun x h => by simp [hx] at h⟩

namespace AsScanned

/-- The card of the sample registration. -/
def linkedStore : Store := { sampleStore with mappings := .ofData [sampleMapping "O2.card" "reg-1"] }

/-- A queued entry scan, and some calls of an offline scan under the same operation id. -/
def sharedOperationId (movementType : MovementType) (calls : Nat) :
    List (scanService sampleRuntime (anyScans sampleRuntime)).Action :=
  [launch (ScansService.ingestFast sampleRuntime (sampleDto "op-1")).void] ++ steps 0 3 ++
    [launch (ScansService.ingestOfflineScan sampleRuntime false
      { sampleOfflineScan "op-1" with movementType }).void] ++ steps 1 calls

theorem sharedOperationId_legal (movementType : MovementType) (calls : Nat) :
    Service.Legal (sharedOperationId movementType calls) := by
  simp [sharedOperationId, launch_legal, ScanRun.ingestFast, ScanRun.ingestOfflineScan]

end AsScanned

theorem settled_as_scanned_of_same_scan :
    ∃ cfg : Config Resp Exn (World Resp Exn Store),
      (∃ x ∈ cfg.world.store.offlineScans.rows, x.status = .PROCESSED ∧ x.movementId.isSome) ∧
        SettledAsScanned sampleRuntime cfg.world := by
  obtain ⟨cfg, hr, hone⟩ := Service.exists_reach_of_perform MeetsOwnScan
    (sharedOperationId .ENTRY 19) (Service.init linkedStore)
    (fun s => s.offlineScans.rows.any fun x => x.status = .PROCESSED ∧ x.movementId.isSome)
    (sharedOperationId_legal .ENTRY 19) (by decide +kernel)
  refine ⟨cfg, ?_, settled_as_scanned_of_reach ⟨rfl, rfl, rfl⟩ hr⟩
  simpa using hone

/-- The movement of an exit scan is an entry. -/
theorem settled_as_another_scan :
    ¬ ∀ (rt : Runtime) (s : Store) (cfg : Config Resp Exn (World Resp Exn Store)), EmptyScans s →
      (scanService rt (anyScans rt)).system.Reach (Service.init s) cfg →
        SettledAsScanned rt cfg.world := by
  intro h
  obtain ⟨cfg, hr, hbad⟩ := Service.exists_reach_of_perform (fun _ _ _ => True)
    (sharedOperationId .EXIT 17) (Service.init linkedStore)
    (fun s => s.offlineScans.rows.any fun x => x.status = .PROCESSED ∧ x.movementId.isSome ∧
      x.movementType = .EXIT ∧ s.movements.rows.all fun m => m.type = .ENTRY)
    (sharedOperationId_legal .EXIT 17) (by decide +kernel)
  rw [System.restrict_true] at hr
  simp only [List.any_eq_true, List.all_eq_true, decide_eq_true_eq] at hbad
  obtain ⟨x, hx, hst, hsome, hexit, hentry⟩ := hbad
  obtain ⟨movementId, hmid⟩ := Option.isSome_iff_exists.mp hsome
  obtain ⟨m, hm, -, hsame, -⟩ :=
    h sampleRuntime linkedStore cfg ⟨rfl, rfl, rfl⟩ hr x hx hst movementId hmid
  have htype : m.type = x.movementType := congrArg Scanned.type hsame
  rw [hentry m hm, hexit] at htype
  cases htype

end CreativeBackend
