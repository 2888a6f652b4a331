import CreativeBackend.Store.Calls

/-!
# What a call does to the scan tables

Each statement on raw scans, movements and offline scans has one lemma that says
what it did, success and failure alike. From these follows what holds between
an earlier and a later store: movements stay as they were written, a raw scan
with a movement stays, and no row changes the identity it was created with.
-/

namespace CreativeBackend

open Relational Interaction

namespace Store

variable {s s' : Store}

/-! ## One lemma for each statement -/

theorem createRawScan_cases {dto : CreateScanDto} {scannedAt : Option Time} {v : RawScanVerdict}
    {r : Except Exn ScanEventRaw} (h : s.createRawScan dto scannedAt v = (r, s')) :
    (∃ e, r = .error e ∧ s' = s) ∨
      ∃ at_ row t, scannedAt = some at_ ∧
        s.rawScans.create (rawScanRow s.clock dto at_ v) = some (row, t) ∧
        r = .ok row ∧ s' = { s with rawScans := t } := by
  simp only [createRawScan] at h
  split at h
  · cases h
    exact .inl ⟨_, rfl, rfl⟩
  · split at h
    · split at h
      · cases h
        exact .inl ⟨_, rfl, rfl⟩
      · next row t hc =>
          cases h
          exact .inr ⟨_, row, t, rfl, hc, rfl, rfl⟩
    · cases h
      exact .inl ⟨_, rfl, rfl⟩

theorem updateRawScan_cases {id : Id} {v : RawScanVerdict} {r : Except Exn ScanEventRaw}
    (h : s.updateRawScan id v = (r, s')) :
    (∃ e, r = .error e ∧ s' = s) ∨
      ∃ row t, s.rawScans.update id (applyVerdict s.clock v) = .done row t ∧
        r = .ok row ∧ s' = { s with rawScans := t } := by
  simp only [updateRawScan] at h
  split at h
  · split at h
    · cases h
      exact .inl ⟨_, rfl, rfl⟩
    · cases h
      exact .inl ⟨_, rfl, rfl⟩
    · next row t hu =>
        cases h
        exact .inr ⟨row, t, hu, rfl, rfl⟩
  · cases h
    exact .inl ⟨_, rfl, rfl⟩

theorem movementOf_eq_none_iff {id : Id} :
    s.movementOf id = none ↔ ∀ m ∈ s.movements.rows, m.scanEventRawId ≠ id := by
  simp [movementOf, List.find?_eq_none]

theorem movementOf_eq_some_iff {id : Id} {m : MovementLog} :
    s.movementOf id = some m ↔ m ∈ s.movements.rows ∧ m.scanEventRawId = id := by
  constructor
  · intro h
    exact ⟨List.mem_of_find?_eq_some h, by simpa using List.find?_some h⟩
  · rintro ⟨hm, rfl⟩
    cases hf : s.movementOf m.scanEventRawId with
    | none => exact absurd rfl (movementOf_eq_none_iff.mp hf m hm)
    | some m' =>
        have hk : m'.scanEventRawId = m.scanEventRawId := by simpa using List.find?_some hf
        exact congrArg some (s.movements.eq_of_clash (List.mem_of_find?_eq_some hf) hm
          (by simp [clash, hk]))

theorem deleteRawScan_cases {id : Id} {r : Except Exn Unit} (h : s.deleteRawScan id = (r, s')) :
    (∃ e, r = .error e ∧ s' = s) ∨
      ((∀ m ∈ s.movements.rows, m.scanEventRawId ≠ id) ∧ r = .ok () ∧
        s' = { s with
          rawScans := s.rawScans.delete id
          offlineScans := detachRawScan s.offlineScans id }) := by
  simp only [deleteRawScan] at h
  split at h
  · cases h
    exact .inl ⟨_, rfl, rfl⟩
  · split at h
    · cases h
      exact .inl ⟨_, rfl, rfl⟩
    · next hm =>
        cases h
        refine .inr ⟨movementOf_eq_none_iff.mp ?_, rfl, rfl⟩
        simpa using hm

theorem createMovement_cases {data : MovementLog} {r : Except Exn MovementLog}
    (h : s.createMovement data = (r, s')) :
    (∃ e, r = .error e ∧ s' = s) ∨
      ∃ row t, s.movements.create { data with createdAt := s.clock } = some (row, t) ∧
        r = .ok row ∧ s' = { s with movements := t } := by
  simp only [createMovement] at h
  split at h
  · split at h
    · cases h
      exact .inl ⟨_, rfl, rfl⟩
    · next row t hc =>
        cases h
        exact .inr ⟨row, t, hc, rfl, rfl⟩
  · cases h
    exact .inl ⟨_, rfl, rfl⟩

/-- The row of the movement that settles a raw scan. -/
def movementRow (now : Time) (scan : ScanEventRaw) (d : Decision) : MovementLog :=
  { movementData scan d with createdAt := now }

/-- The columns of the movement that settles a raw scan. -/
theorem movementRow_create {t t' : Table MovementLog} {now : Time} {scan : ScanEventRaw}
    {d : Decision} {m : MovementLog} (hm : t.create (movementRow now scan d) = some (m, t')) :
    m.eventId = scan.eventId ∧ m.type = scan.type ∧ m.registrationId = d.registrationId ∧
      m.result = d.result := by
  rw [(Table.create_eq_some hm).1]
  exact ⟨rfl, rfl, rfl, rfl⟩

theorem createProcessed_cases {dto : CreateScanDto} {scannedAt : Option Time} {d : Decision}
    {r : Except Exn (RawScanView × MovementLog)}
    (h : s.createProcessedScanAndMovement dto scannedAt d = (r, s')) :
    (∃ e, r = .error e ∧ s' = s) ∨
      ∃ at_ row t movement t', scannedAt = some at_ ∧
        s.rawScans.create (rawScanRow s.clock dto at_ d.verdict) = some (row, t) ∧
        s.movements.create (movementRow s.clock row d) = some (movement, t') ∧
        r = .ok (({ s with rawScans := t } : Store).rawScanView row, movement) ∧
        s' = { s with rawScans := t, movements := t' } := by
  simp only [createProcessedScanAndMovement] at h
  split at h
  · cases h
    exact .inl ⟨_, rfl, rfl⟩
  · next scan s₁ hraw =>
      rcases createRawScan_cases hraw with ⟨e, he, -⟩ | ⟨at_, row, t, hat, hc, hr, rfl⟩
      · cases he
      · cases hr
        split at h
        · cases h
          exact .inl ⟨_, rfl, rfl⟩
        · next movement s₂ hmov =>
            rcases createMovement_cases hmov with ⟨e, he, -⟩ | ⟨mrow, t', hm, hr', rfl⟩
            · cases he
            · cases hr'
              cases h
              exact .inr ⟨at_, scan, t, movement, t', hat, hc, hm, rfl, rfl⟩

theorem updateProcessed_cases {scan : ScanEventRaw} {d : Decision}
    {r : Except Exn (RawScanView × MovementLog)}
    (h : s.updateRawScanAndCreateMovement scan d = (r, s')) :
    (∃ e, r = .error e ∧ s' = s) ∨
      ∃ row t movement t',
        s.rawScans.update scan.id (applyVerdict s.clock d.verdict) = .done row t ∧
        s.movements.create (movementRow s.clock scan d) = some (movement, t') ∧
        r = .ok (({ s with rawScans := t } : Store).rawScanView row, movement) ∧
        s' = { s with rawScans := t, movements := t' } := by
  simp only [updateRawScanAndCreateMovement] at h
  split at h
  · cases h
    exact .inl ⟨_, rfl, rfl⟩
  · next row s₁ hraw =>
      rcases updateRawScan_cases hraw with ⟨e, he, -⟩ | ⟨row', t, hu, hr, rfl⟩
      · cases he
      · cases hr
        split at h
        · cases h
          exact .inl ⟨_, rfl, rfl⟩
        · next movement s₂ hmov =>
            rcases createMovement_cases hmov with ⟨e, he, -⟩ | ⟨mrow, t', hm, hr', rfl⟩
            · cases he
            · cases hr'
              cases h
              exact .inr ⟨row, t, movement, t', hu, hm, rfl, rfl⟩

theorem createOfflineScan_cases {d : OfflineScanData} {r : Except Exn OfflineScanOperation}
    (h : s.createOfflineScan d = (r, s')) :
    (∃ e, r = .error e ∧ s' = s) ∨
      ∃ at_ row t, d.scannedAtDevice = some at_ ∧
        s.offlineScans.create (offlineScanRow s.clock d at_) = some (row, t) ∧
        r = .ok row ∧ s' = { s with offlineScans := t } := by
  simp only [createOfflineScan] at h
  split at h
  · cases h
    exact .inl ⟨_, rfl, rfl⟩
  · next at_ hat =>
      split at h
      · split at h
        · cases h
          exact .inl ⟨_, rfl, rfl⟩
        · next row t hc =>
            cases h
            exact .inr ⟨at_, row, t, hat, hc, rfl, rfl⟩
      · cases h
        exact .inl ⟨_, rfl, rfl⟩

theorem updateOfflineScan_cases {id : Id} {p : OfflineScanPatch}
    {r : Except Exn OfflineScanOperation} (h : s.updateOfflineScan id p = (r, s')) :
    (∃ e, r = .error e ∧ s' = s) ∨
      ∃ row t, s.offlineScans.update id (applyOfflinePatch s.clock p) = .done row t ∧
        r = .ok row ∧ s' = { s with offlineScans := t } := by
  simp only [updateOfflineScan] at h
  split at h
  · split at h
    · cases h
      exact .inl ⟨_, rfl, rfl⟩
    · cases h
      exact .inl ⟨_, rfl, rfl⟩
    · next row t hu =>
        cases h
        exact .inr ⟨row, t, hu, rfl, rfl⟩
  · cases h
    exact .inl ⟨_, rfl, rfl⟩

theorem touchActivity_cases {deviceId : Id} {staffSessionId : Option Id} {r : Except Exn Unit}
    (h : s.touchActivity deviceId staffSessionId = (r, s')) :
    (∃ e, r = .error e ∧ s' = s) ∨
      ∃ device devices, s.devices.update deviceId (seenDevice s.clock) = .done device devices ∧
        r = .ok () ∧
        (staffSessionId = none ∧ s' = { s with devices } ∨
          ∃ k session staffSessions, staffSessionId = some k ∧
            s.staffSessions.update k (seenSession s.clock) = .done session staffSessions ∧
            s' = { s with devices, staffSessions }) := by
  simp only [touchActivity] at h
  split at h
  · next device devices hd =>
      split at h
      · cases h
        exact .inr ⟨device, devices, hd, rfl, .inl ⟨rfl, rfl⟩⟩
      · next k =>
          split at h
          · next session staffSessions hs =>
              cases h
              exact .inr ⟨device, devices, hd, rfl, .inr ⟨k, session, staffSessions, rfl, hs, rfl⟩⟩
          · cases h
            exact .inl ⟨_, rfl, rfl⟩
  · cases h
    exact .inl ⟨_, rfl, rfl⟩

theorem refreshQrToken_cases {old : QrToken} {d : QrTokenData} {r : Except Exn Nat}
    (h : s.refreshQrToken old d = (r, s')) :
    (∃ e, r = .error e ∧ s' = s) ∨ (r = .ok 0 ∧ s' = s) ∨
      ∃ q row t, s.qrTokens.find? old.id = some q ∧
        (q.tokenId = old.tokenId ∧ q.status = old.status) ∧
        s.qrTokens.update old.id (applyQrToken s.clock d) = .done row t ∧
        r = .ok 1 ∧ s' = { s with qrTokens := t } := by
  simp only [refreshQrToken] at h
  split at h
  · cases h
    exact .inr (.inl ⟨rfl, rfl⟩)
  · next q hq =>
      split at h
      · next hsame =>
          split at h
          · cases h
            exact .inr (.inl ⟨rfl, rfl⟩)
          · cases h
            exact .inl ⟨_, rfl, rfl⟩
          · next row t hu =>
              cases h
              exact .inr (.inr ⟨q, row, t, hq, hsame, hu, rfl, rfl⟩)
      · cases h
        exact .inr (.inl ⟨rfl, rfl⟩)

theorem createQrToken_cases {d : QrTokenData} {r : Except Exn QrToken}
    (h : s.createQrToken d = (r, s')) :
    (∃ e, r = .error e ∧ s' = s) ∨
      ∃ row t, s.qrTokens.create (qrTokenRow s.clock d) = some (row, t) ∧
        r = .ok row ∧ s' = { s with qrTokens := t } := by
  simp only [createQrToken] at h
  split at h
  · split at h
    · cases h
      exact .inl ⟨_, rfl, rfl⟩
    · next row t hc =>
        cases h
        exact .inr ⟨row, t, hc, rfl, rfl⟩
  · cases h
    exact .inl ⟨_, rfl, rfl⟩

theorem revokeQrToken_cases {registrationId : Id} {r : Except Exn QrToken}
    (h : s.revokeQrToken registrationId = (r, s')) :
    (∃ e, r = .error e ∧ s' = s) ∨
      ∃ q row t, s.qrTokenOf registrationId = some q ∧
        s.qrTokens.update q.id (revokedRow s.clock) = .done row t ∧
        r = .ok row ∧ s' = { s with qrTokens := t } := by
  simp only [revokeQrToken] at h
  split at h
  · cases h
    exact .inl ⟨_, rfl, rfl⟩
  · next q hq =>
      split at h
      · next row t hu =>
          cases h
          exact .inr ⟨q, row, t, hq, hu, rfl, rfl⟩
      · cases h
        exact .inl ⟨_, rfl, rfl⟩

theorem updateMapping_cases {id : Id} {p : MappingPatch}
    {r : Except Exn OfflineRegistrationMapping} (h : s.updateMapping id p = (r, s')) :
    (∃ e, r = .error e ∧ s' = s) ∨
      ∃ row t, s.mappings.update id (applyMappingPatch s.clock p) = .done row t ∧
        r = .ok row ∧ s' = { s with mappings := t } := by
  simp only [updateMapping] at h
  split at h
  · split at h
    · cases h
      exact .inl ⟨_, rfl, rfl⟩
    · cases h
      exact .inl ⟨_, rfl, rfl⟩
    · next row t hu =>
        cases h
        exact .inr ⟨row, t, hu, rfl, rfl⟩
  · cases h
    exact .inl ⟨_, rfl, rfl⟩

theorem upsertMapping_cases {data : OfflineRegistrationMapping}
    {r : Except Exn OfflineRegistrationMapping} (h : s.upsertMapping data = (r, s')) :
    (∃ e, r = .error e ∧ s' = s) ∨ (∃ m, s.mappingOf data = some m ∧ r = .ok m ∧ s' = s) ∨
      ∃ row t, s.mappingOf data = none ∧ s.mappings.create data = some (row, t) ∧
        r = .ok row ∧ s' = { s with mappings := t } := by
  simp only [upsertMapping] at h
  split at h
  · next m hm =>
      cases h
      exact .inr (.inl ⟨m, hm, rfl, rfl⟩)
  · next hm =>
      split at h
      · split at h
        · cases h
          exact .inl ⟨_, rfl, rfl⟩
        · next row t hc =>
            cases h
            exact .inr (.inr ⟨row, t, hm, hc, rfl, rfl⟩)
      · cases h
        exact .inl ⟨_, rfl, rfl⟩

theorem createRegistration_cases {data : Registration} {r : Except Exn Registration}
    (h : s.createRegistration data = (r, s')) :
    (∃ e, r = .error e ∧ s' = s) ∨
      ∃ row t, s.registrations.create (registrationRow s.clock data) = some (row, t) ∧
        r = .ok row ∧ s' = { s with registrations := t } := by
  simp only [createRegistration] at h
  split at h
  · split at h
    · cases h
      exact .inl ⟨_, rfl, rfl⟩
    · next row t hc =>
        cases h
        exact .inr ⟨row, t, hc, rfl, rfl⟩
  · cases h
    exact .inl ⟨_, rfl, rfl⟩

/-- A deletion of a raw scan clears one reference at most. -/
theorem mem_detachRawScan {t : Table OfflineScanOperation} {id : Id} {x : OfflineScanOperation}
    (h : x ∈ (detachRawScan t id).rows) : ∃ y ∈ t.rows, x = y ∨ x = clearRawScan id y := by
  simp only [detachRawScan] at h
  split at h
  · exact ⟨x, h, .inl rfl⟩
  · split at h
    · next row t' hu =>
        rcases (Table.mem_update hu).mp h with ⟨hx, -⟩ | rfl
        · exact ⟨x, hx, .inl rfl⟩
        · obtain ⟨a, ha, hk, hrow, -, -⟩ := Table.update_eq_done hu
          refine ⟨a, ha, .inr ?_⟩
          rw [hrow, ← hk]
          simp only [clearRawScan]
          split <;> rfl
    · exact ⟨x, h, .inl rfl⟩

/-- The raw scan of a statement, seen with its relations. -/
theorem viewed_eq {a : Answer ScanEventRaw} {x : Except Exn RawScanView}
    (h : viewed a = (x, s')) : ∃ r, a = (r, s') ∧ x = r.map s'.rawScanView := by
  obtain ⟨r, u⟩ := a
  cases h
  exact ⟨r, rfl, rfl⟩

/-! ## Later stores -/

/-- The columns of a raw scan that no statement changes. -/
def rawIdentity (a : ScanEventRaw) :=
  (a.operationId, a.eventId, a.deviceId, a.staffSessionId, a.checkpointId, a.type,
    a.scannedAtDevice, a.qrRaw)

/-- The columns of an offline scan that no statement changes. -/
def offlineIdentity (x : OfflineScanOperation) :=
  (x.operationId, x.eventId, x.scannerDeviceId, x.checkpointId, x.offlineQrToken,
    x.offlineRegistrationOperationId, x.scannedAtDevice, x.movementType, x.qrPayload,
    x.qrPayloadHash)

/-- What every call and every other party leaves true of the scan tables. -/
structure Later (s s' : Store) : Prop where
  movements : s.movements.Evolves id s'.movements
  movementsKept : s.movements.Keeps s'.movements
  rawScans : s.rawScans.Evolves rawIdentity s'.rawScans
  rawScansKept : ∀ a ∈ s.rawScans.rows, (∃ m ∈ s.movements.rows, m.scanEventRawId = a.id) →
    ∃ b ∈ s'.rawScans.rows, b.id = a.id
  offlineScans : s.offlineScans.Evolves offlineIdentity s'.offlineScans
  offlineScansKept : s.offlineScans.Keeps s'.offlineScans

/-- The scan tables are the same. -/
structure SameScans (s s' : Store) : Prop where
  movements : s'.movements = s.movements
  rawScans : s'.rawScans = s.rawScans
  offlineScans : s'.offlineScans = s.offlineScans

theorem SameScans.refl (s : Store) : SameScans s s := ⟨rfl, rfl, rfl⟩

theorem SameScans.later (h : SameScans s s') : Later s s' where
  movements := h.movements ▸ Table.Evolves.refl _
  movementsKept := h.movements ▸ Table.Keeps.refl _
  rawScans := h.rawScans ▸ Table.Evolves.refl _
  rawScansKept := fun a ha _ => ⟨a, h.rawScans ▸ ha, rfl⟩
  offlineScans := h.offlineScans ▸ Table.Evolves.refl _
  offlineScansKept := h.offlineScans ▸ Table.Keeps.refl _

theorem Later.refl (s : Store) : Later s s := (SameScans.refl s).later

/-- A movement stays as it was written. -/
theorem Later.mem_movements (h : Later s s') {m : MovementLog} (hm : m ∈ s.movements.rows) :
    m ∈ s'.movements.rows := by
  obtain ⟨m', hm', hk⟩ := h.movementsKept m hm
  have he : m = m' := h.movements.core_eq hm hm' hk.symm
  exact he ▸ hm'

theorem Later.trans {s'' : Store} (h : Later s s') (h' : Later s' s'') : Later s s'' where
  movements := h.movements.trans h'.movements
  movementsKept := h.movementsKept.trans h'.movementsKept
  rawScans := h.rawScans.trans h'.rawScans
  rawScansKept := by
    rintro a ha ⟨m, hm, hma⟩
    obtain ⟨b, hb, hba⟩ := h.rawScansKept a ha ⟨m, hm, hma⟩
    obtain ⟨c, hc, hcb⟩ := h'.rawScansKept b hb ⟨m, h.mem_movements hm, hma.trans hba.symm⟩
    exact ⟨c, hc, hcb.trans hba⟩
  offlineScans := h.offlineScans.trans h'.offlineScans
  offlineScansKept := h.offlineScansKept.trans h'.offlineScansKept

/-- A change of the raw scans that keeps those with a movement. -/
theorem later_rawScans {t : Table ScanEventRaw} (h : s.rawScans.Evolves rawIdentity t)
    (hk : s.rawScans.Keeps t) : Later s { s with rawScans := t } :=
  { Later.refl s with rawScans := h, rawScansKept := fun a ha _ => hk a ha }

theorem later_offlineScans {t : Table OfflineScanOperation}
    (h : s.offlineScans.Evolves offlineIdentity t) (hk : s.offlineScans.Keeps t) :
    Later s { s with offlineScans := t } :=
  { Later.refl s with offlineScans := h, offlineScansKept := hk }

/-- A settlement: the raw scans keep their rows and a movement is added. -/
theorem later_settled {t : Table ScanEventRaw} {t' : Table MovementLog} {data row : MovementLog}
    (h : s.rawScans.Evolves rawIdentity t) (hk : s.rawScans.Keeps t)
    (hm : s.movements.create data = some (row, t')) :
    Later s { s with rawScans := t, movements := t' } :=
  { Later.refl s with
    movements := .create hm
    movementsKept := .create hm
    rawScans := h
    rawScansKept := fun a ha _ => hk a ha }

theorem rawIdentity_applyVerdict (k : Id) (now : Time) (v : RawScanVerdict) (a : ScanEventRaw) :
    rawIdentity (withKey k (applyVerdict now v a)) = rawIdentity a := rfl

theorem offlineIdentity_applyOfflinePatch (k : Id) (now : Time) (p : OfflineScanPatch)
    (x : OfflineScanOperation) :
    offlineIdentity (withKey k (applyOfflinePatch now p x)) = offlineIdentity x := rfl

theorem evolves_detachRawScan (t : Table OfflineScanOperation) (id : Id) :
    t.Evolves offlineIdentity (detachRawScan t id) ∧ t.Keeps (detachRawScan t id) := by
  simp only [detachRawScan]
  split
  · exact ⟨.refl t, .refl t⟩
  · split
    · next row t' hu =>
        refine ⟨.update hu fun a => ?_, .update hu⟩
        simp only [clearRawScan]
        split <;> rfl
    · exact ⟨.refl t, .refl t⟩

end Store

open Store

/-- The calls that only read. -/
def Call.reads : Call → Bool
  | .now => true
  | .eventById _ => true
  | .deviceById _ => true
  | .deviceWithKey _ _ => true
  | .staffSessionById _ => true
  | .checkpointById _ => true
  | .attendeeTypeById _ => true
  | .registrationById _ => true
  | .registrationWithRelations _ => true
  | .registrationByPublicId _ => true
  | .registrationFirst _ => true
  | .registrationFields _ _ => true
  | .fieldsToValidate _ _ => true
  | .badgeTemplateActive _ => true
  | .qrTokenByTokenId _ => true
  | .qrTokenByRegistration _ => true
  | .qrTokenFirst _ => true
  | .mappingByToken _ => true
  | .mappingCanonical _ => true
  | .mappingExisting _ => true
  | .rawScanByOperation _ => true
  | .rawScanById _ => true
  | .offlineScanByOperation _ => true
  | .offlineScanById _ => true
  | .offlineScansPending _ => true
  | .entryMovement _ _ => true
  | .imageExists _ => true
  | _ => false

/-- A read leaves the store alone. -/
theorem machine_reads (rt : Runtime) (ch : Choice) {c : Call} (hc : c.reads = true) (s : Store) :
    (machine rt ch c s).2 = s := by
  cases c with
  | registrationWithRelations id =>
      simp only [machine]
      split <;> rfl
  | _ => first | exact Bool.noConfusion hc | rfl

/-- What a call answers and does. -/
inductive Effect (s : Store) : (c : Call) → Except Exn (Resp c) → Store → Prop
  | read {c x} (hc : c.reads = true) : Effect s c x s
  | failed {c e} : Effect s c (.error e) s
  | draw {text} : Effect s .random (.ok text) { s with draws := s.draws + 1 }
  | image {filename} :
      Effect s (.imageWrite filename) (.ok ()) { s with images := filename :: s.images }
  | remove {id} (hm : ∀ m ∈ s.movements.rows, m.scanEventRawId ≠ id) :
      Effect s (.rawScanDelete id) (.ok ()) { s with
        rawScans := s.rawScans.delete id
        offlineScans := detachRawScan s.offlineScans id }
  | create {dto at_ v row t}
      (hc : s.rawScans.create (rawScanRow s.clock dto at_ v) = some (row, t)) :
      Effect s (.rawScanCreate dto (some at_) v)
        (.ok (({ s with rawScans := t } : Store).rawScanView row)) { s with rawScans := t }
  | update {id v row t} (hu : s.rawScans.update id (applyVerdict s.clock v) = .done row t) :
      Effect s (.rawScanUpdate id v)
        (.ok (({ s with rawScans := t } : Store).rawScanView row)) { s with rawScans := t }
  | settle {dto at_ d row t movement t'}
      (hc : s.rawScans.create (rawScanRow s.clock dto at_ d.verdict) = some (row, t))
      (hm : s.movements.create (movementRow s.clock row d) = some (movement, t')) :
      Effect s (.createProcessed dto (some at_) d)
        (.ok (({ s with rawScans := t } : Store).rawScanView row, movement))
        { s with rawScans := t, movements := t' }
  | settleRaw {scan d row t movement t'}
      (hu : s.rawScans.update scan.id (applyVerdict s.clock d.verdict) = .done row t)
      (hm : s.movements.create (movementRow s.clock scan d) = some (movement, t')) :
      Effect s (.updateProcessed scan d)
        (.ok (({ s with rawScans := t } : Store).rawScanView row, movement))
        { s with rawScans := t, movements := t' }
  | touchDevice {deviceId device devices}
      (hd : s.devices.update deviceId (seenDevice s.clock) = .done device devices) :
      Effect s (.touchActivity deviceId none) (.ok ()) { s with devices }
  | touchSession {deviceId k device devices session staffSessions}
      (hd : s.devices.update deviceId (seenDevice s.clock) = .done device devices)
      (hs : s.staffSessions.update k (seenSession s.clock) = .done session staffSessions) :
      Effect s (.touchActivity deviceId (some k)) (.ok ()) { s with devices, staffSessions }
  | park {d at_ row t} (hat : d.scannedAtDevice = some at_)
      (hc : s.offlineScans.create (offlineScanRow s.clock d at_) = some (row, t)) :
      Effect s (.offlineScanCreate d) (.ok row) { s with offlineScans := t }
  | patch {id p row t}
      (hu : s.offlineScans.update id (applyOfflinePatch s.clock p) = .done row t) :
      Effect s (.offlineScanUpdate id p) (.ok row) { s with offlineScans := t }
  | refreshLost {old d} : Effect s (.qrTokenRefresh old d) (.ok (0 : Nat)) s
  | refresh {old d q row t} (hq : s.qrTokens.find? old.id = some q)
      (hsame : q.tokenId = old.tokenId ∧ q.status = old.status)
      (hu : s.qrTokens.update old.id (applyQrToken s.clock d) = .done row t) :
      Effect s (.qrTokenRefresh old d) (.ok (1 : Nat)) { s with qrTokens := t }
  | issue {d row t} (hc : s.qrTokens.create (qrTokenRow s.clock d) = some (row, t)) :
      Effect s (.qrTokenCreate d) (.ok row) { s with qrTokens := t }
  | revoke {registrationId q row t} (hq : s.qrTokenOf registrationId = some q)
      (hu : s.qrTokens.update q.id (revokedRow s.clock) = .done row t) :
      Effect s (.qrTokenRevoke registrationId) (.ok row) { s with qrTokens := t }
  | patchMapping {id p row t}
      (hu : s.mappings.update id (applyMappingPatch s.clock p) = .done row t) :
      Effect s (.mappingUpdate id p) (.ok row) { s with mappings := t }
  | foundMapping {data m} (hm : s.mappingOf data = some m) :
      Effect s (.mappingUpsert data) (.ok m) s
  | addMapping {data row t} (hn : s.mappingOf data = none)
      (hc : s.mappings.create data = some (row, t)) :
      Effect s (.mappingUpsert data) (.ok row) { s with mappings := t }
  | register {data row t}
      (hc : s.registrations.create (registrationRow s.clock data) = some (row, t)) :
      Effect s (.registrationCreate data) (.ok row) { s with registrations := t }
  | enqueueScan {id} :
      Effect s (.enqueueScan id) (.ok ()) { s with scanJobs := s.scanJobs ++ [id] }
  | enqueueReconcile {job} :
      Effect s (.enqueueReconcile job) (.ok ()) { s with reconcileJobs := s.reconcileJobs ++ [job] }
  | enqueuePipeline {job} :
      Effect s (.enqueuePipeline job) (.ok ()) { s with pipelineJobs := s.pipelineJobs ++ [job] }

/-- Every answer of the machine has one of these effects. -/
theorem effect_of_machine {rt : Runtime} {ch : Choice} {c : Call} {s s' : Store}
    {x : Except Exn (Resp c)} (h : machine rt ch c s = (x, s')) : Effect s c x s' := by
  cases hr : c.reads with
  | true =>
      have he : s' = s := (congrArg Prod.snd h).symm.trans (machine_reads rt ch hr s)
      exact he ▸ .read hr
  | false =>
      cases c with
      | random =>
          cases h
          exact .draw
      | imageWrite filename =>
          simp only [machine] at h
          split at h <;> cases h
          · exact .image
          · exact .failed
      | rawScanDelete id =>
          rcases deleteRawScan_cases h with ⟨e, rfl, rfl⟩ | ⟨hm, rfl, rfl⟩
          · exact .failed
          · exact .remove hm
      | rawScanCreate dto scannedAt v =>
          obtain ⟨r, hr, rfl⟩ := viewed_eq h
          rcases createRawScan_cases hr with ⟨e, rfl, rfl⟩ | ⟨at_, row, t, rfl, hc, rfl, rfl⟩
          · exact .failed
          · exact .create hc
      | rawScanUpdate id v =>
          obtain ⟨r, hr, rfl⟩ := viewed_eq h
          rcases updateRawScan_cases hr with ⟨e, rfl, rfl⟩ | ⟨row, t, hu, rfl, rfl⟩
          · exact .failed
          · exact .update hu
      | createProcessed dto scannedAt d =>
          rcases createProcessed_cases h with
            ⟨e, rfl, rfl⟩ | ⟨at_, row, t, m, t', rfl, hc, hm, rfl, rfl⟩
          · exact .failed
          · exact .settle hc hm
      | updateProcessed scan d =>
          rcases updateProcessed_cases h with ⟨e, rfl, rfl⟩ | ⟨row, t, m, t', hu, hm, rfl, rfl⟩
          · exact .failed
          · exact .settleRaw hu hm
      | touchActivity deviceId staffSessionId =>
          rcases touchActivity_cases h with
            ⟨e, rfl, rfl⟩ | ⟨device, devices, hd, rfl, ⟨rfl, rfl⟩ | ⟨k, session, t, rfl, hs, rfl⟩⟩
          · exact .failed
          · exact .touchDevice hd
          · exact .touchSession hd hs
      | offlineScanCreate d =>
          rcases createOfflineScan_cases h with ⟨e, rfl, rfl⟩ | ⟨at_, row, t, hat, hc, rfl, rfl⟩
          · exact .failed
          · exact .park hat hc
      | offlineScanUpdate id p =>
          rcases updateOfflineScan_cases h with ⟨e, rfl, rfl⟩ | ⟨row, t, hu, rfl, rfl⟩
          · exact .failed
          · exact .patch hu
      | qrTokenRefresh old d =>
          rcases refreshQrToken_cases h with
            ⟨e, rfl, rfl⟩ | ⟨rfl, rfl⟩ | ⟨q, row, t, hq, hsame, hu, rfl, rfl⟩
          · exact .failed
          · exact .refreshLost
          · exact .refresh hq hsame hu
      | qrTokenCreate d =>
          rcases createQrToken_cases h with ⟨e, rfl, rfl⟩ | ⟨row, t, hc, rfl, rfl⟩
          · exact .failed
          · exact .issue hc
      | qrTokenRevoke registrationId =>
          rcases revokeQrToken_cases h with ⟨e, rfl, rfl⟩ | ⟨q, row, t, hq, hu, rfl, rfl⟩
          · exact .failed
          · exact .revoke hq hu
      | mappingUpdate id p =>
          rcases updateMapping_cases h with ⟨e, rfl, rfl⟩ | ⟨row, t, hu, rfl, rfl⟩
          · exact .failed
          · exact .patchMapping hu
      | mappingUpsert data =>
          rcases upsertMapping_cases h with
            ⟨e, rfl, rfl⟩ | ⟨m, hm, rfl, rfl⟩ | ⟨row, t, hn, hc, rfl, rfl⟩
          · exact .failed
          · exact .foundMapping hm
          · exact .addMapping hn hc
      | registrationCreate data =>
          rcases createRegistration_cases h with ⟨e, rfl, rfl⟩ | ⟨row, t, hc, rfl, rfl⟩
          · exact .failed
          · exact .register hc
      | enqueueScan id =>
          cases h
          exact .enqueueScan
      | enqueueReconcile job =>
          cases h
          exact .enqueueReconcile
      | enqueuePipeline job =>
          cases h
          exact .enqueuePipeline
      | _ => cases hr

/-- What every call leaves true of the scan tables. -/
theorem Effect.later {c : Call} {s s' : Store} {x : Except Exn (Resp c)} (h : Effect s c x s') :
    Later s s' := by
  cases h with
  | @remove id hm =>
      obtain ⟨he, hk⟩ := evolves_detachRawScan s.offlineScans id
      refine { Later.refl s with
        rawScans := .delete _ _
        rawScansKept := ?_
        offlineScans := he
        offlineScansKept := hk }
      rintro a ha ⟨m, hm', hma⟩
      exact ⟨a, Table.mem_delete.mpr ⟨ha, fun hak => hm m hm' (hma.trans hak)⟩, rfl⟩
  | create hc => exact later_rawScans (.create hc) (.create hc)
  | update hu =>
      exact later_rawScans (.update hu fun a => rawIdentity_applyVerdict _ _ _ a) (.update hu)
  | settle hc hm => exact later_settled (.create hc) (.create hc) hm
  | settleRaw hu hm =>
      exact later_settled (.update hu fun a => rawIdentity_applyVerdict _ _ _ a) (.update hu) hm
  | park _ hc => exact later_offlineScans (.create hc) (.create hc)
  | patch hu =>
      exact later_offlineScans (.update hu fun x => offlineIdentity_applyOfflinePatch _ _ _ x)
        (.update hu)
  | _ => exact SameScans.later ⟨rfl, rfl, rfl⟩

end CreativeBackend
