import CreativeBackend.Scans.Service

/-!
# Raw scans and movements

A settled raw scan and its movement are written in one transaction. Later writes
of the raw scan come from `processRawScan`, whose `catch` block and whose verdict
on an invalid code do not look at the raw scan again. In the runs in which no such
write meets a raw scan that has a movement, the two rows agree for ever.

## Implementation notes

The columns that identify a raw scan never change, so the copy that a worker has
read names the right columns when the transaction comes.
-/

namespace CreativeBackend

open Relational Interaction Prog Store

/-- The columns that a settled raw scan and its movement share. -/
structure SameColumns (a : ScanEventRaw) (m : MovementLog) : Prop where
  result : a.result = some m.result
  reason : a.reason = m.reason
  registrationId : a.registrationId = some m.registrationId
  qrTokenId : a.qrTokenId = m.qrTokenId
  type : a.type = m.type
  eventId : a.eventId = m.eventId
  deviceId : a.deviceId = m.deviceId
  checkpointId : a.checkpointId = m.checkpointId
  occurredAt : m.occurredAt = a.scannedAtDevice

/-- A raw scan is processed if and only if it has a movement, and then the two rows
agree; it is then neither failed nor invalid. -/
structure RawScansAgree (s : Store) : Prop where
  processed : ∀ a ∈ s.rawScans.rows,
    a.status = .PROCESSED ↔ ∃ m ∈ s.movements.rows, m.scanEventRawId = a.id
  columns : ∀ a ∈ s.rawScans.rows, ∀ m ∈ s.movements.rows, m.scanEventRawId = a.id →
    SameColumns a m
  spared : ∀ a ∈ s.rawScans.rows, (∃ m ∈ s.movements.rows, m.scanEventRawId = a.id) →
    a.status ≠ .FAILED ∧ a.status ≠ .INVALID_QR

namespace RawAgreement

/-- The agreement of each raw scan, and the foreign key of the movements. -/
structure Agree (s : Store) : Prop where
  refers : ∀ m ∈ s.movements.rows, ∃ a ∈ s.rawScans.rows, a.id = m.scanEventRawId
  processed : ∀ a ∈ s.rawScans.rows,
    a.status = .PROCESSED ↔ ∃ m ∈ s.movements.rows, m.scanEventRawId = a.id
  columns : ∀ a ∈ s.rawScans.rows, ∀ m ∈ s.movements.rows, m.scanEventRawId = a.id →
    SameColumns a m

variable {s s' : Store}

theorem Agree.rawScansAgree (h : Agree s) : RawScansAgree s where
  processed := h.processed
  columns := h.columns
  spared a ha hm := by simp [(h.processed a ha).mpr hm]

theorem Agree.same (h : Agree s) (hr : s'.rawScans = s.rawScans)
    (hm : s'.movements = s.movements) : Agree s' := by
  constructor
  · rw [hr, hm]
    exact h.refers
  · rw [hr, hm]
    exact h.processed
  · rw [hr, hm]
    exact h.columns

/-- No movement refers to a raw scan that is about to be created. -/
theorem Agree.no_movement (h : Agree s) {data row : ScanEventRaw} {t : Table ScanEventRaw}
    (hc : s.rawScans.create data = some (row, t)) : ∀ m ∈ s.movements.rows,
      m.scanEventRawId ≠ row.id := by
  intro m hm heq
  obtain ⟨a, ha, hid⟩ := h.refers m hm
  refine s.rawScans.key_ne_fresh ha (Nat.le_refl _) ?_
  rw [(Table.create_eq_some hc).1] at heq
  exact hid.trans heq

theorem Agree.remove (h : Agree s) {id : Id} (hid : ∀ m ∈ s.movements.rows, m.scanEventRawId ≠ id)
    (hr : s'.rawScans = s.rawScans.delete id) (hm : s'.movements = s.movements) : Agree s' := by
  constructor
  · rw [hr, hm]
    intro m hmem
    obtain ⟨a, ha, hma⟩ := h.refers m hmem
    exact ⟨a, Table.mem_delete.mpr ⟨ha, fun hk => hid m hmem (hma.symm.trans hk)⟩, hma⟩
  · rw [hr, hm]
    exact fun a ha => h.processed a (Table.mem_delete.mp ha).1
  · rw [hr, hm]
    exact fun a ha => h.columns a (Table.mem_delete.mp ha).1

/-- A raw scan that is created without a movement. -/
theorem Agree.create (h : Agree s) {data row : ScanEventRaw}
    (hc : s.rawScans.create data = some (row, s'.rawScans)) (hst : data.status ≠ .PROCESSED)
    (hm : s'.movements = s.movements) : Agree s' := by
  have hno := h.no_movement hc
  have hrow := (Table.create_eq_some hc).1
  constructor
  · rw [hm]
    intro m hmem
    obtain ⟨a, ha, hma⟩ := h.refers m hmem
    exact ⟨a, (Table.mem_create hc).mpr (.inl ha), hma⟩
  · rw [hm]
    intro a ha
    rcases (Table.mem_create hc).mp ha with ha | rfl
    · exact h.processed a ha
    · constructor
      · intro hp
        rw [hrow] at hp
        exact absurd hp hst
      · rintro ⟨m, hmem, hma⟩
        exact absurd hma (hno m hmem)
  · rw [hm]
    intro a ha m hmem hma
    rcases (Table.mem_create hc).mp ha with ha | rfl
    · exact h.columns a ha m hmem hma
    · exact absurd hma (hno m hmem)

/-- A verdict on a raw scan without a movement. -/
theorem Agree.update (h : Agree s) {id : Id} {v : RawScanVerdict} {row : ScanEventRaw}
    (hu : s.rawScans.update id (applyVerdict s.clock v) = .done row s'.rawScans)
    (hst : v.status ≠ .PROCESSED) (hno : ∀ m ∈ s.movements.rows, m.scanEventRawId ≠ id)
    (hm : s'.movements = s.movements) : Agree s' := by
  obtain ⟨a₀, ha₀, hk₀, hrow, -, -⟩ := Table.update_eq_done hu
  have hid : row.id = id := by rw [hrow]; rfl
  constructor
  · rw [hm]
    intro m hmem
    obtain ⟨a, ha, hma⟩ := h.refers m hmem
    refine ⟨a, (Table.mem_update hu).mpr (.inl ⟨ha, fun hk => ?_⟩), hma⟩
    exact hno m hmem (hma.symm.trans hk)
  · rw [hm]
    intro a ha
    rcases (Table.mem_update hu).mp ha with ⟨ha, -⟩ | rfl
    · exact h.processed a ha
    · constructor
      · intro hp
        rw [hrow] at hp
        exact absurd hp hst
      · rintro ⟨m, hmem, hma⟩
        exact absurd (hma.trans hid) (hno m hmem)
  · rw [hm]
    intro a ha m hmem hma
    rcases (Table.mem_update hu).mp ha with ⟨ha, -⟩ | rfl
    · exact h.columns a ha m hmem hma
    · exact absurd (hma.trans hid) (hno m hmem)

/-- The row and the movement of one transaction. -/
theorem sameColumns_settled {now : Time} {scan row : ScanEventRaw} {m : MovementLog}
    {d : Decision} {k : Id} (hcore : rawIdentity row = rawIdentity scan)
    (hres : row.result = some d.result ∧ row.reason = some d.reason ∧
      row.registrationId = some d.registrationId ∧ row.qrTokenId = some d.qrTokenId)
    (hm : m = withKey k (movementRow now scan d)) : SameColumns row m := by
  simp only [rawIdentity, Prod.mk.injEq] at hcore
  obtain ⟨-, hev, hdev, -, hcp, hty, hat, -⟩ := hcore
  obtain ⟨hr, hre, hreg, hq⟩ := hres
  subst hm
  exact ⟨hr, hre, hreg, hq, hty, hev, hdev, hcp, hat.symm⟩

/-- A raw scan whose row gets its movement in the same step. -/
theorem Agree.settled (h : Agree s) {row : ScanEventRaw} {m data : MovementLog}
    (hraw : ∀ a, a ∈ s'.rawScans.rows ↔ (a ∈ s.rawScans.rows ∧ a.id ≠ row.id) ∨ a = row)
    (hm : s.movements.create data = some (m, s'.movements)) (hid : m.scanEventRawId = row.id)
    (hst : row.status = .PROCESSED) (hcols : SameColumns row m)
    (hno : ∀ m ∈ s.movements.rows, m.scanEventRawId ≠ row.id) : Agree s' := by
  constructor
  · intro m' hm'
    rcases (Table.mem_create hm).mp hm' with hm' | rfl
    · obtain ⟨a, ha, hma⟩ := h.refers m' hm'
      exact ⟨a, (hraw a).mpr (.inl ⟨ha, fun hk => hno m' hm' (hma.symm.trans hk)⟩), hma⟩
    · exact ⟨row, (hraw row).mpr (.inr rfl), hid.symm⟩
  · intro a ha
    rcases (hraw a).mp ha with ⟨ha, hne⟩ | rfl
    · rw [h.processed a ha]
      constructor
      · rintro ⟨m', hm', hma⟩
        exact ⟨m', (Table.mem_create hm).mpr (.inl hm'), hma⟩
      · rintro ⟨m', hm', hma⟩
        rcases (Table.mem_create hm).mp hm' with hm' | rfl
        · exact ⟨m', hm', hma⟩
        · exact absurd (hma.symm.trans hid) hne
    · exact ⟨fun _ => ⟨m, (Table.mem_create hm).mpr (.inr rfl), hid⟩, fun _ => hst⟩
  · intro a ha m' hm' hma
    rcases (hraw a).mp ha with ⟨ha, hne⟩ | rfl <;> rcases (Table.mem_create hm).mp hm' with
      hm' | rfl
    · exact h.columns a ha m' hm' hma
    · exact absurd (hma.symm.trans hid) hne
    · exact absurd hma (hno m' hm')
    · exact hcols

/-! ## What each call preserves -/

/-- The raw scan row that a creation adds, next to the other rows. -/
theorem mem_created {t : Table ScanEventRaw} {data row : ScanEventRaw} {t' : Table ScanEventRaw}
    (hc : t.create data = some (row, t')) (a : ScanEventRaw) :
    a ∈ t'.rows ↔ (a ∈ t.rows ∧ a.id ≠ row.id) ∨ a = row := by
  rw [Table.mem_create hc]
  constructor
  · rintro (ha | ha)
    · refine .inl ⟨ha, fun hk => t.key_ne_fresh ha (Nat.le_refl _) ?_⟩
      rw [(Table.create_eq_some hc).1] at hk
      exact hk
    · exact .inr ha
  · rintro (⟨ha, -⟩ | ha)
    · exact .inl ha
    · exact .inr ha

theorem agree_of_settle (h : Agree s) {dto : CreateScanDto} {at_ : Time} {d : Decision}
    {row : ScanEventRaw} {m : MovementLog}
    (hc : s.rawScans.create (rawScanRow s.clock dto at_ d.verdict) = some (row, s'.rawScans))
    (hm : s.movements.create (movementRow s.clock row d) = some (m, s'.movements)) :
    Agree s' := by
  have hrow := (Table.create_eq_some hc).1
  have hmov := (Table.create_eq_some hm).1
  have hno := h.no_movement hc
  refine h.settled (mem_created hc) hm (by rw [hmov]; rfl) (by rw [hrow]; rfl) ?_ hno
  exact sameColumns_settled rfl (by rw [hrow]; exact ⟨rfl, rfl, rfl, rfl⟩) hmov

theorem agree_of_settleRaw (h : Agree s) {scan : ScanEventRaw} (hread : WasRawScan scan s)
    {d : Decision} {row : ScanEventRaw} {m : MovementLog}
    (hu : s.rawScans.update scan.id (applyVerdict s.clock d.verdict) = .done row s'.rawScans)
    (hm : s.movements.create (movementRow s.clock scan d) = some (m, s'.movements)) :
    Agree s' := by
  obtain ⟨a, ha, hk, hrow, -, -⟩ := Table.update_eq_done hu
  have hid : row.id = scan.id := by rw [hrow]; rfl
  have hmov := (Table.create_eq_some hm).1
  have hraw : ∀ b, b ∈ s'.rawScans.rows ↔ (b ∈ s.rawScans.rows ∧ b.id ≠ row.id) ∨ b = row := by
    intro b
    rw [hid]
    exact Table.mem_update hu
  have hno : ∀ m ∈ s.movements.rows, m.scanEventRawId ≠ row.id := by
    intro m' hm' heq
    refine Table.not_clash_of_create hm hm' ?_
    rw [hmov]
    simp [clash, movementRow, movementData, heq, hid]
  refine h.settled hraw hm (by rw [hmov, hid]; rfl) (by rw [hrow]; rfl) ?_ hno
  refine sameColumns_settled ?_ (by rw [hrow]; exact ⟨rfl, rfl, rfl, rfl⟩) hmov
  rw [hrow]
  exact (hread.identity ha hk).symm

end RawAgreement

open RawAgreement

/-- The raw scan whose row a call rewrites without settling it. -/
def Call.rewrites : Call → Option Id
  | .rawScanUpdate id _ => some id
  | _ => none

/-- The call writes no verdict over a raw scan that has a movement. -/
def SparesSettledScans (_ : Nat) (c : Call) (w : World Resp Exn Store) : Prop :=
  ∀ m ∈ w.store.movements.rows, c.rewrites ≠ some m.scanEventRawId

instance (t : Nat) (c : Call) (w : World Resp Exn Store) : Decidable (SparesSettledScans t c w) :=
  inferInstanceAs (Decidable (∀ m ∈ w.store.movements.rows, c.rewrites ≠ some m.scanEventRawId))

namespace RawAgreement

variable {R : ScanEventRaw → Prop} {t : Nat} {w : World Resp Exn Store}

variable {O : String → Id → MovementType → Prop}

/-- What a call that settles nothing preserves. -/
theorem agree_of_prepares (h : Agree w.store) {c : Call} (hc : c.Prepares O)
    (hp : SparesSettledScans t c w) {x : Except Exn (Resp c)} (heff : Effect w.store c x s') :
    Agree s' := by
  cases heff with
  | read | failed => exact h
  | remove hm => exact h.remove hm rfl rfl
  | create hcr => exact h.create hcr hc.create_status rfl
  | update hu =>
      refine h.update hu hc.update_status (fun m hm heq => ?_) rfl
      exact hp m hm (congrArg some heq.symm)
  | settle | settleRaw =>
      cases hc with
      | format hf => cases hf
  | _ => exact h.same rfl rfl

/-- What a call of an offline submission preserves. -/
theorem agree_of_submits (h : Agree w.store) {c : Call} (hc : c.Submits O)
    {x : Except Exn (Resp c)} (heff : Effect w.store c x s') : Agree s' := by
  cases heff with
  | read | failed => exact h
  | remove | create | update | settle | settleRaw =>
      cases hc with
      | format hf => cases hf
  | _ => exact h.same rfl rfl

/-- What a settlement of a raw scan in `R` preserves. -/
theorem agree_of_settles (h : Agree w.store) (hR : ∀ a, R a → WasRawScan a w.store) {c : Call}
    (hc : c.Settles R O) {x : Except Exn (Resp c)} (heff : Effect w.store c x s') :
    Agree s' := by
  cases heff with
  | read | failed => exact h
  | settle hcr hm => exact agree_of_settle h hcr hm
  | settleRaw hu hm => exact agree_of_settleRaw h (hR _ hc.settled_raw) hu hm
  | _ => cases hc

theorem agree_of_online (h : Agree w.store) (hR : ∀ a, R a → WasRawScan a w.store) {c : Call}
    (hc : c.Online R O) (hp : SparesSettledScans t c w) {x : Except Exn (Resp c)}
    (heff : Effect w.store c x s') : Agree s' := by
  cases hc with
  | prepare hc => exact agree_of_prepares h hc hp heff
  | settle hc => exact agree_of_settles h hR hc heff

theorem agree_of_offline (h : Agree w.store) (hR : ∀ a, R a → WasRawScan a w.store) {c : Call}
    (hc : c.Offline R O) {x : Except Exn (Resp c)} (heff : Effect w.store c x s') :
    Agree s' := by
  cases hc with
  | submit hc => exact agree_of_submits h hc heff
  | settle hc => exact agree_of_settles h hR hc heff
  | touch | finish =>
      cases heff with
      | read | failed => exact h
      | _ => exact h.same rfl rfl

/-! ## The programs -/

def discipline (rt : Runtime) : Discipline (scanService rt (anyScans rt)) SparesSettledScans where
  inv w := Agree w.store
  rely := Later
  rely_refl := Later.refl
  rely_trans := Later.trans
  call_rely _ _ h := (effect_of_outcome h).later
  env_inv hi h := hi.same h.rawScans h.movements
  env_rely _ h := h.later
  start_inv hi h := h.2 ▸ hi
  start_rely _ h := h.2 ▸ Later.refl _

variable {rt : Runtime} {α : Type}

theorem safe_online {p : Svc α} (hp : p.All (Call.Online R anyOperation))
    (hR : ∀ a, R a → WasRawScan a w.store) : (discipline rt).logic.Safe t p w :=
  Discipline.safe_of_all_fact (F := fun w => ∀ a, R a → WasRawScan a w.store)
    (fun _ _ hl hF a ha => (hF a ha).later hl.1)
    (fun _ hc _ _ hF hi hper _ _ ho => agree_of_online hi hF hc hper (effect_of_outcome ho)) hp hR

theorem safe_offline {p : Svc α} (hp : p.All (Call.Offline R anyOperation))
    (hR : ∀ a, R a → WasRawScan a w.store) : (discipline rt).logic.Safe t p w :=
  Discipline.safe_of_all_fact (F := fun w => ∀ a, R a → WasRawScan a w.store)
    (fun _ _ hl hF a ha => (hF a ha).later hl.1)
    (fun _ hc _ _ hF hi _ _ _ ho => agree_of_offline hi hF hc (effect_of_outcome ho)) hp hR

theorem keeps_online {c : Call} (hc : c.Online (fun _ => False) anyOperation) :
    (discipline rt).Keeps t c w :=
  fun _ _ hi hper _ _ ho => agree_of_online hi (fun _ h => h.elim) hc hper (effect_of_outcome ho)

theorem keeps_offline {c : Call} (hc : c.Offline (fun _ => False) anyOperation) :
    (discipline rt).Keeps t c w :=
  fun _ _ hi _ _ _ ho => agree_of_offline hi (fun _ h => h.elim) hc (effect_of_outcome ho)

theorem safe_processRawScan {id : Id} (hi : Agree w.store) :
    (discipline rt).logic.Safe t (ScansService.processRawScan rt id) w := by
  refine Discipline.safe_call_bind hi (keeps_online (.prepare (.format rfl))) fun found w₁ hi₁ _ hread => ?_
  cases found with
  | none => exact fun _ _ _ => trivial
  | some scan =>
      have hwas : WasRawScan scan w₁.store := answered_rawScanById (fun _ _ h => h) hread
      dsimp only
      split
      · exact fun _ _ _ => trivial
      · refine safe_online (R := (· = scan)) ?_ fun a ha => ha ▸ hwas
        refine all_tryCatch (ScansService.processPending_online rt trivial rfl) fun e => ?_
        exact (ScansService.failRawScan_prepares scan e).mono fun _ => .prepare

theorem safe_processOfflineScanOperation {id : Id} (hi : Agree w.store) :
    (discipline rt).logic.Safe t (ScansService.processOfflineScanOperation rt id) w := by
  refine Discipline.safe_call_bind hi (keeps_offline (.submit (.format rfl))) fun found w₁ hi₁ _ _ => ?_
  cases found with
  | none => exact fun _ _ _ => trivial
  | some x =>
      dsimp only
      split
      · exact fun _ _ _ => trivial
      · refine Discipline.safe_call_bind hi₁ (keeps_offline (.submit (.format rfl)))
          fun existing w₂ hi₂ _ hread => ?_
        cases existing with
        | none =>
            exact safe_offline (R := fun _ => False)
              (ScansService.settleNew_offline rt (fun _ h => by cases h) trivial) fun _ h => h.elim
        | some view =>
            obtain ⟨s₀, h₀, hmem, -, -⟩ := answered_rawScanByOperation (fun _ _ h => h) hread
            have hwas : ∀ a, IsScanOf (some view) a → WasRawScan a w₂.store :=
              fun a ha => ⟨s₀, h₀, Option.some.inj ha ▸ hmem⟩
            dsimp only
            split
            · exact safe_offline (ScansService.settleNew_offline rt (fun _ h => h) trivial) hwas
            · exact safe_offline (R := fun _ => False) (all_bind (all_call (.finish _ _ _ _))
                fun _ => trivial) fun _ h => h.elim

theorem safe_run {p : Svc Unit} (hp : ScanRun rt p) (hi : Agree w.store) :
    (discipline rt).logic.Safe t p w := by
  have hsubmit : Preserves (discipline rt) (Call.Submits anyOperation) :=
    fun c hc _ _ hi _ _ _ h => agree_of_submits hi hc h
  cases hp with
  | ingest dto =>
      exact safe_online (R := fun _ => False) (all_void (ScansService.ingest_online rt trivial))
        fun _ h => h.elim
  | ingestFast dto =>
      have hcalls : (ScansService.ingestFast rt dto).All (Call.Prepares anyOperation) :=
        ScansService.ingestFast_prepares rt trivial
      exact safe_online (R := fun _ => False) (all_void (hcalls.mono fun _ => .prepare))
        fun _ h => h.elim
  | processRawScan id => exact Discipline.safe_void hi (safe_processRawScan hi)
  | ingestOfflineScan mappingFirst input =>
      exact Discipline.safe_void hi (safe_ingestOfflineScan hsubmit
        (fun _ _ => safe_processOfflineScanOperation) mappingFirst trivial hi)
  | reconcileOfflineRegistration input =>
      exact Discipline.safe_void hi (safe_reconcileOfflineRegistration hsubmit
        (fun _ _ => safe_processOfflineScanOperation) input hi)

end RawAgreement

namespace RawAgreement

/-- One scan is stored, and two workers process it at the same time. -/
def racingWorkers : List (scanService sampleRuntime (anyScans sampleRuntime)).Action :=
  [launch (ScansService.ingestFast sampleRuntime (sampleDto "op-1")).void] ++ steps 0 3 ++
    [launch (ScansService.processRawScan sampleRuntime "c0").void,
      launch (ScansService.processRawScan sampleRuntime "c0").void] ++
    steps 1 1 ++ steps 2 1 ++ steps 1 8 ++ steps 2 8

theorem racingWorkers_legal : Service.Legal racingWorkers := by
  simp [racingWorkers, launch_legal, ScanRun.ingestFast, ScanRun.processRawScan]

/-- One scan is stored and processed by one worker. -/
def oneWorker : List (scanService sampleRuntime (anyScans sampleRuntime)).Action :=
  [launch (ScansService.ingestFast sampleRuntime (sampleDto "op-1")).void] ++ steps 0 3 ++
    [launch (ScansService.processRawScan sampleRuntime "c0").void] ++ steps 1 9

theorem oneWorker_legal : Service.Legal oneWorker := by
  simp [oneWorker, launch_legal, ScanRun.ingestFast, ScanRun.processRawScan]

end RawAgreement

end CreativeBackend
