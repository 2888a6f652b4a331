import CreativeBackend.Scans.Decisions

/-!
# One movement for one operation id

An operation id may be submitted again and through every entry point. The
invariant is about the offline scans: one that names a movement also names the
raw scan of its own operation id that the movement belongs to, and one that is
processed names a movement. The raw scan of a movement is never deleted, and no
statement changes an operation id, so a thread may rely on a raw scan it has
read for as long as it runs.
-/

namespace CreativeBackend

open Relational Interaction Prog Store

namespace OperationIds

/-- A movement of the raw scan with an operation id. -/
def MovementFor (s : Store) (operationId : String) (scanEventRawId : Option Id)
    (movementId : Id) : Prop :=
  ∃ a ∈ s.rawScans.rows, ∃ m ∈ s.movements.rows, scanEventRawId = some a.id ∧
    m.id = movementId ∧ m.scanEventRawId = a.id ∧ a.operationId = operationId

theorem MovementFor.later {s s' : Store} (h : Later s s') {operationId : String}
    {scanEventRawId : Option Id} {movementId : Id}
    (hm : MovementFor s operationId scanEventRawId movementId) :
    MovementFor s' operationId scanEventRawId movementId := by
  obtain ⟨a, ha, m, hm, hraw, hid, hma, hop⟩ := hm
  obtain ⟨b, hb, hba⟩ := h.rawScansKept a ha ⟨m, hm, hma⟩
  have hcore : rawIdentity a = rawIdentity b := h.rawScans.core_eq ha hb hba.symm
  refine ⟨b, hb, m, h.mem_movements hm, by rw [hba]; exact hraw, hid, hma.trans hba.symm, ?_⟩
  exact (congrArg Prod.fst hcore).symm.trans hop

/-- What the rows of the offline scans say about movements. -/
structure Linked (s : Store) : Prop where
  movement : ∀ x ∈ s.offlineScans.rows, ∀ movementId, x.movementId = some movementId →
    MovementFor s x.operationId x.scanEventRawId movementId
  processed : ∀ x ∈ s.offlineScans.rows, x.status = .PROCESSED → x.movementId.isSome = true

/-- The offline scan under a key may be settled on a movement. -/
def MaySettle (s : Store) (id scanEventRawId movementId : Id) : Prop :=
  ∃ x ∈ s.offlineScans.rows, x.id = id ∧
    MovementFor s x.operationId (some scanEventRawId) movementId

theorem MaySettle.later {s s' : Store} (h : Later s s') {id scanEventRawId movementId : Id}
    (hm : MaySettle s id scanEventRawId movementId) :
    MaySettle s' id scanEventRawId movementId := by
  obtain ⟨x, hx, hid, hm⟩ := hm
  obtain ⟨y, hy, hyx⟩ := h.offlineScansKept x hx
  have hcore : offlineIdentity x = offlineIdentity y := h.offlineScans.core_eq hx hy hyx.symm
  have hop : x.operationId = y.operationId := congrArg Prod.fst hcore
  exact ⟨y, hy, hyx.trans hid, hop ▸ hm.later h⟩

/-! ## What each statement preserves -/

variable {s s' : Store}

theorem Linked.same (hl : Linked s) (h : Later s s') (he : s'.offlineScans = s.offlineScans) :
    Linked s' where
  movement x hx mid hmid := (hl.movement x (he ▸ hx) mid hmid).later h
  processed x hx := hl.processed x (he ▸ hx)

/-- A deleted raw scan had no movement, so no offline scan with a movement names it. -/
theorem Linked.delete (hl : Linked s) (h : Later s s') {id : Id}
    (hm : ∀ m ∈ s.movements.rows, m.scanEventRawId ≠ id)
    (he : s'.offlineScans = detachRawScan s.offlineScans id) : Linked s' := by
  have hrow : ∀ x ∈ s'.offlineScans.rows, ∃ y ∈ s.offlineScans.rows,
      x.status = y.status ∧ x.movementId = y.movementId ∧ x.operationId = y.operationId ∧
        (y.movementId.isSome = true → x.scanEventRawId = y.scanEventRawId) := by
    intro x hx
    obtain ⟨y, hy, rfl | rfl⟩ := mem_detachRawScan (he ▸ hx)
    · exact ⟨x, hy, rfl, rfl, rfl, fun _ => rfl⟩
    · simp only [clearRawScan]
      split
      · next hraw =>
          refine ⟨y, hy, rfl, rfl, rfl, fun hsome => ?_⟩
          obtain ⟨mid, hmid⟩ := Option.isSome_iff_exists.mp hsome
          obtain ⟨a, -, m, hm', hra, -, hma, -⟩ := hl.movement y hy mid hmid
          exact absurd (hma.trans (Option.some.inj (hra.symm.trans hraw))) (hm m hm')
      · exact ⟨y, hy, rfl, rfl, rfl, fun _ => rfl⟩
  constructor
  · intro x hx mid hmid
    obtain ⟨y, hy, -, hmv, hop, hraw⟩ := hrow x hx
    rw [hop, hraw (by rw [← hmv, hmid]; rfl)]
    exact (hl.movement y hy mid (hmv ▸ hmid)).later h
  · intro x hx hst
    obtain ⟨y, hy, hs, hmv, -, -⟩ := hrow x hx
    rw [hmv]
    exact hl.processed y hy (hs ▸ hst)

theorem Linked.create (hl : Linked s) (h : Later s s') {d : OfflineScanData} {at_ : Time}
    {row : OfflineScanOperation}
    (hc : s.offlineScans.create (offlineScanRow s.clock d at_) = some (row, s'.offlineScans))
    (hd : d.status ≠ .PROCESSED) : Linked s' := by
  obtain ⟨hrow, -, -⟩ := Table.create_eq_some hc
  constructor
  · intro x hx mid hmid
    rcases (Table.mem_create hc).mp hx with hx | rfl
    · exact (hl.movement x hx mid hmid).later h
    · rw [hrow] at hmid
      cases hmid
  · intro x hx hst
    rcases (Table.mem_create hc).mp hx with hx | rfl
    · exact hl.processed x hx hst
    · rw [hrow] at hst
      exact absurd hst hd

/-- The columns that an update of an offline scan leaves alone unless it settles it. -/
def Quiet (p : OfflineScanPatch) : Prop :=
  p.status ≠ .PROCESSED ∧ p.movementId = none ∧ p.scanEventRawId = none

theorem Linked.update (hl : Linked s) (h : Later s s') {id : Id} {p : OfflineScanPatch}
    {row : OfflineScanOperation}
    (hu : s.offlineScans.update id (applyOfflinePatch s.clock p) = .done row s'.offlineScans)
    (hp : Quiet p) : Linked s' := by
  obtain ⟨hst, hmv, hraw⟩ := hp
  obtain ⟨y, hy, hk, hrow, -, -⟩ := Table.update_eq_done hu
  constructor
  · intro x hx mid hmid
    rcases (Table.mem_update hu).mp hx with ⟨hx, -⟩ | rfl
    · exact (hl.movement x hx mid hmid).later h
    · have hy' := hl.movement y hy mid (by simpa [hrow, applyOfflinePatch, hmv] using hmid)
      simpa [hrow, applyOfflinePatch, hraw] using hy'.later h
  · intro x hx hstx
    rcases (Table.mem_update hu).mp hx with ⟨hx, -⟩ | rfl
    · exact hl.processed x hx hstx
    · rw [hrow] at hstx
      exact absurd hstx hst

theorem Linked.settle (hl : Linked s) (h : Later s s') {id scanEventRawId movementId : Id}
    {registrationId : Option Id} {row : OfflineScanOperation}
    (hu : s.offlineScans.update id
      (applyOfflinePatch s.clock (ScansService.settledPatch scanEventRawId movementId
        registrationId)) = .done row s'.offlineScans)
    (hm : MaySettle s id scanEventRawId movementId) : Linked s' := by
  obtain ⟨y, hy, hk, hrow, -, -⟩ := Table.update_eq_done hu
  obtain ⟨z, hz, hzid, hmov⟩ := hm
  have hzy : z = y := s.offlineScans.eq_of_key hz hy (hzid.trans hk.symm)
  subst hzy
  constructor
  · intro x hx mid hmid
    rcases (Table.mem_update hu).mp hx with ⟨hx, -⟩ | rfl
    · exact (hl.movement x hx mid hmid).later h
    · have hmid' : movementId = mid := by
        simpa [hrow, applyOfflinePatch, ScansService.settledPatch] using hmid
      subst hmid'
      simpa [hrow, applyOfflinePatch, ScansService.settledPatch] using hmov.later h
  · intro x hx hstx
    rcases (Table.mem_update hu).mp hx with ⟨hx, -⟩ | rfl
    · exact hl.processed x hx hstx
    · simp [hrow, applyOfflinePatch, ScansService.settledPatch]

/-! ## What each call preserves -/

/-- The calls that keep the invariant wherever they are issued. -/
def QuietCall : Call → Prop
  | .offlineScanCreate d => d.status ≠ .PROCESSED
  | .offlineScanUpdate _ p => Quiet p
  | _ => True

variable {rt : Runtime}

/-- What one call preserves. -/
theorem linked_of_effect {c : Call} {x : Except Exn (Resp c)} (hl : Linked s) (hc : QuietCall c)
    (h : Effect s c x s') : Linked s' := by
  have hlater := h.later
  cases h with
  | remove hm => exact hl.delete hlater hm rfl
  | park _ hcr => exact hl.create hlater hcr hc
  | patch hu => exact hl.update hlater hu hc
  | _ => exact hl.same hlater rfl

theorem quiet_of_formats {c : Call} (h : c.formats = true) : QuietCall c := by
  cases c <;> trivial

theorem quiet_of_park {d : OfflineScanData} (h : d.status = .PENDING_LINK ∨ d.status = .LINKED) :
    d.status ≠ .PROCESSED := by
  rcases h with h | h <;> simp [h]

variable {R : ScanEventRaw → Prop} {O : String → Id → MovementType → Prop}

theorem quiet_of_prepares {c : Call} (h : c.Prepares O) : QuietCall c := by
  cases h with
  | format h => exact quiet_of_formats h
  | park d h => exact quiet_of_park h
  | _ => trivial

theorem quiet_of_settles {c : Call} (h : c.Settles R O) : QuietCall c := by
  cases h <;> trivial

theorem quiet_of_online {c : Call} (h : c.Online R O) : QuietCall c := by
  cases h with
  | prepare h => exact quiet_of_prepares h
  | settle h => exact quiet_of_settles h

theorem quiet_of_submits {c : Call} (h : c.Submits O) : QuietCall c := by
  cases h with
  | format h => exact quiet_of_formats h
  | park d h => exact quiet_of_park h
  | _ => exact ⟨by simp [ScansService.conflictPatch, ScansService.relinkPatch,
      ScansService.linkPatch, ScansService.reconciliationFailedPatch], rfl, rfl⟩

/-! ## The programs -/

/-- Others may do to the scan tables whatever leaves them as they are. -/
def discipline (rt : Runtime) : Discipline (scanService rt (anyScans rt)) (fun _ _ _ => True) where
  inv w := Linked w.store
  rely := Later
  rely_refl := Later.refl
  rely_trans := Later.trans
  call_rely _ _ h := (effect_of_outcome h).later
  env_inv hi h := hi.same h.later h.offlineScans
  env_rely _ h := h.later
  start_inv hi h := h.2 ▸ hi
  start_rely _ h := h.2 ▸ Later.refl _

variable {t : Nat}

/-- Quiet calls keep the invariant. -/
theorem preserves : Preserves (discipline rt) QuietCall :=
  fun _ hc _ _ hi _ _ _ h => linked_of_effect hi hc h

/-- A stored offline scan stays stored under its operation id. -/
theorem storedScan_later (h : Later s s') {id : Id} {operationId : String}
    (hx : ∃ y ∈ s.offlineScans.rows, y.id = id ∧ y.operationId = operationId) :
    ∃ y ∈ s'.offlineScans.rows, y.id = id ∧ y.operationId = operationId := by
  obtain ⟨y, hy, hyid, hyop⟩ := hx
  obtain ⟨z, hz, hzy⟩ := h.offlineScansKept y hy
  have hcore : offlineIdentity y = offlineIdentity z := h.offlineScans.core_eq hy hz hzy.symm
  exact ⟨z, hz, hzy.trans hyid, (congrArg Prod.fst hcore).symm.trans hyop⟩

/-- The update that settles an offline scan keeps the invariant where it may settle. -/
theorem keeps_settle {id scanEventRawId movementId : Id} {registrationId : Option Id}
    {w : World Resp Exn Store} (hm : MaySettle w.store id scanEventRawId movementId) :
    (discipline rt).Keeps t (.offlineScanUpdate id
      (ScansService.settledPatch scanEventRawId movementId registrationId)) w := by
  intro w' hw' hi _ x s' h
  have heff := effect_of_outcome h
  have hlater := heff.later
  cases heff with
  | read hc => cases hc
  | failed => exact hi
  | patch hu => exact Linked.settle hi hlater hu (hm.later hw'.1)

variable {u w : World Resp Exn Store}

/-- A stored offline scan that was read keeps its operation id. -/
theorem answered_offlineScan {id : Id} {x : OfflineScanOperation}
    (h : (discipline rt).Answered t u (.offlineScanById id) (.ok (some x)) w) :
    x.id = id ∧ ∃ y ∈ w.store.offlineScans.rows, y.id = id ∧ y.operationId = x.operationId := by
  obtain ⟨w₀, ch, -, -, hm, hl⟩ := answered_read rfl h
  have hlater : Later w₀.store w.store := hl.1
  have hfind : w₀.store.offlineScans.find? id = some x := by
    simpa [machine, query] using hm
  obtain ⟨hx, hid⟩ := Table.find?_eq_some_iff.mp hfind
  exact ⟨hid, storedScan_later hlater ⟨x, hx, hid, rfl⟩⟩

/-- The movement that was read with a raw scan. -/
theorem movementFor_of_read {s₀ : Store} {a : ScanEventRaw} {m : MovementLog}
    (hlater : Later s₀ s) (ha : a ∈ s₀.rawScans.rows) (hm : s₀.movementOf a.id = some m) :
    MovementFor s a.operationId (some a.id) m.id := by
  obtain ⟨hmem, hma⟩ := movementOf_eq_some_iff.mp hm
  have h₀ : MovementFor s₀ a.operationId (some a.id) m.id := ⟨a, ha, m, hmem, rfl, rfl, hma, rfl⟩
  exact h₀.later hlater

section Transactions

variable {σ : Surroundings} {permits : Nat → Call → World Resp Exn Store → Prop}
  {D : Discipline (scanService rt σ) permits} (hD : ∀ s s', D.rely s s' → Later s s')

include hD

/-- The transaction that creates a raw scan and its movement. -/
theorem answered_createProcessed {dto : CreateScanDto} {scannedAt : Option Time} {d : Decision}
    {view : RawScanView} {m : MovementLog}
    (h : D.Answered t u (.createProcessed dto scannedAt d) (.ok (view, m)) w) :
    MovementFor w.store dto.operationId (some view.scan.id) m.id := by
  obtain ⟨w₀, s₀, -, -, -, heff, hl⟩ := answered_effect h
  cases heff with
  | read hc => cases hc
  | @settle _ at_ _ row _ _ _ hc hm =>
      have hrow := (Table.create_eq_some hc).1
      have hmrow := (Table.create_eq_some hm).1
      exact MovementFor.later (hD _ _ hl.1) ⟨row, (Table.mem_create hc).mpr (.inr rfl), m,
        (Table.mem_create hm).mpr (.inr rfl), rfl, rfl, by rw [hmrow]; rfl, by rw [hrow]; rfl⟩

/-- The transaction that settles a raw scan that was read before. -/
theorem answered_updateProcessed {scan : ScanEventRaw} {d : Decision} {view : RawScanView}
    {m : MovementLog} (hread : WasRawScan scan u.store)
    (h : D.Answered t u (.updateProcessed scan d) (.ok (view, m)) w) :
    MovementFor w.store scan.operationId (some view.scan.id) m.id := by
  obtain ⟨w₀, s₀, hu, -, -, heff, hl⟩ := answered_effect h
  cases heff with
  | read hc => cases hc
  | @settleRaw _ _ row _ _ _ hup hm =>
      obtain ⟨a, ha, hk, hrow, -, -⟩ := Table.update_eq_done hup
      have hcore : rawIdentity scan = rawIdentity a := (hread.later (hD _ _ hu.1)).identity ha hk
      have hop : scan.operationId = a.operationId := congrArg Prod.fst hcore
      have hmrow := (Table.create_eq_some hm).1
      refine MovementFor.later (hD _ _ hl.1) ⟨row, (Table.mem_update hup).mpr (.inr rfl), m,
        (Table.mem_create hm).mpr (.inr rfl), rfl, rfl, by rw [hmrow, hrow]; rfl, ?_⟩
      rw [hrow, hop]
      rfl

end Transactions

/-- A raw scan as `processOfflineScanOperation` has read it, for an operation id. -/
def ReadRaw (s : Store) (operationId : String) (existing : Option RawScanView) : Prop :=
  ∀ view, existing = some view → view.scan.operationId = operationId ∧ WasRawScan view.scan s

theorem ReadRaw.later (h : Later s s') {operationId : String} {existing : Option RawScanView}
    (hr : ReadRaw s operationId existing) : ReadRaw s' operationId existing := by
  intro view hview
  exact ⟨(hr view hview).1, (hr view hview).2.later h⟩

/-- After the settling transaction the offline scan may be settled on its movement. -/
theorem returns_writeSettlement {x : OfflineScanOperation} {existing : Option RawScanView}
    {d : Decision} (hr : ReadRaw w.store x.operationId existing) :
    (discipline rt).Returns t
      (fun written w' =>
        MovementFor w'.store x.operationId (some written.1.scan.id) written.2.id)
      (ScansService.writeSettlement rt x existing d) w := by
  cases existing with
  | none =>
      refine (Discipline.returns_call (preserves.keeps (by trivial))).mono fun written w' h => ?_
      exact answered_createProcessed (fun _ _ h => h) h
  | some view =>
      obtain ⟨hop, hread⟩ := hr view rfl
      refine (Discipline.returns_call (preserves.keeps (by trivial))).mono fun written w' h => ?_
      rw [← hop]
      exact answered_updateProcessed (fun _ _ h => h) hread h

/-- The raw scan of an operation, as it was read. -/
theorem readRaw_of_answered {operationId : String} {existing : Option RawScanView}
    (h : (discipline rt).Answered t u (.rawScanByOperation operationId) (.ok existing) w) :
    ReadRaw w.store operationId existing := by
  rintro view rfl
  obtain ⟨s₀, h₀, hmem, hop, -⟩ := answered_rawScanByOperation (fun _ _ h => h) h
  exact ⟨hop, s₀, h₀, hmem⟩

theorem safe_processOfflineScanOperation {id : Id} (hi : Linked w.store) :
    (discipline rt).logic.Safe t (ScansService.processOfflineScanOperation rt id) w := by
  have hread : Preserves (discipline rt) (·.reads = true) :=
    preserves.reads fun _ => quiet_of_formats
  refine safe_processOfflineScan hread hi (fun x existing w₁ hi₁ _ hscan => ?_)
    fun x view m w₁ _ hscan hm => keeps_settle ?_
  · obtain ⟨hid, hstored⟩ := answered_offlineScan hscan.scan
    have hr : ReadRaw w₁.store x.operationId existing := readRaw_of_answered hscan.raw
    refine safe_settleNew hread hi₁
      (fun context reason w₂ _ hl₂ _ _ _ => returns_writeSettlement (hr.later hl₂.1))
      (fun context written w₂ hl₂ hw => keeps_settle ?_) fun _ _ => preserves.keeps (by trivial)
    obtain ⟨y, hy, hyid, hyop⟩ := storedScan_later hl₂.1 hstored
    exact ⟨y, hy, hyid.trans hid.symm, hyop ▸ hw⟩
  · obtain ⟨hid, y, hy, hyid, hyop⟩ := answered_offlineScan hscan.scan
    obtain ⟨s₀, h₀, hmem, hop, hmov⟩ := answered_rawScanByOperation (fun _ _ h => h) hscan.raw
    refine ⟨y, hy, hyid.trans hid.symm, ?_⟩
    rw [hyop, ← hop]
    exact movementFor_of_read h₀ hmem (hmov ▸ hm)

theorem safe_run {p : Svc Unit} (hp : ScanRun rt p) (hi : Linked w.store) :
    (discipline rt).logic.Safe t p w := by
  have hsubmit : Preserves (discipline rt) (Call.Submits anyOperation) :=
    fun c hc => preserves c (quiet_of_submits hc)
  cases hp with
  | ingest dto =>
      have hcalls : (ScansService.ingest rt dto).All (Call.Online (fun _ => True) anyOperation) :=
        ScansService.ingest_online rt trivial
      exact preserves.safe (all_void (hcalls.mono fun _ => quiet_of_online))
  | ingestFast dto =>
      have hcalls : (ScansService.ingestFast rt dto).All (Call.Prepares anyOperation) :=
        ScansService.ingestFast_prepares rt trivial
      exact preserves.safe (all_void (hcalls.mono fun _ => quiet_of_prepares))
  | processRawScan id =>
      have hcalls : (ScansService.processRawScan rt id).All
          (Call.Online (fun _ => True) anyOperation) :=
        ScansService.processRawScan_online rt id fun _ => trivial
      exact preserves.safe (all_void (hcalls.mono fun _ => quiet_of_online))
  | ingestOfflineScan mappingFirst input =>
      exact Discipline.safe_void hi (safe_ingestOfflineScan hsubmit
        (fun _ _ => safe_processOfflineScanOperation) mappingFirst trivial hi)
  | reconcileOfflineRegistration input =>
      exact Discipline.safe_void hi (safe_reconcileOfflineRegistration hsubmit
        (fun _ _ => safe_processOfflineScanOperation) input hi)

theorem linked_of_reach {s : Store} (hs : EmptyScans s)
    {cfg : Config Resp Exn (World Resp Exn Store)}
    (hr : (scanService rt (anyScans rt)).system.Reach (Service.init s) cfg) : Linked cfg.world.store := by
  rw [← System.restrict_true (scanService rt (anyScans rt)).system] at hr
  refine Discipline.inv_of_reach (D := discipline rt) (fun t w p s' _ hi h => ?_) ?_ hr
  · obtain ⟨hp, rfl⟩ := h
    exact safe_run hp hi
  · obtain ⟨-, -, hx⟩ := hs
    exact ⟨fun x h => by simp [hx] at h, fun x h => by simp [hx] at h⟩

end OperationIds

open OperationIds

/-- In every run, and from every store, a movement stays as it was written; the raw scan that it
belongs to and every offline scan stay, with the columns of what was submitted. -/
theorem scan_history_append_only {rt : Runtime} {cfg cfg' : Config Resp Exn (World Resp Exn Store)}
    (hr : (scanService rt (anyScans rt)).system.Reach cfg cfg') :
    (∀ m ∈ cfg.world.store.movements.rows, m ∈ cfg'.world.store.movements.rows) ∧
      (∀ m ∈ cfg.world.store.movements.rows, ∀ a ∈ cfg.world.store.rawScans.rows,
        m.scanEventRawId = a.id →
          ∃ b ∈ cfg'.world.store.rawScans.rows, b.id = a.id ∧ rawIdentity b = rawIdentity a) ∧
      ∀ x ∈ cfg.world.store.offlineScans.rows, ∃ y ∈ cfg'.world.store.offlineScans.rows,
        y.id = x.id ∧ offlineIdentity y = offlineIdentity x := by
  rw [← System.restrict_true (scanService rt (anyScans rt)).system] at hr
  have hlater : Store.Later cfg.world.store cfg'.world.store := by
    refine (scanService rt (anyScans rt)).store_inv_of_reach (I := Store.Later cfg.world.store)
      ?_ ?_ ?_ (.refl _) hr
    · exact fun _ _ _ _ hi ho => hi.trans (effect_of_outcome ho).later
    · exact fun _ _ hi he => hi.trans he.later
    · exact fun _ _ _ hi hs => hs.2 ▸ hi
  refine ⟨fun m => hlater.mem_movements, fun m hm a ha hma => ?_, fun x hx => ?_⟩
  · obtain ⟨b, hb, hba⟩ := hlater.rawScansKept a ha ⟨m, hm, hma⟩
    exact ⟨b, hb, hba, (hlater.rawScans.core_eq ha hb hba.symm).symm⟩
  · obtain ⟨y, hy, hyx⟩ := hlater.offlineScansKept x hx
    exact ⟨y, hy, hyx, (hlater.offlineScans.core_eq hx hy hyx.symm).symm⟩

theorem scan_history_of_late_registration : ∃ cfg : Config Resp Exn (World Resp Exn Store),
    cfg.world.store.movements.rows ≠ [] ∧
      ∀ cfg', (scanService sampleRuntime (anyScans sampleRuntime)).system.Reach cfg cfg' →
        cfg'.world.store.movements.rows ≠ [] := by
  obtain ⟨cfg, -, hone⟩ := Service.exists_reach_of_perform (fun _ _ _ => True) lateRegistration
    (Service.init sampleStore) (fun s => !s.movements.rows.isEmpty)
    lateRegistration_legal (by decide +kernel)
  have hne : cfg.world.store.movements.rows ≠ [] := by simpa using hone
  refine ⟨cfg, hne, fun cfg' hr hempty => ?_⟩
  obtain ⟨m, hm⟩ := List.exists_mem_of_ne_nil _ hne
  have hkept := (scan_history_append_only hr).1 m hm
  rw [hempty] at hkept
  cases hkept

end CreativeBackend
