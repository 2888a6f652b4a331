import CreativeBackend.Scans.OperationIds

/-!
# Whose scan is settled

A parked scan is settled on the registration of a mapping that has its credential or
its registration operation id, whichever of the two the database finds first. An
operation id is unique only for one issuer device, so the mapping may be another's.
In the runs in which everything that the lookup may find is linked to the
registration of the scan's own mapping, every scan is settled on its own person.

## Implementation notes

The mapping that counts is the one that the settling operation has read from.
-/

namespace CreativeBackend

open Relational Interaction Prog Discipline Store

/-- The mapping of a credential is linked to a registration. -/
def LinkedTo (s : Store) (eventId : Id) (offlineQrToken : String) (registrationId : Id) : Prop :=
  ∃ m ∈ s.mappings.rows, m.eventId = eventId ∧ m.offlineQrToken = offlineQrToken ∧
    m.registrationId = some registrationId

instance (s : Store) (eventId : Id) (offlineQrToken : String) (registrationId : Id) :
    Decidable (LinkedTo s eventId offlineQrToken registrationId) :=
  inferInstanceAs (Decidable (∃ m ∈ s.mappings.rows, m.eventId = eventId ∧
    m.offlineQrToken = offlineQrToken ∧ m.registrationId = some registrationId))

/-- The offline scan and the movement that a call has settled it on. -/
def settlement : (c : Call) → Except Exn (Resp c) → Option (Id × Id)
  | .offlineScanUpdate id p, .ok _ =>
      if p.status = .PROCESSED then p.movementId.map fun movementId => (id, movementId) else none
  | _, _ => none

/-- A logged call settled the scan on the movement, and its operation had read from a
store in which the scan's own mapping was linked to the registration of the movement. -/
def OwnedIn (log : List Entry) (x : OfflineScanOperation) (m : MovementLog) : Prop :=
  ∃ later e past, log = later ++ e :: past ∧ settlement e.call e.answer = some (x.id, m.id) ∧
    ∃ s ∈ (ownLog e.thread past).map (·.before),
      LinkedTo s x.eventId x.offlineQrToken m.registrationId

/-- Every scan that was settled on a movement was settled on its own person. -/
def SettledOnOwner (w : World Resp Exn Store) : Prop :=
  ∀ x ∈ w.store.offlineScans.rows, x.status = .PROCESSED → ∀ movementId,
    x.movementId = some movementId →
      ∃ m ∈ w.store.movements.rows, m.id = movementId ∧ OwnedIn w.trace x m

/-- The operation id under which a call looks for a raw scan. -/
def Call.findsRawScan : Call → Option String
  | .rawScanByOperation operationId => some operationId
  | _ => none

/-- The offline scan that a thread has just read. -/
def scanInHand : List Entry → Option OfflineScanOperation
  | ⟨_, .offlineScanById _, .ok (some x), _⟩ :: _ => some x
  | _ => none

/-- The settlement of a parked scan finds only what belongs to it: every mapping that its
lookup may find is linked to the registration of the scan's own mapping, and so is the
movement that is already stored under the scan's operation id. -/
def FindsOwner (t : Nat) (c : Call) (w : World Resp Exn Store) : Prop :=
  (∀ q ∈ c.resolves, ∀ m ∈ w.store.mappings.rows, q.holds m = true →
    ∀ registrationId ∈ m.registrationId,
      LinkedTo w.store q.eventId q.offlineQrToken registrationId) ∧
  ∀ operationId ∈ c.findsRawScan, ∀ x ∈ scanInHand (w.own t), ∀ a ∈ w.store.rawScans.rows,
    a.operationId = operationId → ∀ m ∈ w.store.movements.rows, m.scanEventRawId = a.id →
      LinkedTo w.store x.eventId x.offlineQrToken m.registrationId

instance (t : Nat) (c : Call) (w : World Resp Exn Store) : Decidable (FindsOwner t c w) :=
  inferInstanceAs (Decidable ((∀ q ∈ c.resolves, ∀ m ∈ w.store.mappings.rows, q.holds m = true →
      ∀ registrationId ∈ m.registrationId,
        LinkedTo w.store q.eventId q.offlineQrToken registrationId) ∧
    ∀ operationId ∈ c.findsRawScan, ∀ x ∈ scanInHand (w.own t), ∀ a ∈ w.store.rawScans.rows,
      a.operationId = operationId → ∀ m ∈ w.store.movements.rows, m.scanEventRawId = a.id →
        LinkedTo w.store x.eventId x.offlineQrToken m.registrationId))

namespace Settlement

open OperationIds

variable {rt : Runtime} {t : Nat} {s s' : Store} {u v w : World Resp Exn Store}

/-! ## What each call preserves -/

/-- The invariant, of one row. -/
def OwnedRow (w : World Resp Exn Store) (x : OfflineScanOperation) : Prop :=
  x.status = .PROCESSED → ∀ movementId, x.movementId = some movementId →
    ∃ m ∈ w.store.movements.rows, m.id = movementId ∧ OwnedIn w.trace x m

theorem OwnedIn.log {c : Call} {y : Except Exn (Resp c)} {x : OfflineScanOperation}
    {m : MovementLog} (h : OwnedIn w.trace x m) : OwnedIn (w.log t c y s).trace x m := by
  obtain ⟨later, e, past, htrace, hrest⟩ := h
  exact ⟨⟨t, c, y, w.store⟩ :: later, e, past, by simp [World.log, htrace], hrest⟩

theorem OwnedRow.log {c : Call} {y : Except Exn (Resp c)} {x : OfflineScanOperation}
    (h : OwnedRow w x) (hl : Later w.store s) : OwnedRow (w.log t c y s) x := by
  intro hst movementId hmid
  obtain ⟨m, hm, hid, hown⟩ := h hst movementId hmid
  exact ⟨m, hl.mem_movements hm, hid, OwnedIn.log hown⟩

theorem ownedRow_clearRawScan {id : Id} {x : OfflineScanOperation} (h : OwnedRow w x) :
    OwnedRow w (clearRawScan id x) := by
  unfold clearRawScan
  split
  · exact h
  · exact h

/-- What one call preserves that settles no offline scan. -/
theorem settledOnOwner_of_effect {c : Call} {y : Except Exn (Resp c)} (hi : SettledOnOwner w)
    (hc : QuietCall c) (heff : Effect w.store c y s) : SettledOnOwner (w.log t c y s) := by
  have hlater := heff.later
  have hold : ∀ x ∈ w.store.offlineScans.rows, OwnedRow (w.log t c y s) x :=
    fun x hx => OwnedRow.log (hi x hx) hlater
  cases heff with
  | remove hm =>
      intro x hx
      obtain ⟨z, hz, rfl | rfl⟩ := mem_detachRawScan hx
      · exact hold x hz
      · exact ownedRow_clearRawScan (hold z hz)
  | park _ hcr =>
      intro x hx
      rcases (Table.mem_create hcr).mp hx with hx | rfl
      · exact hold x hx
      · intro hst
        rw [(Table.create_eq_some hcr).1] at hst
        exact absurd hst hc
  | patch hu =>
      intro x hx
      rcases (Table.mem_update hu).mp hx with ⟨hx, -⟩ | rfl
      · exact hold x hx
      · obtain ⟨z, hz, -, hrow, -, -⟩ := Table.update_eq_done hu
        intro hst
        rw [hrow] at hst
        exact absurd hst hc.1
  | _ => exact hold

/-! ## The programs -/

def discipline (rt : Runtime) : Discipline (scanService rt (anyScans rt)) FindsOwner where
  inv := SettledOnOwner
  rely := Later
  rely_refl := Later.refl
  rely_trans := Later.trans
  call_rely _ _ h := (effect_of_outcome h).later
  env_inv {w s'} hi h := by
    intro x hx hst movementId hmid
    rw [h.offlineScans] at hx
    obtain ⟨m, hm, hrest⟩ := hi x hx hst movementId hmid
    exact ⟨m, h.movements ▸ hm, hrest⟩
  env_rely _ h := h.later
  start_inv hi h := h.2 ▸ hi
  start_rely _ h := h.2 ▸ Later.refl _

theorem preserves : Preserves (discipline rt) QuietCall :=
  fun _ hc _ _ hi _ _ _ h => settledOnOwner_of_effect hi hc h

/-- The scan is settled on a movement of its own person. -/
theorem keeps_settle {x : OfflineScanOperation} {m : MovementLog} {scanEventRawId : Id}
    {registrationId : Option Id} (hx : WasOfflineScan x w.store)
    (hm : m ∈ w.store.movements.rows)
    (hlinked : ∃ s ∈ moments t w, LinkedTo s x.eventId x.offlineQrToken m.registrationId) :
    (discipline rt).Keeps t (.offlineScanUpdate x.id
      (ScansService.settledPatch scanEventRawId m.id registrationId)) w := by
  intro w' hw' hi _ y s' h
  have heff := effect_of_outcome h
  have hlater := heff.later
  have hold : ∀ z ∈ w'.store.offlineScans.rows, OwnedRow (w'.log t _ y s') z :=
    fun z hz => OwnedRow.log (hi z hz) hlater
  cases heff with
  | read hc => cases hc
  | failed => exact hold
  | patch hu =>
      obtain ⟨z, hz, hk, hrow, -, -⟩ := Table.update_eq_done hu
      have hcore := (hx.later hw'.1).identity hz hk
      intro z' hz'
      rcases (Table.mem_update hu).mp hz' with ⟨hz', -⟩ | rfl
      · exact hold z' hz'
      · intro _ movementId hmid
        have hid : m.id = movementId := by
          simpa [hrow, applyOfflinePatch, ScansService.settledPatch] using hmid
        have hcolumns : z'.id = x.id ∧ z'.eventId = x.eventId ∧
            z'.offlineQrToken = x.offlineQrToken := by
          simp only [offlineIdentity, Prod.mk.injEq] at hcore
          rw [hrow]
          exact ⟨rfl, hcore.2.1.symm, hcore.2.2.2.2.1.symm⟩
        refine ⟨m, (hlater.mem_movements (hw'.1.mem_movements hm)), hid, [], _, w'.trace, rfl, ?_⟩
        obtain ⟨hzid, hevent, htoken⟩ := hcolumns
        rw [hzid, hevent, htoken]
        refine ⟨rfl, ?_⟩
        obtain ⟨s, hs, hlink⟩ := hlinked
        exact ⟨s, by rw [moments, ← hw'.own] at hs; exact hs, hlink⟩

/-- The registration that a parked scan was resolved to. -/
theorem linked_of_resolved {x : OfflineScanOperation} {stored : QrTokenView}
    (hr : Resolved (discipline rt) t v x stored w) :
    ∃ s ∈ moments t w, LinkedTo s x.eventId x.offlineQrToken stored.registration.id := by
  obtain ⟨mapping, registrationId, v₁, v₂, hmapping, hreg, hfound, hl⟩ := hr
  obtain ⟨w₁, ch₁, -, hp, hm₁, hlog, -⟩ := permitted_read rfl hmapping
  obtain ⟨w₂, ch₂, -, -, hm₂, -, -⟩ := permitted_read rfl hfound
  have hfirst : ch₁.first (w₁.store.mappings.rows.filter (ScansService.canonicalWhere x).holds) =
      some mapping := by
    simpa [machine, query] using hm₁
  obtain ⟨hmem, hholds⟩ := List.mem_filter.mp (Choice.first_mem hfirst)
  obtain ⟨hstored, htoken⟩ := stored_of_qrTokenFirst hm₂
  have hregistration : stored.registration.id = registrationId := by
    simp only [QrTokenWhere.holds, Bool.and_eq_true, beq_iff_eq] at htoken
    exact hstored.registrationId.trans htoken.1.1
  refine ⟨w₁.store, moments_leads (hfound.leads.trans hl) (by simp [moments, hlog]), ?_⟩
  rw [hregistration]
  exact hp.1 _ rfl mapping hmem hholds _ (truthy_eq_some_iff.mp hreg).1

/-- The movement that a parked scan is settled on, after the settling transaction. -/
def Written (x : OfflineScanOperation) (t : Nat) (m : MovementLog) (w : World Resp Exn Store) :
    Prop :=
  m ∈ w.store.movements.rows ∧
    ∃ s ∈ moments t w, LinkedTo s x.eventId x.offlineQrToken m.registrationId

theorem movement_of_createProcessed {dto : CreateScanDto} {scannedAt : Option Time} {d : Decision}
    {written : RawScanView × MovementLog}
    (h : (discipline rt).Answered t u (.createProcessed dto scannedAt d) (.ok written) w) :
    written.2 ∈ w.store.movements.rows ∧ written.2.registrationId = d.registrationId := by
  obtain ⟨w₀, s₀, -, -, -, heff, hl⟩ := answered_effect h
  cases heff with
  | read hc => cases hc
  | settle hc hm =>
      have hlater : Later _ w.store := hl.1
      refine ⟨hlater.mem_movements ((Table.mem_create hm).mpr (.inr rfl)), ?_⟩
      exact (movementRow_create hm).2.2.1

theorem movement_of_updateProcessed {scan : ScanEventRaw} {d : Decision}
    {written : RawScanView × MovementLog}
    (h : (discipline rt).Answered t u (.updateProcessed scan d) (.ok written) w) :
    written.2 ∈ w.store.movements.rows ∧ written.2.registrationId = d.registrationId := by
  obtain ⟨w₀, s₀, -, -, -, heff, hl⟩ := answered_effect h
  cases heff with
  | read hc => cases hc
  | settleRaw hu hm =>
      have hlater : Later _ w.store := hl.1
      refine ⟨hlater.mem_movements ((Table.mem_create hm).mpr (.inr rfl)), ?_⟩
      exact (movementRow_create hm).2.2.1

theorem returns_writeSettlement {x : OfflineScanOperation} {existing : Option RawScanView}
    {context : ValidQrContext} {result : MovementResult} {reason : String}
    (hr : Resolved (discipline rt) t v x context.qr w) :
    (discipline rt).Returns t (fun written w' => Written x t written.2 w')
      (ScansService.writeSettlement rt x existing (context.decide result reason)) w := by
  obtain ⟨s, hs, hlinked⟩ := linked_of_resolved hr
  cases existing with
  | none =>
      refine (returns_leads (returns_call (preserves.keeps (by trivial)))).mono
        fun written w' ⟨h, hl⟩ => ?_
      obtain ⟨hmem, hregistration⟩ := movement_of_createProcessed h
      exact ⟨hmem, s, moments_leads hl hs, by rw [hregistration]; exact hlinked⟩
  | some view =>
      refine (returns_leads (returns_call (preserves.keeps (by trivial)))).mono
        fun written w' ⟨h, hl⟩ => ?_
      obtain ⟨hmem, hregistration⟩ := movement_of_updateProcessed h
      exact ⟨hmem, s, moments_leads hl hs, by rw [hregistration]; exact hlinked⟩

/-- The movement that was already stored under the operation id of a parked scan. -/
theorem written_of_read {id : Id} {x : OfflineScanOperation} {view : RawScanView}
    {m : MovementLog} (h : ReadScan (discipline rt) t u id x (some view) w)
    (hview : view.movementLog = some m) : Written x t m w := by
  obtain ⟨v, hx, hraw⟩ := h
  obtain ⟨w₁, ch₁, -, -, -, hown₁, -⟩ := permitted_read rfl hx
  obtain ⟨w₂, ch₂, hown₂, hp, hm, hlog, hrely⟩ := permitted_read rfl hraw
  have hhand : scanInHand (w₂.own t) = some x := by
    rw [hown₂, hown₁]
    rfl
  have hlater : Later w₂.store w.store := hrely
  simp only [machine, query, Prod.mk.injEq, Except.ok.injEq, Option.map_eq_some_iff] at hm
  obtain ⟨⟨a, ha, rfl⟩, -⟩ := hm
  have hop : a.operationId = x.operationId := by simpa using List.find?_some ha
  obtain ⟨hmem, hscan⟩ := movementOf_eq_some_iff.mp hview
  refine ⟨hlater.mem_movements hmem, w₂.store, by simp [moments, hlog], ?_⟩
  exact hp.2 _ rfl x hhand a (List.mem_of_find?_eq_some ha) hop m hmem hscan

theorem safe_processOfflineScanOperation {id : Id} (hi : SettledOnOwner w) :
    (discipline rt).logic.Safe t (ScansService.processOfflineScanOperation rt id) w := by
  have hreads : Preserves (discipline rt) (·.reads = true) :=
    preserves.reads fun _ => quiet_of_formats
  have hwas : ∀ {x existing w₁}, ReadScan (discipline rt) t w id x existing w₁ →
      WasOfflineScan x w₁.store :=
    fun h => answered_offlineScanById (fun _ _ h => h) h.scan
  refine safe_processOfflineScan hreads hi (fun x existing w₁ hi₁ _ hscan => ?_)
    fun x view m w₁ _ hscan hview => ?_
  · refine safe_settleNew (F := fun _ written w' => Written x t written.2 w') hreads hi₁
      (fun context reason w₂ _ _ hr _ _ => returns_writeSettlement hr)
      (fun context written w₂ hl hw => ?_) fun _ _ => preserves.keeps (by trivial)
    exact keeps_settle ((hwas hscan).later hl.1) hw.1 hw.2
  · obtain ⟨hmem, hlinked⟩ := written_of_read hscan hview
    exact keeps_settle (hwas hscan) hmem hlinked

theorem safe_run {p : Svc Unit} (hp : ScanRun rt p) (hi : SettledOnOwner w) :
    (discipline rt).logic.Safe t p w := by
  have hsubmit : Preserves (discipline rt) (Call.Submits anyOperation) :=
    fun c hc => preserves c (quiet_of_submits hc)
  cases hp with
  | ingest dto =>
      have hcalls : (ScansService.ingest rt dto).All (Call.Online (fun _ => True) anyOperation) :=
        ScansService.ingest_online rt trivial
      exact preserves.safe (all_void (hcalls.mono fun _ => quiet_of_online))
  | ingestFast dto =>
      have hcalls : (ScansService.ingestFast rt dto).All (Call.Prepares anyOperation) :=
        ScansService.ingestFast_prepares rt trivial
      exact preserves.safe (all_void (hcalls.mono fun _ => quiet_of_prepares))
  | processRawScan id =>
      have hcalls : (ScansService.processRawScan rt id).All
          (Call.Online (fun _ => True) anyOperation) :=
        ScansService.processRawScan_online rt id fun _ => trivial
      exact preserves.safe (all_void (hcalls.mono fun _ => quiet_of_online))
  | ingestOfflineScan mappingFirst input =>
      exact safe_void hi (safe_ingestOfflineScan hsubmit
        (fun _ _ => safe_processOfflineScanOperation) mappingFirst trivial hi)
  | reconcileOfflineRegistration input =>
      exact safe_void hi (safe_reconcileOfflineRegistration hsubmit
        (fun _ _ => safe_processOfflineScanOperation) input hi)

end Settlement

open Settlement

/-- In the runs in which a settlement finds only what belongs to its scan, every scan is
settled on the registration of its own mapping. -/
theorem settled_on_owner_of_reach {rt : Runtime} {s : Store} (hs : EmptyScans s)
    {cfg : Config Resp Exn (World Resp Exn Store)}
    (hr : ((scanService rt (anyScans rt)).system.restrict FindsOwner).Reach (Service.init s) cfg) :
    SettledOnOwner cfg.world := by
  refine inv_of_reach (D := discipline rt) (fun t w p s' _ hi h => ?_) ?_ hr
  · obtain ⟨hp, rfl⟩ := h
    exact safe_run hp hi
  · intro x hx
    simp [hs.2.2] at hx

theorem settled_on_owner_of_late_registration :
    ∃ cfg : Config Resp Exn (World Resp Exn Store),
      (∃ x ∈ cfg.world.store.offlineScans.rows, x.status = .PROCESSED ∧ x.movementId.isSome) ∧
        SettledOnOwner cfg.world := by
  obtain ⟨cfg, hr, hone⟩ := Service.exists_reach_of_perform FindsOwner lateRegistration
    (Service.init sampleStore)
    (fun s => s.offlineScans.rows.any fun x => x.status = .PROCESSED ∧ x.movementId.isSome)
    lateRegistration_legal (by decide +kernel)
  refine ⟨cfg, ?_, settled_on_owner_of_reach ⟨rfl, rfl, rfl⟩ hr⟩
  simpa using hone

namespace Settlement

/-- The card of one device is not registered yet. Another device has used the same
registration operation id. -/
def unlinkedMapping : OfflineRegistrationMapping :=
  { sampleMapping "O2.card" "reg-1" with
    registrationId := none
    canonicalQrTokenId := none
    status := .PENDING }

def otherMapping : OfflineRegistrationMapping :=
  { sampleMapping "O2.other" "reg-1" with issuerDeviceId := "c1" }

def unlinkedStore : Store := { sampleStore with mappings := .ofData [unlinkedMapping] }

/-- A card is scanned, and the registration of another device arrives. -/
def borrowedOperationId : List (scanService sampleRuntime (anyScans sampleRuntime)).Action :=
  [launch (ScansService.ingestOfflineScan sampleRuntime false (sampleOfflineScan "op-1")).void] ++
    steps 0 8 ++
    [.change (fun _ => true)
        fun s => { s with mappings := .ofData [unlinkedMapping, otherMapping] },
      launch (ScansService.reconcileOfflineRegistration sampleRuntime
        (sampleReconcile "O2.other" "reg-1")).void] ++ steps 1 13

theorem borrowedOperationId_legal : Service.Legal borrowedOperationId := by
  have hchange : Service.Action.Legal (v := scanService sampleRuntime (anyScans sampleRuntime))
      (.change (fun _ => true)
        fun s => { s with mappings := .ofData [unlinkedMapping, otherMapping] }) :=
    fun _ _ => ⟨rfl, rfl, rfl⟩
  simp [borrowedOperationId, launch_legal, hchange, ScanRun.ingestOfflineScan,
    ScanRun.reconcileOfflineRegistration]

end Settlement

/-- The scan of a card without a registration is settled on the registration of
another device. -/
theorem settled_on_another :
    ¬ ∀ (rt : Runtime) (s : Store) (cfg : Config Resp Exn (World Resp Exn Store)), EmptyScans s →
      (scanService rt (anyScans rt)).system.Reach (Service.init s) cfg →
        SettledOnOwner cfg.world := by
  intro h
  obtain ⟨cfg, hr, hbad⟩ := Service.exists_world_of_perform (fun _ _ _ => True) borrowedOperationId
    (Service.init unlinkedStore)
    (fun w => (w.store.offlineScans.rows.any fun x =>
        x.status = .PROCESSED ∧ x.movementId.isSome ∧ x.offlineQrToken = "O2.card") &&
      w.trace.all fun e => e.before.mappings.rows.all fun m =>
        m.offlineQrToken = "O2.card" → m.registrationId = none)
    borrowedOperationId_legal (by decide +kernel)
  rw [System.restrict_true] at hr
  simp only [Bool.and_eq_true, List.any_eq_true, List.all_eq_true, decide_eq_true_eq] at hbad
  obtain ⟨⟨x, hx, hst, hsome, htoken⟩, hunlinked⟩ := hbad
  obtain ⟨movementId, hmid⟩ := Option.isSome_iff_exists.mp hsome
  obtain ⟨m, -, -, later, e, past, htrace, -, s, hs, mapping, hmem, -, hkey, hlinked⟩ :=
    h sampleRuntime unlinkedStore cfg ⟨rfl, rfl, rfl⟩ hr x hx hst movementId hmid
  obtain ⟨e', he', rfl⟩ := List.mem_map.mp hs
  have hlogged : e' ∈ cfg.world.trace := by
    rw [htrace]
    exact List.mem_append_right _ (List.mem_cons_of_mem _ (List.mem_filter.mp he').1)
  rw [hunlinked e' hlogged mapping hmem (hkey.trans htoken)] at hlinked
  cases hlinked

end CreativeBackend
