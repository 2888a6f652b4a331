import CreativeBackend.Scans.Decisions

/-!
# One entry for one registration

`getReentryDenial` looks for an earlier entry outside the transaction that writes
the next one. Two operations that both look before either of them writes admit the
same registration twice. In the runs in which no entry of the registration was
committed since the operation looked for one, an event without re-entry admits
each registration once, whichever operations run.

## Implementation notes

Distinct scans have distinct operation ids: `label` names the event and the kind
of movement that is scanned under each operation id.
-/

namespace CreativeBackend

open Relational Interaction Prog Discipline Store

/-- An event that does not allow re-entry. -/
def ClosedToReEntry (eventId : Id) (s : Store) : Prop :=
  ∀ e ∈ s.events.rows, e.id = eventId → e.allowReEntry = false

/-- No admitted entry of a registration. -/
def NoEntry (eventId registrationId : Id) (s : Store) : Prop :=
  ∀ m ∈ s.movements.rows, isEntry eventId registrationId m = false

/-- Every registration was admitted once at most. -/
def SingleEntries (eventId : Id) (s : Store) : Prop :=
  ∀ registrationId, ∀ m ∈ s.movements.rows, ∀ m' ∈ s.movements.rows,
    isEntry eventId registrationId m = true → isEntry eventId registrationId m' = true → m = m'

/-- The scan operations on labelled operation ids. -/
inductive LabelledRun (rt : Runtime) (label : String → Id × MovementType) : Svc Unit → Prop
  | ingest (dto : CreateScanDto) (h : label dto.operationId = (dto.eventId, dto.type)) :
      LabelledRun rt label (ScansService.ingest rt dto).void
  | ingestFast (dto : CreateScanDto) (h : label dto.operationId = (dto.eventId, dto.type)) :
      LabelledRun rt label (ScansService.ingestFast rt dto).void
  | processRawScan (scanEventRawId : Id) :
      LabelledRun rt label (ScansService.processRawScan rt scanEventRawId).void
  | ingestOfflineScan (mappingFirst : Bool) (input : OfflineScanInput)
      (h : label input.operationId = (input.eventId, input.movementType)) :
      LabelledRun rt label (ScansService.ingestOfflineScan rt mappingFirst input).void
  | reconcileOfflineRegistration (input : ReconcileInput) :
      LabelledRun rt label (ScansService.reconcileOfflineRegistration rt input).void

/-- Any labelled operation may start at any time; others leave the scan tables alone
and do not open the event to re-entry. -/
def labelledScans (rt : Runtime) (label : String → Id × MovementType) (eventId : Id) :
    Surroundings where
  env s s' := SameScans s s' ∧ ClosedToReEntry eventId s'
  starts s p s' := LabelledRun rt label p ∧ s' = s

/-- The registration that a transaction admits to an event. -/
def Call.admits (eventId : Id) : Call → Option Id
  | .createProcessed dto _ d =>
      if dto.eventId = eventId ∧ dto.type = .ENTRY ∧ d.result = .ALLOWED then some d.registrationId
      else none
  | .updateProcessed scan d =>
      if scan.eventId = eventId ∧ scan.type = .ENTRY ∧ d.result = .ALLOWED then
        some d.registrationId
      else none
  | _ => none

/-- The event and the registration whose entry a call looks for. -/
def Call.looksFor : Call → Option (Id × Id)
  | .entryMovement eventId registrationId => some (eventId, registrationId)
  | _ => none

/-- A transaction that admits a registration comes before any other entry that was
committed since its thread found none. -/
def EntryReadIsCurrent (eventId : Id) (t : Nat) (c : Call) (w : World Resp Exn Store) : Prop :=
  ∀ registrationId ∈ c.admits eventId, ∀ e ∈ w.trace, e.thread = t →
    e.call.looksFor = some (eventId, registrationId) →
      NoEntry eventId registrationId e.before → NoEntry eventId registrationId w.store

instance (eventId registrationId : Id) (s : Store) :
    Decidable (NoEntry eventId registrationId s) :=
  inferInstanceAs (Decidable (∀ m ∈ s.movements.rows, isEntry eventId registrationId m = false))

instance (eventId : Id) (t : Nat) (c : Call) (w : World Resp Exn Store) :
    Decidable (EntryReadIsCurrent eventId t c w) :=
  inferInstanceAs (Decidable (∀ registrationId ∈ c.admits eventId, ∀ e ∈ w.trace, e.thread = t →
    e.call.looksFor = some (eventId, registrationId) →
      NoEntry eventId registrationId e.before → NoEntry eventId registrationId w.store))

namespace ReEntry

/-- The invariant: the event stays closed, the rows carry their labels, and no
registration was admitted twice. -/
structure OneEntry (label : String → Id × MovementType) (eventId : Id) (s : Store) : Prop where
  closed : ClosedToReEntry eventId s
  rawScans : ∀ a ∈ s.rawScans.rows, label a.operationId = (a.eventId, a.type)
  offlineScans : ∀ x ∈ s.offlineScans.rows, label x.operationId = (x.eventId, x.movementType)
  single : SingleEntries eventId s

variable {label : String → Id × MovementType} {eventId : Id} {s s' : Store}

/-! ## What each statement preserves -/

theorem rawScans_create {t : Table ScanEventRaw} {now at_ : Time} {dto : CreateScanDto}
    {v : RawScanVerdict} {row : ScanEventRaw} {rows : Table ScanEventRaw}
    (hc : rows.create (rawScanRow now dto at_ v) = some (row, t))
    (h : ∀ a ∈ rows.rows, label a.operationId = (a.eventId, a.type))
    (hd : label dto.operationId = (dto.eventId, dto.type)) :
    ∀ a ∈ t.rows, label a.operationId = (a.eventId, a.type) := by
  intro a ha
  rcases (Table.mem_create hc).mp ha with ha | rfl
  · exact h a ha
  · rw [(Table.create_eq_some hc).1]
    exact hd

theorem rawScans_update {t : Table ScanEventRaw} {id : Id} {now : Time} {v : RawScanVerdict}
    {row : ScanEventRaw} {rows : Table ScanEventRaw}
    (hu : rows.update id (applyVerdict now v) = .done row t)
    (h : ∀ a ∈ rows.rows, label a.operationId = (a.eventId, a.type)) :
    ∀ a ∈ t.rows, label a.operationId = (a.eventId, a.type) := by
  obtain ⟨a₀, ha₀, -, hrow, -, -⟩ := Table.update_eq_done hu
  intro a ha
  rcases (Table.mem_update hu).mp ha with ⟨ha, -⟩ | rfl
  · exact h a ha
  · rw [hrow]
    exact h a₀ ha₀

/-- A movement is added whose registration had no entry, if it is an entry. -/
theorem SingleEntries.create {data m : MovementLog} {t : Table MovementLog}
    (hm : s.movements.create data = some (m, t)) (h : SingleEntries eventId s)
    (hnew : ∀ registrationId, isEntry eventId registrationId m = true →
      NoEntry eventId registrationId s)
    (ht : s'.movements = t) : SingleEntries eventId s' := by
  subst ht
  intro registrationId a ha b hb hea heb
  have hno : ∀ m' ∈ s.movements.rows, isEntry eventId registrationId m = true →
      isEntry eventId registrationId m' ≠ true := by
    intro m' hm' hem he
    rw [hnew registrationId hem m' hm'] at he
    cases he
  rcases (Table.mem_create hm).mp ha with ha | rfl <;>
    rcases (Table.mem_create hm).mp hb with hb | rfl
  · exact h registrationId a ha b hb hea heb
  · exact absurd hea (hno a ha heb)
  · exact absurd heb (hno b hb hea)
  · rfl

/-! ## What each call preserves -/

/-- The calls that settle nothing and create labelled rows. -/
def Labelled (label : String → Id × MovementType) : Call → Prop
  | .rawScanCreate dto _ _ => label dto.operationId = (dto.eventId, dto.type)
  | .offlineScanCreate d => label d.operationId = (d.eventId, d.movementType)
  | .createProcessed _ _ _ => False
  | .updateProcessed _ _ => False
  | _ => True

theorem oneEntry_of_effect {c : Call} {x : Except Exn (Resp c)} (h : OneEntry label eventId s)
    (hc : Labelled label c) (heff : Effect s c x s') : OneEntry label eventId s' := by
  cases heff with
  | create hcr => exact { h with rawScans := rawScans_create hcr h.rawScans hc }
  | update hu => exact { h with rawScans := rawScans_update hu h.rawScans }
  | remove =>
      refine { h with
        rawScans := fun a ha => h.rawScans a (Table.mem_delete.mp ha).1
        offlineScans := fun x hx => ?_ }
      obtain ⟨y, hy, rfl | rfl⟩ := mem_detachRawScan hx
      · exact h.offlineScans x hy
      · have hlabel := h.offlineScans y hy
        simp only [clearRawScan]
        split <;> exact hlabel
  | park _ hcr =>
      refine { h with offlineScans := fun x hx => ?_ }
      rcases (Table.mem_create hcr).mp hx with hx | rfl
      · exact h.offlineScans x hx
      · rw [(Table.create_eq_some hcr).1]
        exact hc
  | patch hu =>
      obtain ⟨y, hy, -, hrow, -, -⟩ := Table.update_eq_done hu
      refine { h with offlineScans := fun x hx => ?_ }
      rcases (Table.mem_update hu).mp hx with ⟨hx, -⟩ | rfl
      · exact h.offlineScans x hx
      · rw [hrow]
        exact h.offlineScans y hy
  | settle => exact hc.elim
  | settleRaw => exact hc.elim
  | _ => exact { h with }

/-- The rows of a labelled operation. -/
abbrev labelOf (label : String → Id × MovementType) (operationId : String) (eventId : Id)
    (type : MovementType) : Prop :=
  label operationId = (eventId, type)

theorem labelled_of_formats {c : Call} (h : c.formats = true) : Labelled label c := by
  cases c <;> trivial

theorem labelled_of_prepares {c : Call} (h : c.Prepares (labelOf label)) : Labelled label c := by
  cases h with
  | format h => exact labelled_of_formats h
  | park _ _ ho => exact ho
  | accept _ _ ho => exact ho
  | refuse _ _ _ _ _ _ ho => exact ho
  | _ => trivial

theorem labelled_of_submits {c : Call} (h : c.Submits (labelOf label)) : Labelled label c := by
  cases h with
  | format h => exact labelled_of_formats h
  | park _ _ ho => exact ho
  | _ => trivial

/-! ## The programs -/

def discipline (rt : Runtime) (label : String → Id × MovementType) (eventId : Id) :
    Discipline (scanService rt (labelledScans rt label eventId)) (EntryReadIsCurrent eventId) where
  inv w := OneEntry label eventId w.store
  rely := Later
  rely_refl := Later.refl
  rely_trans := Later.trans
  call_rely _ _ h := (effect_of_outcome h).later
  env_inv hi h :=
    { closed := h.2
      rawScans := h.1.rawScans ▸ hi.rawScans
      offlineScans := h.1.offlineScans ▸ hi.offlineScans
      single := fun k m hm m' hm' => hi.single k m (h.1.movements ▸ hm) m' (h.1.movements ▸ hm') }
  env_rely _ h := h.1.later
  start_inv hi h := h.2 ▸ hi
  start_rely _ h := h.2 ▸ Later.refl _

variable {rt : Runtime} {t : Nat} {u w : World Resp Exn Store}

theorem preserves : Preserves (discipline rt label eventId) (Labelled label) :=
  fun _ hc _ _ hi _ _ _ h => oneEntry_of_effect hi hc h

/-- An admission was decided after the thread had looked for an entry and found none. -/
theorem looked_of_decided {checkpointId : Option Id} {stored : QrTokenView} {reason : String}
    (hd : Decided (discipline rt label eventId) t u eventId checkpointId .ENTRY stored reason w)
    (hreason : reason = "ALLOWED") :
    ∃ e ∈ w.trace, e.thread = t ∧
      e.call.looksFor = some (eventId, stored.registration.id) ∧
        NoEntry eventId stored.registration.id e.before := by
  obtain ⟨event, hevent, hentry⟩ := hd.event
  obtain ⟨w₀, ch, -, hi, hm, -⟩ := answered_read rfl hevent
  have hfind : w₀.store.events.find? eventId = some event := by
    simpa [machine, query] using hm
  obtain ⟨hmem, hid⟩ := Table.find?_eq_some_iff.mp hfind
  have hid : event.id = eventId := hid
  rcases hentry hreason with hopen | htype | hread
  · rw [hi.closed event hmem hid] at hopen
    cases hopen
  · exact absurd rfl htype
  · obtain ⟨s₀, ch, hlog, -, hm⟩ := logged_read rfl hread
    have hnone : ch.first (s₀.movements.rows.filter
        (isEntry event.id stored.registration.id)) = none := by
      simpa [machine, query] using congrArg Prod.fst hm
    rw [Choice.first_eq_none, List.filter_eq_nil_iff, hid] at hnone
    refine ⟨_, hlog, rfl, by rw [hid]; rfl, fun m hm => ?_⟩
    simpa using hnone m hm

/-- A transaction keeps the invariant where its admission was decided. -/
theorem noEntry_of_decided {ev : Id} {checkpointId : Option Id} {type : MovementType}
    {context : ValidQrContext} {reason : String} {c : Call} {m : MovementLog}
    (hd : Decided (discipline rt label eventId) t u ev checkpointId type context.qr reason w)
    (hp : EntryReadIsCurrent eventId t c w)
    (hallow : ev = eventId → type = .ENTRY → reason = "ALLOWED" →
      c.admits eventId = some context.qr.registration.id)
    (hm : m.eventId = ev ∧ m.type = type ∧ m.registrationId = context.qr.registration.id ∧
      m.result = ScansService.decisionResult reason) :
    ∀ registrationId, isEntry eventId registrationId m = true →
      NoEntry eventId registrationId w.store := by
  intro registrationId hentry
  obtain ⟨hev, hty, hreg, hres⟩ := hm
  simp only [isEntry, Bool.and_eq_true, beq_iff_eq] at hentry
  obtain ⟨⟨⟨h₁, h₂⟩, h₃⟩, h₄⟩ := hentry
  have hevent : ev = eventId := hev.symm.trans h₁
  have htype : type = .ENTRY := hty.symm.trans h₃
  have hregistration : context.qr.registration.id = registrationId := hreg.symm.trans h₂
  have hreason : reason = "ALLOWED" := reason_of_allowed (hres.symm.trans h₄)
  subst hevent htype hregistration
  obtain ⟨e, he, hthread, hcall, hno⟩ := looked_of_decided hd hreason
  exact hp _ (hallow rfl rfl hreason) e he hthread hcall hno

theorem keeps_createProcessed {dto : CreateScanDto} {scannedAt : Option Time}
    {context : ValidQrContext} {reason : String}
    (ho : label dto.operationId = (dto.eventId, dto.type))
    (hd : Decided (discipline rt label eventId) t u dto.eventId dto.checkpointId dto.type
      context.qr reason w) :
    (discipline rt label eventId).Keeps t (.createProcessed dto scannedAt
      (context.decide (ScansService.decisionResult reason) reason)) w := by
  intro w' hw' hi hp x s' h
  have hi : OneEntry label eventId w'.store := hi
  cases effect_of_outcome h with
  | read hc => cases hc
  | failed => exact hi
  | settle hc hm =>
      have hrow := (Table.create_eq_some hc).1
      have hcols := movementRow_create hm
      have hnew := noEntry_of_decided (hd.stable (Since.leads hw')) hp
        (fun hev hty hreason => by
          simp [Call.admits, hev, hty, hreason, ValidQrContext.decide, ScansService.decisionResult])
        (by rw [hrow] at hcols; exact hcols)
      exact { closed := hi.closed
              rawScans := rawScans_create hc hi.rawScans ho
              offlineScans := hi.offlineScans
              single := SingleEntries.create hm hi.single hnew rfl }

theorem keeps_updateProcessed {scan : ScanEventRaw} {checkpointId : Option Id}
    {context : ValidQrContext} {reason : String}
    (hd : Decided (discipline rt label eventId) t u scan.eventId checkpointId scan.type context.qr
      reason w) :
    (discipline rt label eventId).Keeps t (.updateProcessed scan
      (context.decide (ScansService.decisionResult reason) reason)) w := by
  intro w' hw' hi hp x s' h
  have hi : OneEntry label eventId w'.store := hi
  cases effect_of_outcome h with
  | read hc => cases hc
  | failed => exact hi
  | settleRaw hu hm =>
      have hcols := movementRow_create hm
      have hnew := noEntry_of_decided (hd.stable (Since.leads hw')) hp
        (fun hev hty hreason => by
          simp [Call.admits, hev, hty, hreason, ValidQrContext.decide, ScansService.decisionResult])
        hcols
      exact { closed := hi.closed
              rawScans := rawScans_update hu hi.rawScans
              offlineScans := hi.offlineScans
              single := SingleEntries.create hm hi.single hnew rfl }

/-- A raw scan that was read carries its label. -/
theorem label_of_rawScan {id : Id} {scan : ScanEventRaw}
    (h : (discipline rt label eventId).Answered t u (.rawScanById id) (.ok (some scan)) w) :
    label scan.operationId = (scan.eventId, scan.type) := by
  obtain ⟨w₀, ch, -, hi, hm, -⟩ := answered_read rfl h
  have hfind : w₀.store.rawScans.find? id = some scan := by simpa [machine, query] using hm
  exact hi.rawScans scan (Table.find?_eq_some_iff.mp hfind).1

/-- An offline scan that was read carries its label. -/
theorem label_of_offlineScan {id : Id} {x : OfflineScanOperation}
    (h : (discipline rt label eventId).Answered t u (.offlineScanById id) (.ok (some x)) w) :
    label x.operationId = (x.eventId, x.movementType) := by
  obtain ⟨w₀, ch, -, hi, hm, -⟩ := answered_read rfl h
  have hfind : w₀.store.offlineScans.find? id = some x := by simpa [machine, query] using hm
  exact hi.offlineScans x (Table.find?_eq_some_iff.mp hfind).1

/-- The raw scan of an operation is of the same event and kind as its offline scan. -/
theorem scan_of_operation {operationId : String} {view : RawScanView}
    (h : (discipline rt label eventId).Answered t u (.rawScanByOperation operationId)
      (.ok (some view)) w) :
    label operationId = (view.scan.eventId, view.scan.type) := by
  obtain ⟨w₀, ch, -, hi, hm, -⟩ := answered_read rfl h
  simp only [machine, query, Prod.mk.injEq, Except.ok.injEq, Option.map_eq_some_iff] at hm
  obtain ⟨⟨a, ha, rfl⟩, -⟩ := hm
  have hop : a.operationId = operationId := by simpa using List.find?_some ha
  have hlabel := hi.rawScans a (List.mem_of_find?_eq_some ha)
  rw [hop] at hlabel
  exact hlabel

theorem safe_processOfflineScanOperation {id : Id} (hi : OneEntry label eventId w.store) :
    (discipline rt label eventId).logic.Safe t
      (ScansService.processOfflineScanOperation rt id) w := by
  have hread : Preserves (discipline rt label eventId) (·.reads = true) :=
    preserves.reads fun _ => labelled_of_formats
  refine safe_processOfflineScan hread hi (fun x existing w₁ hi₁ _ hscan => ?_)
    fun x view m w₁ _ _ _ => preserves.keeps (by trivial)
  have hlabel := label_of_offlineScan hscan.scan
  refine safe_settleNew (F := fun _ _ _ => True) hread hi₁
    (fun context reason w₂ _ _ _ _ hd => ?_) (fun _ _ _ _ _ => preserves.keeps (by trivial))
    fun _ _ => preserves.keeps (by trivial)
  cases existing with
  | none => exact (returns_call (keeps_createProcessed hlabel hd.decided)).mono fun _ _ _ => trivial
  | some view =>
      have hsame := scan_of_operation hscan.raw
      rw [hlabel, Prod.mk.injEq] at hsame
      rw [hsame.1, hsame.2] at hd
      exact (returns_call (keeps_updateProcessed hd.decided)).mono fun _ _ _ => trivial

theorem safe_run {p : Svc Unit} (hp : LabelledRun rt label p)
    (hi : OneEntry label eventId w.store) :
    (discipline rt label eventId).logic.Safe t p w := by
  have hprep : Preserves (discipline rt label eventId) (Call.Prepares (labelOf label)) :=
    fun c hc => preserves c (labelled_of_prepares hc)
  have hsubmit : Preserves (discipline rt label eventId) (Call.Submits (labelOf label)) :=
    fun c hc => preserves c (labelled_of_submits hc)
  cases hp with
  | ingest dto h =>
      refine safe_void hi (safe_ingest hprep hi fun w' hi' _ => ?_)
      exact safe_ingestNew hprep h hi' fun _ _ _ _ _ hd => keeps_createProcessed h hd.decided
  | ingestFast dto h =>
      exact hprep.safe (all_void (ScansService.ingestFast_prepares rt h))
  | processRawScan id =>
      refine safe_void hi (safe_processRawScan hprep hi fun scan w' hi' hread _ => ?_)
      exact safe_processPending hprep (label_of_rawScan hread) hi'
        fun _ _ _ _ _ _ hd => keeps_updateProcessed hd.decided
  | ingestOfflineScan mappingFirst input h =>
      exact safe_void hi (safe_ingestOfflineScan hsubmit
        (fun _ _ => safe_processOfflineScanOperation) mappingFirst h hi)
  | reconcileOfflineRegistration input =>
      exact safe_void hi (safe_reconcileOfflineRegistration hsubmit
        (fun _ _ => safe_processOfflineScanOperation) input hi)

end ReEntry

open ReEntry

/-- In the runs in which no entry overtakes an operation between its look at the
entries and its transaction, every registration is admitted once at most. -/
theorem single_entries_of_current_reads {rt : Runtime} {label : String → Id × MovementType}
    {eventId : Id} {s : Store} (hs : EmptyScans s) (hc : ClosedToReEntry eventId s)
    {cfg : Config Resp Exn (World Resp Exn Store)}
    (hr : ((scanService rt (labelledScans rt label eventId)).system.restrict
      (EntryReadIsCurrent eventId)).Reach (Service.init s) cfg) :
    SingleEntries eventId cfg.world.store := by
  have hone := inv_of_reach (D := discipline rt label eventId) (fun t w p s' _ hi h => ?_) ?_ hr
  · exact hone.single
  · obtain ⟨hp, rfl⟩ := h
    exact safe_run hp hi
  · obtain ⟨ha, hm, hx⟩ := hs
    exact ⟨hc, fun a h => by simp [ha] at h, fun a h => by simp [hx] at h,
      fun k a h => by simp [hm] at h⟩

namespace ReEntry

/-- Every operation id is an entry scan of the sample event. -/
abbrev entryLabel : String → Id × MovementType := fun _ => ("c0", .ENTRY)

theorem launch_ingest_legal {operationId : String} :
    (launch (ScansService.ingest sampleRuntime (sampleDto operationId)).void :
      (scanService sampleRuntime (labelledScans sampleRuntime entryLabel "c0")).Action).Legal :=
  fun _ _ => ⟨.ingest _ rfl, rfl⟩

theorem sampleStore_closed : ClosedToReEntry "c0" sampleStore := by
  unfold ClosedToReEntry
  decide +kernel

/-- Two gates scan the same code: both look for an entry, then both commit. -/
def racingGates :
    List (scanService sampleRuntime (labelledScans sampleRuntime entryLabel "c0")).Action :=
  [launch (ScansService.ingest sampleRuntime (sampleDto "op-1")).void,
    launch (ScansService.ingest sampleRuntime (sampleDto "op-2")).void] ++
    steps 0 7 ++ steps 1 7 ++ steps 0 1 ++ steps 1 1

/-- Two gates scan the same code one after the other. -/
def orderlyGates :
    List (scanService sampleRuntime (labelledScans sampleRuntime entryLabel "c0")).Action :=
  [launch (ScansService.ingest sampleRuntime (sampleDto "op-1")).void,
    launch (ScansService.ingest sampleRuntime (sampleDto "op-2")).void] ++
    steps 0 8 ++ steps 1 8

theorem racingGates_legal : Service.Legal racingGates := by
  simp [racingGates, launch_ingest_legal]

theorem orderlyGates_legal : Service.Legal orderlyGates := by
  simp [orderlyGates, launch_ingest_legal]

end ReEntry

theorem single_entry_of_orderly_gates :
    ∃ cfg : Config Resp Exn (World Resp Exn Store),
      cfg.world.store.movements.rows.length = 2 ∧ SingleEntries "c0" cfg.world.store := by
  obtain ⟨cfg, hr, htwo⟩ := Service.exists_reach_of_perform (EntryReadIsCurrent "c0") orderlyGates
    (Service.init sampleStore) (fun s => s.movements.rows.length = 2) orderlyGates_legal
    (by decide +kernel)
  exact ⟨cfg, by simpa using htwo, single_entries_of_current_reads ⟨rfl, rfl, rfl⟩ sampleStore_closed hr⟩

/-- The second gate commits an entry although the first one did since it looked. -/
theorem entries_may_repeat :
    ¬ ∀ (rt : Runtime) (label : String → Id × MovementType) (eventId : Id) (s : Store)
        (cfg : Config Resp Exn (World Resp Exn Store)), EmptyScans s → ClosedToReEntry eventId s →
        (scanService rt (labelledScans rt label eventId)).system.Reach (Service.init s) cfg →
          SingleEntries eventId cfg.world.store := by
  intro h
  obtain ⟨cfg, hr, htwo⟩ := Service.exists_reach_of_perform (fun _ _ _ => True) racingGates
    (Service.init sampleStore)
    (fun s => s.movements.rows.length = 2 ∧ s.movements.rows.all (isEntry "c0" "c0"))
    racingGates_legal (by decide +kernel)
  rw [System.restrict_true] at hr
  have hsingle := h sampleRuntime entryLabel "c0" sampleStore cfg ⟨rfl, rfl, rfl⟩ sampleStore_closed hr "c0"
  simp only [decide_eq_true_eq, List.all_eq_true] at htwo
  obtain ⟨hlength, hentries⟩ := htwo
  obtain ⟨a, b, hrows⟩ := List.length_eq_two.mp hlength
  have hnodup := cfg.world.store.movements.nodup
  rw [hrows] at hnodup hsingle hentries
  have hab : a = b := hsingle a (by simp) b (by simp) (hentries a (by simp)) (hentries b (by simp))
  simp [hab] at hnodup

end CreativeBackend
