import CreativeBackend.Scans.Service
import CreativeBackend.Sync.SyncService

/-!
# What a sync call does to the sync tables

One lemma for each statement on batches and operations, and what holds between an
earlier and a later store: rows stay, they keep the identity they were created with,
and a batch gets no operations after its creation.
-/

namespace CreativeBackend

open Relational Interaction

namespace SyncStore

variable {s s' : SyncStore}

/-! ## One lemma for each statement -/

theorem createBatch_cases {ch : Choice} {dto : SubmitSyncBatchDto}
    {operations : List SubmitSyncOperationDto} {n : Nat} {r : Except Exn SyncBatchView}
    (h : s.createBatch ch dto operations n = (r, s')) :
    (∃ e, r = .error e ∧ s' = s) ∨
      ∃ row batches t, s.batches.create (batchRow s.base.clock dto n) = some (row, batches) ∧
        createOperations s.base.clock row.id operations s.operations = some t ∧
        r = .ok (s'.view ch row) ∧ s'.base = s.base ∧ s'.batches = batches ∧
          s'.operations = t := by
  unfold createBatch at h
  split at h
  · split at h
    · cases h
      exact .inl ⟨_, rfl, rfl⟩
    · next row batches hb =>
        split at h
        · cases h
          exact .inl ⟨_, rfl, rfl⟩
        · next t ho =>
            cases h
            exact .inr ⟨row, batches, t, hb, ho, rfl, rfl, rfl, rfl⟩
  · cases h
    exact .inl ⟨_, rfl, rfl⟩

theorem updateBatch_cases {ch : Choice} {id : Id} {f : SyncBatch → SyncBatch}
    {r : Except Exn SyncBatchView} (h : s.updateBatch ch id f = (r, s')) :
    (∃ e, r = .error e ∧ s' = s) ∨
      ∃ row t, s.batches.update id f = .done row t ∧ r = .ok (s'.view ch row) ∧
        s'.base = s.base ∧ s'.batches = t ∧ s'.operations = s.operations := by
  unfold updateBatch at h
  split at h
  · cases h
    exact .inl ⟨_, rfl, rfl⟩
  · cases h
    exact .inl ⟨_, rfl, rfl⟩
  · next row t hu =>
      cases h
      exact .inr ⟨row, t, hu, rfl, rfl, rfl, rfl⟩

theorem claimOperation_cases {id : Id} {r : Except Exn Nat} (h : s.claimOperation id = (r, s')) :
    ((∃ e, r = .error e) ∨ r = .ok 0) ∧ s' = s ∨
      ∃ x row t, x ∈ s.operations.rows ∧ x.id = id ∧ x.status = .FAILED ∧
        s.operations.update id claimedRow = .done row t ∧ r = .ok 1 ∧ s'.base = s.base ∧
          s'.batches = s.batches ∧ s'.operations = t := by
  unfold claimOperation at h
  split at h
  · cases h
    exact .inl ⟨.inr rfl, rfl⟩
  · next x hx =>
      obtain ⟨hmem, hid⟩ := Table.find?_eq_some_iff.mp hx
      split at h
      · next hstatus =>
          split at h
          · cases h
            exact .inl ⟨.inr rfl, rfl⟩
          · cases h
            exact .inl ⟨.inl ⟨_, rfl⟩, rfl⟩
          · next row t hu =>
              cases h
              exact .inr ⟨x, row, t, hmem, hid, hstatus, hu, rfl, rfl, rfl, rfl⟩
      · cases h
        exact .inl ⟨.inr rfl, rfl⟩

theorem finishOperation_cases {id : Id} {p : OperationPatch} {r : Except Exn SyncOperation}
    (h : s.finishOperation id p = (r, s')) :
    (∃ e, r = .error e ∧ s' = s) ∨
      ∃ row t, s.operations.update id (fun x => applyOperationPatch s.base.clock x p) = .done row t ∧
        r = .ok row ∧ s'.base = s.base ∧ s'.batches = s.batches ∧ s'.operations = t := by
  unfold finishOperation at h
  split at h
  · cases h
    exact .inl ⟨_, rfl, rfl⟩
  · cases h
    exact .inl ⟨_, rfl, rfl⟩
  · next row t hu =>
      cases h
      exact .inr ⟨row, t, hu, rfl, rfl, rfl, rfl⟩

/-! ## The rows of a nested create -/

section Create

variable {now : Time} {syncBatchId : Id} {operations : List SubmitSyncOperationDto}
  {t t' : Table SyncOperation}

/-- An earlier row stays as it is. -/
theorem mem_createOperations (h : createOperations now syncBatchId operations t = some t')
    {x : SyncOperation} (hx : x ∈ t.rows) : x ∈ t'.rows := by
  induction operations generalizing t with
  | nil =>
      cases h
      exact hx
  | cons operation rest ih =>
      simp only [createOperations] at h
      split at h
      · cases h
      · next row t₁ hcreate => exact ih h ((Table.mem_create hcreate).mpr (.inl hx))

/-- A new row is pending, and its key was not in use. -/
theorem new_of_createOperations (h : createOperations now syncBatchId operations t = some t')
    {x : SyncOperation} (hx : x ∈ t'.rows) :
    x ∈ t.rows ∨ (∃ n, t.serial ≤ n ∧ x.id = fresh n) ∧ x.syncBatchId = syncBatchId ∧
      x.status = .PENDING := by
  induction operations generalizing t with
  | nil =>
      cases h
      exact .inl hx
  | cons operation rest ih =>
      simp only [createOperations] at h
      split at h
      · cases h
      · next row t₁ hcreate =>
          obtain ⟨hrow, -, hserial⟩ := Table.create_eq_some hcreate
          rcases ih h with h₁ | ⟨⟨n, hn, hid⟩, hbatch, hstatus⟩
          · rcases (Table.mem_create hcreate).mp h₁ with h₀ | rfl
            · exact .inl h₀
            · refine .inr ⟨⟨t.serial, Nat.le_refl _, ?_⟩, ?_, ?_⟩
              · rw [hrow]
                rfl
              · rw [hrow]
                rfl
              · rw [hrow]
                rfl
          · exact .inr ⟨⟨n, by omega, hid⟩, hbatch, hstatus⟩

/-- No two operations of a nested create have one operation id, and none of them has
the operation id of an earlier row. -/
theorem distinct_of_createOperations (h : createOperations now syncBatchId operations t = some t') :
    (operations.map (·.operationId)).Nodup ∧ ∀ operation ∈ operations, ∀ x ∈ t.rows,
      x.operationId ≠ operation.operationId := by
  induction operations generalizing t with
  | nil => exact ⟨List.nodup_nil, fun _ h => by cases h⟩
  | cons operation rest ih =>
      simp only [createOperations] at h
      split at h
      · cases h
      · next row t₁ hcreate =>
          obtain ⟨hnodup, hnew⟩ := ih h
          have hrow : row.operationId = operation.operationId := by
            rw [(Table.create_eq_some hcreate).1]
            rfl
          have hmem : row ∈ t₁.rows := (Table.mem_create hcreate).mpr (.inr rfl)
          constructor
          · refine List.nodup_cons.mpr ⟨fun hin => ?_, hnodup⟩
            obtain ⟨other, hother, heq⟩ := List.mem_map.mp hin
            exact hnew other hother row hmem (hrow.trans heq.symm)
          · intro other hother x hx heq
            rcases List.mem_cons.mp hother with rfl | hother
            · exact Table.not_clash_of_create hcreate hx (by simp [clash, heq, hrow])
            · exact hnew other hother x ((Table.mem_create hcreate).mpr (.inl hx)) heq

theorem serial_createOperations (h : createOperations now syncBatchId operations t = some t') :
    t.serial ≤ t'.serial := by
  induction operations generalizing t with
  | nil =>
      cases h
      exact Nat.le_refl _
  | cons operation rest ih =>
      simp only [createOperations] at h
      split at h
      · cases h
      · next row t₁ hcreate =>
          have hserial := (Table.create_eq_some hcreate).2.2
          exact Nat.le_trans (by omega) (ih h)

end Create

/-! ## Earlier and later stores -/

/-- The columns of an operation that no statement changes. -/
def operationIdentity (x : SyncOperation) : String × Id × SyncOperationType × Json :=
  (x.operationId, x.syncBatchId, x.type, x.input)

/-- The columns of a batch that no statement changes. -/
def batchIdentity (b : SyncBatch) : String × Id × Id × Option Id :=
  (b.batchId, b.eventId, b.deviceId, b.staffSessionId)

/-- What the statements on the sync tables leave between two stores. -/
structure Later (s s' : SyncStore) : Prop where
  operations : s.operations.Evolves operationIdentity s'.operations
  operationsKept : s.operations.Keeps s'.operations
  batches : s.batches.Evolves batchIdentity s'.batches
  batchesKept : s.batches.Keeps s'.batches
  closed : ∀ x ∈ s'.operations.rows, (∃ b ∈ s.batches.rows, b.id = x.syncBatchId) →
    ∃ y ∈ s.operations.rows, y.id = x.id

theorem Later.of_tables (ho : s'.operations = s.operations) (hb : s'.batches = s.batches) :
    Later s s' where
  operations := ho ▸ .refl _
  operationsKept := ho ▸ .refl _
  batches := hb ▸ .refl _
  batchesKept := hb ▸ .refl _
  closed x hx _ := ⟨x, ho ▸ hx, rfl⟩

theorem Later.refl (s : SyncStore) : Later s s := .of_tables rfl rfl

theorem Later.trans {s₀ s₁ s₂ : SyncStore} (h : Later s₀ s₁) (h' : Later s₁ s₂) :
    Later s₀ s₂ where
  operations := h.operations.trans h'.operations
  operationsKept := h.operationsKept.trans h'.operationsKept
  batches := h.batches.trans h'.batches
  batchesKept := h.batchesKept.trans h'.batchesKept
  closed := by
    rintro x hx ⟨b, hb, hid⟩
    obtain ⟨b', hb', hkey⟩ := h.batchesKept b hb
    obtain ⟨y, hy, hyid⟩ := h'.closed x hx ⟨b', hb', hkey.trans hid⟩
    have hcore : operationIdentity y = operationIdentity x := h'.operations.core_eq hy hx hyid
    have hbatch : y.syncBatchId = x.syncBatchId := congrArg (·.2.1) hcore
    obtain ⟨z, hz, hzid⟩ := h.closed y hy ⟨b, hb, hid.trans hbatch.symm⟩
    exact ⟨z, hz, hzid.trans hyid⟩

/-- An update of an operation that leaves its identity alone. -/
theorem Later.operation {id : Id} {f : SyncOperation → SyncOperation} {row : SyncOperation}
    {t : Table SyncOperation} (hu : s.operations.update id f = .done row t)
    (hf : ∀ x, operationIdentity (f x) = operationIdentity x) (ho : s'.operations = t)
    (hb : s'.batches = s.batches) : Later s s' where
  operations := ho ▸ .update hu fun x => hf x
  operationsKept := ho ▸ .update hu
  batches := hb ▸ .refl _
  batchesKept := hb ▸ .refl _
  closed x hx _ := by
    rcases (Table.mem_update hu).mp (ho ▸ hx) with ⟨h, -⟩ | rfl
    · exact ⟨x, h, rfl⟩
    · obtain ⟨old, hold, hkey, hrow, -, -⟩ := Table.update_eq_done hu
      exact ⟨old, hold, by rw [hrow]; exact hkey⟩

/-- An update of a batch that leaves its identity alone. -/
theorem Later.batch {id : Id} {f : SyncBatch → SyncBatch} {row : SyncBatch} {t : Table SyncBatch}
    (hu : s.batches.update id f = .done row t) (hf : ∀ b, batchIdentity (f b) = batchIdentity b)
    (ho : s'.operations = s.operations) (hb : s'.batches = t) : Later s s' where
  operations := ho ▸ .refl _
  operationsKept := ho ▸ .refl _
  batches := hb ▸ .update hu fun b => hf b
  batchesKept := hb ▸ .update hu
  closed x hx _ := ⟨x, ho ▸ hx, rfl⟩

/-- A new batch with its operations. -/
theorem Later.create {data row : SyncBatch} {batches : Table SyncBatch} {now : Time}
    {operations : List SubmitSyncOperationDto} {t : Table SyncOperation}
    (hc : s.batches.create data = some (row, batches))
    (ho : createOperations now row.id operations s.operations = some t)
    (hs : s'.operations = t) (hb : s'.batches = batches) : Later s s' where
  operations := by
    refine ⟨hs ▸ serial_createOperations ho, fun x hx => ?_⟩
    rcases new_of_createOperations ho (hs ▸ hx) with h | ⟨⟨n, hn, hid⟩, -, -⟩
    · exact .inl ⟨x, h, rfl, rfl⟩
    · exact .inr ⟨n, hn, hid⟩
  operationsKept x hx := ⟨x, hs ▸ mem_createOperations ho hx, rfl⟩
  batches := hb ▸ .create hc
  batchesKept := hb ▸ .create hc
  closed := by
    rintro x hx ⟨b, hmem, hid⟩
    rcases new_of_createOperations ho (hs ▸ hx) with h | ⟨-, hbatch, -⟩
    · exact ⟨x, h, rfl⟩
    · have hkey : row.id = fresh s.batches.serial := by
        rw [(Table.create_eq_some hc).1]
        rfl
      exact absurd (hid.trans (hbatch.trans hkey)) (s.batches.key_ne_fresh hmem (Nat.le_refl _))

end SyncStore

open SyncStore

/-- The sync calls that only read. -/
def SyncCall.reads : SyncCall → Bool
  | .batchByBatchId _ => true
  | .operationsByIds _ => true
  | .operationsOfBatch _ => true
  | .failedRegistrations _ _ => true
  | _ => false

/-- What a sync call answers and does. -/
inductive SyncEffect (s : SyncStore) :
    (c : SyncCall) → Except Exn (SyncResp c) → SyncStore → Prop
  | base {c x s'} (he : Effect s.base c x s'.base) (hb : s'.batches = s.batches)
      (ho : s'.operations = s.operations) : SyncEffect s (.base c) x s'
  | run {operationId c x s'} (he : Effect s.base c x s'.base) (hb : s'.batches = s.batches)
      (ho : s'.operations = s.operations) : SyncEffect s (.run operationId c) x s'
  | read {c x} (hc : c.reads = true) : SyncEffect s c x s
  | failed {c e} : SyncEffect s c (.error e) s
  | create {dto operations n ch row batches t s'}
      (hc : s.batches.create (batchRow s.base.clock dto n) = some (row, batches))
      (hn : createOperations s.base.clock row.id operations s.operations = some t)
      (hbase : s'.base = s.base) (hb : s'.batches = batches) (ho : s'.operations = t) :
      SyncEffect s (.batchCreate dto operations n) (.ok (s'.view ch row)) s'
  | processing {id ch row t s'}
      (hu : s.batches.update id (fun b => { b with status := .PROCESSING }) = .done row t)
      (hbase : s'.base = s.base) (hb : s'.batches = t) (ho : s'.operations = s.operations) :
      SyncEffect s (.batchProcessing id) (.ok (s'.view ch row)) s'
  | close {id p ch row t s'}
      (hu : s.batches.update id (applyBatchPatch s.base.clock p) = .done row t)
      (hbase : s'.base = s.base) (hb : s'.batches = t) (ho : s'.operations = s.operations) :
      SyncEffect s (.batchFinish id p) (.ok (s'.view ch row)) s'
  | taken {id} : SyncEffect s (.operationClaim id) (.ok 0) s
  | claim {id x row t s'} (hx : x ∈ s.operations.rows) (hid : x.id = id)
      (hstatus : x.status = .FAILED) (hu : s.operations.update id claimedRow = .done row t)
      (hbase : s'.base = s.base) (hb : s'.batches = s.batches) (ho : s'.operations = t) :
      SyncEffect s (.operationClaim id) (.ok 1) s'
  | finish {id p row t s'}
      (hu : s.operations.update id (fun x => applyOperationPatch s.base.clock x p) = .done row t)
      (hbase : s'.base = s.base) (hb : s'.batches = s.batches) (ho : s'.operations = t) :
      SyncEffect s (.operationFinish id p) (.ok row) s'

theorem syncEffect_of_machine {rt : Runtime} {ch : Choice} {c : SyncCall} {s s' : SyncStore}
    {x : Except Exn (SyncResp c)} (h : syncMachine rt ch c s = (x, s')) : SyncEffect s c x s' := by
  cases c with
  | base c =>
      cases h
      exact .base (effect_of_machine rfl) rfl rfl
  | run operationId c =>
      cases h
      exact .run (effect_of_machine rfl) rfl rfl
  | batchByBatchId batchId =>
      cases h
      exact .read rfl
  | operationsByIds operationIds =>
      cases h
      exact .read rfl
  | operationsOfBatch syncBatchId =>
      cases h
      exact .read rfl
  | failedRegistrations input limit =>
      cases h
      exact .read rfl
  | batchCreate dto operations n =>
      rcases createBatch_cases h with ⟨e, rfl, rfl⟩ | ⟨row, batches, t, hc, hn, rfl, hbase, hb, ho⟩
      · exact .failed
      · exact .create hc hn hbase hb ho
  | batchProcessing id =>
      rcases updateBatch_cases h with ⟨e, rfl, rfl⟩ | ⟨row, t, hu, rfl, hbase, hb, ho⟩
      · exact .failed
      · exact .processing hu hbase hb ho
  | batchFinish id p =>
      rcases updateBatch_cases h with ⟨e, rfl, rfl⟩ | ⟨row, t, hu, rfl, hbase, hb, ho⟩
      · exact .failed
      · exact .close hu hbase hb ho
  | operationClaim id =>
      rcases claimOperation_cases h with
        ⟨⟨e, rfl⟩ | rfl, rfl⟩ | ⟨y, row, t, hy, hid, hstatus, hu, rfl, hbase, hb, ho⟩
      · exact .failed
      · exact .taken
      · exact .claim hy hid hstatus hu hbase hb ho
  | operationFinish id p =>
      rcases finishOperation_cases h with ⟨e, rfl, rfl⟩ | ⟨row, t, hu, rfl, hbase, hb, ho⟩
      · exact .failed
      · exact .finish hu hbase hb ho

theorem SyncEffect.later {s s' : SyncStore} {c : SyncCall} {x : Except Exn (SyncResp c)}
    (h : SyncEffect s c x s') : Later s s' := by
  cases h with
  | base _ hb ho => exact .of_tables ho hb
  | run _ hb ho => exact .of_tables ho hb
  | read => exact .refl s
  | failed => exact .refl s
  | create hc hn _ hb ho => exact .create hc hn ho hb
  | processing hu _ hb ho => exact .batch hu (fun _ => rfl) ho hb
  | close hu _ hb ho => exact .batch hu (fun _ => rfl) ho hb
  | taken => exact .refl s
  | claim _ _ _ hu _ hb ho => exact .operation hu (fun _ => rfl) ho hb
  | @finish _ p _ _ _ hu _ hb ho => exact .operation hu (fun _ => by cases p <;> rfl) ho hb

/-! ## The sync service -/

/-- The operations of the sync service. -/
inductive SyncRun (rt : Runtime) : SyncSvc Unit → Prop
  | submitBatch (order : String → Bool) (dto : SubmitSyncBatchDto) :
      SyncRun rt (SyncService.submitBatch rt order dto).void
  | recoverFailedOfflineRegistrations (order : String → Bool) (input : RecoverInput) :
      SyncRun rt (SyncService.recoverFailedOfflineRegistrations rt order input).void

/-- The sync service: any number of submissions and recoveries, started at any time.
Any database, queue or file call may fail, and others change the scan store at will. -/
def syncService (rt : Runtime) : Service SyncResp Exn SyncStore where
  Choice := Choice
  machine := syncMachine rt
  faulty := SyncCall.faulty
  env s s' := s'.batches = s.batches ∧ s'.operations = s.operations
  starts s p s' := SyncRun rt p ∧ s' = s

theorem syncEffect_of_outcome {rt : Runtime} {c : SyncCall} {s s' : SyncStore}
    {x : Except Exn (SyncResp c)} (h : (syncService rt).Outcome c s x s') :
    SyncEffect s c x s' := by
  rcases h with ⟨ch, h⟩ | ⟨-, rfl, e, rfl⟩
  · exact syncEffect_of_machine h
  · cases c with
    | base c => exact .base .failed rfl rfl
    | run operationId c => exact .run .failed rfl rfl
    | _ => exact .failed

/-- What lies between the stores of a run. -/
theorem later_of_reach {rt : Runtime} {cfg cfg' : Config SyncResp Exn (World SyncResp Exn SyncStore)}
    (hr : (syncService rt).system.Reach cfg cfg') :
    SyncStore.Later cfg.world.store cfg'.world.store := by
  induction hr with
  | refl => exact .refl _
  | tail _ hs ih =>
      refine ih.trans ?_
      cases hs with
      | env h => exact .of_tables h.2.2 h.2.1
      | spawn h => exact h.2.2 ▸ .refl _
      | call _ h => exact (syncEffect_of_outcome h.2).later

/-! ## Sample submissions -/

/-- The sample store without batches. -/
def sampleSyncStore : SyncStore where
  base := sampleStore
  batches := .ofData []
  operations := .ofData []
  belong _ h := by cases h

/-- The generation of the QR token of the sample registration. -/
def sampleOperation (operationId : String) : SubmitSyncOperationDto where
  operationId
  type := .QR_GENERATION
  payload := [("registrationId", .str "c0")]

/-- A batch of the sample device. -/
def sampleBatch (batchId : String) (operations : List SubmitSyncOperationDto) :
    SubmitSyncBatchDto where
  batchId
  eventId := "c0"
  deviceId := "c0"
  operations

/-- Start the submission of a batch. -/
def submission {rt : Runtime} (dto : SubmitSyncBatchDto) : (syncService rt).Action :=
  .start (SyncService.submitBatch rt (fun _ => true) dto).void (fun _ => true) id

/-- The next calls of a thread. -/
def syncSteps {rt : Runtime} (t n : Nat) : List (syncService rt).Action :=
  List.replicate n (.step t ({} : Choice))

variable {rt : Runtime}

@[simp] theorem submission_legal {dto : SubmitSyncBatchDto} :
    (submission dto : (syncService rt).Action).Legal :=
  fun _ _ => ⟨.submitBatch _ dto, rfl⟩

@[simp] theorem syncSteps_legal {t n : Nat} :
    Service.Legal (syncSteps t n : List (syncService rt).Action) := by
  intro a ha
  rw [List.eq_of_mem_replicate ha]
  trivial

end CreativeBackend
