import CreativeBackend.Sync.Accounting

/-!
# Batches that are served as a whole

A batch that passes the checks of `submitBatch` is served as a whole, every operation
executed or answered from its row, exactly where no new operation id is there twice, and
where the rows of the other operations can be answered from or executed again.
-/

namespace CreativeBackend

open Relational Interaction

namespace Isolation

open SyncService Solo Ownership Resubmission Accounting

variable {rt : Runtime} {order : String → Bool} {s s' : SyncStore}
  {turns : List (Turn SyncResp Exn SyncStore)} {dto : SubmitSyncBatchDto}

/-! ## Batches that pass the checks -/

/-- A new batch of an event that is not archived, from an active device of the event and
with an active staff session of it, if it names one. -/
structure Admitted (s : SyncStore) (dto : SubmitSyncBatchDto) : Prop where
  newBatch : ∀ b ∈ s.batches.rows, b.batchId ≠ dto.batchId
  event : ∃ event, s.base.events.find? dto.eventId = some event ∧ event.status ≠ .ARCHIVED
  device : ∃ device, s.base.devices.find? dto.deviceId = some device ∧
    device.eventId = dto.eventId ∧ device.status = .ACTIVE
  staffSession : ∀ id, dto.staffSessionId = some id → id ≠ "" ∧
    ∃ session, s.base.staffSessions.find? id = some session ∧ session.eventId = dto.eventId ∧
      session.status = .ACTIVE

/-- The reads of the checks. Their answers do not depend on the choices of the store. -/
def Fixed (rt : Runtime) (c : Call) : Prop := ∀ ch ch' b, machine rt ch c b = machine rt ch' c b ∧
  (machine rt ch c b).2 = b

theorem ensureSubmittable_fixed (dto : SubmitSyncBatchDto) :
    (ensureSubmittable dto).All (Fixed rt) := by
  have hread : ∀ id, Fixed rt (.eventById id) ∧ Fixed rt (.deviceById id) ∧
      Fixed rt (.staffSessionById id) := fun id =>
    ⟨fun _ _ _ => ⟨rfl, rfl⟩, fun _ _ _ => ⟨rfl, rfl⟩, fun _ _ _ => ⟨rfl, rfl⟩⟩
  refine Prog.all_bind ?_ fun _ => Prog.all_bind ?_ fun _ => Prog.all_bind ?_ fun _ => trivial
  · refine Prog.all_bind (Prog.all_call (hread _).1) fun found => ?_
    split
    · trivial
    · exact Prog.all_ite trivial trivial
  · refine Prog.all_bind (Prog.all_call (hread _).2.1) fun found => ?_
    split
    · trivial
    · exact Prog.all_ite trivial (Prog.all_ite trivial trivial)
  · unfold ScansService.ensureActiveStaffSession
    split
    · trivial
    · refine Prog.all_bind (Prog.all_call (hread _).2.2) fun found => ?_
      split
      · trivial
      · exact Prog.all_ite trivial (Prog.all_ite trivial trivial)

/-- A run of such reads has one outcome. -/
theorem ran_onScanStore_fixed {α : Type} {p : Svc α} (hp : p.All (Fixed rt)) {y : Except Exn α}
    (h : Ran rt (onScanStore p) s turns y s') (ch : Choice) :
    y = (p.run (machine rt ch) s.base).1 := by
  induction p generalizing s turns with
  | ret a => exact (ran_ret h).1
  | throw e =>
      cases h with
      | throw hsame => rfl
  | ask c k ih =>
      cases h with
      | ask hsame ho hk =>
          subst hsame
          obtain ⟨ch', hm⟩ := machine_of_outcome ho not_false
          obtain ⟨hanswer, hstore⟩ := hp.1 ch' ch s.base
          simp only [syncMachine, onBase, hstore, Prod.mk.injEq] at hm
          obtain ⟨rfl, rfl⟩ := hm
          rw [Prog.run_ask, ← hanswer, hstore]
          exact ih _ (hp.2 _) hk

theorem run_ensureSubmittable (hadmitted : Admitted s dto) (ch : Choice) :
    ((ensureSubmittable dto).run (machine rt ch) s.base).1 = .ok () := by
  obtain ⟨event, hevent, hopen⟩ := hadmitted.event
  obtain ⟨device, hdevice, hdeviceEvent, hactive⟩ := hadmitted.device
  have h₁ : (ScansService.ensureEventCanBeModified dto.eventId).run (machine rt ch) s.base =
      (.ok event, s.base) := by
    simp [ScansService.ensureEventCanBeModified, call, Prog.run_bind, machine, query, hevent, hopen]
  have h₂ : (ScansService.ensureActiveDevice dto.deviceId dto.eventId).run (machine rt ch) s.base =
      (.ok device, s.base) := by
    simp [ScansService.ensureActiveDevice, call, Prog.run_bind, machine, query, hdevice,
      hdeviceEvent, hactive]
  have h₃ : ∃ session, (ScansService.ensureActiveStaffSession dto.staffSessionId dto.eventId).run
      (machine rt ch) s.base = (.ok session, s.base) := by
    cases hid : dto.staffSessionId with
    | none => exact ⟨none, rfl⟩
    | some id =>
        obtain ⟨hne, session, hsession, hsessionEvent, hsessionActive⟩ := hadmitted.staffSession id hid
        refine ⟨some session, ?_⟩
        simp [ScansService.ensureActiveStaffSession, truthy, hne, call, Prog.run_bind, machine, query,
          hsession, hsessionEvent, hsessionActive]
  obtain ⟨session, h₃⟩ := h₃
  simp [ensureSubmittable, Prog.run_bind, h₁, h₂, h₃]

theorem Admitted.refersOpt (h : Admitted s dto) :
    Store.refersOpt s.base.staffSessions dto.staffSessionId = true := by
  cases hid : dto.staffSessionId with
  | none => rfl
  | some id =>
      obtain ⟨-, session, hsession, -⟩ := h.staffSession id hid
      simp [Store.refersOpt, Store.refers, hsession]

theorem Admitted.accepted (h : Admitted s dto)
    (hdistinct : ((newOperations s dto).map (·.operationId)).Nodup) (ch : Choice) :
    Resubmission.Accepted rt ch s dto :=
  ⟨run_ensureSubmittable h ch, h.refersOpt, h.newBatch, hdistinct⟩

/-! ## What being served is -/

/-- An entry is the result of an execution of its operation in the run. -/
def WasExecuted (rt : Runtime) (order : String → Bool) (dto : SubmitSyncBatchDto)
    (turns : List (Turn SyncResp Exn SyncStore)) (operation : SubmitSyncOperationDto)
    (entry : OperationResult) : Prop :=
  ∃ id executed locals attempt s₁ s₂ before own after,
    turns = before ++ own ++ after ∧ executed.operationId = operation.operationId ∧
    Execution rt order id executed dto locals attempt s₁ own s₂ ∧
    (entry = resultOf operation.operationId attempt.result ∨
      entry = { resultOf operation.operationId attempt.result with retried := true })

/-- The row has a result to answer from. -/
def HasResult (x : SyncOperation) : Prop := x.status ≠ .PENDING ∧ x.status ≠ .SKIPPED

/-- An entry is the answer from what the store had for its operation. -/
def WasAnswered (s : SyncStore) (operation : SubmitSyncOperationDto) (entry : OperationResult) :
    Prop :=
  ∃ x ∈ s.operations.rows, x.operationId = operation.operationId ∧ HasResult x ∧
    entry = answerOf x operation.operationId

/-- Every submission of a batch returns, with an entry for each operation, which was
executed or answered. -/
def Served (rt : Runtime) (order : String → Bool) (s : SyncStore) (dto : SubmitSyncBatchDto) :
    Prop :=
  ∀ turns y s', Ran rt (submitBatch rt order dto) s turns y s' →
    ∃ reply result, y = .ok reply ∧ reply.duplicate = false ∧
      reply.batch.batch.result = some result ∧
      List.Forall₂ (fun operation entry => WasExecuted rt order dto turns operation entry ∨
        WasAnswered s operation entry) (sortOperations dto.operations) result.operations

/-- No new operation id is there twice, and every other operation has a row to answer
from, which can be executed again if that is due. -/
structure Serviceable (s : SyncStore) (dto : SubmitSyncBatchDto) : Prop where
  distinct : ((newOperations s dto).map (·.operationId)).Nodup
  results : ∀ x ∈ s.operations.rows, Names dto x → HasResult x ∧ ¬ Broken x

theorem WasExecuted.extend {turns before after : List (Turn SyncResp Exn SyncStore)}
    {operation : SubmitSyncOperationDto} {entry : OperationResult}
    (h : WasExecuted rt order dto turns operation entry) :
    WasExecuted rt order dto (before ++ turns ++ after) operation entry := by
  obtain ⟨id, executed, locals, attempt, s₁, s₂, earlier, own, later, rfl, hrest⟩ := h
  exact ⟨id, executed, locals, attempt, s₁, s₂, before ++ earlier, own, later ++ after,
    by simp only [List.append_assoc], hrest⟩

/-! ## The entries of a batch -/

variable {rows : BatchRows} {batchId : Id} {s₁ s₂ : SyncStore}
  {operations : List SubmitSyncOperationDto} {locals last : LocalRegistrationMap}
  {results : List OperationResult}

/-- The rows that the loop answers from are those of the store before the submission. -/
theorem existing_of_begun (h : Begun s dto batchId rows s₁) {operationId : String}
    {x : SyncOperation} (hrow : rowOf rows.existing operationId = some x) :
    x ∈ s.operations.rows ∧ x.operationId = operationId ∧ Names dto x := by
  obtain ⟨hmem, hop⟩ := rowOf_eq_some hrow
  obtain ⟨hx, hdup⟩ := (h.existing x).mp hmem
  obtain ⟨now, hcreated⟩ := h.created
  obtain ⟨hnamed, z, hz, hzop⟩ := h.ids _ (List.contains_iff_mem.mp hdup)
  have hzx : z = x := by
    apply Table.eq_of_clash _ (SyncStore.mem_createOperations hcreated hz) hx
    simp [clash, hzop]
  exact ⟨hzx ▸ hz, hop, hnamed⟩

/-- An operation with a row is answered from it. -/
theorem rowOf_of_begun (h : Begun s dto batchId rows s₁) {x : SyncOperation}
    (hx : x ∈ s.operations.rows) (hnames : Names dto x) :
    rows.duplicateOperationIds.contains x.operationId = true ∧
      rowOf rows.existing x.operationId = some x := by
  obtain ⟨operation, hop, hid⟩ := hnames
  obtain ⟨now, hcreated⟩ := h.created
  have hdup : rows.duplicateOperationIds.contains x.operationId = true := by
    rw [← hid, h.known operation hop]
    exact List.any_eq_true.mpr ⟨x, hx, by simp [hid]⟩
  refine ⟨hdup, rowOf_of_mem (fun y hy => ((h.existing y).mp hy).1) ?_⟩
  exact (h.existing x).mpr ⟨SyncStore.mem_createOperations hcreated hx, hdup⟩

/-- Where every operation can be served, each entry is an execution or an answer. -/
theorem served_of_entries (hbegun : Begun s dto batchId rows s₁) (hserviceable : Serviceable s dto)
    {s₀ : SyncStore} {loop : List (Turn SyncResp Exn SyncStore)}
    (h : Entries rt order rows dto operations locals s₀ loop results last s₂)
    (hpart : ∀ operation ∈ operations, operation ∈ dto.operations) :
    List.Forall₂ (fun operation entry => WasExecuted rt order dto loop operation entry ∨
      WasAnswered s operation entry) operations results := by
  induction h with
  | nil => exact .nil
  | @cons operation rest locals locals' last s₀ s₁ s₂ first second entry results hentry hrest ih =>
      have hop := hpart operation List.mem_cons_self
      have hlater := (ih fun other hother => hpart other (List.mem_cons_of_mem _ hother)).imp
        fun other entry => Or.imp_left fun hexecuted =>
          List.append_nil (first ++ second) ▸ hexecuted.extend
      have hrow : rows.duplicateOperationIds.contains operation.operationId = true →
          ∃ x, rowOf rows.existing operation.operationId = some x := by
        rw [hbegun.known operation hop, List.any_eq_true]
        rintro ⟨x, hx, hid⟩
        rw [decide_eq_true_eq] at hid
        exact ⟨x, hid ▸ (rowOf_of_begun hbegun hx ⟨operation, hop, hid.symm⟩).2⟩
      cases hentry with
      | @executed row attempt _ hnew hrow hrun =>
          refine .cons (.inl ?_) hlater
          exact ⟨row.id, operation, locals, attempt, s₀, s₁, [], first, second, rfl, rfl, hrun,
            .inl rfl⟩
      | left hnew hnone =>
          exact absurd hnone (row_of_begun hbegun hop ((known_of_begun hbegun hop).mp hnew))
      | lost hdup hnone =>
          obtain ⟨x, hx⟩ := hrow hdup
          rw [hnone] at hx
          cases hx
      | answered hdup hx =>
          obtain ⟨hmem, hid, hnames⟩ := existing_of_begun hbegun hx
          exact .cons (.inr ⟨_, hmem, hid, (hserviceable.results _ hmem hnames).1, rfl⟩) hlater
      | @retried existing payload attempt s₃ claim body _ hdup hx hfailed hretry hinput hturns hfirst
          hstill hclaim hbase hrun =>
          refine .cons (.inl ?_) hlater
          exact ⟨existing.id,
            { operationId := operation.operationId, type := existing.type, payload }, locals, attempt,
            s₃, s₁, claim, body, second, by rw [hturns], rfl, hrun, .inr rfl⟩

/-- An entry of a broken row is not made. -/
theorem not_entered_broken {s₀ : SyncStore} {loop : List (Turn SyncResp Exn SyncStore)}
    (h : Entries rt order rows dto operations locals s₀ loop results last s₂) (hnamed : Named rows s₀)
    {x : SyncOperation} (hx : x ∈ s₀.operations.rows) (hbroken : Broken x)
    (hdup : rows.duplicateOperationIds.contains x.operationId = true)
    (hrow : rowOf rows.existing x.operationId = some x) :
    ∀ operation ∈ operations, operation.operationId ≠ x.operationId := by
  induction h with
  | nil => simp
  | @cons operation rest locals locals' last s₀ s₁ s₂ first second entry results hentry hrest ih =>
      by_cases hop : operation.operationId = x.operationId
      · rw [← hop] at hdup hrow
        obtain ⟨hfailed, hretry, e, hinput⟩ := hbroken
        exfalso
        cases hentry with
        | executed hnew | left hnew =>
            rw [hnew] at hdup
            cases hdup
        | lost _ hnone =>
            rw [hnone] at hrow
            cases hrow
        | answered _ hsome htaken =>
            rw [hsome] at hrow
            cases hrow
            exact htaken hfailed hretry x hx rfl hfailed
        | retried _ hsome _ _ hok =>
            rw [hsome] at hrow
            cases hrow
            rw [hinput] at hok
            cases hok
      · obtain ⟨habout, -⟩ := hentry.about hnamed
        have hx₁ := (habout.others x (Ne.symm hop)).mpr hx
        intro other hother
        rcases List.mem_cons.mp hother with rfl | hother
        · exact hop
        · exact ih (hnamed.of_names habout.names) hx₁ other hother

/-- A row without a result is not answered from. -/
theorem not_served_unfinished {x : SyncOperation} (hx : x ∈ s.operations.rows)
    (hresult : ¬ HasResult x) {operation : SubmitSyncOperationDto}
    (hid : operation.operationId = x.operationId) :
    ¬ (WasExecuted rt order dto turns operation (answerOf x operation.operationId) ∨
      WasAnswered s operation (answerOf x operation.operationId)) := by
  have hcode : (answerOf x operation.operationId).errorCode =
      some "PREVIOUS_OPERATION_NOT_COMPLETED" := by
    unfold answerOf
    cases hstatus : x.status with
    | PENDING | SKIPPED => rfl
    | PROCESSED | FAILED | DUPLICATE =>
        rw [HasResult, hstatus] at hresult
        simp at hresult
  have hother : ∀ result, (resultOf operation.operationId result).errorCode ≠
      some "PREVIOUS_OPERATION_NOT_COMPLETED" := by
    intro result
    cases result with
    | ok output => simp [resultOf]
    | error error => cases error <;> simp [resultOf, classifySyncOperationError]
  rintro (⟨id, executed, locals, attempt, s₁, s₂, before, own, after, -, -, -, heq | heq⟩ |
    ⟨z, hz, hzid, hzresult, -⟩)
  · exact hother attempt.result (heq ▸ hcode)
  · rw [heq] at hcode
    exact hother attempt.result hcode
  · have hzx : z = x := by
      apply Table.eq_of_clash _ hz hx
      simp [clash, hzid, hid]
    exact hresult (hzx ▸ hzresult)

/-- Every entry of an operation whose row cannot be executed again answers from the row. -/
theorem answers_of_entries {s₀ : SyncStore} {loop : List (Turn SyncResp Exn SyncStore)}
    (h : Entries rt order rows dto operations locals s₀ loop results last s₂)
    (hrows : HaveRows rows operations) {x : SyncOperation} (hfinal : x.status ≠ .FAILED)
    (hdup : rows.duplicateOperationIds.contains x.operationId = true)
    (hrow : rowOf rows.existing x.operationId = some x) :
    List.Forall₂ (fun operation entry => operation.operationId = x.operationId →
      entry = answerOf x operation.operationId) operations results := by
  induction h with
  | nil => exact .nil
  | @cons operation rest locals locals' last s₀ s₁ s₂ first second entry results hentry hrest ih =>
      have hlater := ih fun other hother => hrows other (List.mem_cons_of_mem _ hother)
      cases hentry with
      | left hnew hnone => exact absurd hnone (hrows operation List.mem_cons_self hnew)
      | executed hnew =>
          refine .cons (fun hop => ?_) hlater
          rw [hop, hdup] at hnew
          cases hnew
      | lost _ hnone =>
          refine .cons (fun hop => ?_) hlater
          rw [hop, hrow] at hnone
          cases hnone
      | answered _ hsome =>
          refine .cons (fun hop => ?_) hlater
          rw [hop, hrow] at hsome
          cases hsome
          rfl
      | retried _ hsome hfailed =>
          refine .cons (fun hop => ?_) hlater
          rw [hop, hrow] at hsome
          cases hsome
          exact absurd hfailed hfinal

theorem exists_pair {P Q : SubmitSyncOperationDto → OperationResult → Prop}
    (hp : List.Forall₂ P operations results) (hq : List.Forall₂ Q operations results)
    {operation : SubmitSyncOperationDto} (hop : operation ∈ operations) :
    ∃ entry, P operation entry ∧ Q operation entry := by
  induction hp with
  | nil => cases hop
  | cons hhead _ ih =>
      cases hq with
      | cons hhead' hrest =>
          rcases List.mem_cons.mp hop with rfl | hop
          · exact ⟨_, hhead, hhead'⟩
          · exact ih hrest hop

/-! ## When a batch is served -/

theorem served_of_serviceable (hadmitted : Admitted s dto) (hserviceable : Serviceable s dto) :
    Served rt order s dto := by
  intro turns y s' hran
  cases ran_submitBatch hran with
  | known hb =>
      obtain ⟨b, hb, hid⟩ := hb
      exact absurd hid (hadmitted.newBatch b hb)
  | refused hchecks =>
      have hok := ran_onScanStore_fixed (ensureSubmittable_fixed dto) hchecks {}
      rw [run_ensureSubmittable hadmitted] at hok
      cases hok
  | @notCreated e ch n _ hcreate =>
      obtain ⟨view, s₁, hrun, -⟩ :=
        yields_batchCreate (hadmitted.accepted hserviceable.distinct ch :
            Resubmission.Accepted rt ch s dto) n
      rw [syncCall, Prog.run_call] at hrun
      cases hrun.symm.trans hcreate
  | unreadable hbad =>
      obtain ⟨x, hx, hnames, hbroken⟩ := hbad
      exact absurd hbroken (hserviceable.results x hx hnames).2
  | completed hcompleted =>
      obtain ⟨b, rows, s₁, s₂, results, last, before, loop, after, now, hbegun, -, hentries, rfl, -,
        hview, -⟩ := hcompleted
      refine ⟨_, (batchPatch results).result, rfl, rfl, by rw [hview]; rfl, ?_⟩
      have hserved := served_of_entries hbegun hserviceable hentries
        fun operation hop => mem_sortOperations.mp hop
      exact hserved.imp fun operation entry => Or.imp_left WasExecuted.extend

theorem serviceable_of_served (hserved : Served rt order s dto) : Serviceable s dto := by
  obtain ⟨turns, s', hran⟩ := ran_of_run (rfl : ((submitBatch rt order dto).run
    (syncMachine rt {}) s).1 = _)
  obtain ⟨reply, result, hok, hfresh, hresult, hentriesServed⟩ := hserved _ _ _ hran
  rw [hok] at hran
  cases ran_submitBatch hran with
  | known => cases hfresh
  | completed hcompleted =>
      obtain ⟨b, rows, s₁, s₂, results, last, before, loop, after, now, hbegun, -, hentries, rfl, -,
        hview, -⟩ := hcompleted
      have hresults : result.operations = results := by
        rw [hview] at hresult
        cases hresult
        rfl
      rw [hresults] at hentriesServed
      obtain ⟨now', hcreated⟩ := hbegun.created
      refine ⟨(SyncStore.distinct_of_createOperations hcreated).1, fun x hx hnames => ?_⟩
      obtain ⟨hdup, hrow⟩ := rowOf_of_begun hbegun hx hnames
      obtain ⟨operation, hop, hid⟩ := hnames
      have hsorted := mem_sortOperations.mpr hop
      constructor
      · by_contra hunfinished
        have hfinal : x.status ≠ .FAILED := by
          intro hfailed
          exact hunfinished ⟨by simp [hfailed], by simp [hfailed]⟩
        obtain ⟨entry, hentry, heq⟩ := exists_pair hentriesServed
          (answers_of_entries hentries (haveRows_of_begun hbegun) hfinal hdup hrow) hsorted
        rw [heq hid] at hentry
        exact not_served_unfinished hx hunfinished hid hentry
      · intro hbroken
        exact not_entered_broken hentries hbegun.named (SyncStore.mem_createOperations hcreated hx)
          hbroken hdup hrow operation hsorted hid

end Isolation

namespace Isolation

theorem admitted_sample (operations : List SubmitSyncOperationDto) :
    Admitted sampleSyncStore (sampleBatch "batch-1" operations) where
  newBatch b hb := by cases hb
  event := ⟨_, rfl, by decide⟩
  device := ⟨_, rfl, rfl, rfl⟩
  staffSession id hid := by cases hid

end Isolation

end CreativeBackend
