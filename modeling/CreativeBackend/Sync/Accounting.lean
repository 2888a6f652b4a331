import CreativeBackend.Sync.Submission

/-!
# The accounts of a batch

A submission that is not answered from a known batch has one entry for each of its
operations, in the order of a stable sort by type. Every new operation is executed once,
and its row has the status of its entry.
-/

namespace CreativeBackend

open Relational Interaction

namespace Accounting

open SyncService Solo Resubmission

variable {rt : Runtime} {order : String → Bool} {s s' : SyncStore}
  {turns : List (Turn SyncResp Exn SyncStore)} {rows : BatchRows} {batch : SubmitSyncBatchDto}
  {locals last : LocalRegistrationMap} {operations : List SubmitSyncOperationDto}
  {results : List OperationResult}

/-! ## The order -/

/-- The place of a type in a batch. -/
def typeRank : SyncOperationType → Nat
  | .OFFLINE_REGISTRATION => 0
  | .OFFLINE_SCAN => 1
  | .QR_GENERATION => 2
  | .SCAN_EVENT => 3

/-- A stable sort by type: the operations in the order of the types, and in the order of
the submission within a type. -/
structure StableSort (operations sorted : List SubmitSyncOperationDto) : Prop where
  perm : sorted.Perm operations
  ordered : sorted.Pairwise fun a b => typeRank a.type ≤ typeRank b.type
  stable : ∀ type, sorted.filter (fun operation => operation.type = type) =
    operations.filter fun operation => operation.type = type

theorem mem_sortOperations {operation : SubmitSyncOperationDto} :
    operation ∈ sortOperations operations ↔ operation ∈ operations :=
  (sortOperations_perm operations).mem_iff

theorem stableSort_sortOperations (operations : List SubmitSyncOperationDto) :
    StableSort operations (sortOperations operations) where
  perm := sortOperations_perm operations
  ordered := by
    have hsame : ∀ type, (operations.filter fun operation => operation.type = type).Pairwise
        fun a b => typeRank a.type ≤ typeRank b.type := by
      intro type
      refine List.Pairwise.imp_of_mem ?_ (List.pairwise_of_forall (R := fun _ _ => True) fun _ _ => trivial)
      intro a b ha hb _
      have ha' : a.type = type := by simpa using (List.mem_filter.mp ha).2
      have hb' : b.type = type := by simpa using (List.mem_filter.mp hb).2
      rw [ha', hb']
    refine List.pairwise_flatMap.mpr ⟨fun type _ => hsame type, ?_⟩
    have hranks : [SyncOperationType.OFFLINE_REGISTRATION, .OFFLINE_SCAN, .QR_GENERATION,
        .SCAN_EVENT].Pairwise fun a b => typeRank a ≤ typeRank b := by decide
    refine hranks.imp fun {a b} hab x hx y hy => ?_
    have hx' : x.type = a := by simpa using (List.mem_filter.mp hx).2
    have hy' : y.type = b := by simpa using (List.mem_filter.mp hy).2
    rw [hx', hy']
    exact hab
  stable type := by
    have hother : ∀ other, other ≠ type → ((operations.filter fun operation =>
        operation.type = other).filter fun operation => operation.type = type) = [] := by
      intro other hne
      rw [List.filter_eq_nil_iff]
      intro a ha
      have ha' : a.type = other := by simpa using (List.mem_filter.mp ha).2
      simp [ha', hne]
    have hown : ((operations.filter fun operation => operation.type = type).filter
        fun operation => operation.type = type) =
        operations.filter fun operation => operation.type = type := by
      rw [List.filter_filter]
      simp
    cases type <;>
      simp only [sortOperations, List.flatMap_cons, List.flatMap_nil, List.filter_append,
        List.append_nil] <;>
      rw [hown] <;> simp [hother]

/-! ## The counts -/

/-- The statuses of entries. -/
def Counted (entry : OperationResult) : Prop :=
  entry.status = .PROCESSED ∨ entry.status = .FAILED ∨ entry.status = .DUPLICATE

theorem batchPatch_counts (h : ∀ entry ∈ results, Counted entry) :
    (batchPatch results).result.processedCount + (batchPatch results).result.failedCount +
      (batchPatch results).result.duplicateCount = results.length := by
  simp only [batchPatch]
  induction results with
  | nil => rfl
  | cons entry rest ih =>
      have hrest := ih fun other hother => h other (List.mem_cons_of_mem _ hother)
      rcases h entry List.mem_cons_self with hstatus | hstatus | hstatus <;>
        simp only [List.filter_cons, hstatus, decide_true, decide_false, if_true, if_false,
          reduceCtorEq, Bool.false_eq_true, List.length_cons] <;> omega

theorem entries_counted (h : Entries rt order rows batch operations locals s turns results last s') :
    ∀ entry ∈ results, Counted entry := by
  induction h with
  | nil => simp
  | @cons _ _ _ _ _ _ _ _ _ _ entry _ hentry _ ih =>
      intro other hother
      rcases List.mem_append.mp hother with hmem | hmem
      · rw [Option.mem_toList] at hmem
        cases hmem
        exact hentry.entry.2
      · exact ih other hmem

/-- Every operation that was not received before has its row. -/
def HaveRows (rows : BatchRows) (operations : List SubmitSyncOperationDto) : Prop :=
  ∀ dto ∈ operations, rows.duplicateOperationIds.contains dto.operationId = false →
    rowOf rows.operations dto.operationId ≠ none

/-- Each operation of the loop has its entry. -/
theorem entries_forall₂ (h : Entries rt order rows batch operations locals s turns results last s')
    (hrows : HaveRows rows operations) :
    List.Forall₂ (fun dto entry => entry.operationId = dto.operationId) operations results := by
  induction h with
  | nil => exact .nil
  | @cons dto rest _ _ _ _ _ _ _ _ entry _ hentry hrest ih =>
      have hlater := ih fun other hother => hrows other (List.mem_cons_of_mem _ hother)
      cases entry with
      | some entry => exact .cons hentry.entry.1 hlater
      | none =>
          cases hentry with
          | left hnew hrow => exact absurd hrow (hrows dto List.mem_cons_self hnew)

/-! ## New operations -/

variable {dto : SubmitSyncBatchDto} {operation : SubmitSyncOperationDto} {batchId : Id}
  {s₁ : SyncStore}

/-- The operation was not received before. -/
def IsNew (s : SyncStore) (operation : SubmitSyncOperationDto) : Prop :=
  ∀ x ∈ s.operations.rows, x.operationId ≠ operation.operationId

theorem mem_newOperations : operation ∈ newOperations s dto ↔
    operation ∈ dto.operations ∧ IsNew s operation := by
  rw [newOperations, List.mem_filter]
  simp only [Bool.not_eq_true', List.any_eq_false, decide_eq_true_eq, IsNew]

theorem known_of_begun (h : Begun s dto batchId rows s₁) (hop : operation ∈ dto.operations) :
    rows.duplicateOperationIds.contains operation.operationId = false ↔ IsNew s operation := by
  rw [h.known operation hop, List.any_eq_false]
  simp only [decide_eq_true_eq, IsNew]

/-- Every new operation has its row when the loop starts. -/
theorem row_of_begun (h : Begun s dto batchId rows s₁) (hop : operation ∈ dto.operations)
    (hnew : IsNew s operation) : rowOf rows.operations operation.operationId ≠ none := by
  obtain ⟨now, hcreated⟩ := h.created
  obtain ⟨x, hx, hid, hbatch⟩ :=
    row_of_createOperations hcreated (mem_newOperations.mpr ⟨hop, hnew⟩)
  intro hnone
  have habsent := List.find?_eq_none.mp hnone x ((h.operations x).mpr ⟨hx, hbatch⟩)
  exact habsent (by simp [hid])

theorem haveRows_of_begun (h : Begun s dto batchId rows s₁) :
    HaveRows rows (sortOperations dto.operations) := fun _ hop hfresh =>
  row_of_begun h (mem_sortOperations.mp hop) ((known_of_begun h (mem_sortOperations.mp hop)).mp hfresh)

/-- No other operation of the batch has the operation id of a new one. -/
theorem ids_of_begun (h : Begun s dto batchId rows s₁) {pre post : List SubmitSyncOperationDto}
    (hsorted : sortOperations dto.operations = pre ++ operation :: post)
    (hnew : IsNew s operation) :
    ∀ other ∈ pre ++ post, other.operationId ≠ operation.operationId := by
  obtain ⟨now, hcreated⟩ := h.created
  have hnodup := (SyncStore.distinct_of_createOperations hcreated).1
  have hperm : ((sortOperations dto.operations).filter fun operation =>
      !s.operations.rows.any fun x => x.operationId = operation.operationId).Perm
        (newOperations s dto) := (sortOperations_perm dto.operations).filter _
  have hown : (!s.operations.rows.any fun x => decide (x.operationId = operation.operationId)) =
      true := by
    simpa [IsNew] using hnew
  rw [← (hperm.map _).nodup_iff, hsorted, List.filter_append, List.filter_cons, if_pos hown,
    ((List.perm_middle).map _).nodup_iff, List.map_cons, List.nodup_cons] at hnodup
  intro other hother heq
  refine hnodup.1 (List.mem_map.mpr ⟨other, ?_, heq⟩)
  rw [← List.filter_append, List.mem_filter, heq]
  exact ⟨hother, hown⟩

/-- A new operation of a batch is executed once: no other call of the run is about it, its
one entry is the result of the execution, and its row has the status of that entry. -/
def ExecutedOnce (rt : Runtime) (order : String → Bool) (dto : SubmitSyncBatchDto)
    (turns : List (Turn SyncResp Exn SyncStore)) (results : List OperationResult)
    (s' : SyncStore) (operation : SubmitSyncOperationDto) : Prop :=
  ∃ id locals attempt s₁ s₂ before own after,
    turns = before ++ own ++ after ∧
    Execution rt order id operation dto locals attempt s₁ own s₂ ∧
    (∀ turn ∈ before ++ after, ¬ Concerns operation.operationId id turn.call) ∧
    results.filter (fun entry => entry.operationId = operation.operationId) =
      [resultOf operation.operationId attempt.result] ∧
    ∃ x ∈ s'.operations.rows, x.id = id ∧ x.operationId = operation.operationId ∧
      x.status = (resultOf operation.operationId attempt.result).status

/-- Calls about other operations. -/
theorem not_concerns (h : AboutAll operations s turns s') {id : Id} {operationId : String}
    (hid : (id, operationId) ∈ names s)
    (hne : ∀ other ∈ operations, other.operationId ≠ operationId) :
    ∀ turn ∈ turns, ¬ Concerns operationId id turn.call := by
  intro turn hturn hown
  obtain ⟨other, hother, id', hname, hconcerns⟩ := h.turns turn hturn
  exact hne other hother (concerns_unique hname hid hconcerns hown)

/-- Entries of other operations. -/
theorem filter_eq_nil
    (h : List.Forall₂ (fun dto entry => entry.operationId = dto.operationId) operations results) {operationId : String}
    (hne : ∀ other ∈ operations, other.operationId ≠ operationId) :
    results.filter (fun entry => entry.operationId = operationId) = [] := by
  induction h with
  | nil => rfl
  | @cons dto entry rest results hentry _ ih =>
      have hother : entry.operationId ≠ operationId := hentry ▸ hne dto List.mem_cons_self
      rw [List.filter_cons, if_neg (by simpa using hother)]
      exact ih fun other hother => hne other (List.mem_cons_of_mem _ hother)

theorem executedOnce_of_entries {s₂ : SyncStore} {loop : List (Turn SyncResp Exn SyncStore)}
    (hbegun : Begun s dto batchId rows s₁)
    (hentries : Entries rt order rows dto (sortOperations dto.operations) locals s₁ loop results
      last s₂) (hop : operation ∈ dto.operations) (hnew : IsNew s operation) :
    ExecutedOnce rt order dto loop results s₂ operation := by
  obtain ⟨pre, post, hsorted⟩ := List.append_of_mem (mem_sortOperations.mpr hop)
  have hne := List.forall_mem_append.mp (ids_of_begun hbegun hsorted hnew)
  have hrows := haveRows_of_begun hbegun
  rw [hsorted] at hentries hrows
  have hrowsPre : HaveRows rows pre := fun other hother =>
    hrows other (List.mem_append_left _ hother)
  have hrowsPost : HaveRows rows post := fun other hother =>
    hrows other (List.mem_append_right _ (List.mem_cons_of_mem _ hother))
  obtain ⟨locals₁, locals₂, entry, s₃, s₄, before, own, after, earlier, later, hpre, hown, hpost,
    rfl, rfl⟩ := hentries.split
  have hpreAbout := hpre.about hbegun.named
  have hnamed₃ := hbegun.named.of_names hpreAbout.names
  cases hown with
  | left _ hrow => exact absurd hrow (row_of_begun hbegun hop hnew)
  | lost hdup | answered hdup | retried hdup =>
      rw [(known_of_begun hbegun hop).mpr hnew] at hdup
      cases hdup
  | @executed operation' attempt _ hfresh hrow hrun =>
      have hname : (operation'.id, operation.operationId) ∈ names s₁ := hbegun.named.row hrow
      have hname₃ : (operation'.id, operation.operationId) ∈ names s₃ := hpreAbout.names ▸ hname
      have hname₄ : (operation'.id, operation.operationId) ∈ names s₄ := hrun.touches.names ▸ hname₃
      have hpostAbout := hpost.about (hnamed₃.of_names hrun.touches.names)
      refine ⟨operation'.id, locals₁, attempt, s₃, s₄, before, own, after, rfl, hrun, ?_, ?_, ?_⟩
      · rw [List.forall_mem_append]
        constructor
        · exact not_concerns hpreAbout hname hne.1
        · exact not_concerns hpostAbout hname₄ hne.2
      · have hbefore := filter_eq_nil (entries_forall₂ hpre hrowsPre) hne.1
        have hafter := filter_eq_nil (entries_forall₂ hpost hrowsPost) hne.2
        rw [List.filter_append, List.filter_append, hbefore, hafter]
        simp
      · obtain ⟨x, hx, hid, now, hstored⟩ := hrun.stored
        have hop' : x.operationId = operation.operationId :=
          (names_unique (mem_names.mpr ⟨x, hx, rfl, rfl⟩) hname₃).mp hid
        refine ⟨_, (hpostAbout.others _ fun other hother => ?_).mpr hstored, ?_, ?_, ?_⟩
        · rw [applyOperationPatch_operationId, hop']
          exact (hne.2 other hother).symm
        · rw [applyOperationPatch_id, hid]
        · rw [applyOperationPatch_operationId, hop']
        · exact applyOperationPatch_status _ _ _ _

/-- Calls that are about no operation, around a run. -/
theorem ExecutedOnce.extend {loop before after : List (Turn SyncResp Exn SyncStore)}
    {s₂ : SyncStore} (h : ExecutedOnce rt order dto loop results s₂ operation)
    (hneutral : ∀ turn ∈ before ++ after, Neutral turn.call)
    (hops : s'.operations = s₂.operations) :
    ExecutedOnce rt order dto (before ++ loop ++ after) results s' operation := by
  obtain ⟨id, locals, attempt, s₃, s₄, earlier, own, later, rfl, hrun, hothers, hresults, hrow⟩ := h
  refine ⟨id, locals, attempt, s₃, s₄, before ++ earlier, own, later ++ after,
    by simp only [List.append_assoc], hrun, ?_, hresults, hops ▸ hrow⟩
  simp only [List.forall_mem_append] at hneutral hothers ⊢
  exact ⟨⟨fun turn hturn => hneutral.1 turn hturn _ _, hothers.1⟩, hothers.2,
    fun turn hturn => hneutral.2 turn hturn _ _⟩

end Accounting

open Accounting SyncService Solo Resubmission in
/-- The accounts of a submission that is not answered from a known batch: its entries are
those of its operations in a stable order, each new operation is executed once and stored
with the status of its entry, and the three counts add up to the operations. -/
theorem batch_accounting {rt : Runtime} {order : String → Bool} {dto : SubmitSyncBatchDto}
    {s s' : SyncStore} {turns : List (Turn SyncResp Exn SyncStore)} {reply : SubmitReply}
    (h : Ran rt (submitBatch rt order dto) s turns (.ok reply) s')
    (hduplicate : reply.duplicate = false) :
    ∃ result sorted, reply.batch.batch ∈ s'.batches.rows ∧
      reply.batch.batch.result = some result ∧ StableSort dto.operations sorted ∧
      List.Forall₂ (fun operation entry => entry.operationId = operation.operationId) sorted
        result.operations ∧
      (∀ operation ∈ dto.operations, IsNew s operation →
        ExecutedOnce rt order dto turns result.operations s' operation) ∧
      reply.batch.batch.processedCount + reply.batch.batch.failedCount +
        reply.batch.batch.duplicateCount = reply.batch.batch.totalOperations ∧
      result.processedCount + result.failedCount + result.duplicateCount =
        dto.operations.length := by
  cases ran_submitBatch h with
  | known => cases hduplicate
  | completed hcompleted =>
      obtain ⟨b, rows, s₁, s₂, results, last, before, loop, after, now, hbegun, htotal, hentries,
        rfl, hneutral, hview, hmem, hops⟩ := hcompleted
      have hforall := entries_forall₂ hentries (haveRows_of_begun hbegun)
      have hcounts : (batchPatch results).result.processedCount +
          (batchPatch results).result.failedCount + (batchPatch results).result.duplicateCount =
            dto.operations.length := by
        calc _ = results.length := batchPatch_counts (entries_counted hentries)
          _ = (sortOperations dto.operations).length := hforall.length_eq.symm
          _ = dto.operations.length := (sortOperations_perm _).length_eq
      refine ⟨(batchPatch results).result, sortOperations dto.operations, hmem, ?_,
        stableSort_sortOperations _, hforall, ?_, ?_, hcounts⟩
      · rw [hview]
        rfl
      · intro operation hop hnew
        exact (executedOnce_of_entries hbegun hentries hop hnew).extend hneutral hops
      · rw [hview]
        exact hcounts.trans htotal.symm

namespace Accounting

/-- The answer of a submission that was not answered from a known batch. -/
def accepted? : Except Exn SubmitReply → Bool
  | .ok reply => !reply.duplicate
  | .error _ => false

theorem exists_of_accepted {x : Except Exn SubmitReply} (h : accepted? x = true) :
    ∃ reply, x = .ok reply ∧ reply.duplicate = false := by
  cases x with
  | error e => cases h
  | ok reply => exact ⟨reply, rfl, by simpa [accepted?] using h⟩

end Accounting

open Accounting SyncService Solo Resubmission in
theorem sample_batch_accounted :
    ∃ (reply : SubmitReply) (turns : List (Turn SyncResp Exn SyncStore)) (s' : SyncStore)
      (result : BatchResult), reply.batch.batch.result = some result ∧
      (∀ operation ∈ [sampleOperation "op-1", sampleOperation "op-2"],
        IsNew sampleSyncStore operation → ExecutedOnce sampleRuntime (fun _ => true)
          (sampleBatch "batch-1" [sampleOperation "op-1", sampleOperation "op-2"]) turns
          result.operations s' operation) ∧
      result.processedCount + result.failedCount + result.duplicateCount = 2 := by
  have hrun : accepted? ((submitBatch sampleRuntime (fun _ => true)
      (sampleBatch "batch-1" [sampleOperation "op-1", sampleOperation "op-2"])).run
        (syncMachine sampleRuntime {}) sampleSyncStore).1 = true := by decide +kernel
  obtain ⟨reply, hok, hfresh⟩ := exists_of_accepted hrun
  obtain ⟨turns, s', hran⟩ := ran_of_run hok
  obtain ⟨result, sorted, -, hresult, -, -, honce, -, hcounts⟩ := batch_accounting hran hfresh
  exact ⟨reply, turns, s', result, hresult, honce, hcounts⟩

end CreativeBackend
