import CreativeBackend.Sync.Solo

/-!
# The entries of a batch

What the loop of `processBatch` does on its own: each operation is executed, or answered
from a row that was read before the loop. An entry is about its own operation only.
-/

namespace CreativeBackend

open Relational Interaction

namespace Solo

open SyncService Ownership Resubmission

variable {rt : Runtime} {order : String → Bool} {s s' : SyncStore}
  {turns : List (Turn SyncResp Exn SyncStore)} {rows : BatchRows} {batch : SubmitSyncBatchDto}
  {dto : SubmitSyncOperationDto} {locals : LocalRegistrationMap}

/-! ## One entry -/

/-- The answer from a stored row. -/
def answerOf (existing : SyncOperation) (operationId : String) : OperationResult :=
  match existing.status with
  | .PROCESSED | .DUPLICATE => { operationId, status := .DUPLICATE, output := existing.output }
  | .FAILED => failedBefore existing operationId
  | .PENDING | .SKIPPED => {
      operationId
      status := .FAILED
      errorCode := "PREVIOUS_OPERATION_NOT_COMPLETED"
      errorMessage := "The previous operation has not completed processing yet" }

/-- The answer where no row was read. -/
def notFound (operationId : String) : OperationResult where
  operationId
  status := .FAILED
  errorCode := "DUPLICATE_OPERATION_RESULT_NOT_FOUND"
  errorMessage := "The operation was previously received but its result could not be found"

/-- How one operation of a batch is entered. -/
inductive Entered (rt : Runtime) (order : String → Bool) (rows : BatchRows)
    (batch : SubmitSyncBatchDto) (dto : SubmitSyncOperationDto) (locals : LocalRegistrationMap)
    (s : SyncStore) (turns : List (Turn SyncResp Exn SyncStore)) :
    Except Exn (Option OperationResult × LocalRegistrationMap) → SyncStore → Prop
  | executed {operation attempt s'}
      (hnew : rows.duplicateOperationIds.contains dto.operationId = false)
      (hrow : rowOf rows.operations dto.operationId = some operation)
      (hrun : Execution rt order operation.id dto batch locals attempt s turns s') :
      Entered rt order rows batch dto locals s turns
        (.ok (some (resultOf dto.operationId attempt.result), attempt.locals)) s'
  | left (hnew : rows.duplicateOperationIds.contains dto.operationId = false)
      (hrow : rowOf rows.operations dto.operationId = none) (hturns : turns = []) :
      Entered rt order rows batch dto locals s turns (.ok (none, locals)) s
  | lost (hdup : rows.duplicateOperationIds.contains dto.operationId = true)
      (hrow : rowOf rows.existing dto.operationId = none) (hturns : turns = []) :
      Entered rt order rows batch dto locals s turns
        (.ok (some (notFound dto.operationId), locals)) s
  | answered {existing} (hdup : rows.duplicateOperationIds.contains dto.operationId = true)
      (hrow : rowOf rows.existing dto.operationId = some existing)
      (htaken : existing.status = .FAILED → canRetryFailedOfflineOperation existing = true →
        ∀ x ∈ s.operations.rows, x.id = existing.id → x.status ≠ .FAILED)
      (hturns : ∀ turn ∈ turns, turn.call = .operationClaim existing.id) :
      Entered rt order rows batch dto locals s turns
        (.ok (some (answerOf existing dto.operationId), locals)) s
  | retried {existing payload attempt s₁ first second s'}
      (hdup : rows.duplicateOperationIds.contains dto.operationId = true)
      (hrow : rowOf rows.existing dto.operationId = some existing)
      (hfailed : existing.status = .FAILED)
      (hretry : canRetryFailedOfflineOperation existing = true)
      (hinput : toRecord existing.input = .ok payload) (hturns : turns = first ++ second)
      (hfirst : ∀ turn ∈ first, turn.call = .operationClaim existing.id)
      (hstill : ∃ x ∈ s.operations.rows, x.id = existing.id ∧ x.status = .FAILED)
      (hclaim : Touches existing.id s s₁) (hbase : s₁.base = s.base)
      (hrun : Execution rt order existing.id
        { operationId := dto.operationId, type := existing.type, payload } batch locals attempt s₁
        second s') :
      Entered rt order rows batch dto locals s turns
        (.ok (some { resultOf dto.operationId attempt.result with retried := true },
          attempt.locals)) s'
  | unreadable {existing e s'}
      (hdup : rows.duplicateOperationIds.contains dto.operationId = true)
      (hrow : rowOf rows.existing dto.operationId = some existing)
      (hfailed : existing.status = .FAILED)
      (hretry : canRetryFailedOfflineOperation existing = true)
      (hinput : toRecord existing.input = .error e) :
      Entered rt order rows batch dto locals s turns (.error e) s'

/-- The rows that the loop works from are still there, with their operation ids. -/
def Named (rows : BatchRows) (s : SyncStore) : Prop :=
  ∀ x ∈ rows.operations ++ rows.existing, (x.id, x.operationId) ∈ names s

theorem ran_replayOperation (hdup : rows.duplicateOperationIds.contains dto.operationId = true)
    (hnamed : Named rows s) {y : Except Exn (OperationResult × LocalRegistrationMap)}
    (h : Ran rt (replayOperation rt order dto batch locals (rowOf rows.existing dto.operationId))
      s turns y s') :
    Entered rt order rows batch dto locals s turns (y.map fun z => (some z.1, z.2)) s' := by
  cases hrow : rowOf rows.existing dto.operationId with
  | none =>
      rw [hrow] at h
      obtain ⟨rfl, rfl, rfl⟩ := ran_ret h
      exact .lost hdup hrow rfl
  | some existing =>
      rw [hrow] at h
      obtain ⟨hmem, hop⟩ := rowOf_eq_some hrow
      have hanswered : ∀ {a : OperationResult × LocalRegistrationMap},
          (existing.status = .FAILED → canRetryFailedOfflineOperation existing ≠ true) →
          a = (answerOf existing dto.operationId, locals) → Ran rt (.ret a) s turns y s' →
          Entered rt order rows batch dto locals s turns (y.map fun z => (some z.1, z.2)) s' := by
        rintro a hfinal rfl hret
        obtain ⟨rfl, rfl, rfl⟩ := ran_ret hret
        exact .answered hdup hrow (fun hfailed hretry => absurd hretry (hfinal hfailed)) (by simp)
      cases hstatus : existing.status <;> simp only [replayOperation, hstatus] at h
      case PROCESSED => exact hanswered (by simp [hstatus]) (by simp only [answerOf, hstatus]) h
      case DUPLICATE => exact hanswered (by simp [hstatus]) (by simp only [answerOf, hstatus]) h
      case PENDING => exact hanswered (by simp [hstatus]) (by simp only [answerOf, hstatus]) h
      case SKIPPED => exact hanswered (by simp [hstatus]) (by simp only [answerOf, hstatus]) h
      case FAILED =>
        have hanswer : failedBefore existing dto.operationId = answerOf existing dto.operationId := by
          simp only [answerOf, hstatus]
        split at h
        · next hretry =>
            obtain ⟨x, hx, hid, -⟩ := mem_names.mp (hnamed existing (List.mem_append_right _ hmem))
            rcases ran_bind h with ⟨outcome, s₁, first, second, hrun, hrest, rfl⟩ | ⟨e, herror, rfl⟩
            · cases ran_retryOperation hx hid hrun with
              | taken hx hturns =>
                  obtain ⟨rfl, rfl, rfl⟩ := ran_ret hrest
                  rw [hanswer]
                  exact .answered hdup hrow (fun _ _ => hx) (by simpa using hturns)
              | executed hinput hx hturns hfirst hclaim hbase hexecution =>
                  obtain ⟨rfl, rfl, rfl⟩ := ran_ret hrest
                  rw [hop] at hexecution ⊢
                  exact .retried hdup hrow hstatus hretry hinput (by simpa using hturns) hfirst hx
                    hclaim hbase hexecution
            · cases ran_retryOperation hx hid herror with
              | unreadable hinput => exact .unreadable hdup hrow hstatus hretry hinput
        · next hretry => exact hanswered (fun _ => hretry) (by rw [hanswer]) h

theorem ran_processEntry (hnamed : Named rows s)
    {y : Except Exn (Option OperationResult × LocalRegistrationMap)}
    (h : Ran rt (processEntry rt order rows batch dto locals) s turns y s') :
    Entered rt order rows batch dto locals s turns y s' := by
  unfold processEntry at h
  split at h
  · next hdup =>
      rcases ran_bind h with ⟨a, s₁, first, second, hrun, hret, rfl⟩ | ⟨e, herror, rfl⟩
      · obtain ⟨rfl, rfl, rfl⟩ := ran_ret hret
        rw [List.append_nil]
        exact ran_replayOperation hdup hnamed hrun
      · exact ran_replayOperation hdup hnamed herror
  · next hnew =>
      rw [Bool.not_eq_true] at hnew
      split at h
      · next hrow =>
          obtain ⟨rfl, rfl, rfl⟩ := ran_ret h
          exact .left hnew hrow rfl
      · next operation hrow =>
          obtain ⟨hmem, hop⟩ := rowOf_eq_some hrow
          obtain ⟨x, hx, hid, -⟩ := mem_names.mp (hnamed operation (List.mem_append_left _ hmem))
          rcases ran_bind h with ⟨a, s₁, first, second, hrun, hret, rfl⟩ | ⟨e, herror, -⟩
          · obtain ⟨attempt, hexecution, ha⟩ := ran_processOperation hx hid hrun
            cases ha
            obtain ⟨rfl, rfl, rfl⟩ := ran_ret hret
            rw [List.append_nil, hop]
            exact .executed hnew hrow hexecution
          · obtain ⟨attempt, -, hok⟩ := ran_processOperation hx hid herror
            cases hok

/-! ## What an entry leaves alone -/

/-- Only the row of an operation id changes, and its names do not. -/
structure About (operationId : String) (s s' : SyncStore) : Prop where
  batches : s'.batches = s.batches
  names : names s' = names s
  others : ∀ y : SyncOperation, y.operationId ≠ operationId →
    (y ∈ s'.operations.rows ↔ y ∈ s.operations.rows)

theorem About.refl (operationId : String) (s : SyncStore) : About operationId s s :=
  ⟨rfl, rfl, fun _ _ => Iff.rfl⟩

theorem Touches.about {id : Id} {operationId : String} (h : Touches id s s')
    (hname : (id, operationId) ∈ Solo.names s) : About operationId s s' := by
  refine ⟨h.batches, h.names, fun y hy => ?_⟩
  by_cases hid : y.id = id
  · have habsent : (y.id, y.operationId) ∉ Solo.names s := by
      intro hmem
      exact hy ((names_unique hmem hname).mp hid)
    constructor
    · intro hmem
      exact absurd (h.names ▸ mem_names.mpr ⟨y, hmem, rfl, rfl⟩) habsent
    · intro hmem
      exact absurd (mem_names.mpr ⟨y, hmem, rfl, rfl⟩) habsent
  · exact h.others y hid

/-- The calls about one operation. -/
def AboutTurns (operationId : String) (s : SyncStore)
    (turns : List (Turn SyncResp Exn SyncStore)) : Prop :=
  ∀ turn ∈ turns, ∃ id, (id, operationId) ∈ names s ∧ Concerns operationId id turn.call

/-- A call is about one operation. -/
theorem concerns_unique {a b : String} {i j : Id} (hi : (i, a) ∈ names s) (hj : (j, b) ∈ names s)
    {c : SyncCall} (ha : Concerns a i c) (hb : Concerns b j c) : a = b := by
  cases c with
  | run name c => exact ha.symm.trans hb
  | operationClaim id => exact (names_unique hi hj).mp (ha.symm.trans hb)
  | operationFinish id p => exact (names_unique hi hj).mp (ha.symm.trans hb)
  | _ => exact ha.elim

theorem Named.row {operation : SyncOperation} (hnamed : Named rows s)
    (hrow : rowOf rows.operations dto.operationId = some operation) :
    (operation.id, dto.operationId) ∈ names s := by
  obtain ⟨hmem, hop⟩ := rowOf_eq_some hrow
  exact hop ▸ hnamed operation (List.mem_append_left _ hmem)

theorem Named.existing {existing : SyncOperation} (hnamed : Named rows s)
    (hrow : rowOf rows.existing dto.operationId = some existing) :
    (existing.id, dto.operationId) ∈ names s := by
  obtain ⟨hmem, hop⟩ := rowOf_eq_some hrow
  exact hop ▸ hnamed existing (List.mem_append_right _ hmem)

theorem Named.of_names {s₁ : SyncStore} (hnamed : Named rows s) (h : names s₁ = names s) :
    Named rows s₁ := fun x hx => h ▸ hnamed x hx

/-- An entry is about its own operation. -/
theorem Entered.about {entry : Option OperationResult} {locals' : LocalRegistrationMap}
    (h : Entered rt order rows batch dto locals s turns (.ok (entry, locals')) s')
    (hnamed : Named rows s) :
    About dto.operationId s s' ∧ AboutTurns dto.operationId s turns := by
  cases h with
  | executed hnew hrow hrun =>
      exact ⟨hrun.touches.about (hnamed.row hrow),
        fun turn hturn => ⟨_, hnamed.row hrow, hrun.concerns turn hturn⟩⟩
  | left _ _ hturns | lost _ _ hturns => exact ⟨.refl _ _, by simp [AboutTurns, hturns]⟩
  | answered _ hrow _ hturns =>
      refine ⟨.refl _ _, fun turn hturn => ⟨_, hnamed.existing hrow, ?_⟩⟩
      rw [hturns turn hturn]
      rfl
  | retried _ hrow _ _ _ hturns hfirst _ hclaim _ hrun =>
      refine ⟨(hclaim.trans hrun.touches).about (hnamed.existing hrow), fun turn hturn => ?_⟩
      refine ⟨_, hnamed.existing hrow, ?_⟩
      rw [hturns] at hturn
      rcases List.mem_append.mp hturn with hmem | hmem
      · rw [hfirst turn hmem]
        rfl
      · exact hrun.concerns turn hmem

/-- An entry carries the operation id, and one of three statuses. -/
theorem Entered.entry {entry : OperationResult} {locals' : LocalRegistrationMap}
    (h : Entered rt order rows batch dto locals s turns (.ok (some entry, locals')) s') :
    entry.operationId = dto.operationId ∧
      (entry.status = .PROCESSED ∨ entry.status = .FAILED ∨ entry.status = .DUPLICATE) := by
  have hresult : ∀ result, (resultOf dto.operationId result).status = .PROCESSED ∨
      (resultOf dto.operationId result).status = .FAILED := by
    intro result
    cases result with
    | ok output => exact .inl rfl
    | error error => exact .inr rfl
  cases h with
  | executed | retried =>
      refine ⟨resultOf_operationId _ _, ?_⟩
      exact (hresult _).imp_right .inl
  | lost => exact ⟨rfl, .inr (.inl rfl)⟩
  | @answered existing =>
      unfold answerOf
      cases existing.status with
      | PROCESSED | DUPLICATE => exact ⟨rfl, .inr (.inr rfl)⟩
      | FAILED | PENDING | SKIPPED => exact ⟨rfl, .inr (.inl rfl)⟩

/-! ## The loop -/

/-- The entries of a list of operations, in order. -/
inductive Entries (rt : Runtime) (order : String → Bool) (rows : BatchRows)
    (batch : SubmitSyncBatchDto) : List SubmitSyncOperationDto → LocalRegistrationMap → SyncStore →
    List (Turn SyncResp Exn SyncStore) → List OperationResult → LocalRegistrationMap →
    SyncStore → Prop
  | nil {locals : LocalRegistrationMap} {s : SyncStore} :
      Entries rt order rows batch [] locals s [] [] locals s
  | cons {dto : SubmitSyncOperationDto} {rest : List SubmitSyncOperationDto}
      {locals locals' last : LocalRegistrationMap} {s s₁ s' : SyncStore}
      {first second : List (Turn SyncResp Exn SyncStore)} {entry : Option OperationResult}
      {results : List OperationResult}
      (hentry : Entered rt order rows batch dto locals s first (.ok (entry, locals')) s₁)
      (hrest : Entries rt order rows batch rest locals' s₁ second results last s') :
      Entries rt order rows batch (dto :: rest) locals s (first ++ second)
        (entry.toList ++ results) last s'

/-- The loop enters every operation, unless the input of a stored row cannot be read. -/
theorem ran_processEntries (hnamed : Named rows s) {operations : List SubmitSyncOperationDto}
    {y : Except Exn (List OperationResult)}
    (h : Ran rt (processEntries rt order rows batch operations locals) s turns y s') :
    (∃ results last, y = .ok results ∧
        Entries rt order rows batch operations locals s turns results last s') ∨
      ∃ existing ∈ rows.existing, existing.status = .FAILED ∧
        canRetryFailedOfflineOperation existing = true ∧
        ∃ e, toRecord existing.input = .error e ∧ y = .error e := by
  induction operations generalizing locals s turns y with
  | nil =>
      obtain ⟨rfl, rfl, rfl⟩ := ran_ret h
      exact .inl ⟨[], locals, rfl, .nil⟩
  | cons dto rest ih =>
      rcases ran_bind h with ⟨⟨entry, locals'⟩, s₁, first, second, hrun, hrest, rfl⟩ | ⟨e, herror, rfl⟩
      · have hentry := ran_processEntry hnamed hrun
        have hnamed₁ := hnamed.of_names (hentry.about hnamed).1.names
        rcases ran_bind hrest with ⟨results, s₂, third, nothing, hloop, hret, rfl⟩ | ⟨e, herror, rfl⟩
        · obtain ⟨rfl, rfl, rfl⟩ := ran_ret hret
          rcases ih hnamed₁ hloop with ⟨results', last, hok, hentries⟩ | ⟨existing, -, -, -, e, -, herr⟩
          · cases hok
            rw [List.append_nil]
            exact .inl ⟨_, last, rfl, .cons hentry hentries⟩
          · cases herr
        · rcases ih hnamed₁ herror with ⟨results', last, hok, -⟩ | hbad
          · cases hok
          · exact .inr hbad
      · cases ran_processEntry hnamed herror with
        | unreadable _ hrow hfailed hretry hinput =>
            exact .inr ⟨_, (rowOf_eq_some hrow).1, hfailed, hretry, _, hinput, rfl⟩

/-- What a list of operations leaves alone. -/
structure AboutAll (operations : List SubmitSyncOperationDto) (s : SyncStore)
    (turns : List (Turn SyncResp Exn SyncStore)) (s' : SyncStore) : Prop where
  batches : s'.batches = s.batches
  names : names s' = names s
  others : ∀ y : SyncOperation, (∀ dto ∈ operations, y.operationId ≠ dto.operationId) →
    (y ∈ s'.operations.rows ↔ y ∈ s.operations.rows)
  turns : ∀ turn ∈ turns, ∃ dto ∈ operations, ∃ id, (id, dto.operationId) ∈ Solo.names s ∧
    Concerns dto.operationId id turn.call

theorem Entries.about {operations : List SubmitSyncOperationDto} {results : List OperationResult}
    {last : LocalRegistrationMap}
    (h : Entries rt order rows batch operations locals s turns results last s')
    (hnamed : Named rows s) : AboutAll operations s turns s' := by
  induction h with
  | nil => exact ⟨rfl, rfl, fun _ _ => Iff.rfl, by simp⟩
  | @cons dto rest _ _ _ s s₁ s' _ _ _ _ hentry hrest ih =>
      obtain ⟨habout, hturns⟩ := hentry.about hnamed
      obtain ⟨hbatches, hnames, hothers, hlater⟩ := ih (hnamed.of_names habout.names)
      refine ⟨hbatches.trans habout.batches, hnames.trans habout.names, fun y hy => ?_, ?_⟩
      · calc y ∈ s'.operations.rows
            ↔ y ∈ s₁.operations.rows := hothers y fun other hother =>
              hy other (List.mem_cons_of_mem _ hother)
          _ ↔ y ∈ s.operations.rows := habout.others y (hy dto List.mem_cons_self)
      · intro turn hturn
        rcases List.mem_append.mp hturn with hmem | hmem
        · exact ⟨dto, List.mem_cons_self, hturns turn hmem⟩
        · obtain ⟨other, hother, id, hname, hconcerns⟩ := hlater turn hmem
          exact ⟨other, List.mem_cons_of_mem _ hother, id, habout.names ▸ hname, hconcerns⟩

/-- The entries before an operation, its own, and those after it. -/
theorem Entries.split {pre post : List SubmitSyncOperationDto} {results : List OperationResult}
    {last : LocalRegistrationMap}
    (h : Entries rt order rows batch (pre ++ dto :: post) locals s turns results last s') :
    ∃ locals₁ locals₂ entry s₁ s₂ before own after earlier later,
      Entries rt order rows batch pre locals s before earlier locals₁ s₁ ∧
      Entered rt order rows batch dto locals₁ s₁ own (.ok (entry, locals₂)) s₂ ∧
      Entries rt order rows batch post locals₂ s₂ after later last s' ∧
      turns = before ++ own ++ after ∧ results = earlier ++ entry.toList ++ later := by
  induction pre generalizing locals s turns results with
  | nil =>
      cases h with
      | cons hentry hrest => exact ⟨_, _, _, _, _, _, _, _, _, _, .nil, hentry, hrest, rfl, rfl⟩
  | cons head pre ih =>
      cases h with
      | cons hentry hrest =>
          obtain ⟨locals₁, locals₂, entry, s₁, s₂, before, own, after, earlier, later, hpre, hown,
            hpost, rfl, rfl⟩ := ih hrest
          exact ⟨locals₁, locals₂, entry, s₁, s₂, _, own, after, _, later, .cons hentry hpre, hown,
            hpost, by simp only [List.append_assoc], by simp only [List.append_assoc]⟩

end Solo

end CreativeBackend
