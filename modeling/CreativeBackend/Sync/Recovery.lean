import CreativeBackend.Sync.Solo
import CreativeBackend.Sync.Persons

/-!
# Calls of the recovery

The recovery reads the oldest failed registrations up to its limit, and retries those of
them that can be retried. The others stay where they are and take up room of the limit.
-/

namespace CreativeBackend

open Relational Interaction

namespace Recovery

open SyncService Solo

variable {rt : Runtime} {order : String → Bool} {s s₁ s' : SyncStore} {input : RecoverInput}
  {turns first second : List (Turn SyncResp Exn SyncStore)} {x : SyncOperation}

/-! ## Rows that can be retried -/

/-- A failure that is retried when the recovery finds it. -/
def Retryable (x : SyncOperation) : Prop :=
  x.status = .FAILED ∧ canRetryFailedOfflineOperation x = true

instance : DecidablePred Retryable := fun _ => inferInstanceAs (Decidable (_ ∧ _))

/-- The failures that can be retried. -/
def retryable (s : SyncStore) : List SyncOperation := s.operations.rows.filter (Retryable ·)

theorem mem_retryable : x ∈ retryable s ↔ x ∈ s.operations.rows ∧ Retryable x := by
  rw [retryable, List.mem_filter, decide_eq_true_eq]

theorem retryable_nodup (s : SyncStore) : (retryable s).Nodup :=
  (List.Nodup.of_map _ s.operations.nodup).filter _

/-- A step after which one of them is gone, and none is new. -/
theorem retryable_length_lt (hx : x ∈ s.operations.rows) (hretry : Retryable x)
    (hgone : x ∉ retryable s') (hkept : ∀ z ∈ retryable s', z ∈ s.operations.rows) :
    (retryable s').length < (retryable s).length := by
  have hnodup : (x :: retryable s').Nodup := List.nodup_cons.mpr ⟨hgone, retryable_nodup s'⟩
  have hsubset : ∀ z ∈ x :: retryable s', z ∈ retryable s := by
    intro z hz
    rw [mem_retryable]
    rcases List.mem_cons.mp hz with rfl | hz
    · exact ⟨hx, hretry⟩
    · exact ⟨hkept z hz, (mem_retryable.mp hz).2⟩
  have hlength := (List.subperm_of_subset hnodup hsubset).length_le
  rw [List.length_cons] at hlength
  omega

/-! ## The rounds of a call -/

/-- The operation of a row was executed to its end. -/
def Reexecuted (turns : List (Turn SyncResp Exn SyncStore)) (id : Id) : Prop :=
  ∃ turn ∈ turns, ∃ p, turn.call = .operationFinish id p

/-- What rounds of the recovery do to the rows: one that is new has just been executed, or
is no failure. -/
structure Rounds (s : SyncStore) (turns : List (Turn SyncResp Exn SyncStore)) (s' : SyncStore) :
    Prop where
  batches : s'.batches = s.batches
  names : names s' = names s
  rows : ∀ z ∈ s'.operations.rows,
    z ∈ s.operations.rows ∨ Reexecuted turns z.id ∨ z.status ≠ .FAILED

theorem Reexecuted.append_left {id : Id} (h : Reexecuted first id) :
    Reexecuted (first ++ second) id := by
  obtain ⟨turn, hturn, hcall⟩ := h
  exact ⟨turn, List.mem_append_left _ hturn, hcall⟩

theorem Reexecuted.append_right {id : Id} (h : Reexecuted second id) :
    Reexecuted (first ++ second) id := by
  obtain ⟨turn, hturn, hcall⟩ := h
  exact ⟨turn, List.mem_append_right _ hturn, hcall⟩

theorem Rounds.refl (s : SyncStore) : Rounds s turns s := ⟨rfl, rfl, fun _ hz => .inl hz⟩

theorem Rounds.trans (h : Rounds s first s₁) (h' : Rounds s₁ second s') :
    Rounds s (first ++ second) s' where
  batches := h'.batches.trans h.batches
  names := h'.names.trans h.names
  rows z hz := by
    rcases h'.rows z hz with hold | hdone | hstatus
    · exact (h.rows z hold).imp_right (Or.imp_left Reexecuted.append_left)
    · exact .inr (.inl hdone.append_right)
    · exact .inr (.inr hstatus)

/-- The row of an operation is not as the recovery found it. -/
def Taken (turns : List (Turn SyncResp Exn SyncStore)) (s' : SyncStore) (id : Id) : Prop :=
  ∀ z ∈ s'.operations.rows, z.id = id → Reexecuted turns id ∨ z.status ≠ .FAILED

/-- Later rounds leave it so. -/
theorem Taken.trans {id : Id} (h : Taken first s₁ id) (h' : Rounds s₁ second s') :
    Taken (first ++ second) s' id := by
  rintro z hz rfl
  rcases h'.rows z hz with hold | hdone | hstatus
  · exact (h z hold rfl).imp_left Reexecuted.append_left
  · exact .inl hdone.append_right
  · exact .inr hstatus

/-- What changes one row. -/
theorem rounds_of_touches {id : Id} (h : Touches id s s') (htaken : Taken turns s' id) :
    Rounds s turns s' := by
  refine ⟨h.batches, h.names, fun z hz => ?_⟩
  by_cases hid : z.id = id
  · exact .inr (hid ▸ htaken z hz hid)
  · exact .inl ((h.others z hid).mp hz)

/-- The row of a key is still there. -/
theorem exists_row {id : Id} (h : names s' = names s) (hx : ∃ x ∈ s.operations.rows, x.id = id) :
    ∃ x ∈ s'.operations.rows, x.id = id := by
  obtain ⟨x, hx, hid⟩ := hx
  obtain ⟨z, hz, hzid, -⟩ := mem_names.mp (h ▸ mem_names.mpr ⟨x, hx, hid, rfl⟩)
  exact ⟨z, hz, hzid⟩

theorem ran_recoverOperation {operation : SyncOperation} {batch : SyncBatch}
    (hx : ∃ x ∈ s.operations.rows, x.id = operation.id) {y : Except Exn OperationResult}
    (h : Ran rt (recoverOperation rt order operation batch) s turns y s') :
    Rounds s turns s' ∧ Taken turns s' operation.id := by
  obtain ⟨x, hx, hid⟩ := hx
  have hretried : ∀ {y turns s₁}, Retried rt order operation
      (recoveredBatch operation batch ((Json.record? (some operation.input)).getD [])) [] s turns y
      s₁ → Rounds s turns s₁ ∧ Taken turns s₁ operation.id := by
    intro y turns s₁ h
    cases h with
    | taken hnone => exact ⟨.refl s, fun z hz hzid => .inr (hnone z hz hzid)⟩
    | unreadable _ hclaimed htouches =>
        obtain ⟨x, -, hid, -, hrow⟩ := hclaimed
        have htaken : Taken turns s₁ operation.id := by
          intro z hz hzid
          have hzx : z = SyncStore.claimedRow x := s₁.operations.eq_of_key hz hrow (hzid.trans hid.symm)
          rw [hzx]
          exact .inr (by simp [SyncStore.claimedRow])
        exact ⟨rounds_of_touches htouches htaken, htaken⟩
    | @executed payload attempt _ _ _ _ _ _ hturns _ hclaim _ hrun =>
        obtain ⟨body, s₂, row, -, -, hbody⟩ := hrun.ran
        have htaken : Taken turns s₁ operation.id := by
          intro z hz hzid
          refine .inl ⟨⟨.operationFinish operation.id (patchOf attempt.result), .ok row, s₂⟩, ?_, _, rfl⟩
          rw [hturns, hbody]
          simp
        exact ⟨rounds_of_touches (hclaim.trans hrun.touches) htaken, htaken⟩
  unfold recoverOperation at h
  rcases ran_bind h with ⟨outcome, s₁, own, last, hrun, hrest, rfl⟩ | ⟨e, herror, -⟩
  · cases outcome with
    | none =>
        obtain ⟨-, rfl, rfl⟩ := ran_ret hrest
        rw [List.append_nil]
        exact hretried (ran_retryOperation hx hid hrun)
    | some outcome =>
        obtain ⟨result, locals⟩ := outcome
        obtain ⟨-, rfl, rfl⟩ := ran_ret hrest
        rw [List.append_nil]
        exact hretried (ran_retryOperation hx hid hrun)
  · exact hretried (ran_retryOperation hx hid herror)

/-- A call of the loop, of which the first round was made. -/
theorem ran_recoverOperations {operations : List (SyncOperation × SyncBatch)}
    (hrows : ∀ o ∈ operations, ∃ x ∈ s.operations.rows, x.id = o.1.id)
    {y : Except Exn (List OperationResult)}
    (h : Ran rt (recoverOperations rt order operations) s turns y s') :
    Rounds s turns s' ∧ ∀ o ∈ operations.head?, Taken turns s' o.1.id := by
  induction operations generalizing s turns y with
  | nil =>
      obtain ⟨-, rfl, -⟩ := ran_ret h
      exact ⟨.refl _, by simp⟩
  | cons o rest ih =>
      obtain ⟨operation, batch⟩ := o
      have hx := hrows _ List.mem_cons_self
      rcases ran_bind h with ⟨result, s₁, own, later, hrun, hrest, rfl⟩ | ⟨e, herror, -⟩
      · obtain ⟨hown, htaken⟩ := ran_recoverOperation hx hrun
        have hrows' : ∀ o ∈ rest, ∃ x ∈ s₁.operations.rows, x.id = o.1.id := fun o ho =>
          exists_row hown.names (hrows o (List.mem_cons_of_mem _ ho))
        have hloop : ∃ tail, later = tail ∧ Rounds s₁ tail s' := by
          rcases ran_bind hrest with ⟨results, s₂, loop, last, hloop, hret, rfl⟩ | ⟨e, herror, -⟩
          · obtain ⟨-, rfl, rfl⟩ := ran_ret hret
            exact ⟨_, by rw [List.append_nil], (ih hrows' hloop).1⟩
          · exact ⟨_, rfl, (ih hrows' herror).1⟩
        obtain ⟨tail, rfl, hrounds⟩ := hloop
        refine ⟨hown.trans hrounds, fun o ho => ?_⟩
        cases ho
        exact htaken.trans hrounds
      · obtain ⟨hown, htaken⟩ := ran_recoverOperation hx herror
        refine ⟨hown, fun o ho => ?_⟩
        cases ho
        exact htaken

/-! ## The queue -/

/-- The batches that a recovery is asked about. -/
def InScope (input : RecoverInput) (b : SyncBatch) : Prop :=
  (∀ eventId, truthy input.eventId = some eventId → b.eventId = eventId) ∧
    ∀ deviceId, truthy input.deviceId = some deviceId → b.deviceId = deviceId

/-- How many failures a call reads at most. -/
def recoverLimit (input : RecoverInput) : Nat := (min 1000 (max 1 (input.limit.getD 250))).toNat

/-- The failures of the scope, with their batches. -/
def joined (operations : List SyncOperation) (s : SyncStore) (input : RecoverInput) :
    List (SyncOperation × SyncBatch) :=
  (operations.filterMap fun x => (s.batches.find? x.syncBatchId).map fun b => (x, b)).filter
    fun o => (truthy input.eventId).all (o.2.eventId = ·) &&
      (truthy input.deviceId).all (o.2.deviceId = ·)

/-- The failed registrations of the scope. -/
def failures (s : SyncStore) (input : RecoverInput) : List (SyncOperation × SyncBatch) :=
  joined (s.operations.rows.filter fun x => x.type = .OFFLINE_REGISTRATION ∧ x.status = .FAILED) s
    input

/-- All failures that a call reads from, oldest first. -/
def queue (ch : Choice) (s : SyncStore) (input : RecoverInput) : List (SyncOperation × SyncBatch) :=
  joined (s.operationsWhere ch fun x => x.type = .OFFLINE_REGISTRATION ∧ x.status = .FAILED) s input

theorem queue_perm (ch : Choice) (s : SyncStore) (input : RecoverInput) :
    (queue ch s input).Perm (failures s input) :=
  ((List.perm_insertionSort _ _).filterMap _).filter _

theorem mem_failures {o : SyncOperation × SyncBatch} :
    o ∈ failures s input ↔ o.1 ∈ s.operations.rows ∧ o.1.type = .OFFLINE_REGISTRATION ∧
      o.1.status = .FAILED ∧ s.batches.find? o.1.syncBatchId = some o.2 ∧ InScope input o.2 := by
  obtain ⟨x, b⟩ := o
  rw [failures, joined, List.mem_filter, List.mem_filterMap]
  simp only [List.mem_filter, decide_eq_true_eq, Option.map_eq_some_iff, Bool.and_eq_true, InScope]
  constructor
  · rintro ⟨⟨z, ⟨hz, htype, hstatus⟩, b', hb, heq⟩, hevent, hdevice⟩
    cases heq
    refine ⟨hz, htype, hstatus, hb, fun id hid => ?_, fun id hid => ?_⟩
    · simpa [hid] using hevent
    · simpa [hid] using hdevice
  · rintro ⟨hx, htype, hstatus, hb, hevent, hdevice⟩
    refine ⟨⟨x, ⟨hx, htype, hstatus⟩, b, hb, rfl⟩, ?_, ?_⟩
    · cases hid : truthy input.eventId with
      | none => rfl
      | some id => simpa using hevent id hid
    · cases hid : truthy input.deviceId with
      | none => rfl
      | some id => simpa using hdevice id hid

theorem createdFirst_total (ch : Choice) (a b : SyncOperation) :
    SyncStore.createdFirst ch a b ∨ SyncStore.createdFirst ch b a := by
  unfold SyncStore.createdFirst
  rcases lt_trichotomy a.createdAt b.createdAt with h | h | h
  · exact .inl (.inl h)
  · exact (le_total (ch.rank a.id) (ch.rank b.id)).imp (fun hr => .inr ⟨h, hr⟩)
      fun hr => .inr ⟨h.symm, hr⟩
  · exact .inr (.inl h)

theorem createdFirst_trans (ch : Choice) {a b c : SyncOperation}
    (hab : SyncStore.createdFirst ch a b) (hbc : SyncStore.createdFirst ch b c) :
    SyncStore.createdFirst ch a c := by
  rcases hab with hab | ⟨hab, hr⟩
  · rcases hbc with hbc | ⟨hbc, -⟩
    · exact .inl (lt_trans hab hbc)
    · exact .inl (hbc ▸ hab)
  · rcases hbc with hbc | ⟨hbc, hr'⟩
    · exact .inl (hab ▸ hbc)
    · exact .inr ⟨hab.trans hbc, le_trans hr hr'⟩

/-- The queue is in the order of creation. -/
theorem queue_ordered (ch : Choice) (s : SyncStore) (input : RecoverInput) :
    (queue ch s input).Pairwise fun a b => a.1.createdAt ≤ b.1.createdAt := by
  have htotal : Std.Total (SyncStore.createdFirst ch) := ⟨createdFirst_total ch⟩
  have htrans : IsTrans SyncOperation (SyncStore.createdFirst ch) :=
    ⟨fun _ _ _ => createdFirst_trans ch⟩
  have hsorted : (s.operationsWhere ch fun x =>
      x.type = .OFFLINE_REGISTRATION ∧ x.status = .FAILED).Pairwise (SyncStore.createdFirst ch) :=
    List.pairwise_insertionSort _ _
  refine List.Pairwise.filter _ (List.pairwise_filterMap.mpr (hsorted.imp ?_))
  intro a b hab z hz w hw
  obtain ⟨_, -, rfl⟩ := Option.map_eq_some_iff.mp hz
  obtain ⟨_, -, rfl⟩ := Option.map_eq_some_iff.mp hw
  rcases hab with hab | ⟨hab, -⟩
  · exact le_of_lt hab
  · exact le_of_eq hab

/-- No failure of the scope is left that can be retried. -/
def NoneLeft (s : SyncStore) (input : RecoverInput) : Prop :=
  ∀ x ∈ s.operations.rows, Retryable x →
    ∀ b, s.batches.find? x.syncBatchId = some b → ¬ InScope input b

/-- The failures of the scope that are final, and not younger than another one. -/
def finalBefore (s : SyncStore) (input : RecoverInput) (x : SyncOperation) :
    List (SyncOperation × SyncBatch) :=
  (failures s input).filter fun o =>
    !canRetryFailedOfflineOperation o.1 && decide (o.1.createdAt ≤ x.createdAt)

/-- Before every failure that can be retried there are fewer final ones than a call reads. -/
def Unobstructed (s : SyncStore) (input : RecoverInput) : Prop :=
  ∀ o ∈ failures s input, canRetryFailedOfflineOperation o.1 = true →
    (finalBefore s input o.1).length < recoverLimit input

theorem type_of_retryable (h : Retryable x) : x.type = .OFFLINE_REGISTRATION := by
  obtain ⟨-, hretry⟩ := h
  by_contra htype
  rw [canRetryFailedOfflineOperation, if_pos htype] at hretry
  cases hretry

theorem noneLeft_iff :
    NoneLeft s input ↔ ∀ o ∈ failures s input, canRetryFailedOfflineOperation o.1 = false := by
  constructor
  · intro h o ho
    obtain ⟨hmem, -, hfailed, hb, hscope⟩ := mem_failures.mp ho
    rw [← Bool.not_eq_true]
    exact fun hretry => h o.1 hmem ⟨hfailed, hretry⟩ o.2 hb hscope
  · intro h x hx hretry b hb hscope
    have hmem : (x, b) ∈ failures s input :=
      mem_failures.mpr ⟨hx, type_of_retryable hretry, hretry.1, hb, hscope⟩
    have hfalse := h (x, b) hmem
    rw [hretry.2] at hfalse
    cases hfalse

/-- Where a call finds nothing to retry, what is left to retry is behind final failures. -/
theorem noneLeft_iff_unobstructed {ch : Choice}
    (hnone : ((queue ch s input).take (recoverLimit input)).filter
      (fun o => canRetryFailedOfflineOperation o.1) = []) :
    NoneLeft s input ↔ Unobstructed s input := by
  rw [noneLeft_iff]
  constructor
  · intro hleft o ho hretry
    rw [hleft o ho] at hretry
    cases hretry
  · intro hfew o ho
    rw [← Bool.not_eq_true]
    intro hretry
    obtain ⟨first, hfirst⟩ : ∃ first, (queue ch s input).find?
        (fun o => canRetryFailedOfflineOperation o.1) = some first :=
      Option.isSome_iff_exists.mp
        (List.find?_isSome.mpr ⟨o, (queue_perm ch s input).mem_iff.mpr ho, hretry⟩)
    obtain ⟨hcan, before, after, hqueue, hbefore⟩ := List.find?_eq_some_iff_append.mp hfirst
    have hordered := queue_ordered ch s input
    have hperm := queue_perm ch s input
    rw [hqueue] at hordered hnone hperm
    have hlength : before.length < recoverLimit input := by
      refine lt_of_le_of_lt ?_ (hfew first (hperm.mem_iff.mp (by simp)) hcan)
      have hpart : before.Sublist ((before ++ first :: after).filter fun o =>
          !canRetryFailedOfflineOperation o.1 && decide (o.1.createdAt ≤ first.1.createdAt)) := by
        rw [List.filter_append, List.filter_eq_self.mpr]
        · exact List.sublist_append_left _ _
        · intro z hz
          have hle := (List.pairwise_append.mp hordered).2.2 z hz first List.mem_cons_self
          rw [Bool.and_eq_true, decide_eq_true_eq]
          exact ⟨hbefore z hz, hle⟩
      calc before.length
          ≤ _ := hpart.length_le
        _ = (finalBefore s input first.1).length := (hperm.filter _).length_eq
    have hmem : first ∈ (before ++ first :: after).take (recoverLimit input) := by
      rw [List.take_append]
      obtain ⟨m, hm⟩ := Nat.exists_eq_succ_of_ne_zero (Nat.sub_ne_zero_of_lt hlength)
      rw [hm, List.take_succ_cons]
      exact List.mem_append_right _ List.mem_cons_self
    exact List.filter_eq_nil_iff.mp hnone first hmem hcan

/-! ## A call -/

/-- The call reports that it attempted nothing. -/
def AttemptsNone (y : Except Exn RecoverReply) : Prop :=
  ∃ scanned processed failed skipped results,
    y = .ok (.attempted scanned 0 processed failed skipped results)

/-- What a call of the recovery does. -/
inductive Called (input : RecoverInput) (s : SyncStore)
    (turns : List (Turn SyncResp Exn SyncStore)) (y : Except Exn RecoverReply) :
    SyncStore → Prop
  | idle (ch : Choice) (hy : AttemptsNone y)
      (hnone : ((queue ch s input).take (recoverLimit input)).filter
        (fun x => canRetryFailedOfflineOperation x.1) = []) : Called input s turns y s
  | busy {x : SyncOperation} {s' : SyncStore} (hy : ¬ AttemptsNone y) (hx : x ∈ s.operations.rows) (hretry : Retryable x)
      (hrounds : Rounds s turns s') (htaken : Taken turns s' x.id) : Called input s turns y s'

/-- The loop of a call, and its report. -/
theorem called_of_loop {ch : Choice} {recoverable : List (SyncOperation × SyncBatch)}
    (hrecoverable : ((queue ch s input).take (recoverLimit input)).filter
      (fun x => canRetryFailedOfflineOperation x.1) = recoverable) {y : Except Exn RecoverReply}
    {report : List OperationResult → RecoverReply}
    (hreport : ∀ results, ∃ scanned processed failed skipped,
      report results = .attempted scanned recoverable.length processed failed skipped results)
    (h : Ran rt (recoverOperations rt order recoverable >>= fun results => .ret (report results)) s
      turns y s') : Called input s turns y s' := by
  have hmem : ∀ o ∈ recoverable, o.1 ∈ s.operations.rows ∧ Retryable o.1 := by
    intro o ho
    rw [← hrecoverable, List.mem_filter] at ho
    have hfailure := (queue_perm ch s input).mem_iff.mp (List.mem_of_mem_take ho.1)
    obtain ⟨hx, -, hfailed, -⟩ := mem_failures.mp hfailure
    exact ⟨hx, hfailed, ho.2⟩
  cases recoverable with
  | nil =>
      obtain ⟨scanned, processed, failed, skipped, heq⟩ := hreport []
      rcases ran_bind h with ⟨results, s₁, loop, last, hloop, hret, rfl⟩ | ⟨e, herror, -⟩
      · obtain ⟨hresults, rfl, rfl⟩ := ran_ret hloop
        cases hresults
        obtain ⟨rfl, rfl, rfl⟩ := ran_ret hret
        exact .idle ch ⟨scanned, processed, failed, skipped, [], congrArg Except.ok heq⟩ hrecoverable
      · cases (ran_ret herror).1
  | cons o rest =>
      obtain ⟨hx, hretry⟩ := hmem o List.mem_cons_self
      have hrows : ∀ z ∈ o :: rest, ∃ x ∈ s.operations.rows, x.id = z.1.id := fun z hz =>
        ⟨z.1, (hmem z hz).1, rfl⟩
      rcases ran_bind h with ⟨results, s₁, loop, last, hloop, hret, rfl⟩ | ⟨e, herror, rfl⟩
      · obtain ⟨rfl, rfl, rfl⟩ := ran_ret hret
        obtain ⟨hrounds, htaken⟩ := ran_recoverOperations hrows hloop
        rw [List.append_nil]
        refine .busy ?_ hx hretry hrounds (htaken o rfl)
        rintro ⟨_, _, _, _, _, hnone⟩
        obtain ⟨scanned, processed, failed, skipped, heq⟩ := hreport results
        rw [heq] at hnone
        cases hnone
      · obtain ⟨hrounds, htaken⟩ := ran_recoverOperations hrows herror
        refine .busy ?_ hx hretry hrounds (htaken o rfl)
        rintro ⟨_, _, _, _, _, hnone⟩
        cases hnone

/-- The read before the loop. -/
theorem Called.after {y : Except Exn RecoverReply} (h : Called input s second y s') :
    Called input s (first ++ second) y s' := by
  cases h with
  | idle ch hy hnone => exact .idle ch hy hnone
  | busy hy hx hretry hrounds htaken =>
      refine .busy hy hx hretry ((Rounds.refl s).trans hrounds) ?_
      exact fun z hz hid => (htaken z hz hid).imp_left Reexecuted.append_right

theorem ran_recover (hdry : input.dryRun = false) {y : Except Exn RecoverReply}
    (h : Ran rt (recoverFailedOfflineRegistrations rt order input) s turns y s') :
    Called input s turns y s' := by
  rcases ran_bind h with ⟨failed, s₁, own, later, hread, hrest, rfl⟩ | ⟨e, herror, -⟩
  · obtain ⟨ho, rfl⟩ := ran_call hread
    obtain ⟨ch, hm⟩ := machine_of_outcome ho not_false
    obtain ⟨hfailed, rfl⟩ := Prod.ext_iff.mp hm
    cases hfailed
    simp only [hdry, Bool.false_eq_true, if_false] at hrest
    exact (called_of_loop rfl (fun results => ⟨_, _, _, _, rfl⟩) hrest).after
  · obtain ⟨ho, -⟩ := ran_call herror
    obtain ⟨ch, hm⟩ := machine_of_outcome ho not_false
    cases (Prod.ext_iff.mp hm).1

/-! ## Calls until one attempts nothing -/

/-- No operation that the call executed can be retried again. -/
def NoneFailsAgain (turns : List (Turn SyncResp Exn SyncStore)) (s' : SyncStore) : Prop :=
  ∀ x ∈ s'.operations.rows, Reexecuted turns x.id → ¬ Retryable x

/-- A call that attempts something leaves less to retry. -/
theorem Called.retryable_length_lt {y : Except Exn RecoverReply} (h : Called input s turns y s')
    (hbusy : ¬ AttemptsNone y) (hfinal : NoneFailsAgain turns s') :
    (retryable s').length < (retryable s).length := by
  cases h with
  | idle _ hy => exact absurd hy hbusy
  | busy _ hx hretry hrounds htaken =>
      refine Recovery.retryable_length_lt hx hretry ?_ ?_
      · intro hmem
        obtain ⟨hx', hretry'⟩ := mem_retryable.mp hmem
        rcases htaken _ hx' rfl with hdone | hstatus
        · exact hfinal _ hx' hdone hretry'
        · exact hstatus hretry'.1
      · intro z hz
        obtain ⟨hz', hretry'⟩ := mem_retryable.mp hz
        rcases hrounds.rows z hz' with hold | hdone | hstatus
        · exact hold
        · exact absurd hretry' (hfinal z hz' hdone)
        · exact absurd hretry'.1 hstatus

/-- Calls of the recovery with the same arguments, one after the other, as long as none
has reported that it attempted nothing. -/
structure Recoveries (rt : Runtime) (input : RecoverInput) where
  state : Nat → SyncStore
  order : Nat → String → Bool
  turns : Nat → List (Turn SyncResp Exn SyncStore)
  reply : Nat → Except Exn RecoverReply
  ran : ∀ i, (∀ j < i, ¬ AttemptsNone (reply j)) →
    Ran rt (recoverFailedOfflineRegistrations rt (order i) input) (state i) (turns i) (reply i)
      (state (i + 1))

/-- The operations that the calls execute do not fail retryably again. -/
def Recoveries.Settles (calls : Recoveries rt input) : Prop :=
  ∀ i, (∀ j ≤ i, ¬ AttemptsNone (calls.reply j)) →
    NoneFailsAgain (calls.turns i) (calls.state (i + 1))

/-- The call is the first that reports that it attempted nothing. -/
structure Recoveries.EndsAt (calls : Recoveries rt input) (n : Nat) : Prop where
  none : AttemptsNone (calls.reply n)
  earlier : ∀ j < n, ¬ AttemptsNone (calls.reply j)

theorem Recoveries.retryable_length (calls : Recoveries rt input) (hdry : input.dryRun = false)
    (hsettles : calls.Settles) {n : Nat} (hbusy : ∀ j < n, ¬ AttemptsNone (calls.reply j)) :
    (retryable (calls.state n)).length + n ≤ (retryable (calls.state 0)).length := by
  induction n with
  | zero => exact Nat.le_refl _
  | succ n ih =>
      have hbefore : ∀ j < n, ¬ AttemptsNone (calls.reply j) := fun j hj =>
        hbusy j (Nat.lt_succ_of_lt hj)
      have hlt := (ran_recover hdry (calls.ran n hbefore)).retryable_length_lt
        (hbusy n (Nat.lt_succ_self n)) (hsettles n fun j hj => hbusy j (Nat.lt_succ_of_le hj))
      have hle := ih hbefore
      omega

theorem Recoveries.exists_end (calls : Recoveries rt input) (hdry : input.dryRun = false)
    (hsettles : calls.Settles) :
    ∃ n ≤ (retryable (calls.state 0)).length, calls.EndsAt n := by
  classical
  have hends : ∃ n, AttemptsNone (calls.reply n) := by
    by_contra hnever
    have hlength := calls.retryable_length hdry hsettles
      (n := (retryable (calls.state 0)).length + 1) fun j _ hj => hnever ⟨j, hj⟩
    omega
  have hearlier : ∀ j < Nat.find hends, ¬ AttemptsNone (calls.reply j) := fun j hj =>
    Nat.find_min hends hj
  have hlength := calls.retryable_length hdry hsettles hearlier
  exact ⟨Nat.find hends, by omega, Nat.find_spec hends, hearlier⟩

end Recovery

namespace Recovery

open SyncService

/-- The number that a call reports as attempted. -/
def attempted? : Except Exn RecoverReply → Option Nat
  | .ok (.attempted _ attempted _ _ _ _) => some attempted
  | _ => none

theorem attemptsNone_iff {y : Except Exn RecoverReply} : AttemptsNone y ↔ attempted? y = some 0 := by
  constructor
  · rintro ⟨scanned, processed, failed, skipped, results, rfl⟩
    rfl
  · intro h
    cases y with
    | error e => cases h
    | ok reply =>
        cases reply with
        | dryRun => cases h
        | attempted scanned n processed failed skipped results =>
            cases h
            exact ⟨scanned, processed, failed, skipped, results, rfl⟩

/-- The store after some calls of the recovery. -/
def recovered (input : RecoverInput) (s : SyncStore) : Nat → SyncStore
  | 0 => s
  | n + 1 => ((recoverFailedOfflineRegistrations sampleRuntime (fun _ => true) input).run
      (syncMachine sampleRuntime {}) (recovered input s n)).2

/-- The reply of the next call. -/
def recoveredReply (input : RecoverInput) (s : SyncStore) (n : Nat) : Except Exn RecoverReply :=
  ((recoverFailedOfflineRegistrations sampleRuntime (fun _ => true) input).run
    (syncMachine sampleRuntime {}) (recovered input s n)).1

/-- Calls without failures. -/
def sampleCalls (input : RecoverInput) (s : SyncStore) : Recoveries sampleRuntime input where
  state := recovered input s
  order _ _ := true
  turns n := (recoverFailedOfflineRegistrations sampleRuntime (fun _ => true) input).turns
    (syncMachine sampleRuntime {}) (recovered input s n)
  reply := recoveredReply input s
  ran _ _ := Service.runs_of_run (Solo.solo sampleRuntime) (fun _ => rfl) {} _ _

/-- The sample card, failed with a code. -/
def failedCard (operationId : String) (createdAt : Time) (errorCode : Option String) :
    SyncOperation where
  syncBatchId := "c0"
  operationId
  type := .OFFLINE_REGISTRATION
  status := .FAILED
  input := .obj (Persons.sampleRegistration []).payload
  errorCode
  createdAt

/-- The batch of the failed cards. -/
def failedBatch : SyncBatch where
  batchId := "batch-1"
  eventId := "c0"
  deviceId := "c0"
  payload := sampleBatch "batch-1" []

/-- A store with failed cards. -/
def failedStore (cards : List SyncOperation)
    (h : ∀ x ∈ (Table.ofData cards).rows, x.syncBatchId = "c0") : SyncStore where
  base := sampleStore
  batches := .ofData [failedBatch]
  operations := .ofData cards
  belong x hx := ⟨_, List.mem_singleton.mpr rfl, (h x hx).symm⟩

/-- One card, whose failure can be retried. -/
def lateStore : SyncStore := failedStore [failedCard "op-1" 1 none] (by decide)

/-- The card behind one whose failure is final. -/
def blockedStore : SyncStore :=
  failedStore [failedCard "op-0" 0 (some "INVALID_OFFLINE_REGISTRATION"), failedCard "op-1" 1 none]
    (by decide)

end Recovery

end CreativeBackend
