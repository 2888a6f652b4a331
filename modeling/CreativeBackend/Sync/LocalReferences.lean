import CreativeBackend.Qr.ActiveTokens
import CreativeBackend.Sync.Isolation
import CreativeBackend.Sync.Persons

/-!
# Local registrations

A QR generation may name a registration by the id that its device gave it. The
registrations that a submission executes are remembered under these ids; those that it
answers from their rows are not.
-/

namespace CreativeBackend

open Relational Interaction Prog

namespace LocalReferences

open SyncService Ownership Solo ActiveTokens Resubmission Accounting Isolation

variable {rt : Runtime} {order : String → Bool} {α : Type} {b b' : Store}
  {faulty : Call → Prop} {payload : List (String × Json)} {batch : SubmitSyncBatchDto}
  {locals : LocalRegistrationMap}

/-! ## Offline registrations -/

theorem enqueueOfflineReconciliation_sparing (input : ReconcileInput) :
    Sparing (enqueueOfflineReconciliation rt input) := by
  refine all_tryCatch (all_call trivial) fun _ => all_bind ?_ fun _ => trivial
  exact reconcileOfflineRegistration_sparing input

theorem attempt_sparing {p : Svc α} (hp : Sparing p) : Sparing (attempt locals p) :=
  all_tryCatch (all_bind hp fun _ => trivial) fun _ => trivial

theorem findSynced_sparing (identity : OfflineIdentity) : Sparing (findSynced batch identity) := by
  refine all_bind (all_call trivial) fun existing => ?_
  cases existing with
  | none => trivial
  | some existing =>
      dsimp only
      split
      · exact all_bind (all_call trivial) fun _ => trivial
      · split
        · trivial
        · refine all_bind (all_call trivial) fun registration => ?_
          cases registration <;> trivial

theorem readIdentity_sparing : Sparing (readIdentity rt payload batch) := by
  refine all_bind (all_ofExcept _) fun _ => ?_
  refine all_bind (sparing_of_reads (verifySignedOfflineQr_reads rt _ _)) fun verified => ?_
  split
  · trivial
  · refine all_bind (all_ofExcept _) fun _ => all_bind (all_ofExcept _) fun _ => ?_
    exact all_bind (all_ofExcept _) fun _ => all_bind (all_ofExcept _) fun _ => trivial

theorem createRegistration_sparing (mapping : OfflineRegistrationMapping) :
    Sparing (createRegistration rt payload batch mapping) := by
  refine all_tryCatch ?_ fun error => all_bind (all_call trivial) fun _ => trivial
  refine all_bind (all_ofExcept _) fun dto => all_bind (all_ofExcept _) fun registration => ?_
  exact (RegistrationsService.createNormalized_registers rt registration).mono
    fun _ => spares_of_registers

theorem linkAndReconcile_sparing (status : OfflineRegistrationStatus) (identity : OfflineIdentity)
    (mapping : OfflineRegistrationMapping) (registration : Registration) :
    Sparing (linkAndReconcile rt status identity batch locals mapping registration) := by
  refine all_bind ?_ fun linked => ?_
  · refine all_bind (generate_sparing _) fun qr => all_bind (all_call trivial) fun stored => ?_
    exact all_bind (all_call trivial) fun _ => trivial
  · exact attempt_sparing (all_bind (enqueueOfflineReconciliation_sparing _) fun _ => trivial)

theorem runOfflineRegistration_sparing :
    Sparing (runOfflineRegistration rt payload batch locals) := by
  refine all_tryCatch ?_ fun _ => trivial
  refine all_bind readIdentity_sparing fun identity => ?_
  refine all_bind (findSynced_sparing identity) fun found => ?_
  cases found with
  | some found => exact attempt_sparing (all_bind (generate_sparing _) fun _ => trivial)
  | none =>
      refine all_bind (all_call trivial) fun mapping => ?_
      refine all_bind (all_call trivial) fun existing => ?_
      cases existing with
      | some registration => exact linkAndReconcile_sparing _ _ _ _
      | none =>
          exact all_bind (createRegistration_sparing mapping) fun registration =>
            linkAndReconcile_sparing _ _ _ _

/-- Apart from the scan events, no operation takes an active token away. -/
theorem runOperation_sparing {mappingFirst : Bool} {dto : SubmitSyncOperationDto}
    (htype : dto.type ≠ .SCAN_EVENT) : Sparing (runOperation rt mappingFirst dto batch locals) := by
  unfold runOperation
  cases hcase : dto.type with
  | OFFLINE_REGISTRATION => exact all_bind runOfflineRegistration_sparing fun _ => trivial
  | OFFLINE_SCAN =>
      refine attempt_sparing (all_bind (all_bind (all_ofExcept _) fun input => ?_) fun _ => trivial)
      exact ingestOfflineScan_sparing mappingFirst input
  | QR_GENERATION =>
      refine attempt_sparing (all_bind (all_ofExcept _) fun _ => ?_)
      exact all_bind (generate_sparing _) fun _ => trivial
  | SCAN_EVENT => exact absurd hcase htype

/-! ## What a registration remembers -/

theorem ended_attempt {p : Svc α} {a : Attempt α}
    (h : Ended rt faulty (attempt locals p) b (.ok a) b') :
    a.locals = locals ∧ ((∃ x, a.result = .ok x ∧ Ended rt faulty p b (.ok x) b') ∨
      ∃ e b₁, a.result = .error e ∧ Ended rt faulty p b (.error e) b₁) := by
  rcases ended_tryCatch h with hok | ⟨e, b₁, hthrown, hhandler⟩
  · obtain ⟨x, b₁, hp, hret⟩ := ended_bind hok
    obtain ⟨ha, rfl⟩ := ended_ret hret
    cases ha
    exact ⟨rfl, .inl ⟨x, rfl, hp⟩⟩
  · obtain ⟨ha, rfl⟩ := ended_ret hhandler
    cases ha
    refine ⟨rfl, .inr ⟨e, b', rfl, ?_⟩⟩
    rcases ended_bind_cases hthrown with ⟨x, b₂, -, hret⟩ | ⟨e', hp, he⟩
    · cases (ended_ret hret).1
    · cases he
      exact hp

/-- The id under which the payload of a registration is remembered. -/
abbrev NamesId (payload : List (String × Json)) (localId : String) : Prop :=
  getString payload "offlineRegistrationId" = .ok localId

theorem readIdentity_names {identity : OfflineIdentity}
    (h : Ended rt faulty (readIdentity rt payload batch) b (.ok identity) b') :
    NamesId payload identity.offlineRegistrationId := by
  obtain ⟨signed, b₁, -, h⟩ := ended_bind h
  obtain ⟨verified, b₂, -, h⟩ := ended_bind h
  split at h
  · cases (ended_throw h).1
  · obtain ⟨operationId, b₃, -, h⟩ := ended_bind h
    obtain ⟨localId, b₄, hlocal, h⟩ := ended_bind h
    obtain ⟨token, b₅, -, h⟩ := ended_bind h
    obtain ⟨-, b₆, -, h⟩ := ended_bind h
    cases (ended_ret h).1
    exact (ended_ofExcept hlocal).1.symm

/-- What an execution remembers: nothing, or the registration under its local id; and, if
it succeeds, a registration whose token is shown, which is the one it returns. -/
structure Remembers (rt : Runtime) (payload : List (String × Json)) (locals : LocalRegistrationMap)
    (a : Attempt OfflineRegistrationOutput) (b' : Store) : Prop where
  names : a.locals = locals ∨ ∃ localId registration, NamesId payload localId ∧
    a.locals = remember locals localId registration
  returns : ∀ output, a.result = .ok output → ∃ localId registration qr,
    NamesId payload localId ∧ a.locals = remember locals localId registration ∧
      output.registrationId = registration.id ∧ output.canonicalQrToken = qr.compactQrToken ∧
      output.canonicalSignedQrToken = qr.qrToken ∧ Shows rt b' registration.id qr

theorem remembers_linkAndReconcile {status : OfflineRegistrationStatus} {identity : OfflineIdentity}
    (hnames : NamesId payload identity.offlineRegistrationId)
    {mapping : OfflineRegistrationMapping} {registration : Registration}
    {a : Attempt OfflineRegistrationOutput}
    (h : Ended rt faulty (linkAndReconcile rt status identity batch locals mapping registration) b
      (.ok a) b') : Remembers rt payload locals a b' := by
  obtain ⟨⟨qr, canonicalQrTokenId⟩, b₁, hlink, hrest⟩ := ended_bind h
  have hshows : Shows rt b₁ registration.id qr := by
    obtain ⟨qr', b₂, hgenerate, hlink⟩ := ended_bind hlink
    obtain ⟨stored, b₃, hread, hlink⟩ := ended_bind hlink
    obtain ⟨updated, b₄, hupdate, hlink⟩ := ended_bind hlink
    obtain ⟨hqr, rfl⟩ := ended_ret hlink
    cases hqr
    have hshown := (generate_shows hgenerate).ended (p := call (.qrTokenByTokenId _))
      (all_call trivial) hread
    exact hshown.ended (p := call (.mappingUpdate _ _)) (all_call trivial) hupdate
  have hsparing : Sparing (attempt (remember locals identity.offlineRegistrationId registration) (do
      enqueueOfflineReconciliation rt {
        eventId := batch.eventId
        offlineQrToken := identity.offlineQrToken
        offlineRegistrationOperationId := identity.offlineRegistrationOperationId
        registrationId := registration.id }
      return offlineOutput status identity registration canonicalQrTokenId qr)) :=
    attempt_sparing (all_bind (enqueueOfflineReconciliation_sparing _) fun _ => trivial)
  have hshows' := hshows.ended hsparing hrest
  obtain ⟨hlocals, hresult⟩ := ended_attempt hrest
  refine ⟨.inr ⟨_, registration, hnames, hlocals⟩, fun output houtput => ?_⟩
  rcases hresult with ⟨output', hok, hbody⟩ | ⟨e, b₂, hbad, -⟩
  · obtain ⟨-, b₂, -, hret⟩ := ended_bind hbody
    cases (ended_ret hret).1
    rw [hok] at houtput
    cases houtput
    exact ⟨_, registration, qr, hnames, hlocals, rfl, rfl, rfl, hshows'⟩
  · rw [hbad] at houtput
    cases houtput

theorem remembers_runOfflineRegistration {a : Attempt OfflineRegistrationOutput}
    (h : Ended rt faulty (runOfflineRegistration rt payload batch locals) b (.ok a) b') :
    Remembers rt payload locals a b' := by
  rcases ended_tryCatch h with h | ⟨e, b₁, -, hhandler⟩
  · obtain ⟨identity, b₁, hread, h⟩ := ended_bind h
    have hnames := readIdentity_names hread
    obtain ⟨found, b₂, hfind, h⟩ := ended_bind h
    cases found with
    | some found =>
        obtain ⟨mapping, registration⟩ := found
        obtain ⟨hlocals, hresult⟩ := ended_attempt h
        refine ⟨.inr ⟨_, registration, hnames, hlocals⟩, fun output houtput => ?_⟩
        rcases hresult with ⟨output', hok, hbody⟩ | ⟨e, b₂, hbad, -⟩
        · obtain ⟨qr, b₃, hgenerate, hret⟩ := ended_bind hbody
          obtain ⟨houtput', rfl⟩ := ended_ret hret
          cases houtput'
          rw [hok] at houtput
          cases houtput
          exact ⟨_, registration, qr, hnames, hlocals, rfl, rfl, rfl, generate_shows hgenerate⟩
        · rw [hbad] at houtput
          cases houtput
    | none =>
        obtain ⟨mapping, b₃, -, h⟩ := ended_bind h
        obtain ⟨existing, b₄, -, h⟩ := ended_bind h
        cases existing with
        | some registration => exact remembers_linkAndReconcile hnames h
        | none =>
            obtain ⟨registration, b₅, -, h⟩ := ended_bind h
            exact remembers_linkAndReconcile hnames h
  · cases (ended_ret hhandler).1
    exact ⟨.inl rfl, fun output houtput => by cases houtput⟩

/-! ## Executions -/

variable {s s' : SyncStore} {turns : List (Turn SyncResp Exn SyncStore)}

/-- A call that the store answered. -/
def Answered (rt : Runtime) (turn : Turn SyncResp Exn SyncStore) : Prop :=
  ∃ ch, (syncMachine rt ch turn.call turn.before).1 = turn.answer

/-- A run in which no call failed. -/
def Clean (rt : Runtime) (turns : List (Turn SyncResp Exn SyncStore)) : Prop :=
  ∀ turn ∈ turns, Answered rt turn

theorem machine_of_error {ch : Choice} {c : Call} {e : Exn}
    (h : (machine rt ch c b).1 = .error e) : machine rt ch c b = (.error e, b) := by
  have heff : Effect b c (.error e) (machine rt ch c b).2 := effect_of_machine (Prod.ext h rfl)
  refine Prod.ext h ?_
  generalize (machine rt ch c b).2 = b₁ at heff
  cases heff <;> rfl

/-- A run of the store is one. -/
theorem clean_of_run {p : SyncSvc α} {ch : Choice} {x : Except Exn α}
    (h : (p.run (syncMachine rt ch) s).1 = x) :
    ∃ turns s', Ran rt p s turns x s' ∧ Clean rt turns := by
  subst h
  refine ⟨_, _, Service.runs_of_run (solo rt) (fun _ => rfl) ch p s, ?_⟩
  induction p generalizing s with
  | ret a => exact fun turn hturn => by cases hturn
  | throw e => exact fun turn hturn => by cases hturn
  | ask c k ih =>
      intro turn hturn
      rcases List.mem_cons.mp hturn with rfl | hturn
      · exact ⟨ch, rfl⟩
      · exact ih _ turn hturn

/-- What an execution does to the scan store. -/
theorem ended_of_ran {operationId : String} {p : Svc α} {y : Except Exn α}
    (hclean : ∀ turn ∈ turns, Answered rt turn ∨ ∀ c, faulty c)
    (h : Ran rt (inOperation operationId p) s turns y s') : Ended rt faulty p s.base y s'.base := by
  induction p generalizing s turns with
  | ret a =>
      obtain ⟨rfl, rfl, -⟩ := ran_ret h
      exact ⟨[], .ret rfl⟩
  | throw e =>
      cases h with
      | throw hsame => exact ⟨[], .throw (congrArg _ hsame)⟩
  | ask c k ih =>
      cases h with
      | @ask _ _ _ _ r s₂ _ _ _ hsame ho hk =>
          subst hsame
          obtain ⟨turns', hrest⟩ := ih r (fun turn hturn => hclean turn (List.mem_cons_of_mem _ hturn)) hk
          refine ⟨_, .ask rfl ?_ hrest⟩
          rcases ho with ⟨ch, hm⟩ | ⟨-, rfl, e, rfl⟩
          · have hm' : onBase s (machine rt ch c s.base) = (r, s₂) := hm
            simp only [onBase, Prod.mk.injEq] at hm'
            obtain ⟨rfl, rfl⟩ := hm'
            exact .inl ⟨ch, rfl⟩
          · rcases hclean _ List.mem_cons_self with ⟨ch, hm⟩ | hfaulty
            · exact .inl ⟨ch, machine_of_error hm⟩
            · exact .inr ⟨hfaulty c, rfl, e, rfl⟩

variable {id : Id} {o : SubmitSyncOperationDto} {a : Attempt SyncOutput}

theorem ended_execution (h : Execution rt order id o batch locals a s turns s') :
    Ended rt (fun _ => True) (runOperation rt (order o.operationId) o batch locals) s.base (.ok a)
      s'.base := by
  obtain ⟨body, s₁, row, hran, hbase, -⟩ := h.ran
  rw [hbase]
  exact ended_of_ran (fun _ _ => .inr fun _ => trivial) hran

theorem ended_execution_clean (h : Execution rt order id o batch locals a s turns s')
    (hclean : Clean rt turns) :
    Ended rt (fun _ => False) (runOperation rt (order o.operationId) o batch locals) s.base (.ok a)
      s'.base := by
  obtain ⟨body, s₁, row, hran, hbase, rfl⟩ := h.ran
  rw [hbase]
  exact ended_of_ran (fun turn hturn => .inl (hclean turn (List.mem_append_left _ hturn))) hran

/-- What an execution of an operation remembers. -/
structure Leaves (rt : Runtime) (o : SubmitSyncOperationDto) (locals : LocalRegistrationMap)
    (a : Attempt SyncOutput) (b' : Store) : Prop where
  names : a.locals = locals ∨ o.type = .OFFLINE_REGISTRATION ∧ ∃ localId registration,
    NamesId o.payload localId ∧ a.locals = remember locals localId registration
  returns : ∀ output, a.result = .ok (.registration output) → ∃ localId registration qr,
    NamesId o.payload localId ∧ a.locals = remember locals localId registration ∧
      output.registrationId = registration.id ∧ output.canonicalQrToken = qr.compactQrToken ∧
      output.canonicalSignedQrToken = qr.qrToken ∧ Shows rt b' registration.id qr

/-- An operation that is no registration remembers nothing. -/
theorem leaves_of_attempt {p : Svc SyncOutput}
    (hp : ∀ x b₁, Ended rt faulty p b (.ok x) b₁ → ∀ output, x ≠ .registration output)
    (h : Ended rt faulty (attempt locals p) b (.ok a) b') : Leaves rt o locals a b' := by
  obtain ⟨hlocals, hresult⟩ := ended_attempt h
  refine ⟨.inl hlocals, fun output houtput => ?_⟩
  rcases hresult with ⟨x, hok, hbody⟩ | ⟨e, b₁, hbad, -⟩
  · rw [hok] at houtput
    exact absurd (Except.ok.inj houtput) (hp x b' hbody output)
  · rw [hbad] at houtput
    cases houtput

theorem leaves_of_ended {mappingFirst : Bool}
    (h : Ended rt faulty (runOperation rt mappingFirst o batch locals) b (.ok a) b') :
    Leaves rt o locals a b' := by
  unfold runOperation at h
  cases hcase : o.type with
  | OFFLINE_REGISTRATION =>
      rw [hcase] at h
      obtain ⟨attempt, b₁, hrun, hret⟩ := ended_bind h
      obtain ⟨ha, rfl⟩ := ended_ret hret
      cases ha
      have hremembers := remembers_runOfflineRegistration hrun
      refine ⟨hremembers.names.imp_right fun hnames => ⟨hcase, hnames⟩, fun output houtput => ?_⟩
      cases hresult : attempt.result with
      | error e =>
          simp only [hresult, Except.map] at houtput
          cases houtput
      | ok output' =>
          simp only [hresult, Except.map] at houtput
          cases houtput
          exact hremembers.returns _ hresult
  | OFFLINE_SCAN =>
      rw [hcase] at h
      refine leaves_of_attempt (fun x b₁ hx output hreg => ?_) h
      obtain ⟨reply, b₂, -, hret⟩ := ended_bind hx
      cases hreg.symm.trans (Except.ok.inj (ended_ret hret).1)
  | QR_GENERATION =>
      rw [hcase] at h
      refine leaves_of_attempt (fun x b₁ hx output hreg => ?_) h
      obtain ⟨registrationId, b₂, -, hrest⟩ := ended_bind hx
      obtain ⟨qr, b₃, -, hret⟩ := ended_bind hrest
      cases hreg.symm.trans (Except.ok.inj (ended_ret hret).1)
  | SCAN_EVENT =>
      rw [hcase] at h
      refine leaves_of_attempt (fun x b₁ hx output hreg => ?_) h
      obtain ⟨dto, b₂, -, hrest⟩ := ended_bind hx
      obtain ⟨reply, b₃, -, hret⟩ := ended_bind hrest
      cases hreg.symm.trans (Except.ok.inj (ended_ret hret).1)

/-! ## QR generations -/

variable {localId : String} {qr : FormattedQr}

/-- A QR generation that names a registration by its local id only. -/
structure NamesOnlyLocal (o : SubmitSyncOperationDto) (localId : String) : Prop where
  type : o.type = .QR_GENERATION
  registrationId : getOptionalString o.payload "registrationId" = none
  localRegistrationId : getString o.payload "localRegistrationId" = .ok localId

theorem qrRegistrationId_local (hlocal : NamesOnlyLocal o localId) :
    qrRegistrationId o.payload locals = match locals.lookup localId with
      | none => .error (.badRequest "Local registration was not found in batch")
      | some registration => .ok registration.id := by
  unfold qrRegistrationId
  rw [hlocal.registrationId]
  simp only [resolveLocalRegistrationId, hlocal.localRegistrationId, bind, Except.bind]
  rfl

/-- A local id that is not remembered cannot be resolved. -/
theorem qr_unresolved (hlocal : NamesOnlyLocal o localId) (hlookup : locals.lookup localId = none)
    {mappingFirst : Bool}
    (h : Ended rt faulty (runOperation rt mappingFirst o batch locals) b (.ok a) b') :
    ∃ e, a.result = .error e := by
  unfold runOperation at h
  rw [hlocal.type] at h
  rcases (ended_attempt h).2 with ⟨x, -, hbody⟩ | ⟨e, b₁, hbad, -⟩
  · obtain ⟨registrationId, b₁, hresolve, -⟩ := ended_bind hbody
    have hresolved := (ended_ofExcept hresolve).1
    rw [qrRegistrationId_local hlocal, hlookup] at hresolved
    cases hresolved
  · exact ⟨e, hbad⟩

/-- A local id that is remembered is resolved, and the token of its registration returned. -/
theorem qr_resolved (hlocal : NamesOnlyLocal o localId) {registration : LocalRegistration}
    (hlookup : locals.lookup localId = some registration) (hshows : Shows rt b registration.id qr)
    {mappingFirst : Bool}
    (h : Ended rt (fun _ => False) (runOperation rt mappingFirst o batch locals) b (.ok a) b') :
    a.result = .ok (.qr qr) := by
  unfold runOperation at h
  rw [hlocal.type] at h
  have hresolved : ∀ {y b₁}, Ended rt (fun _ => False)
      (Prog.ofExcept (qrRegistrationId o.payload locals)) b y b₁ →
      y = .ok registration.id ∧ b₁ = b := by
    intro y b₁ hresolve
    obtain ⟨hy, rfl⟩ := ended_ofExcept hresolve
    rw [qrRegistrationId_local hlocal, hlookup] at hy
    exact ⟨hy, rfl⟩
  rcases (ended_attempt h).2 with ⟨x, hok, hbody⟩ | ⟨e, b₁, -, hbody⟩
  · obtain ⟨registrationId, b₁, hresolve, hrest⟩ := ended_bind hbody
    obtain ⟨hid, rfl⟩ := hresolved hresolve
    cases hid
    obtain ⟨qr', b₂, hgenerate, hret⟩ := ended_bind hrest
    have hsame := generate_again hshows hgenerate
    cases hsame
    rw [hok]
    exact (ended_ret hret).1
  · exfalso
    rcases ended_bind_cases hbody with ⟨registrationId, b₂, hresolve, hrest⟩ | ⟨e', hresolve, -⟩
    · obtain ⟨hid, rfl⟩ := hresolved hresolve
      cases hid
      rcases ended_bind_cases hrest with ⟨qr', b₃, -, hret⟩ | ⟨e', hgenerate, -⟩
      · cases (ended_ret hret).1
      · cases generate_again hshows hgenerate
    · cases (hresolved hresolve).1

/-! ## Batches -/

variable {rows : BatchRows} {dto : SubmitSyncBatchDto} {g q y : SubmitSyncOperationDto}
  {batchId registrationId : Id} {s₀ s₁ : SyncStore} {last locals' : LocalRegistrationMap}
  {entry : Option OperationResult} {results : List OperationResult}
  {operations : List SubmitSyncOperationDto}

/-- A submission executes the operation as a registration with the local id: it is new, or
its row is retried with the input that was stored. -/
def Enrols (s : SyncStore) (operation : SubmitSyncOperationDto) (localId : String) : Prop :=
  (IsNew s operation ∧ operation.type = .OFFLINE_REGISTRATION ∧ NamesId operation.payload localId) ∨
  ∃ x ∈ s.operations.rows, x.operationId = operation.operationId ∧ x.status = .FAILED ∧
    canRetryFailedOfflineOperation x = true ∧
    ∃ payload, toRecord x.input = .ok payload ∧ NamesId payload localId

theorem type_of_canRetry {x : SyncOperation} (h : canRetryFailedOfflineOperation x = true) :
    x.type = .OFFLINE_REGISTRATION := by
  by_contra htype
  rw [canRetryFailedOfflineOperation, if_pos htype] at h
  cases h

@[simp] theorem lookup_remember (localId : String) (registration : Registration) :
    (remember locals localId registration).lookup localId =
      some { id := registration.id, publicId := registration.publicId } := by
  rw [remember, List.lookup_cons, beq_self_eq_true]

theorem lookup_remember_of_ne {other : String} (h : localId ≠ other) (registration : Registration) :
    (remember locals other registration).lookup localId = locals.lookup localId := by
  rw [remember, List.lookup_cons, beq_eq_false_iff_ne.mpr h]

/-- An execution under another local id leaves this one. -/
theorem Leaves.lookup (h : Leaves rt o locals a b')
    (hother : ¬ (o.type = .OFFLINE_REGISTRATION ∧ NamesId o.payload localId)) :
    a.locals.lookup localId = locals.lookup localId := by
  rcases h.names with hsame | ⟨htype, other, registration, hnames, hlocals⟩
  · rw [hsame]
  · rw [hlocals]
    apply lookup_remember_of_ne
    rintro rfl
    exact hother ⟨htype, hnames⟩

/-- An operation that is not executed under a local id leaves it. -/
theorem lookup_entered (hbegun : Begun s₀ dto batchId rows s₁) (hy : y ∈ dto.operations)
    (hother : ¬ Enrols s₀ y localId)
    (h : Entered rt order rows dto y locals s turns (.ok (entry, locals')) s') :
    locals'.lookup localId = locals.lookup localId := by
  cases h with
  | left | lost | answered => rfl
  | executed hnew hrow hrun =>
      refine (leaves_of_ended (ended_execution hrun)).lookup fun hnames => hother (.inl ?_)
      exact ⟨(known_of_begun hbegun hy).mp hnew, hnames⟩
  | retried hdup hrow hfailed hretry hinput hturns hfirst hstill hclaim hbase hrun =>
      refine (leaves_of_ended (ended_execution hrun)).lookup fun hnames => hother (.inr ?_)
      obtain ⟨hx, hop, -⟩ := existing_of_begun hbegun hrow
      exact ⟨_, hx, hop, hfailed, hretry, _, hinput, hnames.2⟩

/-- An operation that is no scan event leaves a token that is shown. -/
theorem shows_entered (htype : y.type ≠ .SCAN_EVENT) (hs : Shows rt s.base registrationId qr)
    (h : Entered rt order rows dto y locals s turns (.ok (entry, locals')) s') :
    Shows rt s'.base registrationId qr := by
  cases h with
  | left | lost | answered => exact hs
  | executed hnew hrow hrun => exact hs.ended (runOperation_sparing htype) (ended_execution hrun)
  | retried hdup hrow hfailed hretry hinput hturns hfirst hstill hclaim hbase hrun =>
      rw [← hbase] at hs
      refine hs.ended (runOperation_sparing ?_) (ended_execution hrun)
      simp [type_of_canRetry hretry]

/-- The row of an operation id has a result. -/
def Done (s : SyncStore) (operationId : String) : Prop :=
  ∃ x ∈ s.operations.rows, x.operationId = operationId ∧ x.status = .PROCESSED

/-- An operation that was processed is not executed again. -/
theorem entered_done (hnamed : Named rows s)
    (hdup : rows.duplicateOperationIds.contains y.operationId = true) (hdone : Done s y.operationId)
    (h : Entered rt order rows dto y locals s turns (.ok (entry, locals')) s') :
    locals' = locals ∧ s' = s := by
  cases h with
  | lost | answered => exact ⟨rfl, rfl⟩
  | executed hnew | left hnew =>
      rw [hnew] at hdup
      cases hdup
  | retried _ hrow _ _ _ _ _ hstill =>
      obtain ⟨x, hx, hid, hfailed⟩ := hstill
      obtain ⟨z, hz, hop, hprocessed⟩ := hdone
      have hzid := (names_unique (mem_names.mpr ⟨z, hz, rfl, rfl⟩) (hnamed.existing hrow)).mpr hop
      have hxz : x = z := s.operations.eq_of_key hx hz (hid.trans hzid.symm)
      rw [hxz, hprocessed] at hfailed
      cases hfailed

/-- The local id is resolved to a registration whose token is shown, and the operation that
did this was processed. -/
structure Resolves (rt : Runtime) (operationId localId : String) (registrationId : Id)
    (qr : FormattedQr) (locals : LocalRegistrationMap) (s : SyncStore) : Prop where
  remembered : ∃ registration, locals.lookup localId = some registration ∧
    registration.id = registrationId
  shown : Shows rt s.base registrationId qr
  done : Done s operationId

/-- The operations that come after `g`, up to the scan events. -/
structure Between (s₀ : SyncStore) (dto : SubmitSyncBatchDto) (g y : SubmitSyncOperationDto)
    (localId : String) : Prop where
  mem : y ∈ dto.operations
  type : y.type ≠ .SCAN_EVENT
  other : if y.operationId = g.operationId then ¬ IsNew s₀ y else ¬ Enrols s₀ y localId

theorem resolves_entered (hbegun : Begun s₀ dto batchId rows s₁) (hnamed : Named rows s)
    (hy : Between s₀ dto g y localId)
    (hr : Resolves rt g.operationId localId registrationId qr locals s)
    (h : Entered rt order rows dto y locals s turns (.ok (entry, locals')) s') :
    Resolves rt g.operationId localId registrationId qr locals' s' := by
  have hother := hy.other
  split at hother
  · next hop =>
      have hdup : rows.duplicateOperationIds.contains y.operationId = true := by
        by_contra hnew
        exact hother ((known_of_begun hbegun hy.mem).mp (Bool.not_eq_true _ ▸ hnew))
      obtain ⟨rfl, rfl⟩ := entered_done hnamed hdup (hop ▸ hr.done) h
      exact hr
  · next hop =>
      refine ⟨?_, shows_entered hy.type hr.shown h, ?_⟩
      · rw [lookup_entered hbegun hy.mem hother h]
        exact hr.remembered
      · obtain ⟨x, hx, hid, hprocessed⟩ := hr.done
        refine ⟨x, ((h.about hnamed).1.others x ?_).mpr hx, hid, hprocessed⟩
        rw [hid]
        exact Ne.symm hop

theorem resolves_entries (hbegun : Begun s₀ dto batchId rows s₁) (hnamed : Named rows s)
    (hr : Resolves rt g.operationId localId registrationId qr locals s)
    (hoperations : ∀ y ∈ operations, Between s₀ dto g y localId)
    (h : Entries rt order rows dto operations locals s turns results last s') :
    Resolves rt g.operationId localId registrationId qr last s' := by
  induction h with
  | nil => exact hr
  | cons hentry hrest ih =>
      have hnamed₁ := hnamed.of_names (hentry.about hnamed).1.names
      refine ih hnamed₁ ?_ fun y hy => hoperations y (List.mem_cons_of_mem _ hy)
      exact resolves_entered hbegun hnamed (hoperations _ List.mem_cons_self) hr hentry

/-- Where no operation is executed under a local id, it is not remembered. -/
theorem lookup_entries (hbegun : Begun s₀ dto batchId rows s₁)
    (hoperations : ∀ y ∈ operations, y ∈ dto.operations ∧ ¬ Enrols s₀ y localId)
    (h : Entries rt order rows dto operations locals s turns results last s') :
    last.lookup localId = locals.lookup localId := by
  induction h with
  | nil => rfl
  | cons hentry hrest ih =>
      obtain ⟨hmem, hother⟩ := hoperations _ List.mem_cons_self
      rw [ih fun y hy => hoperations y (List.mem_cons_of_mem _ hy)]
      exact lookup_entered hbegun hmem hother hentry

/-! ## The entries of the registration and of the QR generation -/

/-- The operation of an entry, with what was entered around it. -/
theorem entered_of_zip (h : Entries rt order rows dto operations locals s turns results last s')
    (hrows : HaveRows rows operations) {e : OperationResult}
    (hpair : (y, e) ∈ operations.zip results) :
    ∃ pre post locals₁ locals₂ s₁ s₂ before own after earlier later,
      operations = pre ++ y :: post ∧
      Entries rt order rows dto pre locals s before earlier locals₁ s₁ ∧
      Entered rt order rows dto y locals₁ s₁ own (.ok (some e, locals₂)) s₂ ∧
      Entries rt order rows dto post locals₂ s₂ after later last s' ∧
      turns = before ++ own ++ after ∧ results = earlier ++ e :: later := by
  induction h with
  | nil => cases hpair
  | @cons head rest _ _ _ _ _ _ first second entry results hentry hrest ih =>
      cases entry with
      | none =>
          cases hentry with
          | left hnew hrow => exact absurd hrow (hrows head List.mem_cons_self hnew)
      | some entry =>
          rcases List.mem_cons.mp hpair with heq | hpair
          · cases heq
            exact ⟨[], rest, _, _, _, _, [], first, second, [], results, rfl, .nil, hentry, hrest, rfl,
              rfl⟩
          · obtain ⟨pre, post, locals₁, locals₂, s₁, s₂, before, own, after, earlier, later, rfl, hpre,
              hown, hpost, rfl, rfl⟩ := ih (fun o ho => hrows o (List.mem_cons_of_mem _ ho)) hpair
            exact ⟨head :: pre, post, locals₁, locals₂, s₁, s₂, first ++ before, own, after,
              entry :: earlier, later, rfl, .cons hentry hpre, hown, hpost,
              by simp only [List.append_assoc], rfl⟩

/-- The row of an execution that succeeded. -/
theorem done_execution {operationId : String} (hname : (id, operationId) ∈ names s)
    (h : Execution rt order id o batch locals a s turns s') {output : SyncOutput}
    (hok : a.result = .ok output) : Done s' operationId := by
  obtain ⟨x, hx, hid, now, hstored⟩ := h.stored
  refine ⟨_, hstored, ?_, ?_⟩
  · rw [applyOperationPatch_operationId]
    exact (names_unique (mem_names.mpr ⟨x, hx, rfl, rfl⟩) hname).mp hid
  · rw [hok]
    rfl

theorem result_of_output {operationId : String} {result : Except Exn SyncOutput}
    {output : SyncOutput} (h : (resultOf operationId result).output = some output) :
    result = .ok output := by
  cases result with
  | error e => cases h
  | ok output' =>
      cases h
      rfl

/-- A registration that is executed under a local id, and succeeds, is what it resolves to. -/
theorem resolves_of_enrols (hbegun : Begun s₀ dto batchId rows s₁) (hnamed : Named rows s)
    (hg : g ∈ dto.operations) (henrols : Enrols s₀ g localId) {e : OperationResult}
    (hended : e.status = .PROCESSED ∨ e.status = .DUPLICATE)
    {output : OfflineRegistrationOutput} (houtput : e.output = some (.registration output))
    (h : Entered rt order rows dto g locals s turns (.ok (some e, locals')) s') :
    ∃ qr, Resolves rt g.operationId localId output.registrationId qr locals' s' := by
  have hleaves : ∀ (o' : SubmitSyncOperationDto) {attempt : Attempt SyncOutput},
      NamesId o'.payload localId → attempt.result = .ok (.registration output) →
      Leaves rt o' locals attempt s'.base → Done s' g.operationId →
      ∃ qr, Resolves rt g.operationId localId output.registrationId qr attempt.locals s' := by
    intro o' attempt hlocal hresult hleaves hdone
    obtain ⟨localId', registration, qr, hlocal', hlocals, hid, -, -, hshows⟩ :=
      hleaves.returns output hresult
    cases hlocal.symm.trans hlocal'
    refine ⟨qr, ⟨{ id := registration.id, publicId := registration.publicId }, ?_, hid.symm⟩,
      hid ▸ hshows, hdone⟩
    rw [hlocals, lookup_remember]
  cases h with
  | executed hnew hrow hrun =>
      have hresult := result_of_output houtput
      refine hleaves g ?_ hresult (leaves_of_ended (ended_execution hrun))
        (done_execution (hnamed.row hrow) hrun hresult)
      rcases henrols with ⟨-, -, hlocal⟩ | ⟨x, hx, hop, -⟩
      · exact hlocal
      · exact absurd hop ((known_of_begun hbegun hg).mp hnew x hx)
  | lost => cases houtput
  | @answered existing hdup hrow =>
      exfalso
      obtain ⟨hx, hop, -⟩ := existing_of_begun hbegun hrow
      rcases henrols with ⟨hnew, -⟩ | ⟨z, hz, hzop, hfailed, -⟩
      · exact hnew existing hx hop
      · have hzx : z = existing := Table.eq_of_clash _ hz hx (by simp [clash, hzop, hop])
        rw [hzx] at hfailed
        rw [answerOf, hfailed] at houtput
        cases houtput
  | @retried existing payload attempt _ first second _ hdup hrow hfailed hretry hinput _ _ _ hclaim
      hbase hrun =>
      have hresult : attempt.result = .ok (.registration output) := result_of_output houtput
      have hname : (existing.id, g.operationId) ∈ names _ := hclaim.names ▸ hnamed.existing hrow
      refine hleaves ⟨g.operationId, existing.type, payload⟩ ?_ hresult
        (leaves_of_ended (ended_execution hrun)) (done_execution hname hrun hresult)
      obtain ⟨hx, hop, -⟩ := existing_of_begun hbegun hrow
      rcases henrols with ⟨hnew, -⟩ | ⟨z, hz, hzop, -, -, payload', hinput', hlocal⟩
      · exact absurd hop (hnew existing hx)
      · have hzx : z = existing := Table.eq_of_clash _ hz hx (by simp [clash, hzop, hop])
        rw [hzx, hinput] at hinput'
        cases hinput'
        exact hlocal

/-- A new operation is executed. -/
theorem entered_new (hbegun : Begun s₀ dto batchId rows s₁) (hq : q ∈ dto.operations)
    (hnew : IsNew s₀ q)
    (h : Entered rt order rows dto q locals s turns (.ok (entry, locals')) s') :
    ∃ row attempt, entry = some (resultOf q.operationId attempt.result) ∧
      Execution rt order row q dto locals attempt s turns s' := by
  cases h with
  | left _ hrow => exact absurd hrow (row_of_begun hbegun hq hnew)
  | lost hdup | answered hdup | retried hdup =>
      rw [(known_of_begun hbegun hq).mpr hnew] at hdup
      cases hdup
  | executed hfresh hrow hrun => exact ⟨_, _, rfl, hrun⟩

/-- The QR generation succeeds, with the token of the registration. -/
def ReturnsQr (rt : Runtime) (q : SubmitSyncOperationDto) (registrationId : Id)
    (turns : List (Turn SyncResp Exn SyncStore)) (results : List OperationResult) : Prop :=
  ∃ e ∈ results, e.operationId = q.operationId ∧ e.status = .PROCESSED ∧
    ∃ qr, e.output = some (.qr qr) ∧ ∃ turn ∈ turns, Shows rt turn.before.base registrationId qr

/-- The operations of one operation id are executed alike. -/
theorem enrols_of_operationId (hg : g.type = .OFFLINE_REGISTRATION) (hlocal : NamesId g.payload localId)
    (hop : y.operationId = g.operationId) (h : Enrols s₀ y localId) : Enrols s₀ g localId := by
  rcases h with ⟨hnew, -⟩ | hretried
  · exact .inl ⟨fun x hx => hop ▸ hnew x hx, hg, hlocal⟩
  · exact .inr (hop ▸ hretried)

/-- Where no operation is executed under the local id, its QR generation fails. -/
theorem not_returnsQr (hbegun : Begun s₀ dto batchId rows s₁)
    (hentries : Entries rt order rows dto (sortOperations dto.operations) [] s₁ turns results last s')
    (hothers : ∀ y ∈ dto.operations, ¬ Enrols s₀ y localId) (hq : q ∈ dto.operations)
    (hnew : IsNew s₀ q) (hnames : NamesOnlyLocal q localId)
    {all : List (Turn SyncResp Exn SyncStore)} : ¬ ReturnsQr rt q registrationId all results := by
  rintro ⟨e, hmem, hop, hstatus, -⟩
  obtain ⟨pre, post, hsorted⟩ := List.append_of_mem (mem_sortOperations.mpr hq)
  obtain ⟨hne, hne'⟩ := List.forall_mem_append.mp (ids_of_begun hbegun hsorted hnew)
  have hrows := haveRows_of_begun hbegun
  have hpart : ∀ y ∈ pre, y ∈ dto.operations := by
    intro y hy
    rw [← mem_sortOperations, hsorted]
    exact List.mem_append_left _ hy
  rw [hsorted] at hentries hrows
  obtain ⟨locals₁, locals₂, entry, s₂, s₃, before, own, after, earlier, later, hpre, hown, hpost,
    rfl, rfl⟩ := hentries.split
  obtain ⟨row, attempt, rfl, hrun⟩ := entered_new hbegun hq hnew hown
  have hlookup : locals₁.lookup localId = none :=
    lookup_entries hbegun (fun y hy => ⟨hpart y hy, hothers y (hpart y hy)⟩) hpre
  obtain ⟨error, herror⟩ := qr_unresolved hnames hlookup (ended_execution hrun)
  have hbefore := filter_eq_nil (entries_forall₂ hpre fun o ho =>
    hrows o (List.mem_append_left _ ho)) hne
  have hafter := filter_eq_nil (entries_forall₂ hpost fun o ho =>
    hrows o (List.mem_append_right _ (List.mem_cons_of_mem _ ho))) hne'
  rw [List.filter_eq_nil_iff] at hbefore hafter
  rw [List.mem_append, List.mem_append, Option.mem_toList] at hmem
  rcases hmem with (hmem | hmem) | hmem
  · exact hbefore e hmem (by simpa using hop)
  · cases hmem
    rw [herror] at hstatus
    cases hstatus
  · exact hafter e hmem (by simpa using hop)

/-- The operations between a registration and a QR generation. -/
theorem between_of_sorted {pre mid post : List SubmitSyncOperationDto}
    (hsorted : sortOperations dto.operations = pre ++ g :: (mid ++ q :: post))
    (hbegun : Begun s₀ dto batchId rows s₁) (hq : q.type = .QR_GENERATION)
    (hothers : ∀ y ∈ dto.operations, y.operationId ≠ g.operationId → ¬ Enrols s₀ y localId) :
    ∀ y ∈ mid, Between s₀ dto g y localId := by
  intro y hy
  have hmem : y ∈ sortOperations dto.operations := by
    rw [hsorted]
    exact List.mem_append_right _ (List.mem_cons_of_mem _ (List.mem_append_left _ hy))
  refine ⟨mem_sortOperations.mp hmem, fun htype => ?_, ?_⟩
  · have hordered := (stableSort_sortOperations dto.operations).ordered
    rw [hsorted, List.pairwise_append, List.pairwise_cons, List.pairwise_append] at hordered
    have hrank := hordered.2.1.2.2.2 y hy q List.mem_cons_self
    rw [htype, hq] at hrank
    exact absurd hrank (by decide)
  · split
    · next hop =>
        intro hnew
        have hg : IsNew s₀ g := fun x hx => hop ▸ hnew x hx
        exact ids_of_begun hbegun hsorted hg y
          (List.mem_append_right _ (List.mem_append_left _ hy)) hop
    · next hop => exact hothers y (mem_sortOperations.mp hmem) hop

/-- Where the registration is executed under the local id, the QR generation resolves it. -/
theorem returnsQr_of_enrols (hbegun : Begun s₀ dto batchId rows s₁)
    (hentries : Entries rt order rows dto (sortOperations dto.operations) [] s₁ turns results last s')
    (hclean : Clean rt turns) (hg : g.type = .OFFLINE_REGISTRATION) (henrols : Enrols s₀ g localId)
    {e : OperationResult} (hentry : (g, e) ∈ (sortOperations dto.operations).zip results)
    (hended : e.status = .PROCESSED ∨ e.status = .DUPLICATE)
    {output : OfflineRegistrationOutput} (houtput : e.output = some (.registration output))
    (hothers : ∀ y ∈ dto.operations, y.operationId ≠ g.operationId → ¬ Enrols s₀ y localId)
    (hq : q ∈ dto.operations) (hnew : IsNew s₀ q) (hnames : NamesOnlyLocal q localId) :
    ReturnsQr rt q output.registrationId turns results := by
  obtain ⟨pre, post, locals₁, locals₂, s₂, s₃, before, own, after, earlier, later, hsorted, hpre, hown,
    hpost, rfl, rfl⟩ := entered_of_zip hentries (haveRows_of_begun hbegun) hentry
  have hpost_mem : q ∈ post := by
    have hmem := mem_sortOperations.mpr hq
    rw [hsorted, List.mem_append, List.mem_cons] at hmem
    rcases hmem with hmem | rfl | hmem
    · have hordered := (stableSort_sortOperations dto.operations).ordered
      rw [hsorted, List.pairwise_append] at hordered
      have hrank := hordered.2.2 q hmem g List.mem_cons_self
      rw [hg, hnames.type] at hrank
      exact absurd hrank (by decide)
    · rw [hnames.type] at hg
      cases hg
    · exact hmem
  obtain ⟨mid, rest, rfl⟩ := List.append_of_mem hpost_mem
  have hnamed₂ := hbegun.named.of_names (hpre.about hbegun.named).names
  have hnamed₃ := hnamed₂.of_names (hown.about hnamed₂).1.names
  have hgmem : g ∈ dto.operations := by
    rw [← mem_sortOperations, hsorted]
    exact List.mem_append_right _ List.mem_cons_self
  obtain ⟨qr, hresolves⟩ :=
    resolves_of_enrols hbegun hnamed₂ hgmem henrols hended houtput hown
  obtain ⟨locals₃, locals₄, entry, s₄, s₅, first, body, second, results₁, results₂, hmid, hqown, hlast,
    rfl, rfl⟩ := hpost.split
  obtain ⟨⟨registration, hlookup, hid⟩, hshows, -⟩ :=
    resolves_entries hbegun hnamed₃ hresolves (between_of_sorted hsorted hbegun hnames.type hothers)
      hmid
  obtain ⟨row, attempt, rfl, hrun⟩ := entered_new hbegun hq hnew hqown
  have hcleanOwn : Clean rt body := by
    intro turn hturn
    apply hclean
    simp only [List.mem_append, hturn, or_true, true_or]
  have hshows' : Shows rt s₄.base registration.id qr := hid ▸ hshows
  have hresult := qr_resolved hnames hlookup hshows' (ended_execution_clean hrun hcleanOwn)
  refine ⟨resultOf q.operationId attempt.result, ?_, resultOf_operationId _ _, ?_, qr, ?_, ?_⟩
  · simp
  · rw [hresult]
    rfl
  · rw [hresult]
    rfl
  · obtain ⟨calls, s₆, answer, -, hbase, hturns⟩ := hrun.ran
    refine ⟨⟨.operationFinish row (patchOf attempt.result), .ok answer, s₆⟩, ?_, ?_⟩
    · rw [hturns]
      simp
    · rw [← hbase]
      refine hshows.ended (runOperation_sparing ?_) (ended_execution hrun)
      simp [hnames.type]

/-- The registration is there, and its event is not archived. -/
def Stands (s : Store) (registrationId : Id) : Prop :=
  ∃ r e, s.registrations.find? registrationId = some r ∧ s.events.find? r.eventId = some e ∧
    e.status ≠ .ARCHIVED

/-! ## Submissions -/

variable {reply : SubmitReply} {result : BatchResult}

/-- The entries of a submission that is not answered from a known batch. -/
theorem entries_of_ran (h : Ran rt (submitBatch rt order dto) s turns (.ok reply) s')
    (hduplicate : reply.duplicate = false) (hresult : reply.batch.batch.result = some result) :
    ∃ batchId rows s₁ s₂ last before loop after, Begun s dto batchId rows s₁ ∧
      Entries rt order rows dto (sortOperations dto.operations) [] s₁ loop result.operations last s₂ ∧
      turns = before ++ loop ++ after := by
  cases ran_submitBatch h with
  | known => cases hduplicate
  | completed hcompleted =>
      obtain ⟨b, rows, s₁, s₂, results, last, before, loop, after, now, hbegun, -, hentries, hturns, -,
        hview, -⟩ := hcompleted
      rw [hview] at hresult
      cases hresult
      exact ⟨b.id, rows, s₁, s₂, last, before, loop, after, hbegun, hentries, hturns⟩

theorem not_returnsQr_of_ran (h : Ran rt (submitBatch rt order dto) s turns (.ok reply) s')
    (hduplicate : reply.duplicate = false) (hresult : reply.batch.batch.result = some result)
    (hothers : ∀ y ∈ dto.operations, ¬ Enrols s y localId) (hq : q ∈ dto.operations)
    (hnew : IsNew s q) (hnames : NamesOnlyLocal q localId) :
    ¬ ReturnsQr rt q registrationId turns result.operations := by
  obtain ⟨batchId, rows, s₁, s₂, last, before, loop, after, hbegun, hentries, -⟩ :=
    entries_of_ran h hduplicate hresult
  exact not_returnsQr hbegun hentries hothers hq hnew hnames

end LocalReferences

namespace LocalReferences

open SyncService

/-- A QR generation for the registration of the sample card. -/
def sampleQr : SubmitSyncOperationDto where
  operationId := "op-2"
  type := .QR_GENERATION
  payload := [("localRegistrationId", .str "local-1")]

theorem sampleQr_names : NamesOnlyLocal sampleQr "local-1" where
  type := rfl
  registrationId := rfl
  localRegistrationId := by decide +kernel

theorem sampleRegistration_names :
    NamesId (Persons.sampleRegistration []).payload "local-1" := by
  decide +kernel

/-- The sample card and its QR, in one batch. -/
def sampleSubmission (batchId : String) : SubmitSyncBatchDto :=
  sampleBatch batchId [Persons.sampleRegistration [], sampleQr]

/-- The store after the sample card was registered in a batch of its own. -/
def registeredStore : SyncStore :=
  ((submitBatch sampleRuntime (fun _ => true)
    (sampleBatch "batch-1" [Persons.sampleRegistration []])).run (syncMachine sampleRuntime {})
      sampleSyncStore).2

/-- The submission of the sample card and its QR. -/
def sampleReply (batchId : String) (s : SyncStore) : Except Exn SubmitReply :=
  ((submitBatch sampleRuntime (fun _ => true) (sampleSubmission batchId)).run
    (syncMachine sampleRuntime {}) s).1

/-- The reply has a registration for its first operation, with the given status, which is
that of a registration that stands. -/
def firstRegistered (s : Store) (status : SyncOperationStatus) (reply : SubmitReply) : Bool :=
  !reply.duplicate && reply.batch.batch.result.any fun result =>
    result.operations.head?.any fun e => e.status = status && match e.output with
      | some (.registration output) => status = .PROCESSED ||
          (s.registrations.find? output.registrationId).any fun r =>
            (s.events.find? r.eventId).any fun event => event.status ≠ .ARCHIVED
      | _ => false

/-- What the check of a reply says. -/
theorem firstRegistered_elim {status : SyncOperationStatus} {b : Store} {reply : SubmitReply}
    (h : firstRegistered b status reply = true) :
    reply.duplicate = false ∧ ∃ result e rest output, reply.batch.batch.result = some result ∧
      result.operations = e :: rest ∧ e.status = status ∧
      e.output = some (.registration output) ∧
      (status = .PROCESSED ∨ Stands b output.registrationId) := by
  simp only [firstRegistered, Bool.and_eq_true, Bool.not_eq_true', Option.any_eq_true,
    List.head?_eq_some_iff, decide_eq_true_eq] at h
  obtain ⟨hduplicate, result, hresult, e, ⟨rest, hhead⟩, hstatus, houtput⟩ := h
  refine ⟨hduplicate, result, e, rest, ?_⟩
  split at houtput
  · next output hregistration =>
      refine ⟨output, hresult, hhead, hstatus, hregistration, ?_⟩
      simp only [Bool.or_eq_true, decide_eq_true_eq, Option.any_eq_true] at houtput
      refine houtput.imp_right ?_
      rintro ⟨r, hr, event, hevent, hopen⟩
      exact ⟨r, event, hr, hevent, hopen⟩
  · cases houtput

end LocalReferences

end CreativeBackend
