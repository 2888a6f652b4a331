import CreativeBackend.Queue.PendingScans

/-!
# Jobs for fast scans

Where no addition to the queue fails, the flusher adds no row and no job gives up on a
pending scan, every pending scan has a live job once no operation is in progress. A failed
addition, or a row that the flusher adds, leaves a pending scan without one.
-/

namespace CreativeBackend

open Relational Interaction Prog

namespace Jobs

variable {rt : Runtime} {strict : Bool} {s s' : QueueStore} {t : Nat}

/-! ## The operations -/

section Threads

open Discipline

variable {w : World QueueResp Exn QueueStore} {α : Type}

theorem Free.of_since {w' : World QueueResp Exn QueueStore}
    (h : (discipline rt strict).Since t w w') (hf : Free t w) : Free t w' := by
  unfold Free at hf ⊢
  rw [h.own]
  exact hf

/-- A call that works leaves nothing to be queued. -/
theorem free_of_works {c : QueueCall} {x : Except Exn (QueueResp c)} (hc : works c = true) :
    Free t (w.log t c x s') := by
  unfold Free
  rw [World.own_log]
  unfold created
  split
  · next heq =>
      cases heq
      cases hc
  · rfl

/-- The calls that work keep what is promised. -/
theorem works_keep {c : QueueCall} (hc : works c = true) (hf : Free t w) (hi : Served w)
    (hp : Permits t c w) {x : Except Exn (QueueResp c)}
    (ho : (queueService rt strict SparesAdditions).Outcome c w.store x s') :
    Served (w.log t c x s') ∧ Free t (w.log t c x s') :=
  ⟨hi.quiet hf (quiet_of_outcome hc hp.1 ho), free_of_works hc⟩

theorem holds_works {p : QueueSvc α} (hp : p.All (works · = true)) (hf : Free t w) :
    (discipline rt strict).logic.Holds t (fun _ w' => Free t w') p w :=
  holds_kept (fun _ _ hs hf => Free.of_since hs hf)
    (fun _ hc _ hf hi hp _ _ ho => works_keep hc hf hi hp ho) hp hf

theorem enqueueRawScan_works (config : RedisConfig) (connected : Bool) (dto : CreateScanDto) :
    (RedisService.enqueueRawScan rt config connected dto).All (works · = true) := by
  unfold RedisService.enqueueRawScan
  split
  · trivial
  · refine all_tryCatch ?_ fun _ => trivial
    refine all_bind ?_ fun _ => all_bind (all_call rfl) fun created => ?_
    · unfold RedisService.ensureConnected
      split
      · trivial
      · exact all_call rfl
    · split
      · trivial
      · exact all_bind (all_call rfl) fun _ => all_bind (all_call rfl) fun _ => trivial

theorem flushOnce_works (config : RedisConfig) :
    (RedisScanFlusherService.flushOnce rt config).All (works · = true) := by
  refine all_bind (all_call rfl) fun flushing => ?_
  split
  · trivial
  · refine all_bind (all_tryCatch ?_ fun _ => trivial) fun _ => all_call rfl
    refine all_bind (all_call rfl) fun lastId => all_bind (all_call rfl) fun entries => ?_
    split
    · trivial
    · exact all_bind (all_ofExcept _) fun _ => all_bind (all_call rfl) fun _ => all_call rfl

theorem process_works (id : Id) :
    (ScanProcessingProcessor.process rt id).All (works · = true) := by
  refine all_bind (all_call rfl) fun _ => all_bind (all_onDatabase ?_) fun _ => all_call rfl
  exact ScansService.processRawScan_handles rt id

/-- The answer says that the scan is decided, or the call decides it. -/
def decides (id : Id) : (c : QueueCall) → Except Exn (QueueResp c) → Prop
  | .base c, x => Decides id c x
  | _, _ => False

theorem process_earns (id : Id) :
    (ScanProcessingProcessor.process rt id).Earns (decides id) := by
  refine earns_bind_right fun _ => Earns.bind (earns_onDatabase ?_) _
  exact ScansService.processRawScan_earns rt id

/-- After such an answer the scan is decided for good. -/
theorem decided_of_decides {c : QueueCall} {x : Except Exn (QueueResp c)} {id : Id}
    {faulty : QueueCall → Prop} (halloc : Allocated s.base id) (hx : decides id c x)
    (ho : (queueService rt strict faulty).Outcome c s x s') : Decided s' id := by
  cases c with
  | base c =>
      cases c with
      | rawScanById k =>
          obtain ⟨rfl, rfl | ⟨e, rfl⟩⟩ := rawScanById_cases ho
          case inr => cases hx
          refine ⟨halloc, ?_⟩
          rintro ⟨a, ha, hid, hstatus⟩
          cases hfind : s'.base.rawScans.find? k with
          | none =>
              rw [hfind] at hx
              exact Table.find?_eq_none_iff.mp hfind a ha (hid.trans hx.symm)
          | some b =>
              rw [hfind] at hx
              obtain ⟨rfl, hb⟩ := hx
              obtain ⟨hmem, hkey⟩ := Table.find?_eq_some_iff.mp hfind
              obtain rfl := s'.base.rawScans.eq_of_key ha hmem (hid.trans hkey.symm)
              exact hb ⟨hid, hstatus⟩
      | rawScanUpdate k v =>
          obtain ⟨b, he, rfl⟩ := effect_of_outcome ho
          cases he with
          | read hc => cases hc
          | failed => cases hx
          | update hu =>
              obtain ⟨rfl, hv⟩ := hx
              obtain ⟨n, hn, hid⟩ := halloc
              obtain ⟨_, _, _, _, _, hserial⟩ := Table.update_eq_done hu
              exact ⟨⟨n, hserial ▸ hn, hid⟩, fun hp => (pending_of_update hv hu hp).2 rfl⟩
      | updateProcessed scan d =>
          obtain ⟨b, he, rfl⟩ := effect_of_outcome ho
          cases he with
          | read hc => cases hc
          | failed => cases hx
          | settleRaw hu =>
              obtain rfl := hx
              obtain ⟨n, hn, hid⟩ := halloc
              obtain ⟨_, _, _, _, _, hserial⟩ := Table.update_eq_done hu
              have hv : d.verdict.status ≠ .PENDING := by simp [Decision.verdict]
              exact ⟨⟨n, hserial ▸ hn, hid⟩, fun hp => (pending_of_update hv hu hp).2 rfl⟩
      | _ => exact False.elim hx
  | _ => exact False.elim hx

/-- A last call that creates no scan. -/
theorem holds_last {c : QueueCall} (hk : (discipline rt strict).Keeps t c w)
    (hc : ∀ x s log, created (⟨t, c, x, s⟩ :: log) = none) :
    (discipline rt strict).logic.Holds t (fun _ w' => Free t w') (queueCall c) w := by
  refine Logic.Holds.mono (holds_performed hk) fun x w' _ h => ?_
  obtain ⟨s, hown⟩ := h.own
  unfold Free
  rw [hown]
  exact hc x s _

/-- An attempt completes its job only when its scan was decided. -/
theorem holds_attempt {job : Nat} {id : Id} (hi : Served w) (hf : Free t w)
    (hjob : w.store.base.scanJobs[job]? = some id) :
    (discipline rt strict).logic.Holds t (fun _ w' => Free t w')
      (ScanProcessingProcessor.attempt rt job id) w := by
  let F : World QueueResp Exn QueueStore → Prop := fun w =>
    Free t w ∧ w.store.base.scanJobs[job]? = some id ∧ Allocated w.store.base id
  let G : World QueueResp Exn QueueStore → Prop := fun w => Decided w.store id
  have hF : ∀ w w', (discipline rt strict).Since t w w' → F w → F w' := fun w w' hs h =>
    ⟨h.1.of_since hs, hs.1.job h.2.1, hs.1.allocated h.2.2⟩
  have hG : ∀ w w', (discipline rt strict).Leads w w' → G w → G w' := fun w w' hl h =>
    h.follows hl.1
  have hP : ∀ c, works c = true → ∀ w, F w → Served w → Permits t c w → ∀ x s',
      (queueService rt strict SparesAdditions).Outcome c w.store x s' →
      Served (w.log t c x s') ∧ F (w.log t c x s') ∧ (decides id c x → G (w.log t c x s')) := by
    intro c hc w hF hi hp x s' ho
    obtain ⟨hserved, hfree⟩ := works_keep hc hF.1 hi hp ho
    have hfollows := follows_of_outcome hp ho
    exact ⟨hserved, ⟨hfree, hfollows.job hF.2.1, hfollows.allocated hF.2.2⟩,
      fun hx => decided_of_decides hF.2.2 hx ho⟩
  have hstart : F w := ⟨hf, hjob, hi.allocated id (List.mem_of_getElem? hjob)⟩
  have hprocess : (discipline rt strict).logic.Holds t (fun x w' => F w' ∧ ∀ a, x = .ok a → G w')
      (ScanProcessingProcessor.process rt id) w :=
    holds_earned hF hG hP (process_works id) hstart (.inr (process_earns id))
  have hsucceeds : (discipline rt strict).logic.Holds t
      (fun x w' => F w' ∧ (x = .ok true → G w'))
      ((ScanProcessingProcessor.process rt id).bind fun _ => .ret true) w := by
    refine holds_bind hi hprocess (fun _ w' _ _ h => ?_) fun e w' _ _ h => ⟨h.1, fun hx => by cases hx⟩
    exact fun u hu _ => ⟨hF _ _ hu h.1, fun _ => hG _ _ (Since.leads hu) (h.2 _ rfl)⟩
  have htried : (discipline rt strict).logic.Holds t
      (fun x w' => F w' ∧ (x = .ok true → G w'))
      (((ScanProcessingProcessor.process rt id).bind fun _ => .ret true).tryCatch
        fun _ => .ret false) w := by
    refine holds_tryCatch hi hsucceeds (fun _ _ _ _ h => h) fun e w' _ _ h => ?_
    exact fun u hu _ => ⟨hF _ _ hu h.1, fun hx => by cases hx⟩
  refine holds_bind hi htried (fun succeeded w' _ _ h => ?_) fun e w' _ _ h => h.1.1
  cases succeeded with
  | true =>
      refine holds_last (fun u hu hiu hp x s' ho => ?_) fun _ _ _ => rfl
      obtain ⟨hfree, hjob', -⟩ := hF w' u hu h.1
      exact hiu.complete hfree hjob' (hG w' u (Since.leads hu) (h.2 rfl)) ho
  | false =>
      refine holds_last (fun u hu hiu hp x s' ho => ?_) fun _ _ _ => rfl
      obtain ⟨hfree, hjob', -⟩ := hF w' u hu h.1
      exact hiu.fail hfree hjob' hp.1 ho

/-- After a creation its thread is about to queue the scan, or the creation failed. -/
theorem holds_create {dto : CreateScanDto} {scannedAt : Option Time} {v : RawScanVerdict}
    (hf : Free t w) :
    (discipline rt strict).logic.Holds t (fun x w' => match x with
        | .ok view => created (w'.own t) = some view.scan.id ∧ Allocated w'.store.base view.scan.id
        | .error _ => Free t w')
      (queueCall (.base (.rawScanCreate dto scannedAt v))) w := by
  have hkeeps : (discipline rt strict).Keeps t (.base (.rawScanCreate dto scannedAt v)) w :=
    fun u hu hiu _ x s' ho => hiu.create (hf.of_since hu) ho
  refine Logic.Holds.mono (holds_performed hkeeps) fun x w' _ h => ?_
  obtain ⟨s₁, hown⟩ := h.own
  obtain ⟨w₀, s₀, -, -, -, ho, hs⟩ := h
  cases x with
  | error e =>
      unfold Free
      rw [hown]
      rfl
  | ok view =>
      rcases create_cases ho with ⟨-, e, he⟩ | ⟨view', rawScans, data, hview, hc, rfl⟩
      · cases he
      · cases hview
        obtain ⟨hrow, -, hserial⟩ := Table.create_eq_some hc
        have hnew : Allocated ({ w₀.store.base with rawScans } : Store) view.scan.id :=
          ⟨w₀.store.base.rawScans.serial, by simp [hserial], by rw [hrow]; rfl⟩
        exact ⟨by rw [hown]; rfl, hs.1.allocated hnew⟩

/-- A fast scan that creates a row queues it. -/
theorem holds_ingestFast (hproc : rt.scanProcessingEnabled = true) (dto : CreateScanDto)
    (hi : Served w) (hf : Free t w) :
    (discipline rt strict).logic.Holds t (fun _ w' => Free t w')
      (onDatabase (ScansService.ingestFast rt dto)) w := by
  unfold ScansService.ingestFast
  rw [bind_eq, onDatabase_bind, onDatabase_call]
  have hread : (discipline rt strict).logic.Holds t (fun _ w' => Free t w')
      (queueCall (.base (.rawScanByOperation dto.operationId))) w :=
    holds_works (all_call rfl) hf
  refine holds_bind hi hread (fun existing w₁ hi₁ _ hf₁ => ?_) fun _ _ _ _ h => h
  cases existing with
  | some existing => exact holds_works (by trivial) hf₁
  | none =>
      dsimp only
      rw [bind_eq, onDatabase_bind, onDatabase_call]
      refine holds_bind hi₁ (holds_create hf₁) (fun view w₂ hi₂ _ h => ?_) fun _ _ _ _ h => h
      obtain ⟨hown, halloc⟩ := h
      rw [if_neg (by simp [hproc]), tryCatch_eq, onDatabase_tryCatch, bind_eq, onDatabase_bind,
        onDatabase_call]
      have hkeeps : (discipline rt strict).Keeps t (.base (.enqueueScan view.scan.id)) w₂ :=
        fun u hu hiu _ x s' ho =>
          hiu.enqueue (by rw [hu.own]; exact hown) (hu.1.allocated halloc) ho
      have hqueued := holds_last hkeeps fun _ _ _ => rfl
      have hblock : (discipline rt strict).logic.Holds t (fun _ w' => Free t w')
          ((queueCall (.base (.enqueueScan view.scan.id))).bind fun _ => onDatabase (.ret
            ({ queued := true, scanEventId := view.scan.id, status := view.scan.status } :
              FastReply))) w₂ :=
        holds_bind hi₂ hqueued (fun _ w₃ _ _ hf₃ => holds_works (by trivial) hf₃)
          fun _ _ _ _ h => h
      refine holds_tryCatch hi₂ hblock (fun _ _ _ _ h => h) fun _ w₃ _ _ hf₃ => ?_
      exact holds_works (by trivial) hf₃

theorem all_made {p : QueueSvc α} (hp : p.All (works · = true)) : p.All (made · = true) :=
  hp.mono fun _ => made_of_works

/-- Every call of the operations is known. -/
theorem QueueRun.made {p : QueueSvc Unit} (h : QueueRun rt s p) : p.All (Jobs.made · = true) := by
  cases h with
  | ingestFast dto =>
      refine all_void (all_onDatabase ?_)
      refine all_bind (all_call rfl) fun existing => ?_
      cases existing with
      | some existing => trivial
      | none =>
          refine all_bind (all_call rfl) fun view => all_ite trivial ?_
          exact all_tryCatch (all_bind (all_call rfl) fun _ => trivial) fun _ => trivial
  | enqueueRawScan config connected dto =>
      exact all_void (all_made (enqueueRawScan_works config connected dto))
  | flushOnce config => exact all_made (flushOnce_works config)
  | attempt _ _ =>
      refine all_bind (all_tryCatch ?_ fun _ => trivial) fun succeeded => ?_
      · exact all_bind (all_made (process_works _)) fun _ => trivial
      · exact all_ite (all_call rfl) (all_call rfl)

/-- Every operation ends with nothing left to be queued. -/
theorem QueueRun.holds {p : QueueSvc Unit} (hproc : rt.scanProcessingEnabled = true)
    (h : QueueRun rt w.store p) (hi : Served w) (hf : Free t w) :
    (discipline rt strict).logic.Holds t (fun _ w' => Free t w') p w := by
  have hvoid : ∀ {β : Type} {q : QueueSvc β},
      (discipline rt strict).logic.Holds t (fun _ w' => Free t w') q w →
      (discipline rt strict).logic.Holds t (fun _ w' => Free t w') q.void w := fun hq =>
    holds_bind hi hq (fun _ w' _ _ hf' => holds_works (by trivial) hf') fun _ _ _ _ h => h
  cases h with
  | ingestFast dto => exact hvoid (holds_ingestFast hproc dto hi hf)
  | enqueueRawScan config connected dto =>
      exact hvoid (holds_works (enqueueRawScan_works config connected dto) hf)
  | flushOnce config => exact holds_works (flushOnce_works config) hf
  | attempt hjob hlive => exact holds_attempt hi hf hjob

end Threads

/-! ## The result -/

/-- Sending the operation again by either way creates a job on the scan. -/
def ResubmissionQueues (rt : Runtime) (strict : Bool) (s : QueueStore) (a : ScanEventRaw) : Prop :=
  ∃ dto ch, dto.operationId = a.operationId ∧
    (HasJob ((onDatabase (ScansService.ingestFast rt dto)).run (queueMachine rt strict ch) s).2 a.id ∨
      ∃ config connected,
        HasJob (((RedisService.enqueueRawScan rt config connected dto).void.bind fun _ =>
          RedisScanFlusherService.flushOnce rt config).run (queueMachine rt strict ch) s).2 a.id)

/-- No pending scan is left without a job. -/
def NoneStranded (rt : Runtime) (strict : Bool) (s : QueueStore) : Prop :=
  ∀ a ∈ s.base.rawScans.rows, a.status = .PENDING →
    HasJob s a.id ∨ ResubmissionQueues rt strict s a

/-- Where no addition to the queue fails, the flusher adds no row and no job gives up on a
pending scan, no pending scan is stranded once no operation is in progress. -/
theorem pending_scans_have_jobs {rt : Runtime} {strict : Bool}
    (hproc : rt.scanProcessingEnabled = true) {b : Store}
    (hdecided : ∀ id, ¬ IsPending b.rawScans id) (hjobs : b.scanJobs = [])
    {cfg : Config QueueResp Exn (World QueueResp Exn QueueStore)}
    (hr : ((queueService rt strict SparesAdditions).system.restrict KeepsJobs).Reach
      (Service.init { base := b }) cfg)
    (hq : System.Quiescent cfg) : NoneStranded rt strict cfg.world.store := by
  have hmade : ∀ w p w', (queueService rt strict SparesAdditions).system.spawns w p w' →
      p.All (made · = true) := fun _ _ _ h => h.2.1.made
  obtain ⟨hr', -⟩ := hr.permit_all hmade fun p hp => by cases hp
  have hinit : Served ⟨{ base := b }, []⟩ := by
    refine ⟨fun id hp => absurd hp (hdecided id), fun job h => by simp at h, fun id hid => ?_⟩
    rw [hjobs] at hid
    cases hid
  obtain ⟨hlogged, hends⟩ := Discipline.ends_of_reach (D := discipline rt strict) (Q := Free)
    (fun t w p s' hfresh hi h => by
      obtain ⟨hrun, rfl⟩ := h
      have hfree : Free t w := by
        have hnone : w.own t = [] := List.filter_eq_nil_iff.mpr fun e he => by
          simpa using hfresh e he
        unfold Free
        rw [hnone]
        rfl
      exact hrun.holds hproc hi hfree) hinit hr'
  intro a ha hstatus
  rcases hends.1.pending a.id ⟨a, ha, rfl, hstatus⟩ with hjob | ⟨t, hcreated⟩
  · exact .inl hjob
  · exfalso
    by_cases ht : t < cfg.pool.length
    · have hfree : Free t cfg.world := hends.quiescent hq ht
      rw [hfree] at hcreated
      cases hcreated
    · have hnone : cfg.world.own t = [] := List.filter_eq_nil_iff.mpr fun e he => by
        have hlt := hlogged e he
        have hne : e.thread ≠ t := by omega
        simpa using hne
      rw [hnone] at hcreated
      cases hcreated

/-! ## Scans that are left over -/

section LeftOver

/-- A call that works leaves the jobs alone. -/
theorem scanJobs_of_works {c : QueueCall} (hc : works c = true) (rt : Runtime) (strict : Bool)
    (ch : Choice) (s : QueueStore) :
    (queueMachine rt strict ch c s).2.base.scanJobs = s.base.scanJobs := by
  have hrows : ∀ {rows : List ScanEventRaw} {b b' : Store},
      Store.insertRawScans strict b rows = some b' → b'.scanJobs = b.scanJobs := by
    intro rows
    induction rows with
    | nil =>
        intro b b' h
        cases h
        rfl
    | cons a rest ih =>
        intro b b' h
        obtain ⟨b₁, hfirst, hrest⟩ := Option.bind_eq_some_iff.mp h
        have hone : b₁.scanJobs = b.scanJobs := by
          unfold Store.insertRawScan at hfirst
          split at hfirst
          · cases hfirst
            rfl
          · split at hfirst
            · cases hfirst
              cases b.rawScans.create a <;> rfl
            · split at hfirst
              · cases hfirst
              · cases hfirst
                rfl
        exact (ih hrest).trans hone
  cases c with
  | base c => exact (quiet_of_effect hc (effect_of_machine rfl) : Quiet s _).jobs
  | createManyRawScans data =>
      simp only [queueMachine, onQueueBase, Store.createManyRawScans]
      split
      · rfl
      · split
        · rfl
        · next hb => exact hrows hb
  | setNx key seconds =>
      simp only [queueMachine]
      split <;> rfl
  | jobCompleted job => cases hc
  | jobFailed job => cases hc
  | _ => rfl

/-- A stored operation answers the fast scan. -/
theorem run_ingestFast_duplicate {dto : CreateScanDto} {a : ScanEventRaw} (ch : Choice)
    (ha : a ∈ s.base.rawScans.rows) (hop : dto.operationId = a.operationId) :
    ((onDatabase (ScansService.ingestFast rt dto)).run (queueMachine rt strict ch) s).2 = s := by
  have hfound : ∃ b, s.base.rawScans.rows.find? (fun x => x.operationId = dto.operationId) =
      some b := by
    apply Option.isSome_iff_exists.mp
    exact List.find?_isSome.mpr ⟨a, ha, by simp [hop]⟩
  obtain ⟨b, hb⟩ := hfound
  unfold ScansService.ingestFast
  rw [bind_eq, onDatabase_bind, onDatabase_call]
  simp [queueCall, Prog.call, queueMachine, onQueueBase, machine, query, hb, onDatabase]

/-- Where there is no job, a resubmission of a stored operation creates none. -/
theorem stranded_of_no_jobs {a : ScanEventRaw} (hjobs : s.base.scanJobs = [])
    (ha : a ∈ s.base.rawScans.rows) (hstatus : a.status = .PENDING) : ¬ NoneStranded rt strict s := by
  have hnone : ∀ {s : QueueStore} {id : Id}, s.base.scanJobs = [] → ¬ HasJob s id := by
    rintro s id hempty ⟨job, hjob, -⟩
    rw [hempty] at hjob
    cases hjob
  intro h
  rcases h a ha hstatus with hjob | ⟨dto, ch, hop, hjob | ⟨config, connected, hjob⟩⟩
  · exact hnone hjobs hjob
  · rw [run_ingestFast_duplicate ch ha hop] at hjob
    exact hnone hjobs hjob
  · refine hnone ?_ hjob
    exact run_invariant (I := fun s => s.base.scanJobs = []) _
      (fun c hc u hu => (scanJobs_of_works hc rt strict ch u).trans hu)
      (all_bind (all_void (enqueueRawScan_works config connected dto))
        fun _ => flushOnce_works config) hjobs

/-- The calls of a run that only sends fast scans. -/
def simple : QueueCall → Bool
  | .createManyRawScans _ => false
  | .jobFailed _ => false
  | _ => true

theorem keepsJobs_of_simple {c : QueueCall} {w : World QueueResp Exn QueueStore}
    (h : simple c = true) : KeepsJobs t c w := by
  cases c <;> trivial

/-- Some scan is pending, and every program has ended. -/
def endsPending (cfg : Config QueueResp Exn (World QueueResp Exn QueueStore)) : Bool :=
  cfg.pool.all System.finished && cfg.world.store.base.rawScans.rows.any fun a => a.status = .PENDING

theorem fast_scan_has_a_job :
    ∃ cfg, ((queueService sampleRuntime true SparesAdditions).system.restrict KeepsJobs).Reach
        (Service.init { base := sampleStore }) cfg ∧
      endsPending cfg = true ∧ NoneStranded sampleRuntime true cfg.world.store := by
  obtain ⟨cfg, hr, hends⟩ := Service.exists_config_of_perform
    (v := queueService sampleRuntime true SparesAdditions) (fun _ c _ => simple c = true)
    [.start (onDatabase (ScansService.ingestFast sampleRuntime (sampleDto "op-1"))).void
      (fun _ => true) id, .step 0 ({} : Choice), .step 0 ({} : Choice), .step 0 ({} : Choice)]
    (Service.init { base := sampleStore }) endsPending
    (by simp [Service.Action.Legal, queueService, QueueRun.ingestFast]) (by decide +kernel)
  have hr' : ((queueService sampleRuntime true SparesAdditions).system.restrict KeepsJobs).Reach
      (Service.init { base := sampleStore }) cfg := by
    refine System.Reach.mono ?_ ?_ ?_ hr
    · rintro t c w x w' ⟨hsimple, hanswer⟩
      exact ⟨keepsJobs_of_simple hsimple, hanswer⟩
    · exact fun he => he
    · exact fun hs => hs
  refine ⟨cfg, hr', hends, pending_scans_have_jobs rfl ?_ rfl hr' ?_⟩
  · rintro id ⟨a, ha, -⟩
    cases ha
  · exact System.quiescent_of_finished (Bool.and_eq_true_iff.mp hends).1

theorem stranded_of_ends {cfg : Config QueueResp Exn (World QueueResp Exn QueueStore)}
    (h : (endsPending cfg && cfg.world.store.base.scanJobs.isEmpty) = true) :
    System.Quiescent cfg ∧ ¬ NoneStranded rt strict cfg.world.store := by
  obtain ⟨hends, hempty⟩ := Bool.and_eq_true_iff.mp h
  obtain ⟨hdone, hpending⟩ := Bool.and_eq_true_iff.mp hends
  obtain ⟨a, ha, hstatus⟩ := List.any_eq_true.mp hpending
  exact ⟨System.quiescent_of_finished hdone,
    stranded_of_no_jobs (List.isEmpty_iff.mp hempty) ha (of_decide_eq_true hstatus)⟩

/-- Where additions to the queue fail. -/
def additions : QueueCall → Bool
  | .base (.enqueueScan _) => true
  | _ => false

theorem faulty_of_additions {c : QueueCall} (h : additions c = true) : c.faulty := by
  cases c with
  | base c => cases c <;> trivial
  | _ => cases h

/-- The addition of a fast scan to the queue fails, or the flusher creates the scan: then no job
is on the scan, and no resubmission creates one. -/
theorem scans_are_stranded :
    (∃ cfg, (queueService sampleRuntime true QueueCall.faulty).system.Reach
        (Service.init { base := sampleStore }) cfg ∧
      System.Quiescent cfg ∧ ¬ NoneStranded sampleRuntime true cfg.world.store) ∧
    ∃ cfg, (queueService sampleRuntime true SparesAdditions).system.Reach
        (Service.init { base := sampleStore }) cfg ∧
      System.Quiescent cfg ∧ ¬ NoneStranded sampleRuntime true cfg.world.store := by
  constructor
  · obtain ⟨cfg, hr, hends⟩ := Service.exists_config_of_perform
      (v := (queueService sampleRuntime true QueueCall.faulty).withFaults additions
        (.error "Connection is closed"))
      (fun _ _ _ => True)
      [.start (onDatabase (ScansService.ingestFast sampleRuntime (sampleDto "op-1"))).void
        (fun _ => true) id, .step 0 ({}, false), .step 0 ({}, false), .step 0 ({}, true)]
      (Service.init { base := sampleStore })
      (fun cfg => endsPending cfg && cfg.world.store.base.scanJobs.isEmpty)
      (by simp [Service.Action.Legal, Service.withFaults, queueService, QueueRun.ingestFast])
      (by decide +kernel)
    have hr' := Service.reach_of_withFaults (fun _ h => faulty_of_additions h) hr
    rw [System.restrict_true] at hr'
    exact ⟨cfg, hr', stranded_of_ends hends⟩
  · obtain ⟨cfg, hr, hends⟩ := Service.exists_config_of_perform
      (v := queueService sampleRuntime true SparesAdditions) (fun _ _ _ => True)
      [.start (RedisService.enqueueRawScan sampleRuntime {} true (sampleDto "op-1")).void
          (fun _ => true) id, .step 0 ({} : Choice), .step 0 ({} : Choice), .step 0 ({} : Choice),
        .start (RedisScanFlusherService.flushOnce sampleRuntime {}) (fun _ => true) id,
        .step 1 ({} : Choice), .step 1 ({} : Choice), .step 1 ({} : Choice), .step 1 ({} : Choice),
        .step 1 ({} : Choice), .step 1 ({} : Choice)]
      (Service.init { base := sampleStore })
      (fun cfg => endsPending cfg && cfg.world.store.base.scanJobs.isEmpty)
      (by simp [Service.Action.Legal, queueService, QueueRun.enqueueRawScan, QueueRun.flushOnce])
      (by decide +kernel)
    rw [System.restrict_true] at hr
    exact ⟨cfg, hr, stranded_of_ends hends⟩

end LeftOver

end Jobs

end CreativeBackend
