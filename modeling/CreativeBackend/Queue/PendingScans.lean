import CreativeBackend.Interaction.Discipline
import CreativeBackend.Queue.Jobs

/-!
# Pending scans and their jobs

Fast scans, enqueued scans, cycles of the flusher and attempts of workers run at the same
time. A pending raw scan has a live job, or the thread that created it is about to queue one.

## Implementation notes

What a thread is about to queue is read off the latest entry of its log.
-/

namespace CreativeBackend

open Relational Interaction Prog

namespace Jobs

variable {rt : Runtime} {strict : Bool} {s s' s'' : QueueStore} {t : Nat}

/-! ## The service -/

/-- The job is still to be run. -/
def Live (s : QueueStore) (job : Nat) : Prop :=
  job ∉ s.completed ∧ s.failures.count job < SCAN_JOB_ATTEMPTS

/-- The operations of the ingest and of its workers. -/
inductive QueueRun (rt : Runtime) (s : QueueStore) : QueueSvc Unit → Prop
  | ingestFast (dto : CreateScanDto) : QueueRun rt s (onDatabase (ScansService.ingestFast rt dto)).void
  | enqueueRawScan (config : RedisConfig) (connected : Bool) (dto : CreateScanDto) :
      QueueRun rt s (RedisService.enqueueRawScan rt config connected dto).void
  | flushOnce (config : RedisConfig) : QueueRun rt s (RedisScanFlusherService.flushOnce rt config)
  | attempt {job : Nat} {scanEventRawId : Id} (hjob : s.base.scanJobs[job]? = some scanEventRawId)
      (hlive : Live s job) : QueueRun rt s (ScanProcessingProcessor.attempt rt job scanEventRawId)

/-- Others leave the raw scans and the jobs alone. -/
structure SameJobs (s s' : QueueStore) : Prop where
  rawScans : s'.base.rawScans = s.base.rawScans
  jobs : s'.base.scanJobs = s.base.scanJobs
  completed : s'.completed = s.completed
  failures : s'.failures = s.failures

/-- Operations among others. The calls in `faulty` may fail without effect. -/
def queueService (rt : Runtime) (strict : Bool) (faulty : QueueCall → Prop) :
    Service QueueResp Exn QueueStore where
  Choice := Choice
  machine := queueMachine rt strict
  faulty
  env := SameJobs
  starts s p s' := QueueRun rt s p ∧ s' = s

/-- Every call may fail that does not add a scan to the queue. -/
def SparesAdditions (c : QueueCall) : Prop := c.faulty ∧ ∀ id, c ≠ .base (.enqueueScan id)

/-! ## What a call does to the pending scans -/

/-- The scan is pending. -/
def IsPending (rawScans : Table ScanEventRaw) (id : Id) : Prop :=
  ∃ a ∈ rawScans.rows, a.id = id ∧ a.status = .PENDING

/-- The id was handed out. -/
def Allocated (b : Store) (id : Id) : Prop := ∃ n < b.rawScans.serial, id = fresh n

/-- No row of the batch is inserted. -/
def AddsNoRow (b : Store) (data : List RawScanData) : Prop :=
  ∀ rows, data.mapM RawScanData.row? = some rows →
    ∀ a ∈ rows, b.hasRawScan a.operationId = true ∨ b.refersAll a = false

/-- The flusher adds no row, and no job fails for the last time while its scan is pending. -/
def KeepsJobs : Nat → QueueCall → World QueueResp Exn QueueStore → Prop
  | _, .createManyRawScans data, w => AddsNoRow w.store.base data
  | _, .jobFailed job, w => w.store.failures.count job + 1 < SCAN_JOB_ATTEMPTS ∨
      ∀ id, w.store.base.scanJobs[job]? = some id → ¬ IsPending w.store.base.rawScans id
  | _, _, _ => True

/-- The calls that neither create a scan nor change a job. -/
def works : QueueCall → Bool
  | .base c => c.handles
  | .jobCompleted _ => false
  | .jobFailed _ => false
  | _ => true

/-- The calls of the operations. -/
def made : QueueCall → Bool
  | .base (.rawScanCreate _ _ _) => true
  | .base (.enqueueScan _) => true
  | .base c => c.handles
  | _ => true

theorem made_of_works {c : QueueCall} (h : works c = true) : made c = true := by
  cases c with
  | base c => cases c <;> first | rfl | exact h
  | _ => rfl

/-- A call that makes no scan pending. -/
structure Quiet (s s' : QueueStore) : Prop where
  serial : s.base.rawScans.serial ≤ s'.base.rawScans.serial
  pending : ∀ id, IsPending s'.base.rawScans id → IsPending s.base.rawScans id
  jobs : s'.base.scanJobs = s.base.scanJobs
  completed : s'.completed = s.completed
  failures : s'.failures = s.failures

theorem SameJobs.quiet (h : SameJobs s s') : Quiet s s' :=
  ⟨Nat.le_of_eq (congrArg Table.serial h.rawScans).symm, fun _ hp => h.rawScans ▸ hp, h.jobs,
    h.completed, h.failures⟩

theorem Quiet.refl (s : QueueStore) : Quiet s s := ⟨Nat.le_refl _, fun _ h => h, rfl, rfl, rfl⟩

theorem quiet_of_rows {b : Store} (h : b.rawScans = s.base.rawScans)
    (hj : b.scanJobs = s.base.scanJobs) : Quiet s { s with base := b } :=
  SameJobs.quiet ⟨h, hj, rfl, rfl⟩

/-- A row that is written is not pending. -/
theorem pending_of_update {rawScans rawScans' : Table ScanEventRaw} {k id : Id} {now : Time}
    {v : RawScanVerdict} {row : ScanEventRaw} (hv : v.status ≠ .PENDING)
    (hu : rawScans.update k (Store.applyVerdict now v) = .done row rawScans')
    (hp : IsPending rawScans' id) : IsPending rawScans id ∧ id ≠ k := by
  obtain ⟨a, ha, hid, hstatus⟩ := hp
  rcases (Table.mem_update hu).mp ha with ⟨hold, hne⟩ | rfl
  · exact ⟨⟨a, hold, hid, hstatus⟩, fun heq => hne (hid.trans heq)⟩
  · obtain ⟨_, _, _, hrow, _, _⟩ := Table.update_eq_done hu
    rw [hrow] at hstatus
    exact absurd hstatus hv

theorem quiet_of_update {b : Store} {k : Id} {now : Time} {v : RawScanVerdict}
    {row : ScanEventRaw} (hv : v.status ≠ .PENDING) (hj : b.scanJobs = s.base.scanJobs)
    (hu : s.base.rawScans.update k (Store.applyVerdict now v) = .done row b.rawScans) :
    Quiet s { s with base := b } := by
  obtain ⟨_, _, _, _, _, hserial⟩ := Table.update_eq_done hu
  exact ⟨Nat.le_of_eq hserial.symm, fun id hp => (pending_of_update hv hu hp).1, hj, rfl, rfl⟩

theorem insertRawScans_eq {b b' : Store} {rows : List ScanEventRaw}
    (h : ∀ a ∈ rows, b.hasRawScan a.operationId = true ∨ b.refersAll a = false)
    (hi : Store.insertRawScans strict b rows = some b') : b' = b := by
  induction rows with
  | nil =>
      cases hi
      rfl
  | cons a rest ih =>
      obtain ⟨b₁, hfirst, hrest⟩ := Option.bind_eq_some_iff.mp hi
      have hsame : b₁ = b := by
        unfold Store.insertRawScan at hfirst
        split at hfirst
        · cases hfirst
          rfl
        · next hnew =>
            rcases h a List.mem_cons_self with hhas | hrefers
            · exact absurd hhas hnew
            · rw [if_neg (by simp [hrefers])] at hfirst
              split at hfirst
              · cases hfirst
              · cases hfirst
                rfl
      subst hsame
      exact ih (fun x hx => h x (List.mem_cons_of_mem _ hx)) hrest

section Outcomes

variable {faulty : QueueCall → Prop} {w : World QueueResp Exn QueueStore}

/-- What a call on the database does. -/
theorem effect_of_outcome {c : Call} {x : Except Exn (Resp c)}
    (h : (queueService rt strict faulty).Outcome (.base c) s x s') :
    ∃ b, Effect s.base c x b ∧ s' = { s with base := b } := by
  rcases h with ⟨ch, hm⟩ | ⟨-, rfl, e, rfl⟩
  · have hfirst : (machine rt ch c s.base).1 = x := congrArg Prod.fst hm
    have hsecond : { s with base := (machine rt ch c s.base).2 } = s' := congrArg Prod.snd hm
    exact ⟨_, effect_of_machine (Prod.ext hfirst rfl), hsecond.symm⟩
  · exact ⟨_, .failed, rfl⟩

theorem quiet_of_effect {c : Call} {x : Except Exn (Resp c)} {b : Store} (hc : c.handles = true)
    (h : Effect s.base c x b) : Quiet s { s with base := b } := by
  cases h with
  | update hu => exact quiet_of_update (by simpa [Call.handles] using hc) rfl hu
  | settleRaw hu => exact quiet_of_update (by simp [Decision.verdict]) rfl hu
  | remove => cases hc
  | create => cases hc
  | settle => cases hc
  | enqueueScan => cases hc
  | _ => exact quiet_of_rows rfl rfl

/-- A call that is permitted and works makes no scan pending. -/
theorem quiet_of_outcome {c : QueueCall} {x : Except Exn (QueueResp c)} (hc : works c = true)
    (hp : KeepsJobs t c w) (h : (queueService rt strict faulty).Outcome c w.store x s') :
    Quiet w.store s' := by
  cases c with
  | base c =>
      obtain ⟨b, he, rfl⟩ := effect_of_outcome h
      exact quiet_of_effect hc he
  | createManyRawScans data =>
      rcases h with ⟨ch, hm⟩ | ⟨-, rfl, -⟩
      case inr => exact .refl _
      obtain rfl : { w.store with base := (w.store.base.createManyRawScans strict data).2 } = s' :=
        congrArg Prod.snd hm
      have hsame : (w.store.base.createManyRawScans strict data).2 = w.store.base := by
        unfold Store.createManyRawScans
        split
        · rfl
        · next rows hrows =>
            split
            · rfl
            · next b hb => exact insertRawScans_eq (hp rows hrows) hb
      rw [hsame]
      exact .refl _
  | setNx key seconds =>
      rcases h with ⟨ch, hm⟩ | ⟨-, rfl, -⟩
      case inr => exact .refl _
      simp only [queueService, queueMachine] at hm
      split at hm
      · cases hm
        exact .refl _
      · cases hm
        exact SameJobs.quiet ⟨rfl, rfl, rfl, rfl⟩
  | jobCompleted job => cases hc
  | jobFailed job => cases hc
  | _ =>
      rcases h with ⟨ch, hm⟩ | ⟨-, rfl, -⟩
      · cases hm
        exact SameJobs.quiet ⟨rfl, rfl, rfl, rfl⟩
      · exact .refl _

/-- What a creation does. -/
theorem create_cases {dto : CreateScanDto} {scannedAt : Option Time} {v : RawScanVerdict}
    {x : Except Exn RawScanView}
    (h : (queueService rt strict faulty).Outcome (.base (.rawScanCreate dto scannedAt v)) s x s') :
    s' = s ∧ (∃ e, x = .error e) ∨ ∃ view t data, x = .ok view ∧
      s.base.rawScans.create data = some (view.scan, t) ∧
      s' = { s with base := { s.base with rawScans := t } } := by
  obtain ⟨b, he, rfl⟩ := effect_of_outcome h
  cases he with
  | read hc => cases hc
  | failed => exact .inl ⟨rfl, _, rfl⟩
  | create hc => exact .inr ⟨_, _, _, rfl, hc, rfl⟩

/-- What an addition to the queue does, where it does not fail. -/
theorem enqueueScan_cases {id : Id} {x : Except Exn Unit}
    (h : (queueService rt strict SparesAdditions).Outcome (.base (.enqueueScan id)) s x s') :
    x = .ok () ∧ s' = { s with base := { s.base with scanJobs := s.base.scanJobs ++ [id] } } := by
  rcases h with ⟨ch, hm⟩ | ⟨hfaulty, -⟩
  · cases hm
    exact ⟨rfl, rfl⟩
  · exact absurd rfl (hfaulty.2 id)

theorem rawScanById_cases {id : Id} {x : Except Exn (Option ScanEventRaw)}
    (h : (queueService rt strict faulty).Outcome (.base (.rawScanById id)) s x s') :
    s' = s ∧ (x = .ok (s.base.rawScans.find? id) ∨ ∃ e, x = .error e) := by
  rcases h with ⟨ch, hm⟩ | ⟨-, rfl, he⟩
  · cases hm
    exact ⟨rfl, .inl rfl⟩
  · exact ⟨rfl, .inr he⟩

theorem jobCompleted_cases {job : Nat} {x : Except Exn Unit}
    (h : (queueService rt strict faulty).Outcome (.jobCompleted job) s x s') :
    s' = s ∨ s' = { s with completed := s.completed ++ [job] } := by
  rcases h with ⟨ch, hm⟩ | ⟨-, rfl, -⟩
  · cases hm
    exact .inr rfl
  · exact .inl rfl

theorem jobFailed_cases {job : Nat} {x : Except Exn Unit}
    (h : (queueService rt strict faulty).Outcome (.jobFailed job) s x s') :
    s' = s ∨ s' = { s with failures := s.failures ++ [job] } := by
  rcases h with ⟨ch, hm⟩ | ⟨-, rfl, -⟩
  · cases hm
    exact .inr rfl
  · exact .inl rfl

end Outcomes

/-! ## The discipline -/

/-- The scan is decided or gone, and its id is not handed out again. -/
structure Decided (s : QueueStore) (id : Id) : Prop where
  allocated : Allocated s.base id
  decided : ¬ IsPending s.base.rawScans id

/-- What holds between an earlier and a later store. -/
structure Follows (s s' : QueueStore) : Prop where
  serial : s.base.rawScans.serial ≤ s'.base.rawScans.serial
  decided : ∀ id, Decided s id → ¬ IsPending s'.base.rawScans id
  jobs : s.base.scanJobs <+: s'.base.scanJobs

theorem Follows.refl (s : QueueStore) : Follows s s :=
  ⟨Nat.le_refl _, fun _ h => h.decided, List.prefix_refl _⟩

theorem Follows.allocated {id : Id} (h : Follows s s') (ha : Allocated s.base id) :
    Allocated s'.base id := by
  obtain ⟨n, hn, hid⟩ := ha
  exact ⟨n, Nat.lt_of_lt_of_le hn h.serial, hid⟩

theorem Decided.follows {id : Id} (h : Decided s id) (hf : Follows s s') : Decided s' id :=
  ⟨hf.allocated h.allocated, hf.decided id h⟩

theorem Follows.trans (h : Follows s s') (h' : Follows s' s'') : Follows s s'' :=
  ⟨Nat.le_trans h.serial h'.serial, fun _ hd => (hd.follows h |>.follows h').decided,
    h.jobs.trans h'.jobs⟩

theorem Follows.job {job : Nat} {id : Id} (h : Follows s s')
    (hj : s.base.scanJobs[job]? = some id) : s'.base.scanJobs[job]? = some id := by
  obtain ⟨later, hlater⟩ := h.jobs
  obtain ⟨hlt, -⟩ := List.getElem?_eq_some_iff.mp hj
  rw [← hlater, List.getElem?_append_left hlt, hj]

theorem Quiet.follows (h : Quiet s s') : Follows s s' :=
  ⟨h.serial, fun _ hd hp => hd.decided (h.pending _ hp), h.jobs ▸ List.prefix_refl _⟩

/-- A created scan has a new id. -/
theorem follows_create {data row : ScanEventRaw} {t : Table ScanEventRaw}
    (hc : s.base.rawScans.create data = some (row, t)) :
    Follows s { s with base := { s.base with rawScans := t } } := by
  obtain ⟨hrow, hrows, hserial⟩ := Table.create_eq_some hc
  refine ⟨?_, fun _ hd hp => ?_, List.prefix_refl _⟩
  · change s.base.rawScans.serial ≤ t.serial
    omega
  · obtain ⟨a, ha, hid, hstatus⟩ := hp
    rcases (Table.mem_create hc).mp ha with hold | rfl
    · exact hd.decided ⟨a, hold, hid, hstatus⟩
    · obtain ⟨n, hn, hfresh⟩ := hd.allocated
      have hkey : (fresh s.base.rawScans.serial : Id) = fresh n := by
        rw [← hfresh, ← hid, hrow]
        rfl
      exact absurd (fresh_injective hkey) (Nat.ne_of_gt hn)

theorem follows_enqueue (s : QueueStore) (id : Id) :
    Follows s { s with base := { s.base with scanJobs := s.base.scanJobs ++ [id] } } :=
  ⟨Nat.le_refl _, fun _ h => h.decided, List.prefix_append _ _⟩

/-- The scan that the latest call of a log created. -/
def created : List (Interaction.Event QueueResp Exn QueueStore) → Option Id
  | ⟨_, .base (.rawScanCreate _ _ _), .ok view, _⟩ :: _ => some view.scan.id
  | _ => none

/-- The thread is not about to queue a scan. -/
def Free (t : Nat) (w : World QueueResp Exn QueueStore) : Prop := created (w.own t) = none

/-- Some live job is on the scan. -/
def HasJob (s : QueueStore) (id : Id) : Prop :=
  ∃ job, s.base.scanJobs[job]? = some id ∧ Live s job

/-- A pending scan has a live job, or a thread is about to queue it. -/
structure Served (w : World QueueResp Exn QueueStore) : Prop where
  pending : ∀ id, IsPending w.store.base.rawScans id →
    HasJob w.store id ∨ ∃ t, created (w.own t) = some id
  ended : ∀ job, job ∈ w.store.completed ∨ job ∈ w.store.failures →
    job < w.store.base.scanJobs.length
  allocated : ∀ id ∈ w.store.base.scanJobs, Allocated w.store.base id

/-- The calls of the runs in question. -/
def Permits (t : Nat) (c : QueueCall) (w : World QueueResp Exn QueueStore) : Prop :=
  KeepsJobs t c w ∧ made c = true

section Steps

variable {w : World QueueResp Exn QueueStore} {faulty : QueueCall → Prop}

theorem follows_of_outcome {c : QueueCall} {x : Except Exn (QueueResp c)} (hp : Permits t c w)
    (h : (queueService rt strict SparesAdditions).Outcome c w.store x s') : Follows w.store s' := by
  cases hw : works c with
  | true => exact (quiet_of_outcome hw hp.1 h).follows
  | false =>
      obtain ⟨-, hmade⟩ := hp
      cases c with
      | base c =>
          cases c with
          | rawScanCreate dto scannedAt v =>
              rcases create_cases h with ⟨rfl, -⟩ | ⟨view, t, data, -, hc, rfl⟩
              · exact .refl _
              · exact follows_create hc
          | enqueueScan id =>
              obtain ⟨-, rfl⟩ := enqueueScan_cases h
              exact follows_enqueue _ id
          | _ => exact absurd (hmade.symm.trans hw) (by simp)
      | jobCompleted job =>
          rcases jobCompleted_cases h with rfl | rfl
          · exact .refl _
          · exact ⟨Nat.le_refl _, fun _ hd => hd.decided, List.prefix_refl _⟩
      | jobFailed job =>
          rcases jobFailed_cases h with rfl | rfl
          · exact .refl _
          · exact ⟨Nat.le_refl _, fun _ hd => hd.decided, List.prefix_refl _⟩
      | _ => cases hw

theorem HasJob.quiet {id : Id} (h : HasJob s id) (hq : Quiet s s') : HasJob s' id := by
  obtain ⟨job, hjob, hlive⟩ := h
  refine ⟨job, hq.jobs ▸ hjob, ?_⟩
  unfold Live at hlive ⊢
  rwa [hq.completed, hq.failures]

/-- The logs of the other threads stay. -/
theorem own_log_other {c : QueueCall} {x : Except Exn (QueueResp c)} {t' : Nat} (hne : t' ≠ t) :
    (w.log t c x s').own t' = w.own t' := by
  simp [World.own, World.log, hne.symm]

theorem Served.env (h : Served w) (he : SameJobs w.store s') : Served { w with store := s' } := by
  have hq := he.quiet
  constructor
  case pending =>
    intro id hp
    exact (h.pending id (hq.pending id hp)).imp_left fun hjob => hjob.quiet hq
  case ended =>
    intro job hended
    rw [hq.completed, hq.failures] at hended
    change job < s'.base.scanJobs.length
    rw [hq.jobs]
    exact h.ended job hended
  case allocated =>
    intro id hid
    exact hq.follows.allocated (h.allocated id (hq.jobs ▸ hid))

/-- What a thread that is not about to queue a scan does to what is pending. -/
theorem pending_log {c : QueueCall} {x : Except Exn (QueueResp c)} (h : Served w) (hf : Free t w)
    (hkeep : ∀ id, HasJob w.store id → IsPending s'.base.rawScans id → HasJob s' id)
    {id : Id} (hold : IsPending w.store.base.rawScans id) (hp : IsPending s'.base.rawScans id) :
    HasJob s' id ∨ ∃ t', created ((w.log t c x s').own t') = some id := by
  rcases h.pending id hold with hjob | ⟨t', hcreated⟩
  · exact .inl (hkeep id hjob hp)
  · have hne : t' ≠ t := by
      rintro rfl
      rw [hf] at hcreated
      cases hcreated
    exact .inr ⟨t', by rw [own_log_other hne]; exact hcreated⟩

theorem Served.quiet {c : QueueCall} {x : Except Exn (QueueResp c)} (h : Served w)
    (hf : Free t w) (hq : Quiet w.store s') : Served (w.log t c x s') := by
  have hends := h.ended
  have halloc := h.allocated
  constructor
  case pending =>
    exact fun id hp => pending_log h hf (fun _ hjob _ => hjob.quiet hq) (hq.pending id hp) hp
  case ended =>
    intro job hended
    change job ∈ s'.completed ∨ job ∈ s'.failures at hended
    rw [hq.completed, hq.failures] at hended
    change job < s'.base.scanJobs.length
    rw [hq.jobs]
    exact hends job hended
  case allocated =>
    intro id hid
    exact hq.follows.allocated (halloc id (hq.jobs ▸ hid))

/-- A creation makes one scan pending, and its thread is about to queue it. -/
theorem Served.create {dto : CreateScanDto} {scannedAt : Option Time} {v : RawScanVerdict}
    {x : Except Exn RawScanView} (h : Served w) (hf : Free t w)
    (ho : (queueService rt strict faulty).Outcome (.base (.rawScanCreate dto scannedAt v))
      w.store x s') : Served (w.log t (.base (.rawScanCreate dto scannedAt v)) x s') := by
  rcases create_cases ho with ⟨rfl, e, rfl⟩ | ⟨view, rawScans, data, rfl, hc, rfl⟩
  · exact h.quiet hf (.refl _)
  · have hfollows := follows_create hc
    have hkeep : ∀ id, HasJob w.store id →
        HasJob { w.store with base := { w.store.base with rawScans } } id := fun _ hjob => hjob
    constructor
    case pending =>
      intro id hp
      have hrow := hp
      obtain ⟨a, ha, hid, hstatus⟩ := hrow
      rcases (Table.mem_create hc).mp ha with hold | rfl
      · exact pending_log h hf (fun id hjob _ => hkeep id hjob) ⟨a, hold, hid, hstatus⟩ hp
      · exact .inr ⟨t, by rw [World.own_log]; exact congrArg some hid⟩
    case ended => exact h.ended
    case allocated => exact fun id hid => hfollows.allocated (h.allocated id hid)

/-- The thread that created a scan queues it. -/
theorem Served.enqueue {id : Id} {x : Except Exn Unit} (h : Served w)
    (hown : created (w.own t) = some id) (halloc : Allocated w.store.base id)
    (ho : (queueService rt strict SparesAdditions).Outcome (.base (.enqueueScan id)) w.store x s') :
    Served (w.log t (.base (.enqueueScan id)) x s') := by
  obtain ⟨rfl, rfl⟩ := enqueueScan_cases ho
  have hnew : HasJob { w.store with base := { w.store.base with
      scanJobs := w.store.base.scanJobs ++ [id] } } id := by
    refine ⟨w.store.base.scanJobs.length, List.getElem?_concat_length, ?_, ?_⟩
    · exact fun hdone => Nat.lt_irrefl _ (h.ended _ (.inl hdone))
    · have hnone : w.store.base.scanJobs.length ∉ w.store.failures :=
        fun hfailed => Nat.lt_irrefl _ (h.ended _ (.inr hfailed))
      change w.store.failures.count _ < SCAN_JOB_ATTEMPTS
      rw [List.count_eq_zero.mpr hnone]
      decide
  constructor
  case pending =>
    intro k hp
    rcases h.pending k hp with ⟨job, hjob, hlive⟩ | ⟨t', hcreated⟩
    · exact .inl ⟨job, (follows_enqueue _ id).job hjob, hlive⟩
    · by_cases ht : t' = t
      · subst ht
        rw [hown] at hcreated
        cases hcreated
        exact .inl hnew
      · exact .inr ⟨t', by rw [own_log_other ht]; exact hcreated⟩
  case ended =>
    intro job hended
    change job < (w.store.base.scanJobs ++ [id]).length
    rw [List.length_append]
    exact Nat.lt_add_right _ (h.ended job hended)
  case allocated =>
    intro k hk
    rcases List.mem_append.mp hk with hk | hk
    · exact h.allocated k hk
    · rw [List.mem_singleton.mp hk]
      exact halloc

/-- A job completes on a decided scan. -/
theorem Served.complete {job : Nat} {id : Id} {x : Except Exn Unit} (h : Served w) (hf : Free t w)
    (hjob : w.store.base.scanJobs[job]? = some id) (hd : Decided w.store id)
    (ho : (queueService rt strict faulty).Outcome (.jobCompleted job) w.store x s') :
    Served (w.log t (.jobCompleted job) x s') := by
  rcases jobCompleted_cases ho with rfl | rfl
  · exact h.quiet hf (.refl _)
  · constructor
    case pending =>
      intro k hp
      refine pending_log h hf ?_ hp hp
      rintro k' ⟨job', hjob', hopen, hcount⟩ hp'
      refine ⟨job', hjob', fun hmem => ?_, hcount⟩
      rcases List.mem_append.mp hmem with hmem | hmem
      · exact hopen hmem
      · rw [List.mem_singleton.mp hmem, hjob] at hjob'
        cases hjob'
        exact hd.decided hp'
    case ended =>
      rintro job' (hmem | hfailed)
      · rcases List.mem_append.mp hmem with hmem | hmem
        · exact h.ended job' (.inl hmem)
        · rw [List.mem_singleton.mp hmem]
          exact (List.getElem?_eq_some_iff.mp hjob).1
      · exact h.ended job' (.inr hfailed)
    case allocated => exact h.allocated

/-- A job that fails is run again, or its scan is decided. -/
theorem Served.fail {job : Nat} {id : Id} {x : Except Exn Unit} (h : Served w) (hf : Free t w)
    (hjob : w.store.base.scanJobs[job]? = some id) (hp : KeepsJobs t (.jobFailed job) w)
    (ho : (queueService rt strict faulty).Outcome (.jobFailed job) w.store x s') :
    Served (w.log t (.jobFailed job) x s') := by
  rcases jobFailed_cases ho with rfl | rfl
  · exact h.quiet hf (.refl _)
  · constructor
    case pending =>
      intro k hk
      refine pending_log h hf ?_ hk hk
      rintro k' ⟨job', hjob', hopen, hcount⟩ hp'
      refine ⟨job', hjob', hopen, ?_⟩
      change (w.store.failures ++ [job]).count job' < SCAN_JOB_ATTEMPTS
      rw [List.count_append]
      by_cases hsame : job' = job
      · subst hsame
        rcases hp with hmore | hgone
        · simpa using hmore
        · exact absurd hp' (hgone k' hjob')
      · rw [List.count_singleton, if_neg (by simpa using Ne.symm hsame)]
        exact hcount
    case ended =>
      rintro job' (hdone | hmem)
      · exact h.ended job' (.inl hdone)
      · rcases List.mem_append.mp hmem with hmem | hmem
        · exact h.ended job' (.inr hmem)
        · rw [List.mem_singleton.mp hmem]
          exact (List.getElem?_eq_some_iff.mp hjob).1
    case allocated => exact h.allocated

end Steps

/-- The runs in which the jobs of pending scans are kept. -/
def discipline (rt : Runtime) (strict : Bool) :
    Discipline (queueService rt strict SparesAdditions) Permits where
  inv := Served
  rely := Follows
  rely_refl := .refl
  rely_trans := .trans
  call_rely := fun _ hp ho => follows_of_outcome hp ho
  env_inv := fun h he => h.env he
  env_rely := fun _ he => he.quiet.follows
  start_inv := by
    rintro w p s' h ⟨-, rfl⟩
    exact h
  start_rely := by
    rintro w p s' - ⟨-, rfl⟩
    exact .refl _

end Jobs

end CreativeBackend
