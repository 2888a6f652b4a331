import CreativeBackend.Notifications.Rounds

/-!
# Manual retries

A retry adds a job with the mark of a manual retry only if the log has none. A failed job is retried
with its own data, so the worker still expires an old log, and a completed job is not retried at all.
-/

namespace CreativeBackend

open Relational Interaction NotificationsService WhatsAppNotificationProcessor

namespace Notifications.ManualRetries

open Rounds Retries

/-! ## Runs of the worker -/

/-- A round of the worker, or a change around it. -/
inductive Advances (cfg : Config) : Option Answers → NotificationStore → NotificationStore → Prop
  | round (ch : Answers) (s : NotificationStore) :
      Advances cfg (some ch) s ((work cfg).run (answering ch) s).2
  | around {s s' : NotificationStore} (h : Surroundings s s') : Advances cfg none s s'

/-- The worker runs on from a store. -/
structure WorkerRun (cfg : Config) (s : NotificationStore) where
  store : Nat → NotificationStore
  round : Nat → Option Answers
  start : store 0 = s
  advances : ∀ n, Advances cfg (round n) (store n) (store (n + 1))

namespace WorkerRun

variable {cfg : Config} {s : NotificationStore} (run : WorkerRun cfg s) (logId : Id)

/-- The worker takes a job of the log. -/
def TakesAt (n : Nat) (ch : Answers) (job : WhatsAppJob) : Prop :=
  run.round n = some ch ∧ Takes ch (run.store n) job ∧ job.notificationLogId = logId

/-- A waiting job of the log is taken in the end. -/
def Fair : Prop :=
  ∀ n, (∃ j ∈ (run.store n).jobs, j.notificationLogId = logId ∧ j.state = .waiting) →
    ∃ m ch job, n ≤ m ∧ run.TakesAt logId m ch job

/-- The provider is called for the log, or its delivery fails before. -/
def AttemptsAt (n : Nat) : Prop :=
  ∃ ch job, run.TakesAt logId n ch job ∧
    ((∃ message, message.notificationLogId = logId ∧
        .sendWhatsAppMessage message ∈ (work cfg).calls (answering ch) (run.store n)) ∨
      ∃ e s', (deliverLog cfg (deliveryOf job)).run (answering ch)
        (takenStore ch (run.store n)) = (.error e, s'))

/-- The log is attempted, and it is never expired. -/
def ReallyAttempted : Prop :=
  (∃ n, run.AttemptsAt logId n) ∧
    ∀ n l, (run.store n).logs.find? logId = some l → ¬ Expired l

/-- Whenever the worker takes a job of the log, the log is not too old. -/
def InTime (l : NotificationLog) : Prop :=
  ∀ n ch job, run.TakesAt logId n ch job →
    ageAt ch (takenStore ch (run.store n)) l ≤ cfg.maxAgeMs

end WorkerRun

/-! ## The log and its job along a run -/

/-- The log was created then; its jobs carry the mark, and while one is live it is not sent. -/
structure Tracked (logId : Id) (createdAt : Time) (manual : Bool) (s : NotificationStore) : Prop
    extends Named s where
  log : LogIs logId createdAt (fun l =>
    ∀ j ∈ s.jobs, j.notificationLogId = logId → j.live = true → l.status.sent = false) s
  mark : ∀ j ∈ s.jobs, j.notificationLogId = logId → j.manualRetry = manual

section Steps

variable {cfg : Config} {ch : Answers} {s s' : NotificationStore} {logId : Id} {createdAt : Time}
  {manual : Bool} {job : WhatsAppJob}

/-- A job after a change of the surroundings was there before, and live if it is now. -/
theorem mem_of_surroundings (h : Surroundings s s') {j' : WhatsAppJob} (hj : j' ∈ s'.jobs) :
    ∃ j ∈ s.jobs, j.notificationLogId = j'.notificationLogId ∧ j.manualRetry = j'.manualRetry ∧
      (j'.live = true → j.live = true) := by
  cases h with
  | promote jobId =>
      obtain ⟨j, hmem, rfl⟩ := mem_updateJobs.mp hj
      refine ⟨j, hmem, ?_⟩
      split
      · split
        · next hdelayed =>
            refine ⟨rfl, rfl, fun _ => ?_⟩
            rw [WhatsAppJob.live, hdelayed]
            rfl
        · exact ⟨rfl, rfl, id⟩
      · exact ⟨rfl, rfl, id⟩
  | remove keep => exact ⟨j', List.mem_of_mem_filter hj, rfl, rfl, id⟩
  | change _ _ => exact ⟨j', hj, rfl, rfl, id⟩

/-- A job after a round is the finished one, or was there before. -/
theorem mem_of_round (h : Named s) (hmem : job ∈ s.jobs) {s₁ : NotificationStore}
    {outcome : JobOutcome}
    (hjobs : s₁.jobs = (s.updateJobs job.id ({ · with state := .active })).jobs)
    {j : WhatsAppJob} (hj : j ∈ (s₁.updateJobs job.id (·.finish outcome)).jobs) :
    (j ∈ s.jobs ∧ j.id ≠ job.id) ∨ j = ({ job with state := .active } : WhatsAppJob).finish outcome := by
  obtain ⟨j₁, hj₁, rfl⟩ := mem_updateJobs.mp hj
  rw [hjobs] at hj₁
  obtain ⟨j₀, hj₀, rfl⟩ := mem_updateJobs.mp hj₁
  by_cases hid : j₀.id = job.id
  · obtain rfl := h.eq_of_id hj₀ hmem hid
    right
    rw [if_pos rfl, if_pos rfl]
  · left
    rw [if_neg hid, if_neg hid]
    exact ⟨hj₀, hid⟩

theorem live_of_waiting {j : WhatsAppJob} (h : j.state = .waiting) : j.live = true := by
  rw [WhatsAppJob.live, h]
  rfl

theorem finish_of_live {j : WhatsAppJob} {outcome : JobOutcome}
    (h : (j.finish outcome).live = true) : outcome ≠ .returned := by
  rintro rfl
  cases h

theorem find?_of_hasLog (h : HasLog logId s) : ∃ l, s.logs.find? logId = some l := by
  obtain ⟨l, hl, hid⟩ := h
  exact ⟨l, Table.find?_eq_some_iff.mpr ⟨hl, hid⟩⟩

theorem hasLog_of_find? {l : NotificationLog} (h : s.logs.find? logId = some l) : HasLog logId s :=
  ⟨l, Table.find?_eq_some_iff.mp h⟩

/-- The names after a round. -/
theorem named_of_round {s₁ : NotificationStore} {outcome : JobOutcome} (h : Named s)
    (honly : Only job.notificationLogId (s.updateJobs job.id ({ · with state := .active })) s₁)
    (hrow : HasLog job.notificationLogId s₁) :
    Named (s₁.updateJobs job.id (·.finish outcome)) := by
  have htaken : Named (s.updateJobs job.id ({ · with state := .active })) :=
    h.update (fun _ hlog => hlog) rfl (fun _ => rfl) fun _ => rfl
  have hdelivered : Named s₁ := by
    refine ⟨honly.jobs ▸ htaken.nodup, fun j hj => ?_⟩
    rw [honly.jobs] at hj
    obtain ⟨hname, hlog⟩ := htaken.named j hj
    refine ⟨hname, ?_⟩
    by_cases hid : j.notificationLogId = job.notificationLogId
    · rw [hid]
      exact hrow
    · obtain ⟨l, hl⟩ := find?_of_hasLog hlog
      exact hasLog_of_find? ((honly.others _ hid).trans hl)
  exact hdelivered.update (fun _ hlog => hlog) rfl (fun _ => rfl) fun _ => rfl

/-- A round of a job of the log: the log after it, and the only job of the log. -/
theorem Tracked.round (h : Tracked logId createdAt manual s) (cfg : Config) (htakes : Takes ch s job)
    (hlog : job.notificationLogId = logId) :
    ∃ l x s₁ outcome, s.logs.find? logId = some l ∧ l.createdAt = createdAt ∧
      l.status.sent = false ∧ job.manualRetry = manual ∧
      (deliverQueuedWhatsApp cfg (deliveryOf job)).run (answering ch) (takenStore ch s) = (x, s₁) ∧
      AfterQueued cfg (deliveryOf job) ch (takenStore ch s) l x s₁ ∧
      (outcome = .returned ↔ x = .ok ()) ∧
      ((work cfg).run (answering ch) s).2 = s₁.updateJobs job.id (·.finish outcome) := by
  subst hlog
  obtain ⟨hmem, hwaiting, -⟩ := htakes.waiting
  obtain ⟨l, hl, hcreated, hunsent⟩ := h.log
  obtain ⟨x, s₁, outcome, hrun, hafter, houtcome, hstore⟩ := round_of_takes cfg htakes hl
  exact ⟨l, x, s₁, outcome, hl, hcreated, hunsent job hmem rfl (live_of_waiting hwaiting),
    h.mark job hmem rfl, hrun, hafter, houtcome, hstore⟩

/-- A step that takes no job of the log leaves the log alone, and its jobs, if they were not
delayed. -/
theorem find?_of_other (h : Named s) {r : Option Answers} (hstep : Advances cfg r s s')
    (hother : ∀ ch job, r = some ch → Takes ch s job → job.notificationLogId ≠ logId) :
    s'.logs.find? logId = s.logs.find? logId ∧
      ∀ j' ∈ s'.jobs, j'.notificationLogId = logId →
        ∃ j ∈ s.jobs, j.notificationLogId = logId ∧ j.manualRetry = j'.manualRetry ∧
          (j'.live = true → j.live = true) := by
  cases hstep with
  | around hs =>
      refine ⟨by rw [logs_of_surroundings hs], fun j' hj' hlog => ?_⟩
      obtain ⟨j, hj, hsame, hmark, hlive⟩ := mem_of_surroundings hs hj'
      exact ⟨j, hj, hsame.trans hlog, hmark, hlive⟩
  | round ch =>
      by_cases hidle : ∀ job, ¬ Takes ch s job
      · rw [round_of_not_takes hidle]
        exact ⟨rfl, fun j hj hlog => ⟨j, hj, hlog, rfl, id⟩⟩
      · obtain ⟨job, htakes⟩ := not_forall_not.mp hidle
        have hne := hother ch job rfl htakes
        obtain ⟨hmem, -, htaken⟩ := htakes.waiting
        obtain ⟨l, hl⟩ := find?_of_hasLog (h.named job hmem).2
        obtain ⟨x, s₁, outcome, -, hafter, -, hstore⟩ := round_of_takes cfg htakes hl
        rw [hstore]
        have hjobs := hafter.only.jobs
        rw [htaken] at hjobs
        refine ⟨?_, fun j' hj' hlog => ?_⟩
        · have hothers := hafter.only.others logId hne.symm
          rw [htaken] at hothers
          exact hothers
        · rcases mem_of_round h hmem hjobs hj' with ⟨hj, -⟩ | rfl
          · exact ⟨j', hj, hlog, rfl, id⟩
          · exact absurd hlog hne

theorem named_of_advances (h : Named s) {r : Option Answers} (hstep : Advances cfg r s s') :
    Named s' := by
  cases hstep with
  | around hs => exact named_of_surroundings hs h
  | round ch =>
      by_cases hidle : ∀ job, ¬ Takes ch s job
      · rw [round_of_not_takes hidle]
        exact h
      · obtain ⟨job, htakes⟩ := not_forall_not.mp hidle
        obtain ⟨hmem, -, htaken⟩ := htakes.waiting
        obtain ⟨l, hl⟩ := find?_of_hasLog (h.named job hmem).2
        obtain ⟨x, s₁, outcome, -, hafter, -, hstore⟩ := round_of_takes cfg htakes hl
        rw [hstore]
        have honly := hafter.only
        rw [htaken] at honly
        obtain ⟨l', hl', -⟩ := hafter.row
        exact named_of_round h honly (hasLog_of_find? hl')

theorem Tracked.step (h : Tracked logId createdAt manual s) {r : Option Answers}
    (hstep : Advances cfg r s s') : Tracked logId createdAt manual s' := by
  by_cases hother : ∀ ch job, r = some ch → Takes ch s job → job.notificationLogId ≠ logId
  · obtain ⟨hfind, hjobs⟩ := find?_of_other h.toNamed hstep hother
    obtain ⟨l, hl, hcreated, hunsent⟩ := h.log
    refine ⟨named_of_advances h.toNamed hstep, ⟨l, hfind.trans hl, hcreated, ?_⟩, ?_⟩
    · intro j' hj' hlog hlive
      obtain ⟨j, hj, hsame, -, hback⟩ := hjobs j' hj' hlog
      exact hunsent j hj hsame (hback hlive)
    · intro j' hj' hlog
      obtain ⟨j, hj, hsame, hmark, -⟩ := hjobs j' hj' hlog
      exact hmark.symm.trans (h.mark j hj hsame)
  · simp only [not_forall, not_not] at hother
    obtain ⟨ch, job, rfl, htakes, rfl⟩ := hother
    cases hstep
    obtain ⟨l, x, s₁, outcome, -, hcreated, -, hmark, -, hafter, houtcome, hstore⟩ :=
      h.round cfg htakes rfl
    obtain ⟨hmem, -, htaken⟩ := htakes.waiting
    have hnamed : Named ((work cfg).run (answering ch) s).2 :=
      named_of_advances h.toNamed (.round ch s)
    rw [hstore] at hnamed ⊢
    have hjobs := hafter.only.jobs
    rw [htaken] at hjobs
    -- the only job of the log is the finished one
    have hfinished : ∀ j ∈ (s₁.updateJobs job.id (·.finish outcome)).jobs,
        j.notificationLogId = job.notificationLogId →
          j = ({ job with state := .active } : WhatsAppJob).finish outcome := by
      intro j hj hlog
      rcases mem_of_round h.toNamed hmem hjobs hj with ⟨hold, hid⟩ | hnew
      · have hname := (h.named j hold).1
        rw [hlog, ← (h.named job hmem).1] at hname
        exact absurd hname hid
      · exact hnew
    refine ⟨hnamed, ?_, fun j hj hlog => ?_⟩
    · cases x with
      | ok _ =>
          obtain ⟨l', hl', hcreated', -⟩ := hafter.row
          refine ⟨l', hl', hcreated'.trans hcreated, fun j hj hlog hlive => ?_⟩
          rw [hfinished j hj hlog] at hlive
          exact absurd (houtcome.mpr rfl) (finish_of_live hlive)
      | error e =>
          obtain ⟨l', hl', hcreated', hunsent⟩ := hafter.failed e rfl
          exact ⟨l', hl', hcreated'.trans hcreated, fun _ _ _ _ => hunsent⟩
    · rw [hfinished j hj hlog]
      exact hmark

/-- A log that is taken in time, or with the mark, is attempted and not expired. -/
theorem Tracked.attempted (h : Tracked logId createdAt manual s) (htakes : Takes ch s job)
    (hlog : job.notificationLogId = logId) {l : NotificationLog}
    (hl : s.logs.find? logId = some l)
    (hyoung : manual = true ∨ ageAt ch (takenStore ch s) l ≤ cfg.maxAgeMs) :
    ((∃ message, message.notificationLogId = logId ∧
        .sendWhatsAppMessage message ∈ (work cfg).calls (answering ch) s) ∨
      ∃ e s', (deliverLog cfg (deliveryOf job)).run (answering ch) (takenStore ch s) =
        (.error e, s')) ∧
      LogIs logId createdAt (fun l => l.status ≠ .CANCELLED)
        ((work cfg).run (answering ch) s).2 := by
  obtain ⟨l', x, s₁, outcome, hl', hcreated, hunsent, hmark, hrun, hafter, -, hstore⟩ :=
    h.round cfg htakes hlog
  obtain rfl := Option.some.inj (hl.symm.trans hl')
  subst hlog
  have hexpires : ¬ Expires cfg (deliveryOf job) ch (takenStore ch s) l := by
    rintro ⟨hno, hold⟩
    rcases hyoung with hmanual | hyoung
    · exact absurd (hno.symm.trans hmark) (by rw [hmanual]; simp)
    · exact absurd hold (not_lt.mpr hyoung)
  constructor
  · have htaken : (takenStore ch s).logs.find? (deliveryOf job).notificationLogId = some l := by
      rw [htakes.waiting.2.2]
      exact hl
    cases hdeliver : (deliverLog cfg (deliveryOf job)).run (answering ch) (takenStore ch s) with
    | mk y s₂ =>
        cases y with
        | error e => exact .inr ⟨e, s₂, rfl⟩
        | ok u =>
            left
            obtain ⟨message, hmessage, hcall⟩ := sent_of_deliverLog htaken hunsent hexpires hdeliver
            refine ⟨message, hmessage, ?_⟩
            have htake : (notifyCall .takeJob).run (answering ch) s =
                (.ok (some job), takenStore ch s) := (Prog.run_call _ _ _).trans (Prod.ext htakes rfl)
            have hqueued : (deliverQueuedWhatsApp cfg (deliveryOf job)).run (answering ch)
                (takenStore ch s) = (.ok (), s₂) := by
              rw [deliverQueuedWhatsApp, Prog.tryCatch_eq, Prog.run_tryCatch, hdeliver]
            have hprocess : (do
                process cfg job
                pure JobOutcome.returned : Ntf JobOutcome).run (answering ch) (takenStore ch s) =
                  (.ok .returned, s₂) := by
              rw [process_eq, Prog.bind_eq, Prog.run_bind_ok _ hqueued]
              rfl
            have houtcome : (outcomeOf (process cfg job)).run (answering ch) (takenStore ch s) =
                (.ok .returned, s₂) := by
              rw [outcomeOf, Prog.tryCatch_eq, Prog.run_tryCatch, hprocess]
            rw [work, Prog.bind_eq, Prog.calls_bind_ok htake]
            refine List.mem_append_right _ ?_
            dsimp only
            rw [Prog.bind_eq, Prog.calls_bind_ok houtcome, outcomeOf, Prog.tryCatch_eq,
              Prog.calls_tryCatch_ok hprocess, process_eq, Prog.bind_eq,
              Prog.calls_bind_ok hqueued, deliverQueuedWhatsApp, Prog.tryCatch_eq,
              Prog.calls_tryCatch_ok hdeliver]
            exact List.mem_append_left _ (List.mem_append_left _ hcall)
  · rw [hstore]
    obtain ⟨l', hl', hcreated', hstatus⟩ := hafter.tried hunsent hexpires
    exact ⟨l', hl', hcreated'.trans hcreated, hstatus⟩

/-- A log that is taken too late, without the mark, is expired. -/
theorem Tracked.expired (h : Tracked logId createdAt false s) (htakes : Takes ch s job)
    (hlog : job.notificationLogId = logId) {l : NotificationLog}
    (hl : s.logs.find? logId = some l) (hold : cfg.maxAgeMs < ageAt ch (takenStore ch s) l) :
    LogIs logId createdAt Expired ((work cfg).run (answering ch) s).2 := by
  obtain ⟨l', x, s₁, outcome, hl', hcreated, hunsent, hmark, -, hafter, -, hstore⟩ :=
    h.round cfg htakes hlog
  obtain rfl := Option.some.inj (hl.symm.trans hl')
  subst hlog
  rw [hstore]
  obtain ⟨-, l', hl', hcreated', hexpired⟩ := hafter.expired hunsent ⟨hmark, hold⟩
  exact ⟨l', hl', hcreated'.trans hcreated, hexpired⟩

end Steps

/-! ## The retry -/

section Retry

variable {cfg : Config} {ch : Answers} {s : NotificationStore} {logId : Id} {l : NotificationLog}

/-- What an enqueue with the mark of a manual retry makes of the jobs. -/
def requeued (cfg : Config) (logId : Id) (s : NotificationStore) : NotificationStore :=
  match s.findJob (getWhatsAppJobId logId) with
  | none => { s with jobs := s.jobs ++ [newJob logId true cfg.maxAttempts] }
  | some j =>
      if j.state = .failed then s.updateJobs (getWhatsAppJobId logId) ({ · with state := .waiting })
      else s

theorem run_enqueueWhatsAppLog (cfg : Config) (ch : Answers) (s : NotificationStore) (logId : Id) :
    ∃ enqueued, (enqueueWhatsAppLog cfg logId true).run (answering ch) s =
      (.ok enqueued, requeued cfg logId s) := by
  have hget : (notifyCall (.getJob (getWhatsAppJobId logId))).run (answering ch) s =
      (.ok (s.findJob (getWhatsAppJobId logId)), s) := Prog.run_call _ _ _
  rw [enqueueWhatsAppLog, Prog.bind_eq, Prog.run_bind_ok _ hget, requeued]
  cases hjob : s.findJob (getWhatsAppJobId logId) with
  | none =>
      have hadd : (notifyCall (.jobAdd (newJob logId true cfg.maxAttempts))).run (answering ch) s =
          (.ok (getWhatsAppJobId logId),
            { s with jobs := s.jobs ++ [newJob logId true cfg.maxAttempts] }) := by
        have hnew : s.addJob (newJob logId true cfg.maxAttempts) =
            (.ok (getWhatsAppJobId logId),
              { s with jobs := s.jobs ++ [newJob logId true cfg.maxAttempts] }) := by
          have hfree : ¬ (s.findJob (newJob logId true cfg.maxAttempts).id).isSome = true := by
            rw [newJob, hjob]
            simp
          rw [NotificationStore.addJob, if_neg hfree]
          rfl
        exact (Prog.run_call _ _ _).trans hnew
      refine ⟨{ queued := true, alreadyQueued := false, jobId := getWhatsAppJobId logId }, ?_⟩
      dsimp only
      rw [Prog.tryCatch_eq, Prog.run_tryCatch, Prog.bind_eq]
      have hbody := Prog.run_bind_ok _ hadd fun added =>
        (pure { queued := true, alreadyQueued := false, jobId := added } : Ntf Enqueued)
      rw [newJob] at hbody
      rw [hbody]
      rfl
  | some j =>
      have hstate : (notifyCall (.getState (getWhatsAppJobId logId))).run (answering ch) s =
          (.ok (some j.state), s) := by
        have hmap : (s.findJob (getWhatsAppJobId logId)).map (·.state) = some j.state := by
          rw [hjob]
          rfl
        rw [← hmap]
        exact Prog.run_call _ _ _
      dsimp only
      rw [reenqueue, Prog.bind_eq, Prog.run_bind_ok _ hstate]
      by_cases hfailed : j.state = .failed
      · have hretry : (notifyCall (.jobRetry (getWhatsAppJobId logId))).run (answering ch) s =
            (.ok (), s.updateJobs (getWhatsAppJobId logId) ({ · with state := .waiting })) := by
          have hjobRetry : s.retryJob (getWhatsAppJobId logId) =
              (.ok (), s.updateJobs (getWhatsAppJobId logId) ({ · with state := .waiting })) := by
            simp only [NotificationStore.retryJob, hjob, if_pos hfailed]
          exact (Prog.run_call _ _ _).trans hjobRetry
        refine ⟨{ queued := true, alreadyQueued := false, jobId := getWhatsAppJobId logId }, ?_⟩
        have hagain : (true && some j.state == some JobState.failed) = true := by
          rw [hfailed]
          rfl
        rw [if_pos hagain, if_pos hfailed, Prog.tryCatch_eq, Prog.run_tryCatch, Prog.bind_eq,
          Prog.run_bind_ok _ hretry]
        rfl
      · have hagain : ¬ (true && some j.state == some JobState.failed) = true := by
          simpa using hfailed
        rw [if_neg hagain, if_neg hfailed]
        exact ⟨_, rfl⟩

/-- A retry puts its log back to PENDING and enqueues it. -/
theorem store_of_retryLog (cfg : Config) (ch : Answers) (hl : s.logs.find? logId = some l) (hfailed : l.status = .FAILED) :
    ∃ s₀, Only logId s s₀ ∧ LogIs logId l.createdAt (fun l => l.status = .PENDING) s₀ ∧
      ((retryLog cfg logId).run (answering ch) s).2 = requeued cfg logId s₀ := by
  have hid : l.id = logId := (Table.find?_eq_some_iff.mp hl).2
  have hread : (notifyCall (.logById logId)).run (answering ch) s = (.ok (some l), s) := by
    rw [← hl]
    exact Prog.run_call _ _ _
  have hl' : (s.tick (ch .now s).elapsed).logs.find? logId = some l := hl
  have hmetadata : (getCurrentMetadata logId).run (answering ch) s = (.ok l.metadata, s) := by
    rw [getCurrentMetadata, Prog.bind_eq, Prog.run_bind_ok _ hread]
    rfl
  have hnow : (notifyCall .now).run (answering ch) s =
      (.ok (s.clock + (ch .now s).elapsed), s.tick (ch .now s).elapsed) := Prog.run_call _ _ _
  obtain ⟨row, s₀, hupdate, honly, hrow⟩ := run_logUpdate ch hl' {
    status := .PENDING
    failedAt := some none
    errorCode := some none
    errorMessage := some none
    metadata := spreadFields l.metadata
      [("retryQueuedAt", .str (cfg.toISOString (s.clock + (ch .now s).elapsed)))] }
  have hmark : (markLogPendingForRetry cfg logId).run (answering ch) s = (.ok row, s₀) := by
    rw [markLogPendingForRetry, Prog.bind_eq, Prog.run_bind_ok _ hmetadata, Prog.bind_eq,
      Prog.run_bind_ok _ hnow]
    exact hupdate
  obtain ⟨enqueued, henqueue⟩ := run_enqueueWhatsAppLog cfg ch s₀ logId
  refine ⟨s₀, (only_tick _).trans honly, ⟨_, hrow, rfl, rfl⟩, ?_⟩
  have hstatus : ¬ l.status ≠ .FAILED := fun hne => hne hfailed
  rw [retryLog, Prog.bind_eq, Prog.run_bind_ok _ hread]
  dsimp only
  rw [if_neg hstatus, hid, Prog.bind_eq, Prog.run_bind_ok _ hmark, Prog.bind_eq,
    Prog.run_bind_ok _ henqueue]
  rfl

/-- The store after the retry: the log waits for its job, which has the mark of the old one. -/
theorem tracked_of_retryLog (cfg : Config) (ch : Answers) (h : Named s) (hl : s.logs.find? logId = some l)
    (hfailed : l.status = .FAILED)
    (hlast : ∀ j, s.findJob (getWhatsAppJobId logId) = some j →
      j.state = .failed ∨ j.state = .completed) :
    Tracked logId l.createdAt
        ((s.findJob (getWhatsAppJobId logId)).all (·.manualRetry))
        ((retryLog cfg logId).run (answering ch) s).2 ∧
      LogIs logId l.createdAt (fun l => l.status ≠ .CANCELLED)
        ((retryLog cfg logId).run (answering ch) s).2 ∧
      ((∀ j, s.findJob (getWhatsAppJobId logId) = some j → j.state = .failed) →
        ∃ j ∈ ((retryLog cfg logId).run (answering ch) s).2.jobs,
          j.notificationLogId = logId ∧ j.state = .waiting) ∧
      ∀ j, s.findJob (getWhatsAppJobId logId) = some j → j.state = .completed →
        ∀ j' ∈ ((retryLog cfg logId).run (answering ch) s).2.jobs,
          j'.notificationLogId = logId → j'.live = false := by
  obtain ⟨s₀, honly, ⟨l₀, hl₀, hcreated, hpending⟩, hstore⟩ :=
    store_of_retryLog cfg ch hl hfailed
  have hfound : s₀.findJob (getWhatsAppJobId logId) = s.findJob (getWhatsAppJobId logId) := by
    rw [NotificationStore.findJob, NotificationStore.findJob, honly.jobs]
  have hnamed : Named s₀ := by
    refine ⟨honly.jobs ▸ h.nodup, fun j hj => ?_⟩
    rw [honly.jobs] at hj
    obtain ⟨hname, hlog⟩ := h.named j hj
    refine ⟨hname, ?_⟩
    by_cases hid : j.notificationLogId = logId
    · rw [hid]
      exact hasLog_of_find? hl₀
    · obtain ⟨l', hl'⟩ := find?_of_hasLog hlog
      exact hasLog_of_find? ((honly.others _ hid).trans hl')
  have hunsent : l₀.status.sent = false := by
    rw [hpending]
    rfl
  have hkept : LogIs logId l.createdAt (fun l => l.status ≠ .CANCELLED) s₀ := by
    refine ⟨l₀, hl₀, hcreated, fun hcancelled => ?_⟩
    cases hpending.symm.trans hcancelled
  rw [hstore, requeued, hfound]
  cases hjob : s.findJob (getWhatsAppJobId logId) with
  | none =>
      have hnone : ∀ j ∈ s₀.jobs, j.id ≠ getWhatsAppJobId logId := by
        intro j hj hid
        have hno := List.find?_eq_none.mp (hfound.trans hjob) j hj
        exact hno (by simpa using hid)
      refine ⟨⟨⟨?_, ?_⟩, ⟨l₀, hl₀, hcreated, fun _ _ _ _ => hunsent⟩, ?_⟩, hkept, ?_, ?_⟩
      · rw [List.map_append, List.nodup_append]
        refine ⟨hnamed.nodup, List.nodup_singleton _, ?_⟩
        intro a ha b hb hab
        obtain ⟨j, hj, rfl⟩ := List.mem_map.mp ha
        rw [List.map_singleton, List.mem_singleton] at hb
        exact hnone j hj (hab.trans hb)
      · intro j hj
        rcases List.mem_append.mp hj with hold | hnew
        · exact hnamed.named j hold
        · rw [List.mem_singleton.mp hnew]
          exact ⟨rfl, hasLog_of_find? hl₀⟩
      · intro j hj hlog
        rcases List.mem_append.mp hj with hold | hnew
        · have hname := (hnamed.named j hold).1
          rw [hlog] at hname
          exact absurd hname (hnone j hold)
        · rw [List.mem_singleton.mp hnew]
          rfl
      · intro _
        exact ⟨_, List.mem_append_right _ (List.mem_singleton.mpr rfl), rfl, rfl⟩
      · intro j hj
        cases hj
  | some j =>
      have hmem : j ∈ s₀.jobs := List.mem_of_find?_eq_some (hfound.trans hjob)
      have hsame : ∀ j' ∈ s₀.jobs, j'.notificationLogId = logId → j' = j := by
        intro j' hj' hlog
        have hfind := hnamed.findJob_eq_some hj' hlog
        exact Option.some.inj (hfind.symm.trans (hfound.trans hjob))
      have hid' : j.id = getWhatsAppJobId logId := by
        have hpass := (List.find?_some hjob :)
        simpa using hpass
      have hlog' : j.notificationLogId = logId :=
        jobId_injective ((hnamed.named j hmem).1.symm.trans hid')
      by_cases hstate : j.state = .failed
      · dsimp only
        rw [if_pos hstate]
        have hretried : Named (s₀.updateJobs (getWhatsAppJobId logId) ({ · with state := .waiting })) :=
          hnamed.update (fun _ hlog => hlog) rfl (fun _ => rfl) fun _ => rfl
        refine ⟨⟨hretried, ⟨l₀, hl₀, hcreated, fun _ _ _ _ => hunsent⟩, ?_⟩, hkept, ?_, ?_⟩
        · intro j' hj' hlog
          obtain ⟨j₀, hj₀, rfl⟩ := mem_updateJobs.mp hj'
          have hkeep : (if j₀.id = getWhatsAppJobId logId then
              ({ j₀ with state := .waiting } : WhatsAppJob) else j₀).notificationLogId =
                j₀.notificationLogId := by split <;> rfl
          obtain rfl := hsame j₀ hj₀ (hkeep.symm.trans hlog)
          rw [if_pos hid']
          rfl
        · intro _
          rw [← hid']
          exact ⟨_, mem_updateJobs_self hmem, hlog', rfl⟩
        · intro j₁ hj₁ hcompleted
          obtain rfl := Option.some.inj hj₁
          rw [hstate] at hcompleted
          cases hcompleted
      · have hcompleted := (hlast j hjob).resolve_left hstate
        dsimp only
        rw [if_neg hstate]
        refine ⟨⟨hnamed, ⟨l₀, hl₀, hcreated, fun _ _ _ _ => hunsent⟩, ?_⟩, hkept, ?_, ?_⟩
        · intro j' hj' hlog
          rw [hsame j' hj' hlog]
          rfl
        · intro hall
          exact absurd (hall j rfl) hstate
        · intro _ _ _ j' hj' hlog
          rw [hsame j' hj' hlog, WhatsAppJob.live, hcompleted]
          rfl

end Retry

/-! ## Runs after a retry -/

section Runs

variable {cfg : Config} {s : NotificationStore} (run : WorkerRun cfg s) {logId : Id}
  {createdAt : Time} {manual : Bool}

theorem store_of_round {r : Option Answers} {s' : NotificationStore} (h : Advances cfg r s s')
    {ch : Answers} (hr : r = some ch) : s' = ((work cfg).run (answering ch) s).2 := by
  cases h with
  | round ch' =>
      obtain rfl := Option.some.inj hr
      rfl
  | around _ => cases hr

theorem tracked_of_run (h : Tracked logId createdAt manual s) (n : Nat) :
    Tracked logId createdAt manual (run.store n) := by
  induction n with
  | zero =>
      rw [run.start]
      exact h
  | succ n ih => exact ih.step (run.advances n)

/-- A log without a live job is never taken. -/
theorem not_takesAt_of_done (h : Named s)
    (hdone : ∀ j ∈ s.jobs, j.notificationLogId = logId → j.live = false) (n : Nat) :
    Named (run.store n) ∧
      ∀ j ∈ (run.store n).jobs, j.notificationLogId = logId → j.live = false := by
  induction n with
  | zero =>
      rw [run.start]
      exact ⟨h, hdone⟩
  | succ n ih =>
      obtain ⟨hnamed, hnone⟩ := ih
      have hother : ∀ ch job, run.round n = some ch → Takes ch (run.store n) job →
          job.notificationLogId ≠ logId := by
        intro ch job _ htakes hlog
        obtain ⟨hmem, hwaiting, -⟩ := htakes.waiting
        have hdead := hnone job hmem hlog
        rw [live_of_waiting hwaiting] at hdead
        cases hdead
      obtain ⟨-, hjobs⟩ := find?_of_other hnamed (run.advances n) hother
      refine ⟨named_of_advances hnamed (run.advances n), fun j' hj' hlog => ?_⟩
      obtain ⟨j, hj, hsame, -, hlive⟩ := hjobs j' hj' hlog
      by_contra hne
      rw [Bool.not_eq_false] at hne
      have hdead := hnone j hj hsame
      rw [hlive hne] at hdead
      cases hdead

/-- A log that is always taken in time, or with the mark, is not cancelled. -/
theorem kept_of_run (h : Tracked logId createdAt manual s)
    (hkept : LogIs logId createdAt (fun l => l.status ≠ .CANCELLED) s)
    (hyoung : ∀ n ch job l, run.TakesAt logId n ch job → (run.store n).logs.find? logId = some l →
      manual = true ∨ ageAt ch (takenStore ch (run.store n)) l ≤ cfg.maxAgeMs) (n : Nat) :
    LogIs logId createdAt (fun l => l.status ≠ .CANCELLED) (run.store n) := by
  induction n with
  | zero =>
      rw [run.start]
      exact hkept
  | succ n ih =>
      have htracked : Tracked logId createdAt manual (run.store n) := tracked_of_run run h n
      by_cases hother : ∀ ch job, run.round n = some ch → Takes ch (run.store n) job →
          job.notificationLogId ≠ logId
      · obtain ⟨hfind, -⟩ := find?_of_other htracked.toNamed (run.advances n) hother
        obtain ⟨l, hl, hrest⟩ := ih
        exact ⟨l, hfind.trans hl, hrest⟩
      · simp only [not_forall, not_not] at hother
        obtain ⟨ch, job, hround, htakes, hlog⟩ := hother
        obtain ⟨l, hl, -⟩ := htracked.log
        have hattempted := htracked.attempted htakes hlog hl
          (hyoung n ch job l ⟨hround, htakes, hlog⟩ hl)
        rw [store_of_round (run.advances n) hround]
        exact hattempted.2

end Runs

end Notifications.ManualRetries

open Notifications Notifications.Rounds Notifications.Retries Notifications.ManualRetries

/-- When the worker takes every job in the end, a manual retry of a FAILED log is really attempted if
and only if the log has no job any more, or a failed one that a retry had added or that is always
taken in time. -/
theorem manual_retry_attempted_iff (cfg : NotificationsService.Config) {s : NotificationStore}
    (h : Named s) {logId : Id} {l : NotificationLog} (hl : s.logs.find? logId = some l)
    (hfailed : l.status = .FAILED)
    (hlast : ∀ j, s.findJob (getWhatsAppJobId logId) = some j →
      j.state = .failed ∨ j.state = .completed) (ch : Answers)
    (run : WorkerRun cfg ((NotificationsService.retryLog cfg logId).run (answering ch) s).2)
    (hfair : run.Fair logId) :
    run.ReallyAttempted logId ↔ ∀ j, s.findJob (getWhatsAppJobId logId) = some j →
      j.state = .failed ∧ (j.manualRetry = true ∨ run.InTime logId l) := by
  obtain ⟨htracked, hkept, hwaiting, hdone⟩ :=
    tracked_of_retryLog cfg ch h hl hfailed hlast
  constructor
  · rintro ⟨⟨n, ch', job, htakesAt, -⟩, hnever⟩ j hj
    have hstate : j.state = .failed := by
      refine (hlast j hj).resolve_right fun hcompleted => ?_
      have hnone := not_takesAt_of_done run htracked.toNamed (hdone j hj hcompleted) n
      obtain ⟨hmem, hwait, -⟩ := htakesAt.2.1.waiting
      have hdead := hnone.2 job hmem htakesAt.2.2
      rw [live_of_waiting hwait] at hdead
      cases hdead
    refine ⟨hstate, ?_⟩
    by_cases hmark : j.manualRetry = true
    · exact .inl hmark
    · right
      rintro m ch₁ job₁ ⟨hround, htakes, hlog⟩
      by_contra hold
      rw [hj, Option.all_some, Bool.eq_false_iff.mpr hmark] at htracked
      have hnow : Tracked logId l.createdAt false (run.store m) := tracked_of_run run htracked m
      obtain ⟨l', hl', hcreated, -⟩ := hnow.log
      have hage : ageAt ch₁ (takenStore ch₁ (run.store m)) l' =
          ageAt ch₁ (takenStore ch₁ (run.store m)) l := by
        rw [ageAt, ageAt, hcreated]
      obtain ⟨l₁, hl₁, -, hexpired⟩ := hnow.expired htakes hlog hl'
        (hage.symm ▸ not_le.mp hold)
      rw [← store_of_round (run.advances m) hround] at hl₁
      exact hnever (m + 1) l₁ hl₁ hexpired
  · intro hcondition
    have hyoung : ∀ n ch' job l', run.TakesAt logId n ch' job →
        (run.store n).logs.find? logId = some l' →
        (s.findJob (getWhatsAppJobId logId)).all (·.manualRetry) = true ∨
          ageAt ch' (takenStore ch' (run.store n)) l' ≤ cfg.maxAgeMs := by
      intro n ch' job l' htakesAt hl'
      cases hj : s.findJob (getWhatsAppJobId logId) with
      | none => exact .inl rfl
      | some j =>
          rcases (hcondition j hj).2 with hmark | hintime
          · exact .inl hmark
          · right
            obtain ⟨l₁, hl₁, hcreated, -⟩ := (tracked_of_run run htracked n).log
            obtain rfl := Option.some.inj (hl'.symm.trans hl₁)
            have hage := hintime n ch' job htakesAt
            rw [ageAt] at hage ⊢
            rw [hcreated]
            exact hage
    constructor
    · obtain ⟨m, ch', job, -, htakesAt⟩ := hfair 0 (by
        rw [run.start]
        exact hwaiting fun j hj => (hcondition j hj).1)
      have hnow := tracked_of_run run htracked m
      obtain ⟨l', hl', -⟩ := hnow.log
      refine ⟨m, ch', job, htakesAt, ?_⟩
      exact (hnow.attempted htakesAt.2.1 htakesAt.2.2 hl' (hyoung m ch' job l' htakesAt hl')).1
    · intro n l' hl' hexpired
      obtain ⟨l₁, hl₁, -, hstatus⟩ := kept_of_run run htracked hkept hyoung n
      obtain rfl := Option.some.inj (hl'.symm.trans hl₁)
      exact hstatus hexpired.1

/-- A FAILED log of an old registration, and the jobs that the queue still has. -/
def failedStore (jobs : List WhatsAppJob) : NotificationStore :=
  { unnotified with
    clock := 100000000
    logs := .ofData [{
      eventId := some "e"
      registrationId := some "r"
      templateId := none
      dedupeKey := none
      provider := .FAKE
      recipient := "1"
      status := .FAILED
      content := "" }]
    jobs }

def retried (jobs : List WhatsAppJob) : NotificationStore :=
  ((NotificationsService.retryLog plainConfig "c0").run (answering fun _ _ => {})
    (failedStore jobs)).2

def served (jobs : List WhatsAppJob) : NotificationStore :=
  ((WhatsAppNotificationProcessor.work plainConfig).run (answering fun _ _ => {}) (retried jobs)).2

/-- One round after the retry, and nothing more. -/
def servedRun (jobs : List WhatsAppJob) : WorkerRun plainConfig (retried jobs) where
  store
    | 0 => retried jobs
    | _ + 1 => served jobs
  round
    | 0 => some fun _ _ => {}
    | _ + 1 => none
  start := rfl
  advances
    | 0 => .round _ _
    | _ + 1 => .around (.change _ _ _)

/-- The log has no job any more, so the retry adds one and the worker sends it. -/
theorem missing_job_attempted : (servedRun []).ReallyAttempted "c0" := by
  have hnamed : Named (failedStore []) := ⟨List.nodup_nil, fun j hj => by cases hj⟩
  obtain ⟨l, hl, hfailed⟩ : ∃ l, (failedStore []).logs.find? "c0" = some l ∧ l.status = .FAILED :=
    ⟨_, rfl, rfl⟩
  have hnone : ∀ j, (failedStore []).findJob (NotificationsService.getWhatsAppJobId "c0") = some j →
      False := fun j hj => by cases hj
  have hfair : (servedRun []).Fair "c0" := by
    rintro n ⟨j, hj, -, hwaiting⟩
    cases n with
    | zero => exact ⟨0, _, newJob "c0" true 3, Nat.le_refl _, rfl, rfl, rfl⟩
    | succ n =>
        have hserved : ∀ j ∈ (served []).jobs, j.state ≠ .waiting := by decide +kernel
        exact absurd hwaiting (hserved j hj)
  exact (manual_retry_attempted_iff plainConfig hnamed hl hfailed (fun j hj => (hnone j hj).elim)
    (fun _ _ => {}) (servedRun []) hfair).mpr fun j hj => (hnone j hj).elim

/-- The job that a permanent failure of the first send has left. -/
def failedJob : WhatsAppJob where
  id := "whatsapp-c0"
  notificationLogId := "c0"
  manualRetry := false
  attempts := 3
  attemptsMade := 1
  state := .failed

/-- The failed job of an old log is retried without the mark, so the log is expired. -/
theorem failed_job_expired :
    ¬ ∀ (cfg : NotificationsService.Config) (s : NotificationStore), Named s → ∀ logId l,
      s.logs.find? logId = some l → l.status = .FAILED →
      (∀ j, s.findJob (NotificationsService.getWhatsAppJobId logId) = some j →
        j.state = .failed ∨ j.state = .completed) →
      ∀ (ch : Answers) (run : WorkerRun cfg ((NotificationsService.retryLog cfg logId).run
        (answering ch) s).2), run.Fair logId → run.ReallyAttempted logId := by
  intro hclaim
  have hnamed : Named (failedStore [failedJob]) := by
    refine ⟨by decide, fun j hj => ?_⟩
    rw [List.mem_singleton.mp hj]
    exact ⟨by decide, _, List.mem_singleton.mpr rfl, rfl⟩
  have hfair : (servedRun [failedJob]).Fair "c0" := by
    rintro n ⟨j, hj, -, hwaiting⟩
    cases n with
    | zero => exact ⟨0, _, { failedJob with state := .waiting }, Nat.le_refl _, rfl, rfl, rfl⟩
    | succ n =>
        have hserved : ∀ j ∈ (served [failedJob]).jobs, j.state ≠ .waiting := by decide +kernel
        exact absurd hwaiting (hserved j hj)
  have hlast : ∀ j, (failedStore [failedJob]).findJob
      (NotificationsService.getWhatsAppJobId "c0") = some j →
        j.state = .failed ∨ j.state = .completed := by
    intro j hj
    obtain rfl := Option.some.inj hj
    exact .inl rfl
  obtain ⟨-, hnever⟩ := hclaim plainConfig (failedStore [failedJob]) hnamed "c0" _ rfl rfl hlast
    (fun _ _ => {}) (servedRun [failedJob]) hfair
  have hexpired : ((served [failedJob]).logs.find? "c0").map (fun l => (l.status, l.errorCode)) =
      some (.CANCELLED, some "WHATSAPP_MESSAGE_EXPIRED") := by decide +kernel
  obtain ⟨l, hl, hstatus⟩ := Option.map_eq_some_iff.mp hexpired
  obtain ⟨hcancelled, hcode⟩ := Prod.mk.inj hstatus
  exact hnever 1 l hl ⟨hcancelled, hcode⟩

end CreativeBackend
