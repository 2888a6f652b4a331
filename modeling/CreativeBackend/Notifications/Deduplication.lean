import CreativeBackend.Notifications.Deliveries

/-!
# One message for each dedupe key

Any number of sends run at once with the worker, and no statement or command fails. The unique
key leaves one log for each dedupe key. The worker of concurrency 1 sends only what it has read as
not sent since it took its job, and writes SENT before it finishes the job, so a second delivery of
the log, also after its job was removed and added again, skips it.
-/

namespace CreativeBackend

open Relational Interaction NotificationsService WhatsAppNotificationProcessor

namespace Notifications

/-! ## Working threads -/

/-- The worker has taken a job and not finished it. -/
def Working (log : List NotifyEvent) : Prop :=
  (∃ e ∈ log, (taken? e).isSome) ∧ ∀ e ∈ log, finished? e = none

/-- The provider accepted the message of the log. -/
def Accepted (logId : Id) (log : List NotifyEvent) : Prop := ∃ e ∈ log, accepted? e = some logId

def MarkedSent (logId : Id) (log : List NotifyEvent) : Prop := ∃ e ∈ log, markedSent? e = some logId

def ReadUnsent (logId : Id) (log : List NotifyEvent) : Prop := ∃ e ∈ log, readUnsent? e = some logId

@[simp] theorem accepted_nil (logId : Id) : ¬ Accepted logId [] := by simp [Accepted]

@[simp] theorem accepted_cons {logId : Id} {e : NotifyEvent} {log : List NotifyEvent} :
    Accepted logId (e :: log) ↔ accepted? e = some logId ∨ Accepted logId log := by
  simp [Accepted]

@[simp] theorem markedSent_cons {logId : Id} {e : NotifyEvent} {log : List NotifyEvent} :
    MarkedSent logId (e :: log) ↔ markedSent? e = some logId ∨ MarkedSent logId log := by
  simp [MarkedSent]

@[simp] theorem readUnsent_nil (logId : Id) : ¬ ReadUnsent logId [] := by simp [ReadUnsent]

@[simp] theorem readUnsent_cons {logId : Id} {e : NotifyEvent} {log : List NotifyEvent} :
    ReadUnsent logId (e :: log) ↔ readUnsent? e = some logId ∨ ReadUnsent logId log := by
  simp [ReadUnsent]

theorem Working.cons {e : NotifyEvent} {log : List NotifyEvent} (h : Working log)
    (he : finished? e = none) : Working (e :: log) := by
  obtain ⟨⟨f, hf, htaken⟩, hopen⟩ := h
  refine ⟨⟨f, List.mem_cons_of_mem _ hf, htaken⟩, ?_⟩
  intro g hg
  rcases List.mem_cons.mp hg with rfl | hg
  · exact he
  · exact hopen g hg

theorem Working.of_cons {e : NotifyEvent} {log : List NotifyEvent} (h : Working (e :: log))
    (he : taken? e = none) : Working log := by
  obtain ⟨⟨f, hf, htaken⟩, hopen⟩ := h
  refine ⟨?_, fun g hg => hopen g (List.mem_cons_of_mem _ hg)⟩
  rcases List.mem_cons.mp hf with rfl | hf
  · rw [he] at htaken
    cases htaken
  · exact ⟨f, hf, htaken⟩

theorem Working.not_finished {e : NotifyEvent} {log : List NotifyEvent} (h : Working (e :: log)) :
    finished? e = none :=
  h.2 e List.mem_cons_self

/-- When a thread may take and finish a job, send a message, and write a log. -/
def deliveryRule (log : List NotifyEvent) : NotifyCall → Prop
  | .takeJob => log = []
  | .finishJob _ _ => Working log ∧ ∀ logId, Accepted logId log → MarkedSent logId log
  | .sendWhatsAppMessage m =>
      Working log ∧ ReadUnsent m.notificationLogId log ∧ ¬ Accepted m.notificationLogId log
  | .logUpdate logId p =>
      Working log ∧ ReadUnsent logId log ∧ (p.status.sent = true ↔ Accepted logId log)
  | .logCreate data => data.status = .PENDING
  | .jobRetry _ => False
  | _ => True

/-! ## The invariant -/

/-- What holds of the store and the logs of the threads. -/
structure Deduplicated (w : NotifyWorld) : Prop where
  alone : ∀ t u, Working (w.own t) → Working (w.own u) → t = u
  active : ∀ t, Working (w.own t) → ∃ j ∈ w.store.jobs, j.state = .active
  read : ∀ e ∈ w.trace, ∀ logId, readUnsent? e = some logId → HasLog logId w.store
  unsent : ∀ t logId, Working (w.own t) → ReadUnsent logId (w.own t) → ¬ Accepted logId (w.own t) →
    ¬ IsSent logId w.store
  marked : ∀ e ∈ w.trace, ∀ logId, markedSent? e = some logId → IsSent logId w.store
  accepted : ∀ e ∈ w.trace, ∀ logId, accepted? e = some logId →
    IsSent logId w.store ∨ Working (w.own e.thread)
  known : ∀ e ∈ w.trace, ∀ logId, accepted? e = some logId → HasLog logId w.store
  once : ∀ logId, (w.trace.filter (accepted? · = some logId)).length ≤ 1

section Step

variable {programs : Ntf Unit → Prop} {w : NotifyWorld} {t : Nat} {c : NotifyCall}
  {x : Except NotifyExn (NotifyResp c)} {s' : NotificationStore}

theorem createsPending_of_rule {log : List NotifyEvent} (h : deliveryRule log c) :
    createsPending c := by
  cases c <;> trivial

/-- A thread that works after a call without a take worked before it. -/
theorem working_before (htake : taken? ⟨t, c, x, w.store⟩ = none) {u : Nat}
    (h : Working ((w.log t c x s').own u)) : Working (w.own u) := by
  by_cases hut : u = t
  · subst hut
    rw [World.own_log] at h
    exact h.of_cons htake
  · rw [World.own_log_ne w hut] at h
    exact h

variable (hi : Deduplicated w) (hrule : deliveryRule (w.own t) c)
  (ho : (service programs).Outcome c w.store x s')

include hi hrule ho

/-- A thread only takes a job when none works. -/
theorem alone_of_taken {j : WhatsAppJob} (htake : taken? ⟨t, c, x, w.store⟩ = some j) :
    (∀ u, ¬ Working (w.own u)) ∧ w.own t = [] ∧ ∃ j' ∈ s'.jobs, j'.state = .active := by
  have hchange : JobsChange s' ⟨t, c, x, w.store⟩ := jobsChange_of_outcome ho
  cases hchange with
  | same _ hnone _ =>
      rw [hnone] at htake
      cases htake
  | retried _ _ _ => cases htake
  | added _ _ => cases htake
  | finished _ => cases htake
  | taken hidle hj _ hjobs =>
      refine ⟨fun u hu => ?_, hrule, ?_⟩
      · obtain ⟨j', hj', hactive⟩ := hi.active u hu
        exact hidle j' hj' hactive
      · rw [hjobs]
        exact ⟨_, List.mem_map_of_mem hj, by simp⟩

/-- Two threads never work at once. -/
theorem alone_step {u v : Nat} (hu : Working ((w.log t c x s').own u))
    (hv : Working ((w.log t c x s').own v)) : u = v := by
  cases htake : taken? ⟨t, c, x, w.store⟩ with
  | none => exact hi.alone u v (working_before htake hu) (working_before htake hv)
  | some j =>
      obtain ⟨hnone, _, _⟩ := alone_of_taken hi hrule ho htake
      have hself : ∀ u, Working ((w.log t c x s').own u) → u = t := by
        intro u hu
        by_contra hut
        rw [World.own_log_ne w hut] at hu
        exact hnone u hu
      rw [hself u hu, hself v hv]

/-- While a thread works, a job is active. -/
theorem active_step {u : Nat} (hu : Working ((w.log t c x s').own u)) :
    ∃ j ∈ s'.jobs, j.state = .active := by
  cases htake : taken? ⟨t, c, x, w.store⟩ with
  | some j => exact (alone_of_taken hi hrule ho htake).2.2
  | none =>
      have hbefore := working_before htake hu
      obtain ⟨j, hj, hactive⟩ := hi.active u hbefore
      have hchange : JobsChange s' ⟨t, c, x, w.store⟩ := jobsChange_of_outcome ho
      cases hchange with
      | same hjobs _ _ => exact ⟨j, by rw [hjobs]; exact hj, hactive⟩
      | retried _ _ _ => exact hrule.elim
      | added _ hjobs => exact ⟨j, by rw [hjobs]; exact List.mem_append_left _ hj, hactive⟩
      | taken _ _ _ _ => cases htake
      | finished hjobs =>
          have hut : u = t := hi.alone u t hbefore hrule.1
          subst hut
          rw [World.own_log] at hu
          cases hu.not_finished

/-- A sent log stays sent: only the thread that works writes it otherwise, and only when it has
read it as not sent. -/
theorem isSent_step {logId : Id} (hsent : IsSent logId w.store) : IsSent logId s' := by
  have hchange : LogsChange s' ⟨t, c, x, w.store⟩ := logsChange_of_outcome ho
  rcases isSent_of_change hchange hsent with hkept | ⟨p, hcall, hunsent⟩
  · exact hkept
  · have hc : c = .logUpdate logId p := hcall
    subst hc
    obtain ⟨hworking, hread, haccepted⟩ := hrule
    have hnot : ¬ Accepted logId (w.own t) := by
      intro h
      rw [haccepted.mpr h] at hunsent
      cases hunsent
    exact absurd hsent (hi.unsent t logId hworking hread hnot)

theorem unsent_step {u : Nat} {logId : Id} (hu : Working ((w.log t c x s').own u))
    (hread : ReadUnsent logId ((w.log t c x s').own u))
    (hnot : ¬ Accepted logId ((w.log t c x s').own u)) : ¬ IsSent logId s' := by
  intro hsent
  have hchange : LogsChange s' ⟨t, c, x, w.store⟩ := logsChange_of_outcome ho
  rcases isSent_before_of_change hchange (createsPending_of_rule hrule) hsent with hold | hmark
  · by_cases hut : u = t
    · subst hut
      rw [World.own_log] at hu hread hnot
      rw [readUnsent_cons] at hread
      rw [accepted_cons, not_or] at hnot
      rcases hread with hnew | hread
      · exact (not_isSent_of_read ho hnew).2 hold
      · cases htake : taken? ⟨u, c, x, w.store⟩ with
        | none => exact hi.unsent u logId (hu.of_cons htake) hread hnot.2 hold
        | some j =>
            rw [(alone_of_taken hi hrule ho htake).2.1] at hread
            exact readUnsent_nil logId hread
    · rw [World.own_log_ne w hut] at hu hread hnot
      exact hi.unsent u logId hu hread hnot hold
  · -- The thread that marks the log is the one that works, and the provider accepted its message.
    obtain ⟨status, hwrote, hstatus⟩ := markedSent_eq_some.mp hmark
    cases hchange with
    | same _ _ hnone =>
        rw [hnone] at hwrote
        cases hwrote
    | created _ => cases hwrote
    | @updated t id p row s h =>
        cases hwrote
        obtain ⟨hworking, _, haccepted⟩ := hrule
        have hut : u = t := hi.alone u t (working_before rfl hu) hworking
        subst hut
        rw [World.own_log] at hnot
        exact hnot (accepted_cons.mpr (.inr (haccepted.mp hstatus)))

/-- An accepted message belongs to a sent log, or its thread still works. -/
theorem accepted_step {e : NotifyEvent} (he : e ∈ (w.log t c x s').trace) {logId : Id}
    (haccepted : accepted? e = some logId) :
    IsSent logId s' ∨ Working ((w.log t c x s').own e.thread) := by
  rcases List.mem_cons.mp he with rfl | hold
  · right
    cases c with
    | sendWhatsAppMessage m =>
        rw [World.own_log]
        exact hrule.1.cons rfl
    | _ => cases haccepted
  · rcases hi.accepted e hold logId haccepted with hsent | hworking
    · exact .inl (isSent_step hi hrule ho hsent)
    · by_cases het : e.thread = t
      · cases hfinish : finished? ⟨t, c, x, w.store⟩ with
        | none =>
            right
            rw [het, World.own_log]
            exact (het ▸ hworking).cons hfinish
        | some jobId =>
            left
            cases c with
            | finishJob _ _ =>
                have hown : Accepted logId (w.own t) :=
                  ⟨e, World.mem_own.mpr ⟨hold, het⟩, haccepted⟩
                obtain ⟨f, hf, hmark⟩ := hrule.2 logId hown
                apply isSent_step hi hrule ho
                exact hi.marked f (World.mem_own.mp hf).1 logId hmark
            | _ => cases hfinish
      · right
        rw [World.own_log_ne w het]
        exact hworking

/-- The provider accepts one message for a log. -/
theorem once_step (logId : Id) :
    ((w.log t c x s').trace.filter (accepted? · = some logId)).length ≤ 1 := by
  change ((⟨t, c, x, w.store⟩ :: w.trace).filter (accepted? · = some logId)).length ≤ 1
  by_cases hnew : accepted? ⟨t, c, x, w.store⟩ = some logId
  · have hnone : w.trace.filter (accepted? · = some logId) = [] := by
      apply List.filter_eq_nil_iff.mpr
      intro e he haccepted
      rw [decide_eq_true_eq] at haccepted
      cases c with
      | sendWhatsAppMessage m =>
          obtain ⟨hworking, hread, hnot⟩ := hrule
          cases x with
          | error _ => cases hnew
          | ok result =>
              have hid : m.notificationLogId = logId := Option.some.inj hnew
              subst hid
              rcases hi.accepted e he _ haccepted with hsent | hother
              · exact hi.unsent t _ hworking hread hnot hsent
              · have het : e.thread = t := hi.alone e.thread t hother hworking
                exact hnot ⟨e, World.mem_own.mpr ⟨he, het⟩, haccepted⟩
      | _ => cases hnew
    rw [List.filter_cons_of_pos (by simpa using hnew), hnone]
    exact Nat.le_refl 1
  · rw [List.filter_cons_of_neg (by simpa using hnew)]
    exact hi.once logId

/-- Only the message of a log is sent. -/
theorem known_step {e : NotifyEvent} (he : e ∈ (w.log t c x s').trace) {logId : Id}
    (haccepted : accepted? e = some logId) : HasLog logId s' := by
  have hchange : LogsChange s' ⟨t, c, x, w.store⟩ := logsChange_of_outcome ho
  apply hasLog_of_change hchange
  rcases List.mem_cons.mp he with rfl | hold
  · cases c with
    | sendWhatsAppMessage m =>
        cases x with
        | error _ => cases haccepted
        | ok result =>
            have hid : m.notificationLogId = logId := Option.some.inj haccepted
            obtain ⟨_, ⟨f, hf, hread⟩, _⟩ := hrule
            rw [← hid]
            exact hi.read f (World.mem_own.mp hf).1 _ hread
    | _ => cases haccepted
  · exact hi.known e hold logId haccepted

omit hrule in
theorem read_step {e : NotifyEvent} (he : e ∈ (w.log t c x s').trace) {logId : Id}
    (hread : readUnsent? e = some logId) : HasLog logId s' := by
  have hchange : LogsChange s' ⟨t, c, x, w.store⟩ := logsChange_of_outcome ho
  apply hasLog_of_change hchange
  rcases List.mem_cons.mp he with rfl | he
  · exact (not_isSent_of_read ho hread).1
  · exact hi.read e he logId hread

theorem marked_step {e : NotifyEvent} (he : e ∈ (w.log t c x s').trace) {logId : Id}
    (hmark : markedSent? e = some logId) : IsSent logId s' := by
  rcases List.mem_cons.mp he with rfl | he
  · exact isSent_of_marked (logsChange_of_outcome ho) hmark
  · exact isSent_step hi hrule ho (hi.marked e he logId hmark)

/-- What one call keeps. -/
theorem Deduplicated.step : Deduplicated (w.log t c x s') where
  alone _ _ hu hv := alone_step hi hrule ho hu hv
  active _ hu := active_step hi hrule ho hu
  read _ he _ hread := read_step hi ho he hread
  unsent _ _ hu hread hnot := unsent_step hi hrule ho hu hread hnot
  marked _ he _ hmark := marked_step hi hrule ho he hmark
  accepted _ he _ haccepted := accepted_step hi hrule ho he haccepted
  known _ he _ haccepted := known_step hi hrule ho he haccepted
  once logId := once_step hi hrule ho logId

end Step

/-- The surroundings leave the logs and the active jobs alone. -/
theorem Deduplicated.env {w : NotifyWorld} {s' : NotificationStore} (hi : Deduplicated w)
    (h : Surroundings w.store s') : Deduplicated { w with store := s' } := by
  have hlogs : s'.logs = w.store.logs := logs_of_surroundings h
  have hsent : ∀ logId, IsSent logId s' ↔ IsSent logId w.store := by
    intro logId
    rw [IsSent, IsSent, hlogs]
  have hlog : ∀ logId, HasLog logId s' ↔ HasLog logId w.store := by
    intro logId
    rw [HasLog, HasLog, hlogs]
  have hactive : (∃ j ∈ w.store.jobs, j.state = .active) → ∃ j ∈ s'.jobs, j.state = .active := by
    rintro ⟨j, hj, hstate⟩
    cases h with
    | promote jobId =>
        refine ⟨_, List.mem_map_of_mem hj, ?_⟩
        by_cases hid : j.id = jobId <;> simp [hid, hstate]
    | remove keep => exact ⟨j, List.mem_filter.mpr ⟨hj, by simp [hstate]⟩, hstate⟩
    | change _ _ => exact ⟨j, hj, hstate⟩
  exact {
    alone := hi.alone
    active := fun t ht => hactive (hi.active t ht)
    read := fun e he logId hread => (hlog logId).mpr (hi.read e he logId hread)
    known := fun e he logId haccepted => (hlog logId).mpr (hi.known e he logId haccepted)
    unsent := fun t logId ht hread hnot hs => hi.unsent t logId ht hread hnot ((hsent logId).mp hs)
    marked := fun e he logId hmark => (hsent logId).mpr (hi.marked e he logId hmark)
    accepted := fun e he logId haccepted =>
      (hi.accepted e he logId haccepted).imp_left (hsent logId).mpr
    once := hi.once }

/-! ## The programs -/

/-- A log that was read as not sent can be updated. -/
def answers (programs : Ntf Unit → Prop) (log : List NotifyEvent) (c : NotifyCall)
    (x : Except NotifyExn (NotifyResp c)) (s : NotificationStore) : Prop :=
  (∃ s', (service programs).Outcome c s x s') ∧
    ∀ logId p, c = .logUpdate logId p → ReadUnsent logId log → ∃ a, x = .ok a

/-- The rule and the invariant of the deliveries. -/
def deliveryGuard (programs : Ntf Unit → Prop) : Guard (service programs) (fun _ _ _ => True) where
  inv := Deduplicated
  rule := deliveryRule
  answers := answers programs
  answered := by
    intro t c w x s' hi _ _ ho
    refine ⟨⟨s', ho⟩, ?_⟩
    rintro logId p rfl ⟨e, he, hread⟩
    obtain ⟨l, hl, hid⟩ := hi.read e (World.mem_own.mp he).1 logId hread
    exact update_answered ho hl hid
  call_inv hi _ hrule ho := hi.step hrule ho
  env_inv hi h := hi.env h
  start_inv hi h := h.1 ▸ hi

/-- What a log shows at its end: an accepted message is marked. -/
def Concluded (log : List NotifyEvent) : Prop := ∀ logId, Accepted logId log → MarkedSent logId log

/-- A round that has read the log as not sent and whose message was not accepted. -/
def Undelivered (logId : Id) (log : List NotifyEvent) : Prop :=
  Working log ∧ ReadUnsent logId log ∧ ∀ logId', ¬ Accepted logId' log

theorem Undelivered.cons {logId : Id} {log : List NotifyEvent} (h : Undelivered logId log)
    {e : NotifyEvent} (hf : finished? e = none) (ha : accepted? e = none) :
    Undelivered logId (e :: log) := by
  obtain ⟨hw, hread, hnot⟩ := h
  refine ⟨hw.cons hf, readUnsent_cons.mpr (.inr hread), ?_⟩
  intro logId'
  rw [accepted_cons, ha]
  simp [hnot logId']

section Along

variable {programs : Ntf Unit → Prop} {t : Nat} {α : Type}

/-- A call that never fails, and what follows its answer. -/
theorem along_reliable {c : NotifyCall} (hc : ¬ mayFail c) {f : NotifyResp c → Ntf α}
    {Q : List NotifyEvent → Except NotifyExn α → Prop} {log : List NotifyEvent}
    (hrule : deliveryRule log c)
    (hok : ∀ a s, answers programs log c (.ok a) s →
      (f a).Along deliveryRule (answers programs) t Q (⟨t, c, .ok a, s⟩ :: log)) :
    ((notifyCall c).bind f).Along deliveryRule (answers programs) t Q log := by
  apply Prog.along_call_bind hrule hok
  rintro e s ⟨⟨s', ho⟩, _⟩
  exact absurd (mayFail_of_error ho) hc

/-- An update of a log that was read as not sent, and what follows it. -/
theorem along_logUpdate {logId : Id} {p : LogPatch} {f : NotificationLog → Ntf α}
    {Q : List NotifyEvent → Except NotifyExn α → Prop} {log : List NotifyEvent}
    (hw : Working log) (hread : ReadUnsent logId log)
    (hstatus : p.status.sent = true ↔ Accepted logId log)
    (hok : ∀ a s, (f a).Along deliveryRule (answers programs) t Q
      (⟨t, .logUpdate logId p, .ok a, s⟩ :: log)) :
    ((notifyCall (.logUpdate logId p)).bind f).Along deliveryRule (answers programs) t Q log := by
  apply Prog.along_call_bind ⟨hw, hread, hstatus⟩ (fun a s _ => hok a s)
  rintro e s ⟨_, hanswer⟩
  obtain ⟨a, ha⟩ := hanswer logId p rfl hread
  cases ha

/-- A round that asks the time. -/
theorem Undelivered.along_now {logId : Id} {f : Time → Ntf α}
    {Q : List NotifyEvent → Except NotifyExn α → Prop} {log : List NotifyEvent}
    (h : Undelivered logId log)
    (hok : ∀ now log', Undelivered logId log' →
      (f now).Along deliveryRule (answers programs) t Q log') :
    ((notifyCall .now).bind f).Along deliveryRule (answers programs) t Q log := by
  apply along_reliable (c := .now) id trivial
  intro now s _
  exact hok now _ (h.cons rfl rfl)

/-- A round that writes a status other than SENT. -/
theorem Undelivered.along_update {logId : Id} {p : LogPatch} {f : NotificationLog → Ntf α}
    {Q : List NotifyEvent → Except NotifyExn α → Prop} {log : List NotifyEvent}
    (h : Undelivered logId log) (hp : p.status.sent = false)
    (hok : ∀ row log', Undelivered logId log' →
      (f row).Along deliveryRule (answers programs) t Q log') :
    ((notifyCall (.logUpdate logId p)).bind f).Along deliveryRule (answers programs) t Q log := by
  obtain ⟨hw, hread, hnot⟩ := h
  apply along_logUpdate hw hread
  · simp [hp, hnot logId]
  · intro row s
    exact hok row _ (Undelivered.cons ⟨hw, hread, hnot⟩ rfl rfl)

/-- What the body of a delivery leaves: its message is marked, or it is still not accepted. -/
def Delivered (logId : Id) (log : List NotifyEvent) : Except NotifyExn Unit → Prop
  | .ok _ => Working log ∧ Concluded log
  | .error _ => Undelivered logId log

theorem along_messageImage (metadata : List (String × Json)) (registrationId : Id) {logId : Id}
    {log : List NotifyEvent} (h : Undelivered logId log) :
    (messageImage metadata registrationId).Along deliveryRule (answers programs) t
      (fun log _ => Undelivered logId log) log := by
  simp only [messageImage]
  have hcall : (notifyCall (.qrImage registrationId)).Along deliveryRule (answers programs) t
      (fun log _ => Undelivered logId log) log :=
    Prog.along_call trivial fun r s _ => h.cons rfl rfl
  split
  · split
    · exact hcall
    · exact h
  · exact hcall

theorem along_sendLog (cfg : Config) (input : Delivery) (l : NotificationLog)
    {log : List NotifyEvent} (h : Undelivered l.id log) :
    (sendLog cfg input l).Along deliveryRule (answers programs) t (Delivered l.id) log := by
  simp only [sendLog, Prog.bind_eq]
  apply h.along_now
  intro startedAt log₁ h₁
  apply h₁.along_update rfl
  intro row log₂ h₂
  split
  · exact h₂
  · next registrationId _ =>
      have himage : (messageImage l.metadata registrationId).Along deliveryRule (answers programs) t
          (fun log _ => Undelivered l.id log) log₂ := along_messageImage l.metadata registrationId h₂
      apply Prog.along_bind himage _ (fun log e he => he)
      intro log₃ imageUrl h₃
      apply Prog.along_bind (Q := fun log _ => Undelivered l.id log)
        (Prog.along_ofExcept h₃) _ (fun log e he => he)
      intro log₄ _ h₄
      apply Prog.along_call_bind ⟨h₄.1, h₄.2.1, h₄.2.2 l.id⟩
      · intro result s₅ _
        -- From here on the provider has accepted this message and no other.
        apply along_reliable (c := .now) id trivial
        intro sentAt s₆ _
        apply along_logUpdate ((h₄.1.cons rfl).cons rfl)
        · exact readUnsent_cons.mpr (.inr (readUnsent_cons.mpr (.inr h₄.2.1)))
        · simp [accepted?, NotificationStatus.sent]
        intro sentRow s₇
        refine ⟨((h₄.1.cons rfl).cons rfl).cons rfl, ?_⟩
        intro logId hacc
        have hsame : l.id = logId := by
          simpa [accepted?, h₄.2.2 logId] using hacc
        subst hsame
        simp [markedSent?, wrote?, NotificationStatus.sent]
      · intro e s₅ _
        exact h₄.cons rfl rfl

/-- The body of the `try` block. -/
theorem along_deliverLog (cfg : Config) (input : Delivery) {log : List NotifyEvent}
    (hw : Working log) (hnot : ∀ logId, ¬ Accepted logId log) :
    (deliverLog cfg input).Along deliveryRule (answers programs) t
      (Delivered input.notificationLogId) log := by
  simp only [deliverLog, Prog.bind_eq]
  apply along_reliable (c := .logById _) id trivial
  rintro found s₁ ⟨⟨s', ho⟩, -⟩
  split
  · refine ⟨hw.cons rfl, fun logId hacc => ?_⟩
    simp [accepted?, hnot logId] at hacc
  · next l =>
      have hid : l.id = input.notificationLogId := by
        obtain ⟨ch, h⟩ | ⟨hfaulty, -⟩ := ho
        · have hfind : s₁.logs.find? input.notificationLogId = some l := by
            simpa [service, notifyMachine] using congrArg Prod.fst h
          exact (Table.find?_eq_some_iff.mp hfind).2
        · exact hfaulty.elim
      split
      · refine ⟨hw.cons rfl, fun logId hacc => ?_⟩
        simp [accepted?, hnot logId] at hacc
      · next hunsent =>
          have h₁ : Undelivered l.id
              (⟨t, .logById input.notificationLogId, .ok (some l), s₁⟩ :: log) := by
            refine ⟨hw.cons rfl, readUnsent_cons.mpr (.inl ?_), fun logId => ?_⟩
            · simpa [readUnsent?, NotificationStatus.sent] using hunsent
            · simp [accepted?, hnot logId]
          have hq : Delivered input.notificationLogId = Delivered l.id := by rw [hid]
          rw [hq]
          apply h₁.along_now
          intro now log₂ h₂
          split
          · apply h₂.along_now
            intro expiredAt log₃ h₃
            apply h₃.along_update rfl
            intro row log₄ h₄
            exact ⟨h₄.1, fun logId hacc => absurd hacc (h₄.2.2 logId)⟩
          · exact along_sendLog cfg input l h₂

/-- The `catch` block writes the failure of a message that was not accepted. -/
theorem along_recordFailure (cfg : Config) (input : Delivery) (error : NotifyExn)
    {log : List NotifyEvent} (h : Undelivered input.notificationLogId log) :
    (recordFailure cfg input error).Along deliveryRule (answers programs) t
      (fun log _ => Undelivered input.notificationLogId log) log := by
  simp only [recordFailure, getCurrentMetadata, Prog.bind_eq]
  apply h.along_now
  intro now log₁ h₁
  rw [Prog.bind_assoc]
  apply along_reliable (c := .logById _) id trivial
  intro found s₂ _
  have h₂ := h₁.cons (e := ⟨t, .logById input.notificationLogId, .ok found, s₂⟩) rfl rfl
  apply h₂.along_now
  intro errorAt log₃ h₃
  apply h₃.along_update
  · dsimp only
    split <;> rfl
  intro row log₄ h₄
  split
  · exact h₄
  · split
    · exact h₄
    · exact h₄

/-- One round of the worker. -/
theorem along_work (cfg : Config) :
    (work cfg).Along deliveryRule (answers programs) t (fun log _ => Concluded log) [] := by
  simp only [work, Prog.bind_eq]
  apply along_reliable (c := .takeJob) id rfl
  rintro found s₁ -
  split
  · intro logId hacc
    simp [accepted?] at hacc
  · next job =>
      have hw : Working [⟨t, .takeJob, .ok (some job), s₁⟩] := by
        simp [Working, taken?, finished?]
      have hprocess : (process cfg job).Along deliveryRule (answers programs) t
          (fun log _ => Working log ∧ Concluded log) [⟨t, .takeJob, .ok (some job), s₁⟩] := by
        apply Prog.along_tryCatch (along_deliverLog cfg _ hw (by simp [accepted?]))
        · exact fun log _ h => h
        · intro log e h
          apply (along_recordFailure cfg _ e h).mono
          intro log x h
          exact ⟨h.1, fun logId hacc => absurd hacc (h.2.2 logId)⟩
      have houtcome : (outcomeOf (process cfg job)).Along deliveryRule (answers programs) t
          (fun log _ => Working log ∧ Concluded log) [⟨t, .takeJob, .ok (some job), s₁⟩] := by
        simp only [outcomeOf, Prog.bind_eq]
        apply Prog.along_tryCatch (Q := fun log _ => Working log ∧ Concluded log)
        · exact Prog.along_bind hprocess (fun log _ h => h) (fun log _ h => h)
        · exact fun log _ h => h
        · exact fun log _ h => h
      apply Prog.along_bind houtcome
      · intro log outcome h
        apply Prog.along_call h
        intro r s _ logId hacc
        have hbefore : Accepted logId log := by simpa [accepted?] using hacc
        simp [h.2 logId hbefore]
      · exact fun log e h => h.2

/-- The calls of a send. -/
def quiet : NotifyCall → Prop
  | .takeJob | .finishJob _ _ | .sendWhatsAppMessage _ | .logUpdate _ _ | .jobRetry _ => False
  | .logCreate data => data.status = .PENDING
  | _ => True

/-- Nothing was sent. -/
def Silent (log : List NotifyEvent) : Prop := ∀ logId, ¬ Accepted logId log

theorem quiet_of_lookup {c : NotifyCall} (hc : lookup c) : quiet c := by
  cases c <;> first | exact hc | trivial

theorem rule_of_quiet {c : NotifyCall} (hc : quiet c) (log : List NotifyEvent) :
    deliveryRule log c := by
  cases c <;> first | exact hc | exact hc.elim

theorem Silent.cons {log : List NotifyEvent} (h : Silent log) {c : NotifyCall} (hc : quiet c)
    (x : Except NotifyExn (NotifyResp c)) (s : NotificationStore) :
    Silent (⟨t, c, x, s⟩ :: log) := by
  intro logId hacc
  rcases accepted_cons.mp hacc with hnew | hold
  · cases c <;> first | cases hnew | exact hc.elim
  · exact h logId hold

/-- A quiet call and what follows its answer. -/
theorem Silent.along_bind {log : List NotifyEvent} (h : Silent log) {c : NotifyCall} (hc : quiet c)
    {f : NotifyResp c → Ntf α}
    (hok : ∀ a log', Silent log' →
      (f a).Along deliveryRule (answers programs) t (fun log _ => Silent log) log') :
    ((notifyCall c).bind f).Along deliveryRule (answers programs) t
      (fun log _ => Silent log) log := by
  apply Prog.along_call_bind
  · exact rule_of_quiet hc log
  · intro a s _
    exact hok a _ (h.cons hc _ s)
  · intro e s _
    exact h.cons hc _ s

/-- An enqueue that is no retry adds a job at most. -/
theorem along_enqueue (cfg : Config) (logId : Id) {log : List NotifyEvent} (h : Silent log) :
    (enqueueWhatsAppLog cfg logId false).Along deliveryRule (answers programs) t
      (fun log _ => Silent log) log := by
  simp only [enqueueWhatsAppLog, Prog.bind_eq]
  apply h.along_bind (c := .getJob _) trivial
  intro found log₁ h₁
  split
  · simp only [reenqueue, Prog.bind_eq]
    apply h₁.along_bind (c := .getState _) trivial
    intro state log₂ h₂
    exact h₂
  · -- Adding a job does not fail, so nothing is written to the log.
    refine Prog.along_tryCatch (Q := fun log x => Silent log ∧ ∃ a, x = .ok a) ?_ ?_ ?_
    · apply along_reliable (c := .jobAdd _) id trivial
      intro added s _
      exact ⟨h₁.cons (c := .jobAdd _) trivial _ s, _, rfl⟩
    · exact fun log a hq => hq.1
    · rintro log e ⟨_, a, ha⟩
      cases ha

theorem along_createAndEnqueue (cfg : Config) (data : NotificationLog) (dedupeKey : String)
    (forceResend : Bool) (hdata : data.status = .PENDING) {log : List NotifyEvent}
    (h : Silent log) :
    (createAndEnqueue cfg data dedupeKey forceResend).Along deliveryRule (answers programs) t
      (fun log _ => Silent log) log := by
  simp only [createAndEnqueue, Prog.bind_eq]
  have hcreate : (createNotificationLogOrReadExisting data dedupeKey).Along deliveryRule
      (answers programs) t (fun log _ => Silent log) log := by
    simp only [createNotificationLogOrReadExisting, Prog.bind_eq]
    refine Prog.along_tryCatch (Q := fun log _ => Silent log) ?_ ?_ ?_
    · exact Prog.along_call hdata fun x s _ => h.cons (c := .logCreate data) hdata x s
    · exact fun log a hq => hq
    · intro log e hlog
      split
      · apply hlog.along_bind (c := .logByDedupeKey _) trivial
        intro existing log₁ h₁
        split
        · exact h₁
        · exact h₁
      · exact hlog
  apply Prog.along_bind hcreate _ (fun log e hlog => hlog)
  intro log₁ row h₁
  split
  · exact h₁
  · apply Prog.along_bind (along_enqueue cfg row.id h₁) _ (fun log e hlog => hlog)
    exact fun log a hlog => hlog

/-- A send keeps its log silent. -/
theorem sendRule_silent (cfg : Config) (t : Nat) :
    SendRule cfg t deliveryRule (answers programs) Silent where
  call hc _ := by
    apply rule_of_quiet
    revert hc
    exact quiet_of_lookup
  keep hc hlog x s := hlog.cons (quiet_of_lookup hc) x s
  create hdata hlog dedupeKey forceResend :=
    along_createAndEnqueue cfg _ dedupeKey forceResend hdata hlog

theorem along_of_sendsAndRounds {cfg : Config} {p : Ntf Unit} (h : SendsAndRounds cfg p) :
    p.Along deliveryRule (answers programs) t (fun log _ => Concluded log) [] := by
  have hsilent : ∀ {log : List NotifyEvent}, Silent log → Concluded log :=
    fun h logId hacc => absurd hacc (h logId)
  cases h with
  | sendQr dto =>
      apply Prog.along_bind ((sendRule_silent cfg t).along_sendRegistrationQr dto accepted_nil)
      · exact fun log a hlog => hsilent hlog
      · exact fun log e hlog => hsilent hlog
  | sendImage input =>
      apply Prog.along_bind
        ((sendRule_silent cfg t).along_sendRegistrationTicketImage input accepted_nil)
      · exact fun log a hlog => hsilent hlog
      · exact fun log e hlog => hsilent hlog
  | round => exact along_work cfg

end Along

/-! ## Runs -/

section Runs

variable {cfg : Config}

/-- The runs of the sends and the worker. -/
abbrev SendRun (cfg : Config) (c c' : NotifyConfig) : Prop :=
  (service (SendsAndRounds cfg)).system.Reach c c'

/-- The invariant holds and every program is along its own log. -/
abbrev Sound (cfg : Config) (c : NotifyConfig) : Prop :=
  (deliveryGuard (SendsAndRounds cfg)).Good (fun _ log => Concluded log) c

theorem deduplicated_init {s : NotificationStore} : Deduplicated ⟨s, []⟩ where
  alone t u h := by simp [World.own, Working] at h
  active t h := by simp [World.own, Working] at h
  read e he := by cases he
  unsent t logId h := by simp [World.own, Working] at h
  marked e he := by cases he
  accepted e he := by cases he
  known e he := by cases he
  once logId := by simp

theorem along_of_starts {t : Nat} {s s' : NotificationStore} {p : Ntf Unit}
    (h : (service (SendsAndRounds cfg)).starts s p s') :
    p.Along deliveryRule (answers (SendsAndRounds cfg)) t (fun log _ => Concluded log) [] :=
  along_of_sendsAndRounds h.2

theorem Sound.step {c c' : NotifyConfig} (h : Sound cfg c)
    (hs : (service (SendsAndRounds cfg)).system.Step c c') : Sound cfg c' := by
  rw [← System.restrict_true (service (SendsAndRounds cfg)).system] at hs
  exact Guard.Good.step along_of_starts h hs

theorem sound_of_reach {s : NotificationStore} {c : NotifyConfig}
    (hr : SendRun cfg (Service.init s) c) : Sound cfg c := by
  rw [SendRun, ← System.restrict_true (service (SendsAndRounds cfg)).system] at hr
  exact Guard.good_of_reach along_of_starts deduplicated_init hr

/-- A log that is sent stays so. -/
theorem isSent_of_run {c c' : NotifyConfig} (h : Sound cfg c) (hr : SendRun cfg c c') {logId : Id}
    (hsent : IsSent logId c.world.store) : IsSent logId c'.world.store := by
  have hboth : Sound cfg c' ∧ IsSent logId c'.world.store := by
    induction hr with
    | refl => exact ⟨h, hsent⟩
    | tail _ hs ih =>
        obtain ⟨hsound, hsent⟩ := ih
        refine ⟨hsound.step hs, ?_⟩
        cases hs with
        | env he =>
            rw [IsSent, logs_of_surroundings he.2]
            exact hsent
        | spawn hspawn =>
            rw [hspawn.2.1]
            exact hsent
        | call ht ha =>
            obtain ⟨_, ho⟩ := ha
            exact isSent_step hsound.1 (hsound.2.2 _ _ ht).1 ho hsent
  exact hboth.2

/-- An accepted message belongs to a sent log, or its round has still to mark the log. -/
theorem sent_or_in_progress {c : NotifyConfig} (h : Sound cfg c) {e : NotifyEvent}
    (he : e ∈ c.world.trace) {logId : Id} (haccepted : accepted? e = some logId) :
    IsSent logId c.world.store ∨
      (∃ p, c.pool[e.thread]? = some p ∧ System.finished p = false) ∧
        ¬ MarkedSent logId (c.world.own e.thread) := by
  by_cases hsent : IsSent logId c.world.store
  · exact .inl hsent
  · right
    have hunmarked : ¬ MarkedSent logId (c.world.own e.thread) := by
      rintro ⟨f, hf, hmark⟩
      exact hsent (h.1.marked f (World.mem_own.mp hf).1 logId hmark)
    refine ⟨?_, hunmarked⟩
    have hlt : e.thread < c.pool.length := h.2.1 e he
    obtain ⟨p, hp⟩ : ∃ p, c.pool[e.thread]? = some p := ⟨_, List.getElem?_eq_getElem hlt⟩
    refine ⟨p, hp, ?_⟩
    cases hdone : System.finished p with
    | false => rfl
    | true =>
        have hconcluded := h.ended hp hdone
        exact absurd (hconcluded logId ⟨e, World.mem_own.mpr ⟨he, rfl⟩, haccepted⟩) hunmarked

end Runs

end Notifications

open Notifications

/-- In every run of sends and worker rounds, a dedupe key has one log, the provider accepts one
message for it at most, and from then on, once its round has written so, the log is SENT or
DELIVERED. -/
theorem one_message_of_reach (cfg : NotificationsService.Config) {s : NotificationStore}
    {c : NotifyConfig} (hr : SendRun cfg (Service.init s) c) (dedupeKey : String) :
    (∀ l ∈ c.world.store.logs.rows, ∀ l' ∈ c.world.store.logs.rows,
      l.dedupeKey = some dedupeKey → l'.dedupeKey = some dedupeKey → l = l') ∧
    (∀ e ∈ c.world.trace, ∀ logId, accepted? e = some logId → HasLog logId c.world.store) ∧
    ∀ l ∈ c.world.store.logs.rows, l.dedupeKey = some dedupeKey →
      (c.world.trace.filter (accepted? · = some l.id)).length ≤ 1 ∧
      (∀ e ∈ c.world.trace, accepted? e = some l.id → l.status.sent = true ∨
        (∃ p, c.pool[e.thread]? = some p ∧ System.finished p = false) ∧
          ¬ MarkedSent l.id (c.world.own e.thread)) ∧
      ∀ c', SendRun cfg c c' → l.status.sent = true → IsSent l.id c'.world.store := by
  have hsound := sound_of_reach hr
  refine ⟨?_, hsound.1.known, fun l hl hkey => ⟨hsound.1.once l.id, ?_, ?_⟩⟩
  · intro l hl l' hl' hkey hkey'
    apply c.world.store.logs.eq_of_clash hl hl'
    change (l.dedupeKey.isSome && l.dedupeKey == l'.dedupeKey) = true
    rw [hkey, hkey']
    simp
  · intro e he haccepted
    refine (sent_or_in_progress hsound he haccepted).imp_left ?_
    rintro ⟨l', hl', hid, hsent⟩
    have hsame : l' = l := c.world.store.logs.eq_of_key hl' hl hid
    exact hsame ▸ hsent
  · intro c' hrun hsent
    exact isSent_of_run hsound hrun ⟨l, hl, rfl, hsent⟩

/-- Two sends at once, the later of which finds the key taken, and a round of the worker. -/
theorem one_message_of_two_sends :
    ∃ c, SendRun plainConfig (Service.init unnotified) c ∧
      (c.world.store.logs.find? "c0").any (fun l =>
        l.dedupeKey == some "REGISTRATION_QR:e:r" && l.status == .SENT) = true ∧
      ∀ l ∈ c.world.store.logs.rows, l.dedupeKey = some "REGISTRATION_QR:e:r" →
        (c.world.trace.filter (accepted? · = some l.id)).length ≤ 1 := by
  obtain ⟨c, hr, hsent⟩ := Service.exists_reach_of_perform (fun _ _ _ => True)
    (v := service (SendsAndRounds plainConfig))
    ([.start (NotificationsService.sendRegistrationQr plainConfig
        { registrationId := "r" }).void (fun _ => true) id,
      .start (NotificationsService.sendRegistrationTicketImage plainConfig
        { registrationId := "r", imageUrl := "https://tickets.example/1.png" }).void
        (fun _ => true) id,
      .start (WhatsAppNotificationProcessor.work plainConfig) (fun _ => true) id] ++
      [0, 1, 0, 1, 0, 1, 0, 1, 0, 1, 0, 1, 0, 0, 2, 2, 2, 2, 2, 2, 2, 2, 2].map fun t => .step t {})
    (Service.init unnotified)
    (fun s => (s.logs.find? "c0").any fun l =>
      l.dedupeKey == some "REGISTRATION_QR:e:r" && l.status == .SENT)
    (by
      refine Service.legal_append.mpr ⟨?_, ?_⟩
      · simp only [Service.legal_cons, Service.legal_nil, and_true]
        exact ⟨fun _ _ => ⟨rfl, .sendQr _⟩, fun _ _ => ⟨rfl, .sendImage _⟩,
          fun _ _ => ⟨rfl, .round⟩⟩
      · intro a ha
        obtain ⟨t, -, rfl⟩ := List.mem_map.mp ha
        trivial)
    (by decide +kernel)
  rw [System.restrict_true] at hr
  refine ⟨c, hr, hsent, fun l hl hkey => ?_⟩
  exact ((one_message_of_reach plainConfig hr "REGISTRATION_QR:e:r").2.2 l hl hkey).1

end CreativeBackend
