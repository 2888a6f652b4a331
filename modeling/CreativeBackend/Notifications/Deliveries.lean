import CreativeBackend.Notifications.NotificationsService
import CreativeBackend.Interaction.OwnLog

/-!
# Deliveries in a run

Senders and rounds of the worker share one store. The log of a run shows which job the worker
took, which logs it read as not sent, what the provider accepted and what was written. Each call
changes the logs and the jobs in one of a few ways.
-/

namespace CreativeBackend

open Relational Interaction NotificationsService WhatsAppNotificationProcessor

/-- A message that the provider has accepted. -/
def NotificationStatus.sent (status : NotificationStatus) : Bool :=
  status == .SENT || status == .DELIVERED

namespace Notifications

/-- What happens around the service: delayed jobs come due, completed jobs are removed, and
registrations and templates change. -/
inductive Surroundings : NotificationStore → NotificationStore → Prop
  | promote (s : NotificationStore) (jobId : String) : Surroundings s
      (s.updateJobs jobId fun j => if j.state = .delayed then { j with state := .waiting } else j)
  | remove (s : NotificationStore) (keep : WhatsAppJob → Bool) : Surroundings s
      { s with jobs := s.jobs.filter fun j => j.state != .completed || keep j }
  | change (s : NotificationStore) (registrations : List NotifiedRegistration)
      (templates : List NotificationTemplate) : Surroundings s { s with registrations, templates }

theorem logs_of_surroundings {s s' : NotificationStore} (h : Surroundings s s') :
    s'.logs = s.logs := by
  cases h <;> rfl

/-- Programs over one store, without failures of the database and the queue. -/
def service (programs : Ntf Unit → Prop) : Service NotifyResp NotifyExn NotificationStore where
  Choice := NotifyChoice
  machine := notifyMachine
  faulty _ := False
  env := Surroundings
  starts s p s' := s' = s ∧ programs p

/-- The sends of the service and the rounds of the worker. -/
inductive SendsAndRounds (cfg : Config) : Ntf Unit → Prop
  | sendQr (dto : SendRegistrationQrDto) : SendsAndRounds cfg (sendRegistrationQr cfg dto).void
  | sendImage (input : SendTicketImageInput) :
      SendsAndRounds cfg (sendRegistrationTicketImage cfg input).void
  | round : SendsAndRounds cfg (work cfg)

abbrev NotifyEvent := Interaction.Event NotifyResp NotifyExn NotificationStore

abbrev NotifyWorld := World NotifyResp NotifyExn NotificationStore

abbrev NotifyConfig := Interaction.Config NotifyResp NotifyExn NotifyWorld

/-! ## What a log of calls shows -/

/-- The job that the worker took. -/
def taken? : NotifyEvent → Option WhatsAppJob
  | ⟨_, .takeJob, .ok (some job), _⟩ => some job
  | _ => none

/-- The job that the worker finished. -/
def finished? : NotifyEvent → Option String
  | ⟨_, .finishJob jobId _, _, _⟩ => some jobId
  | _ => none

/-- The log whose message the provider accepted. -/
def accepted? : NotifyEvent → Option Id
  | ⟨_, .sendWhatsAppMessage m, .ok _, _⟩ => some m.notificationLogId
  | _ => none

/-- The log that was created. -/
def created? : NotifyEvent → Option Id
  | ⟨_, .logCreate _, .ok row, _⟩ => some row.id
  | _ => none

/-- The status that was written to a log. -/
def wrote? : NotifyEvent → Option (Id × NotificationStatus)
  | ⟨_, .logUpdate id p, .ok _, _⟩ => some (id, p.status)
  | _ => none

/-- The log that was marked as sent. -/
def markedSent? (e : NotifyEvent) : Option Id :=
  (wrote? e).bind fun written => if written.2.sent then some written.1 else none

theorem markedSent_eq_some {e : NotifyEvent} {logId : Id} :
    markedSent? e = some logId ↔
      ∃ status, wrote? e = some (logId, status) ∧ status.sent = true := by
  simp only [markedSent?, Option.bind_eq_some_iff, Option.ite_none_right_eq_some,
    Option.some.injEq, Prod.exists]
  constructor
  · rintro ⟨id, status, hwrote, hsent, rfl⟩
    exact ⟨status, hwrote, hsent⟩
  · rintro ⟨status, hwrote, hsent⟩
    exact ⟨logId, status, hwrote, hsent, rfl⟩

/-- The log that was read as not sent. -/
def readUnsent? : NotifyEvent → Option Id
  | ⟨_, .logById _, .ok (some l), _⟩ => if l.status.sent then none else some l.id
  | _ => none

/-! ## What a call does to the store -/

/-- The logs are as before, or the call created or updated one. -/
inductive LogsChange (s' : NotificationStore) : NotifyEvent → Prop
  | same {e} (h : s'.logs = e.before.logs) (hcreate : created? e = none)
      (hwrote : wrote? e = none) : LogsChange s' e
  | created {t data row s}
      (h : s.logs.create { data with createdAt := s.clock } = some (row, s'.logs)) :
      LogsChange s' ⟨t, .logCreate data, .ok row, s⟩
  | updated {t id p row s} (h : s.logs.update id p.apply = .done row s'.logs) :
      LogsChange s' ⟨t, .logUpdate id p, .ok row, s⟩

/-- The jobs are as before, or the call moved or added one. -/
inductive JobsChange (s' : NotificationStore) : NotifyEvent → Prop
  | same {e} (h : s'.jobs = e.before.jobs) (htake : taken? e = none)
      (hfinish : finished? e = none) : JobsChange s' e
  | retried {t jobId j s} (hj : s.findJob jobId = some j) (hfailed : j.state = .failed)
      (h : s'.jobs = (s.updateJobs jobId ({ · with state := .waiting })).jobs) :
      JobsChange s' ⟨t, .jobRetry jobId, .ok (), s⟩
  | added {t job s} (hnew : s.findJob job.id = none) (h : s'.jobs = s.jobs ++ [job]) :
      JobsChange s' ⟨t, .jobAdd job, .ok job.id, s⟩
  | taken {t j s} (hidle : ∀ j' ∈ s.jobs, j'.state ≠ .active) (hj : j ∈ s.jobs)
      (hwaiting : j.state = .waiting)
      (h : s'.jobs = (s.updateJobs j.id ({ · with state := .active })).jobs) :
      JobsChange s' ⟨t, .takeJob, .ok (some j), s⟩
  | finished {t jobId outcome s} (h : s'.jobs = (s.updateJobs jobId (·.finish outcome)).jobs) :
      JobsChange s' ⟨t, .finishJob jobId outcome, .ok (), s⟩

section Outcome

variable {programs : Ntf Unit → Prop} {t : Nat} {c : NotifyCall} {s s' : NotificationStore}
  {x : Except NotifyExn (NotifyResp c)}

theorem logsChange_of_outcome (h : (service programs).Outcome c s x s') :
    LogsChange s' ⟨t, c, x, s⟩ := by
  obtain ⟨ch, h⟩ | ⟨hfaulty, -⟩ := h
  · change notifyMachine ch c s = (x, s') at h
    cases c with
    | logCreate data =>
        simp only [notifyMachine, NotificationStore.createLog] at h
        split at h
        · cases h
          exact .same rfl rfl rfl
        · next hcreate =>
            cases h
            exact .created hcreate
    | logUpdate id p =>
        simp only [notifyMachine, NotificationStore.updateLog] at h
        split at h
        · cases h
          exact .same rfl rfl rfl
        · cases h
          exact .same rfl rfl rfl
        · next hupdate =>
            cases h
            exact .updated hupdate
    | jobRetry jobId =>
        simp only [notifyMachine, NotificationStore.retryJob] at h
        split at h
        · split at h <;> cases h <;> exact .same rfl rfl rfl
        · cases h
          exact .same rfl rfl rfl
    | jobAdd job =>
        simp only [notifyMachine, NotificationStore.addJob] at h
        split at h <;> cases h <;> exact .same rfl rfl rfl
    | takeJob =>
        simp only [notifyMachine, NotificationStore.takeJob] at h
        split at h
        · cases h
          exact .same rfl rfl rfl
        · split at h <;> cases h <;> exact .same rfl rfl rfl
    | _ =>
        cases h
        exact .same rfl rfl rfl
  · exact hfaulty.elim

theorem jobsChange_of_outcome (h : (service programs).Outcome c s x s') :
    JobsChange s' ⟨t, c, x, s⟩ := by
  obtain ⟨ch, h⟩ | ⟨hfaulty, -⟩ := h
  · change notifyMachine ch c s = (x, s') at h
    cases c with
    | logCreate data =>
        simp only [notifyMachine, NotificationStore.createLog] at h
        split at h <;> cases h <;> exact .same rfl rfl rfl
    | logUpdate id p =>
        simp only [notifyMachine, NotificationStore.updateLog] at h
        split at h <;> cases h <;> exact .same rfl rfl rfl
    | jobRetry jobId =>
        simp only [notifyMachine, NotificationStore.retryJob] at h
        split at h
        · next j hj =>
            split at h
            · next hfailed =>
                cases h
                exact .retried hj hfailed rfl
            · cases h
              exact .same rfl rfl rfl
        · cases h
          exact .same rfl rfl rfl
    | jobAdd job =>
        simp only [notifyMachine, NotificationStore.addJob] at h
        split at h
        · cases h
          exact .same rfl rfl rfl
        · next hnew =>
            cases h
            exact .added (by simpa using hnew) rfl
    | takeJob =>
        simp only [notifyMachine, NotificationStore.takeJob] at h
        split at h
        · cases h
          exact .same rfl rfl rfl
        · next hidle =>
            split at h
            · cases h
              exact .same rfl rfl rfl
            · next j hj =>
                cases h
                have hfound := List.find?_some hj
                simp only [Bool.and_eq_true, beq_iff_eq] at hfound
                refine .taken (fun j' hj' hactive => ?_) (List.mem_of_find?_eq_some hj) hfound.1 rfl
                apply hidle
                exact List.any_eq_true.mpr ⟨j', hj', by simp [hactive]⟩
    | finishJob jobId outcome =>
        cases h
        exact .finished rfl
    | _ =>
        cases h
        exact .same rfl rfl rfl
  · exact hfaulty.elim

/-- The calls that answer an error in some store. -/
def mayFail : NotifyCall → Prop
  | .logCreate _ | .logUpdate _ _ | .jobRetry _ | .qrToken _ | .qrImage _
  | .sendWhatsAppMessage _ => True
  | _ => False

theorem mayFail_of_error {e : NotifyExn} (h : (service programs).Outcome c s (.error e) s') :
    mayFail c := by
  obtain ⟨ch, h⟩ | ⟨hfaulty, -⟩ := h
  · change notifyMachine ch c s = (.error e, s') at h
    cases c with
    | jobAdd job =>
        simp only [notifyMachine, NotificationStore.addJob] at h
        split at h <;> cases h
    | takeJob =>
        simp only [notifyMachine, NotificationStore.takeJob] at h
        split at h
        · cases h
        · split at h <;> cases h
    | logCreate _ | logUpdate _ _ | jobRetry _ | qrToken _ | qrImage _ | sendWhatsAppMessage _ =>
        trivial
    | _ => cases h
  · exact hfaulty.elim

/-- A log that is there can be updated. -/
theorem update_answered {id : Id} {p : LogPatch} {x : Except NotifyExn NotificationLog}
    (h : (service programs).Outcome (.logUpdate id p) s x s') {l : NotificationLog}
    (hl : l ∈ s.logs.rows) (hid : l.id = id) : ∃ row, x = .ok row := by
  obtain ⟨ch, h⟩ | ⟨hfaulty, -⟩ := h
  · change s.updateLog id p = (x, s') at h
    subst hid
    obtain ⟨table, hupdate⟩ : ∃ table, s.logs.update l.id p.apply =
        .done (withKey l.id (p.apply l)) table := by
      apply Table.exists_update (a := l) hl
      intro b _
      exact ⟨rfl, rfl⟩
    simp only [NotificationStore.updateLog, hupdate] at h
    cases h
    exact ⟨_, rfl⟩
  · exact hfaulty.elim

end Outcome

/-! ## Sent logs -/

/-- There is a log under the id. -/
def HasLog (logId : Id) (s : NotificationStore) : Prop := ∃ l ∈ s.logs.rows, l.id = logId

/-- The log is SENT or DELIVERED. -/
def IsSent (logId : Id) (s : NotificationStore) : Prop :=
  ∃ l ∈ s.logs.rows, l.id = logId ∧ l.status.sent = true

/-- The calls that create no log as sent. -/
def createsPending : NotifyCall → Prop
  | .logCreate data => data.status = .PENDING
  | _ => True

theorem hasLog_of_change {s' : NotificationStore} {e : NotifyEvent} {logId : Id}
    (h : LogsChange s' e) (hlog : HasLog logId e.before) : HasLog logId s' := by
  obtain ⟨l, hl, rfl⟩ := hlog
  cases h with
  | same h _ _ => exact ⟨l, by rw [h]; exact hl, rfl⟩
  | created h => exact ⟨l, (Table.mem_create h).mpr (.inl hl), rfl⟩
  | @updated t id p row s h =>
      by_cases hid : l.id = id
      · obtain ⟨_, _, _, hrow, _, _⟩ := Table.update_eq_done h
        refine ⟨row, (Table.mem_update h).mpr (.inr rfl), ?_⟩
        rw [hrow, hid]
        exact key_withKey (ρ := NotificationLog) id _
      · exact ⟨l, (Table.mem_update h).mpr (.inl ⟨hl, hid⟩), rfl⟩

/-- A log comes to be sent only where it is marked. -/
theorem isSent_before_of_change {s' : NotificationStore} {e : NotifyEvent} {logId : Id}
    (h : LogsChange s' e) (hcreate : createsPending e.call) (hsent : IsSent logId s') :
    IsSent logId e.before ∨ markedSent? e = some logId := by
  obtain ⟨l, hl, rfl, hstatus⟩ := hsent
  cases h with
  | same h _ _ =>
      left
      exact ⟨l, by rw [← h]; exact hl, rfl, hstatus⟩
  | @created t data row s h =>
      rcases (Table.mem_create h).mp hl with hold | rfl
      · exact .inl ⟨l, hold, rfl, hstatus⟩
      · have hpending : l.status = .PENDING := by
          rw [(Table.create_eq_some h).1]
          exact hcreate
        rw [hpending] at hstatus
        cases hstatus
  | @updated t id p row s h =>
      rcases (Table.mem_update h).mp hl with ⟨hold, _⟩ | rfl
      · exact .inl ⟨l, hold, rfl, hstatus⟩
      · right
        obtain ⟨a, _, _, hrow, _, _⟩ := Table.update_eq_done h
        have hid : l.id = id := by
          rw [hrow]
          exact key_withKey (ρ := NotificationLog) id _
        have hp : p.status.sent = true := by
          rw [hrow] at hstatus
          exact hstatus
        exact markedSent_eq_some.mpr ⟨p.status, by rw [hid]; rfl, hp⟩

/-- A written log has the status that was written. -/
theorem row_of_wrote {s' : NotificationStore} {e : NotifyEvent} {logId : Id}
    {status : NotificationStatus} (h : LogsChange s' e) (hwrote : wrote? e = some (logId, status)) :
    ∃ l ∈ s'.logs.rows, l.id = logId ∧ l.status = status := by
  cases h with
  | same _ _ hnone =>
      rw [hnone] at hwrote
      cases hwrote
  | created _ => cases hwrote
  | @updated t id p row s h =>
      cases hwrote
      obtain ⟨a, _, _, hrow, _, _⟩ := Table.update_eq_done h
      refine ⟨row, (Table.mem_update h).mpr (.inr rfl), ?_, ?_⟩
      · rw [hrow]
        exact key_withKey (ρ := NotificationLog) logId _
      · rw [hrow]
        rfl

theorem isSent_of_marked {s' : NotificationStore} {e : NotifyEvent} {logId : Id}
    (h : LogsChange s' e) (hmark : markedSent? e = some logId) : IsSent logId s' := by
  obtain ⟨status, hwrote, hstatus⟩ := markedSent_eq_some.mp hmark
  obtain ⟨l, hl, hid, rfl⟩ := row_of_wrote h hwrote
  exact ⟨l, hl, hid, hstatus⟩

/-- A sent log stays so, or is updated to another status. -/
theorem isSent_of_change {s' : NotificationStore} {e : NotifyEvent} {logId : Id}
    (h : LogsChange s' e) (hsent : IsSent logId e.before) :
    IsSent logId s' ∨ ∃ p, e.call = .logUpdate logId p ∧ p.status.sent = false := by
  cases h with
  | same h _ _ =>
      left
      rw [IsSent, h]
      exact hsent
  | created h =>
      obtain ⟨l, hl, hid, hstatus⟩ := hsent
      exact .inl ⟨l, (Table.mem_create h).mpr (.inl hl), hid, hstatus⟩
  | @updated t id p row s h =>
      by_cases hid : logId = id
      · subst hid
        cases hp : p.status.sent
        · exact .inr ⟨p, rfl, hp⟩
        · left
          apply isSent_of_marked (.updated (t := t) h)
          exact markedSent_eq_some.mpr ⟨p.status, rfl, hp⟩
      · obtain ⟨l, hl, rfl, hstatus⟩ := hsent
        exact .inl ⟨l, (Table.mem_update h).mpr (.inl ⟨hl, hid⟩), rfl, hstatus⟩

/-- What was read as not sent is not sent. -/
theorem not_isSent_of_read {programs : Ntf Unit → Prop} {t : Nat} {c : NotifyCall}
    {s s' : NotificationStore} {x : Except NotifyExn (NotifyResp c)}
    (h : (service programs).Outcome c s x s') {logId : Id}
    (hread : readUnsent? ⟨t, c, x, s⟩ = some logId) : HasLog logId s ∧ ¬ IsSent logId s := by
  obtain ⟨ch, h⟩ | ⟨hfaulty, -⟩ := h
  · change notifyMachine ch c s = (x, s') at h
    cases c with
    | logById id =>
        simp only [notifyMachine, Prod.mk.injEq] at h
        obtain ⟨rfl, rfl⟩ := h
        cases hfind : s.logs.find? id with
        | none =>
            rw [hfind] at hread
            cases hread
        | some l =>
            rw [hfind] at hread
            obtain ⟨hl, hid⟩ := Table.find?_eq_some_iff.mp hfind
            simp only [readUnsent?, Option.ite_none_left_eq_some, Option.some.injEq] at hread
            obtain ⟨hunsent, rfl⟩ := hread
            refine ⟨⟨l, hl, rfl⟩, ?_⟩
            rintro ⟨l', hl', hsame, hsent⟩
            have heq : l' = l := s.logs.eq_of_key hl' hl hsame
            exact hunsent (heq ▸ hsent)
    | _ => cases hread
  · exact hfaulty.elim

/-! ## The lookups of a send -/

/-- The calls of a send before it creates its log. -/
def lookup : NotifyCall → Prop
  | .now | .registrationById _ | .template _ _ | .logByDedupeKey _ | .qrToken _ => True
  | _ => False

/-- What the lookups of a send keep of its own log, and its last part after them. -/
structure SendRule (cfg : Config) (t : Nat) (P : List NotifyEvent → NotifyCall → Prop)
    (A : List NotifyEvent → (c : NotifyCall) → Except NotifyExn (NotifyResp c) →
      NotificationStore → Prop) (F : List NotifyEvent → Prop) : Prop where
  call : ∀ {c log}, lookup c → F log → P log c
  keep : ∀ {c log}, lookup c → F log → ∀ x s, F (⟨t, c, x, s⟩ :: log)
  create : ∀ {data log}, data.status = .PENDING → F log → ∀ dedupeKey forceResend,
    (createAndEnqueue cfg data dedupeKey forceResend).Along P A t (fun log _ => F log) log

namespace SendRule

variable {cfg : Config} {t : Nat} {P : List NotifyEvent → NotifyCall → Prop}
  {A : List NotifyEvent → (c : NotifyCall) → Except NotifyExn (NotifyResp c) →
    NotificationStore → Prop} {F : List NotifyEvent → Prop} (h : SendRule cfg t P A F)

include h

theorem along_bind {α : Type} {c : NotifyCall} (hc : lookup c) {f : NotifyResp c → Ntf α}
    {log : List NotifyEvent} (hlog : F log)
    (hok : ∀ a log', F log' → (f a).Along P A t (fun log _ => F log) log') :
    ((notifyCall c).bind f).Along P A t (fun log _ => F log) log := by
  apply Prog.along_call_bind (h.call hc hlog)
  · exact fun a s _ => hok a _ (h.keep hc hlog _ s)
  · exact fun e s _ => h.keep hc hlog _ s

theorem along_dedupeKey (eventId registrationId : Id) (forceResend : Bool)
    {log : List NotifyEvent} (hlog : F log) :
    (buildRegistrationQrDedupeKey cfg eventId registrationId forceResend).Along P A t
      (fun log _ => F log) log := by
  simp only [buildRegistrationQrDedupeKey, Prog.bind_eq]
  split
  · apply h.along_bind (c := .now) trivial hlog
    exact fun now log₁ h₁ => h₁
  · exact hlog

theorem along_existingLog (dedupeKey : String) (forceResend : Bool) {log : List NotifyEvent}
    (hlog : F log) : (existingLog dedupeKey forceResend).Along P A t (fun log _ => F log) log := by
  simp only [existingLog]
  split
  · exact hlog
  · have hc : lookup (.logByDedupeKey dedupeKey) := trivial
    exact Prog.along_call (h.call hc hlog) fun x s _ => h.keep hc hlog x s

/-- A send keeps what its lookups and its last part keep. -/
theorem along_sendRegistrationQr (dto : SendRegistrationQrDto) {log : List NotifyEvent}
    (hlog : F log) : (sendRegistrationQr cfg dto).Along P A t (fun log _ => F log) log := by
  simp only [sendRegistrationQr, Prog.bind_eq]
  apply h.along_bind (c := .registrationById _) trivial hlog
  intro found log₁ h₁
  split
  · exact h₁
  · next registration =>
      split
      · exact h₁
      · split
        · exact h₁
        · next phone _ =>
            apply Prog.along_bind (h.along_dedupeKey _ _ _ h₁) _ (fun log e hlog => hlog)
            intro log₂ dedupeKey h₂
            apply Prog.along_bind (h.along_existingLog dedupeKey _ h₂) _ (fun log e hlog => hlog)
            intro log₃ existing h₃
            split
            · exact h₃
            · apply h.along_bind (c := .qrToken _) trivial h₃
              intro qrToken log₄ h₄
              apply h.along_bind (c := .template _ _) trivial h₄
              intro template log₅ h₅
              exact h.create rfl h₅ dedupeKey _

theorem along_sendRegistrationTicketImage (input : SendTicketImageInput)
    {log : List NotifyEvent} (hlog : F log) :
    (sendRegistrationTicketImage cfg input).Along P A t (fun log _ => F log) log := by
  simp only [sendRegistrationTicketImage, Prog.bind_eq]
  apply h.along_bind (c := .registrationById _) trivial hlog
  intro found log₁ h₁
  split
  · exact h₁
  · next registration =>
      split
      · exact h₁
      · split
        · exact h₁
        · next recipient _ =>
            apply Prog.along_bind (Q := fun log _ => F log) (Prog.along_ofExcept h₁) _
              (fun log e hlog => hlog)
            intro log₂ _ h₂
            have hkey : (ticketDedupeKey cfg input registration).Along P A t
                (fun log _ => F log) log₂ := by
              simp only [ticketDedupeKey]
              split
              · exact h₂
              · exact h.along_dedupeKey _ _ _ h₂
            apply Prog.along_bind hkey _ (fun log e hlog => hlog)
            intro log₃ dedupeKey h₃
            apply Prog.along_bind (h.along_existingLog dedupeKey _ h₃) _ (fun log e hlog => hlog)
            intro log₄ existing h₄
            split
            · exact h₄
            · apply h.along_bind (c := .template _ _) trivial h₄
              intro template log₅ h₅
              exact h.create rfl h₅ dedupeKey _

end SendRule

end Notifications

/-- One registration with a phone, and no log and no job yet. -/
def unnotified : NotificationStore where
  registrations :=
    [{ id := "r", publicId := "REG_1", eventId := "e", eventTitle := "Expo", fullName := "A",
       phone := some "1" }]

def plainConfig : NotificationsService.Config where
  publicBaseUrl := "https://tickets.example"
  maxAgeMs := 86400000
  maxAttempts := 3
  replaceAll s _ _ := s
  parseUrl _ := some ("https:", "tickets.example")
  toISOString _ := ""
  numberText _ := ""

end CreativeBackend
