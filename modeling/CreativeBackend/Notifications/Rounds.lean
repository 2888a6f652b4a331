import CreativeBackend.Notifications.JobNames

/-!
# Rounds of the worker

One delivery writes the log of its job only. A log that is too old for a job without the mark of a
manual retry is CANCELLED; any other log that is not sent yet is sent, or its delivery fails.
-/

namespace CreativeBackend

open Relational Interaction NotificationsService WhatsAppNotificationProcessor

namespace Notifications.Rounds

/-- What each call of a program sees. -/
abbrev Answers := NotifyCall → NotificationStore → NotifyChoice

/-- The machine that answers every call with a choice of its own. -/
def answering (ch : Answers) : Machine NotifyResp NotifyExn NotificationStore :=
  fun c s => notifyMachine (ch c s) c s

/-- What the processor hands to the service for a job. -/
def deliveryOf (job : WhatsAppJob) : Delivery where
  notificationLogId := job.notificationLogId
  attemptNumber := job.attemptsMade + 1
  isFinalAttempt := decide (job.attempts ≤ job.attemptsMade + 1)
  manualRetry := job.manualRetry

theorem process_eq (cfg : Config) (job : WhatsAppJob) :
    process cfg job = deliverQueuedWhatsApp cfg (deliveryOf job) := rfl

/-- The age of a log when the delivery reads the clock. -/
def ageAt (ch : Answers) (s : NotificationStore) (l : NotificationLog) : Int :=
  max (s.clock + (ch .now s).elapsed - l.createdAt) 0

/-- The delivery expires the log. -/
def Expires (cfg : Config) (input : Delivery) (ch : Answers) (s : NotificationStore)
    (l : NotificationLog) : Prop :=
  input.manualRetry = false ∧ cfg.maxAgeMs < ageAt ch s l

/-- A log that was cancelled because of its age. -/
def Expired (l : NotificationLog) : Prop :=
  l.status = .CANCELLED ∧ l.errorCode = some "WHATSAPP_MESSAGE_EXPIRED"

/-- Nothing but the log under an id has changed. -/
structure Only (logId : Id) (s s' : NotificationStore) : Prop where
  jobs : s'.jobs = s.jobs
  others : ∀ id, id ≠ logId → s'.logs.find? id = s.logs.find? id

/-- The log under an id was created then, and `Q` holds of it. -/
def LogIs (logId : Id) (createdAt : Time) (Q : NotificationLog → Prop) (s : NotificationStore) :
    Prop :=
  ∃ l, s.logs.find? logId = some l ∧ l.createdAt = createdAt ∧ Q l

theorem Only.refl (logId : Id) (s : NotificationStore) : Only logId s s := ⟨rfl, fun _ _ => rfl⟩

theorem Only.trans {logId : Id} {s s' s'' : NotificationStore} (h : Only logId s s')
    (h' : Only logId s' s'') : Only logId s s'' where
  jobs := h'.jobs.trans h.jobs
  others id hid := (h'.others id hid).trans (h.others id hid)

theorem LogIs.mono {logId : Id} {createdAt : Time} {Q Q' : NotificationLog → Prop}
    {s : NotificationStore} (h : LogIs logId createdAt Q s) (hq : ∀ l, Q l → Q' l) :
    LogIs logId createdAt Q' s := by
  obtain ⟨l, hl, hcreated, hQ⟩ := h
  exact ⟨l, hl, hcreated, hq l hQ⟩

/-! ## Single calls -/

section Calls

variable {ch : Answers} {s : NotificationStore} {logId : Id} {createdAt : Time} {α : Type}
  {Q : NotificationLog → Prop} {R : Except NotifyExn α → NotificationStore → Prop}

/-- Time passes, and no more. -/
theorem after_now {f : Time → Ntf α}
    (h : (f (s.clock + (ch .now s).elapsed)).After (answering ch) (s.tick (ch .now s).elapsed) R) :
    ((notifyCall .now).bind f).After (answering ch) s R :=
  Prog.after_bind_of_ok (Prog.run_call _ _ _) h

theorem after_logById {f : Option NotificationLog → Ntf α}
    (h : (f (s.logs.find? logId)).After (answering ch) s R) :
    ((notifyCall (.logById logId)).bind f).After (answering ch) s R :=
  Prog.after_bind_of_ok (Prog.run_call _ _ _) h

theorem only_tick (elapsed : Nat) : Only logId s (s.tick elapsed) := ⟨rfl, fun _ _ => rfl⟩

/-- A log that is there is updated. -/
theorem run_logUpdate (ch : Answers) {l : NotificationLog} (hl : s.logs.find? logId = some l) (p : LogPatch) :
    ∃ row s', (notifyCall (.logUpdate logId p)).run (answering ch) s = (.ok row, s') ∧
      Only logId s s' ∧ s'.logs.find? logId = some (withKey logId (p.apply l)) := by
  obtain ⟨hmem, hkey⟩ := Table.find?_eq_some_iff.mp hl
  obtain ⟨table, hupdate⟩ : ∃ table, s.logs.update (key l) p.apply =
      .done (withKey (key l) (p.apply l)) table := by
    apply Table.exists_update hmem
    intro b _
    exact ⟨rfl, rfl⟩
  rw [hkey] at hupdate
  refine ⟨withKey logId (p.apply l), { s with logs := table }, ?_, ⟨rfl, fun id hid => ?_⟩, ?_⟩
  · have hrun : s.updateLog logId p =
        (.ok (withKey logId (p.apply l)), { s with logs := table }) := by
      rw [NotificationStore.updateLog, hupdate]
    exact (Prog.run_call _ _ _).trans hrun
  · rw [Table.find?_update hupdate, if_neg hid]
  · rw [Table.find?_update hupdate, if_pos rfl]

theorem after_logUpdate {l : NotificationLog} (hl : s.logs.find? logId = some l) {p : LogPatch}
    {f : NotificationLog → Ntf α}
    (h : ∀ row s', Only logId s s' → s'.logs.find? logId = some (withKey logId (p.apply l)) →
      (f row).After (answering ch) s' R) :
    ((notifyCall (.logUpdate logId p)).bind f).After (answering ch) s R := by
  obtain ⟨row, s', hrun, honly, hrow⟩ := run_logUpdate ch hl p
  exact Prog.after_bind_of_ok hrun (h row s' honly hrow)

/-- The image of a message is found without a change of the store. -/
theorem run_messageImage (metadata : List (String × Json)) (registrationId : Id) :
    ((messageImage metadata registrationId).run (answering ch) s).2 = s := by
  have himage : ((notifyCall (.qrImage registrationId)).run (answering ch) s).2 = s :=
    congrArg Prod.snd (Prog.run_call _ _ _)
  unfold messageImage
  split
  · split
    · exact himage
    · rfl
  · exact himage

end Calls

/-! ## One delivery -/

section Delivery

variable {cfg : Config} {input : Delivery} {ch : Answers} {s : NotificationStore} {logId : Id}
  {l log : NotificationLog}

/-- A log after an attempt to send it. -/
def AfterSend (logId : Id) (createdAt : Time) (s s' : NotificationStore) : Prop :=
  Only logId s s' ∧ LogIs logId createdAt (fun l => l.status ≠ .CANCELLED) s'

theorem AfterSend.trans {createdAt : Time} {s s' s'' : NotificationStore} (h : Only logId s s')
    (h' : AfterSend logId createdAt s' s'') : AfterSend logId createdAt s s'' :=
  ⟨h.trans h'.1, h'.2⟩

/-- A write with another status than CANCELLED. -/
theorem afterSend_of_row {p : LogPatch} {createdAt : Time} {s₁ : NotificationStore}
    (honly : Only logId s s₁) (hrow : s₁.logs.find? logId = some (withKey logId (p.apply l)))
    (hcreated : l.createdAt = createdAt) (hstatus : p.status ≠ .CANCELLED) :
    AfterSend logId createdAt s s₁ :=
  ⟨honly, _, hrow, hcreated, hstatus⟩

theorem after_sendLog (hl : s.logs.find? logId = some l) (hid : log.id = logId) :
    (sendLog cfg input log).After (answering ch) s fun _ s' =>
      AfterSend logId l.createdAt s s' := by
  subst hid
  have hl' : (s.tick (ch .now s).elapsed).logs.find? log.id = some l := hl
  refine after_now (after_logUpdate hl' fun row s₁ honly hrow => ?_)
  have hpending := afterSend_of_row ((only_tick _).trans honly) hrow rfl (by simp)
  split
  · exact hpending
  · refine Prog.after_bind_still (run_messageImage _ _) (fun imageUrl _ => ?_) fun _ _ => hpending
    have hchecked : ((Prog.ofExcept (assertPublicImageUrlCanBeSent cfg imageUrl) : Ntf Unit).run
        (answering ch) s₁).2 = s₁ := congrArg Prod.snd (Prog.run_ofExcept _ _ _)
    refine Prog.after_bind_still hchecked (fun _ _ => ?_) fun _ _ => hpending
    have hstill : ∀ message, ((notifyCall (.sendWhatsAppMessage message)).run
        (answering ch) s₁).2 = s₁ := fun _ => congrArg Prod.snd (Prog.run_call _ _ _)
    refine Prog.after_bind_still (hstill _) (fun result _ => ?_) fun _ _ => hpending
    have hl₂ : (s₁.tick (ch .now s₁).elapsed).logs.find? log.id =
        some (withKey log.id (LogPatch.apply _ l)) := hrow
    refine after_now (after_logUpdate hl₂ fun row₂ s₂ honly₂ hrow₂ => ?_)
    exact .trans hpending.1 (afterSend_of_row ((only_tick _).trans honly₂) hrow₂ rfl (by simp))

/-- A delivery that sends a log and returns has called the provider. -/
theorem sent_of_sendLog {m : Machine NotifyResp NotifyExn NotificationStore}
    {s' : NotificationStore} (h : (sendLog cfg input log).run m s = (.ok (), s')) :
    ∃ message, message.notificationLogId = log.id ∧
      .sendWhatsAppMessage message ∈ (sendLog cfg input log).calls m s := by
  obtain ⟨startedAt, s₁, hnow, h⟩ := Prog.run_bind_eq_ok _ h
  obtain ⟨row, s₂, hupdate, hrest⟩ := Prog.run_bind_eq_ok _ h
  rw [sendLog, Prog.bind_eq, Prog.calls_bind_ok hnow, Prog.bind_eq, Prog.calls_bind_ok hupdate]
  cases hregistration : log.registrationId with
  | none =>
      rw [hregistration] at hrest
      cases hrest
  | some registrationId =>
      rw [hregistration] at hrest
      obtain ⟨imageUrl, s₃, himage, hrest⟩ := Prog.run_bind_eq_ok _ hrest
      obtain ⟨_, s₄, hassert, hrest⟩ := Prog.run_bind_eq_ok _ hrest
      obtain ⟨result, s₅, hsend, hrest⟩ := Prog.run_bind_eq_ok _ hrest
      refine ⟨{
        recipient := log.recipient
        message := log.content
        imageUrl
        registrationId
        notificationLogId := log.id }, rfl, List.mem_append_right _ (List.mem_append_right _ ?_)⟩
      dsimp only
      rw [Prog.bind_eq, Prog.calls_bind_ok himage, Prog.bind_eq, Prog.calls_bind_ok hassert,
        Prog.bind_eq, Prog.calls_bind_ok hsend]
      refine List.mem_append_right _ (List.mem_append_right _ (List.mem_append_left _ ?_))
      exact List.mem_cons_self

/-- A log after a delivery: it is expired, or its delivery was tried. -/
structure AfterDelivery (cfg : Config) (input : Delivery) (ch : Answers) (s : NotificationStore)
    (l : NotificationLog) (x : Except NotifyExn Unit) (s' : NotificationStore) : Prop where
  only : Only input.notificationLogId s s'
  row : LogIs input.notificationLogId l.createdAt (fun _ => True) s'
  expired : l.status.sent = false → Expires cfg input ch s l →
    x = .ok () ∧ LogIs input.notificationLogId l.createdAt Expired s'
  tried : l.status.sent = false → ¬ Expires cfg input ch s l →
    LogIs input.notificationLogId l.createdAt (fun l => l.status ≠ .CANCELLED) s'

theorem after_deliverLog (hl : s.logs.find? input.notificationLogId = some l) :
    (deliverLog cfg input).After (answering ch) s (AfterDelivery cfg input ch s l) := by
  refine after_logById ?_
  rw [hl]
  have hid : l.id = input.notificationLogId := (Table.find?_eq_some_iff.mp hl).2
  dsimp only
  split
  · next hsent =>
      have hstatus : l.status.sent = true := by
        rcases hsent with hsent | hsent <;> rw [hsent] <;> rfl
      refine ⟨.refl _ s, ⟨l, hl, rfl, trivial⟩, ?_, ?_⟩
      · intro hunsent
        rw [hstatus] at hunsent
        cases hunsent
      · intro hunsent
        rw [hstatus] at hunsent
        cases hunsent
  · refine after_now ?_
    have hexpires : (!input.manualRetry && decide (cfg.maxAgeMs <
        max (s.clock + (ch .now s).elapsed - l.createdAt) 0)) = true ↔ Expires cfg input ch s l := by
      rw [Bool.and_eq_true, Bool.not_eq_true', decide_eq_true_iff]
      exact Iff.rfl
    split
    · next hold =>
        have hold' := hexpires.mp hold
        have hl' : ((s.tick (ch .now s).elapsed).tick
            (ch .now (s.tick (ch .now s).elapsed)).elapsed).logs.find? l.id = some l := by
          rw [hid]
          exact hl
        refine after_now (after_logUpdate hl' fun row s₁ honly hrow => ?_)
        rw [hid] at honly hrow
        have hexpired : LogIs input.notificationLogId l.createdAt Expired s₁ :=
          ⟨_, hrow, rfl, rfl, rfl⟩
        refine ⟨((only_tick _).trans (only_tick _)).trans honly, hexpired.mono fun _ _ => trivial, ?_, ?_⟩
        · intro _ _
          exact ⟨rfl, hexpired⟩
        · intro _ hyoung
          exact absurd hold' hyoung
    · next hyoung =>
        have hl' : (s.tick (ch .now s).elapsed).logs.find? input.notificationLogId = some l := hl
        refine (after_sendLog hl' hid).mono fun x s₁ hsent => ?_
        refine ⟨(only_tick _).trans hsent.1, hsent.2.mono fun _ _ => trivial, ?_, fun _ _ => hsent.2⟩
        intro _ hold
        exact absurd (hexpires.mpr hold) hyoung

/-- A failure is recorded as PENDING or FAILED. -/
theorem after_recordFailure (hl : s.logs.find? input.notificationLogId = some l)
    (error : NotifyExn) :
    (recordFailure cfg input error).After (answering ch) s fun _ s' =>
      Only input.notificationLogId s s' ∧ LogIs input.notificationLogId l.createdAt
        (fun l => l.status = .PENDING ∨ l.status = .FAILED) s' := by
  refine after_now ?_
  refine Prog.after_bind_of_ok (show (getCurrentMetadata input.notificationLogId).run (answering ch)
    (s.tick (ch .now s).elapsed) = _ from rfl) ?_
  have hl' : ((s.tick (ch .now s).elapsed).tick
      (ch .now (s.tick (ch .now s).elapsed)).elapsed).logs.find? input.notificationLogId = some l := hl
  refine after_now (after_logUpdate hl' fun row s₁ honly hrow => ?_)
  have hrecorded : Only input.notificationLogId s s₁ ∧ LogIs input.notificationLogId l.createdAt
      (fun l => l.status = .PENDING ∨ l.status = .FAILED) s₁ := by
    refine ⟨((only_tick _).trans (only_tick _)).trans honly, _, hrow, rfl, ?_⟩
    have hstatus : ∀ failed : Bool, (if failed = true then NotificationStatus.FAILED else .PENDING) =
        .PENDING ∨ (if failed = true then NotificationStatus.FAILED else .PENDING) = .FAILED := by
      decide
    exact hstatus _
  split
  · exact hrecorded
  · split
    · exact hrecorded
    · exact hrecorded

/-- A log after a delivery of the queue. -/
structure AfterQueued (cfg : Config) (input : Delivery) (ch : Answers) (s : NotificationStore)
    (l : NotificationLog) (x : Except NotifyExn Unit) (s' : NotificationStore) : Prop
    extends AfterDelivery cfg input ch s l x s' where
  failed : ∀ e, x = .error e →
    LogIs input.notificationLogId l.createdAt (fun l => l.status.sent = false) s'

theorem after_deliverQueuedWhatsApp (hl : s.logs.find? input.notificationLogId = some l) :
    (deliverQueuedWhatsApp cfg input).After (answering ch) s (AfterQueued cfg input ch s l) := by
  refine Prog.after_tryCatch (after_deliverLog hl) ?_ ?_
  · intro _ s' h
    exact ⟨h, fun e he => by cases he⟩
  · intro error s₁ h
    obtain ⟨l₁, hl₁, hcreated, -⟩ := h.row
    refine (after_recordFailure hl₁ error).mono ?_
    rintro x s' ⟨honly, hrow⟩
    rw [hcreated] at hrow
    refine ⟨⟨h.only.trans honly, hrow.mono fun _ _ => trivial, ?_, ?_⟩, fun _ _ => hrow.mono ?_⟩
    · intro hunsent hold
      cases (h.expired hunsent hold).1
    · intro _ _
      refine hrow.mono ?_
      rintro _ (hstatus | hstatus) <;> rw [hstatus] <;> simp
    · rintro _ (hstatus | hstatus) <;> rw [hstatus] <;> rfl

/-- A delivery that tries a log and returns has called the provider. -/
theorem sent_of_deliverLog {s' : NotificationStore}
    (hl : s.logs.find? input.notificationLogId = some l) (hunsent : l.status.sent = false)
    (hyoung : ¬ Expires cfg input ch s l)
    (h : (deliverLog cfg input).run (answering ch) s = (.ok (), s')) :
    ∃ message, message.notificationLogId = input.notificationLogId ∧
      .sendWhatsAppMessage message ∈ (deliverLog cfg input).calls (answering ch) s := by
  obtain ⟨found, s₁, hfound, hrest⟩ := Prog.run_bind_eq_ok _ h
  have hread : (notifyCall (.logById input.notificationLogId)).run (answering ch) s =
      (.ok (some l), s) := by
    rw [← hl]
    exact Prog.run_call _ _ _
  rw [deliverLog, Prog.bind_eq, Prog.calls_bind_ok hread]
  obtain ⟨rfl, rfl⟩ : some l = found ∧ s = s₁ := by
    obtain ⟨hx, hs⟩ := Prod.mk.inj (hread.symm.trans hfound)
    exact ⟨Except.ok.inj hx, hs⟩
  have hid : l.id = input.notificationLogId := (Table.find?_eq_some_iff.mp hl).2
  have hstatus : ¬ (l.status = .SENT ∨ l.status = .DELIVERED) := by
    rintro (hstatus | hstatus) <;> rw [hstatus] at hunsent <;> cases hunsent
  dsimp only at hrest ⊢
  rw [if_neg hstatus] at hrest ⊢
  obtain ⟨now, s₂, hnow, hrest⟩ := Prog.run_bind_eq_ok _ hrest
  rw [Prog.bind_eq, Prog.calls_bind_ok hnow]
  obtain ⟨rfl, rfl⟩ : s.clock + (ch .now s).elapsed = now ∧ s.tick (ch .now s).elapsed = s₂ := by
    have hclock : (notifyCall .now).run (answering ch) s =
        (.ok (s.clock + (ch .now s).elapsed), s.tick (ch .now s).elapsed) := Prog.run_call _ _ _
    obtain ⟨hx, hs⟩ := Prod.mk.inj (hclock.symm.trans hnow)
    exact ⟨Except.ok.inj hx, hs⟩
  have hexpires : ¬ (!input.manualRetry && decide (cfg.maxAgeMs <
      max (s.clock + (ch .now s).elapsed - l.createdAt) 0)) = true := by
    rw [Bool.and_eq_true, Bool.not_eq_true', decide_eq_true_iff]
    exact hyoung
  rw [if_neg hexpires] at hrest ⊢
  obtain ⟨message, hmessage, hcall⟩ := sent_of_sendLog hrest
  exact ⟨message, hmessage.trans hid, List.mem_append_right _ (List.mem_append_right _ hcall)⟩

end Delivery

/-! ## One round -/

section Round

variable {cfg : Config} {ch : Answers} {s : NotificationStore} {job : WhatsAppJob}

/-- The worker takes the job. -/
def Takes (ch : Answers) (s : NotificationStore) (job : WhatsAppJob) : Prop :=
  (s.takeJob (ch .takeJob s).next).1 = .ok (some job)

/-- The store once the worker has taken its job. -/
def takenStore (ch : Answers) (s : NotificationStore) : NotificationStore :=
  (s.takeJob (ch .takeJob s).next).2

/-- The worker takes a waiting job, which is active then. -/
theorem Takes.waiting (h : Takes ch s job) :
    job ∈ s.jobs ∧ job.state = .waiting ∧
      takenStore ch s = s.updateJobs job.id ({ · with state := .active }) := by
  rw [Takes] at h
  rw [takenStore]
  unfold NotificationStore.takeJob at h ⊢
  split at h
  · cases h
  · next hidle =>
      rw [if_neg hidle]
      split at h
      · cases h
      · next found hfound =>
          obtain rfl := Option.some.inj (Except.ok.inj h)
          have hpass := (List.find?_some hfound :)
          rw [Bool.and_eq_true, beq_iff_eq] at hpass
          exact ⟨List.mem_of_find?_eq_some hfound, hpass.1, rfl⟩

/-- A round without a job changes nothing. -/
theorem round_of_not_takes (h : ∀ job, ¬ Takes ch s job) :
    ((work cfg).run (answering ch) s).2 = s := by
  have htake : s.takeJob (ch .takeJob s).next = (.ok none, s) := by
    simp only [Takes] at h
    unfold NotificationStore.takeJob at h ⊢
    split
    · rfl
    · next hidle =>
        rw [if_neg hidle] at h
        split
        · rfl
        · next found hfound =>
            rw [hfound] at h
            exact absurd rfl (h found)
  have hrun : (notifyCall .takeJob).run (answering ch) s = (.ok none, s) :=
    (Prog.run_call _ _ _).trans htake
  rw [work, Prog.bind_eq, Prog.run_bind_ok _ hrun]
  rfl

/-- A round of a job delivers its log and finishes the job. An error leaves the log unsent. -/
theorem round_of_takes (cfg : Config) (h : Takes ch s job) {l : NotificationLog}
    (hl : s.logs.find? job.notificationLogId = some l) :
    ∃ x s₁ outcome,
      (deliverQueuedWhatsApp cfg (deliveryOf job)).run (answering ch) (takenStore ch s) = (x, s₁) ∧
      AfterQueued cfg (deliveryOf job) ch (takenStore ch s) l x s₁ ∧
      (outcome = .returned ↔ x = .ok ()) ∧
      ((work cfg).run (answering ch) s).2 = s₁.updateJobs job.id (·.finish outcome) := by
  have htaken : (notifyCall .takeJob).run (answering ch) s = (.ok (some job), takenStore ch s) :=
    (Prog.run_call _ _ _).trans (Prod.ext h rfl)
  have hstore : (takenStore ch s).logs.find? job.notificationLogId = some l := by
    rw [h.waiting.2.2]
    exact hl
  have hafter : (deliverQueuedWhatsApp cfg (deliveryOf job)).After (answering ch) (takenStore ch s)
      (AfterQueued cfg (deliveryOf job) ch (takenStore ch s) l) :=
    after_deliverQueuedWhatsApp hstore
  cases hrun : (deliverQueuedWhatsApp cfg (deliveryOf job)).run (answering ch)
      (takenStore ch s) with
  | mk x s₁ =>
      rw [Prog.After, hrun] at hafter
      have hfinish : ∀ outcome, (outcomeOf (process cfg job)).run (answering ch) (takenStore ch s) =
          (.ok outcome, s₁) → ((work cfg).run (answering ch) s).2 =
            s₁.updateJobs job.id (·.finish outcome) := by
        intro outcome houtcome
        rw [work, Prog.bind_eq, Prog.run_bind_ok _ htaken]
        dsimp only
        rw [Prog.bind_eq, Prog.run_bind_ok _ houtcome]
        exact congrArg Prod.snd (Prog.run_call _ _ _)
      cases x with
      | ok u =>
          refine ⟨.ok (), s₁, .returned, rfl, hafter, Iff.intro (fun _ => rfl) fun _ => rfl, ?_⟩
          apply hfinish
          rw [outcomeOf, Prog.tryCatch_eq, Prog.run_tryCatch, Prog.bind_eq, process_eq,
            Prog.run_bind_ok _ hrun]
          rfl
      | error e =>
          have houtcome : ∃ outcome : JobOutcome, outcome ≠ .returned ∧
              (outcomeOf (process cfg job)).run (answering ch) (takenStore ch s) =
                (.ok outcome, s₁) := by
            rw [outcomeOf, Prog.tryCatch_eq, Prog.run_tryCatch, Prog.bind_eq, process_eq,
              Prog.run_bind_error _ hrun]
            cases e with
            | unrecoverable m => exact ⟨.unrecoverable, by simp, rfl⟩
            | _ => exact ⟨.thrown, by simp, rfl⟩
          obtain ⟨outcome, hne, houtcome⟩ := houtcome
          refine ⟨.error e, s₁, outcome, rfl, hafter, iff_of_false hne (fun he => by cases he), ?_⟩
          exact hfinish outcome houtcome

end Round

end Notifications.Rounds

end CreativeBackend
