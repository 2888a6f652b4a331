import CreativeBackend.Whatsapp.TicketRequests
import CreativeBackend.Interaction.Reaching
import CreativeBackend.Interaction.History
import CreativeBackend.Scans.Service

/-!
# Webhook deliveries under one id

A delivery is recorded before it is looked at, and its id stays taken whatever becomes of it. A
later webhook of the same id is a duplicate. Where no delivery under the id is refused and no
statement fails after the recording, every duplicate follows a delivery that was processed or is
still being processed. A refused delivery, of another event type for instance, keeps its id too,
and swallows the request that comes after it.
-/

namespace CreativeBackend

open Relational Interaction WhatsappTicketRequestsService

namespace Webhooks

/-- Webhooks handled over one store, while others may change anything but the deliveries. -/
def service (rt : Runtime) (conf : Config) (fails : TicketCall → Prop) :
    Service TicketResp RequestExn TicketStore where
  Choice := TicketChoice
  machine := ticketMachine rt
  faulty := fails
  env s s' := s'.deliveries = s.deliveries
  starts s p s' := s' = s ∧
    ∃ headers payload, p = (handleWasenderWebhook rt conf headers payload).void

/-- The recording of a delivery. -/
def Recording (c : TicketCall) : Prop := ∃ deliveryId payload, c = .deliveryCreate deliveryId payload

/-- The checks of the webhook on the message and on the registration it names, in a store. -/
def wouldPass (rt : Runtime) (s : TicketStore) (payload : Json) : Bool :=
  let message := extractIncomingMessage rt payload
  let senderPhone := normalizePhone message.senderPhone
  message.eventType == "messages.received" && !message.outgoing && !message.group &&
    senderPhone != "" &&
    match extractPublicId message.text, extractTicketRequestToken message.text with
    | some publicId, some token =>
        (s.registrations.rows.find? fun r => r.publicId = publicId).any fun r =>
          r.status == .ACTIVE && tokenMatches token r && unexpired s.clock r &&
            r.ticketRequestPhone.all (boundTo · senderPhone)
    | _, _ => false

abbrev WebhookEvent := Interaction.Event TicketResp RequestExn TicketStore

abbrev WebhookWorld := World TicketResp RequestExn TicketStore

abbrev WebhookConfig := Interaction.Config TicketResp RequestExn WebhookWorld

/-- The delivery that a call recorded. -/
def created? : WebhookEvent → Option WebhookDelivery
  | ⟨_, .deliveryCreate _ _, .ok row, _⟩ => some row
  | _ => none

/-- The delivery was processed, or the webhook that recorded it is still in progress. -/
def Served (c : WebhookConfig) (row : WebhookDelivery) : Prop :=
  row.status = "PROCESSED" ∨ ∃ t p, c.pool[t]? = some p ∧ System.finished p = false ∧
    ∃ e ∈ c.world.own t, ∃ row', created? e = some row' ∧ row'.id = row.id

/-- A webhook that would pass the checks finds its id taken only by a delivery that is served. -/
def NothingSwallowed (rt : Runtime) (deliveryId : String) (c : WebhookConfig) : Prop :=
  ∀ (t : Nat) payload k, c.pool[t]? = some (.ask (.deliveryCreate deliveryId payload) k) →
    wouldPass rt c.world.store payload = true →
      ∀ row ∈ c.world.store.deliveries.rows, row.deliveryId = deliveryId → Served c row

/-- No delivery under the id is marked other than as processed. -/
def Unrefused (deliveryId : String) (_ : Nat) : TicketCall → WebhookWorld → Prop
  | .deliveryMark id status _ _, w => status ≠ "PROCESSED" →
      ∀ d ∈ w.store.deliveries.rows, d.id = id → d.deliveryId ≠ deliveryId
  | _, _ => True

instance (deliveryId : String) (t : Nat) (c : TicketCall) (w : WebhookWorld) :
    Decidable (Unrefused deliveryId t c w) := by
  cases c <;> (unfold Unrefused; infer_instance)

theorem Unrefused.mark {deliveryId : String} {t : Nat} {c : TicketCall} {w : WebhookWorld}
    (h : Unrefused deliveryId t c w) {id : Id} {status : String} {reason : Option String}
    {now : Time} (hc : c = .deliveryMark id status reason now) (hs : status ≠ "PROCESSED") :
    ∀ d ∈ w.store.deliveries.rows, d.id = id → d.deliveryId ≠ deliveryId := by
  subst hc
  exact h hs

variable {rt : Runtime} {conf : Config} {fails : TicketCall → Prop}

/-! ## What a call does to the deliveries -/

/-- Where a delivery after a call comes from. -/
inductive DeliveryOrigin (t : Nat) (c : TicketCall) (s : TicketStore)
    (x : Except RequestExn (TicketResp c)) (d : WebhookDelivery) : Prop
  | kept (hd : d ∈ s.deliveries.rows)
  | created (hd : created? ⟨t, c, x, s⟩ = some d)
  | marked (d₀ : WebhookDelivery) (hd₀ : d₀ ∈ s.deliveries.rows) (status : String)
      (reason : Option String) (now : Time) (hc : c = .deliveryMark d₀.id status reason now)
      (heq : d = { d₀ with status, reason, processedAt := some now })

/-- The other calls leave the deliveries alone. -/
theorem deliveries_of_other {ch : TicketChoice} {c : TicketCall} {s : TicketStore}
    (hc : ∀ deliveryId payload, c ≠ .deliveryCreate deliveryId payload)
    (hm : ∀ id status reason now, c ≠ .deliveryMark id status reason now) :
    (ticketMachine rt ch c s).2.deliveries = s.deliveries := by
  cases c with
  | deliveryCreate deliveryId payload => exact absurd rfl (hc _ _)
  | deliveryMark id status reason now => exact absurd rfl (hm _ _ _ _)
  | registrationRenew id token expiresAt now =>
      simp only [ticketMachine, TicketStore.renewToken]
      split <;> rfl
  | _ => rfl

theorem deliveryOrigin_of_machine {ch : TicketChoice} {c : TicketCall} {s : TicketStore} (t : Nat)
    {d : WebhookDelivery} (hd : d ∈ (ticketMachine rt ch c s).2.deliveries.rows) :
    DeliveryOrigin t c s (ticketMachine rt ch c s).1 d := by
  by_cases hc : ∃ deliveryId payload, c = .deliveryCreate deliveryId payload
  · obtain ⟨deliveryId, payload, rfl⟩ := hc
    simp only [ticketMachine, TicketStore.createDelivery] at hd ⊢
    split at hd
    · exact .kept hd
    · next row table hcreate =>
        rcases (Table.mem_create hcreate).mp hd with hold | rfl
        · exact .kept hold
        · refine .created ?_
          simp [created?]
  · by_cases hm : ∃ id status reason now, c = .deliveryMark id status reason now
    · obtain ⟨id, status, reason, now, rfl⟩ := hm
      simp only [ticketMachine, TicketStore.markDelivery] at hd
      split at hd
      · next hu =>
          rcases (Table.mem_update hu).mp hd with ⟨hold, -⟩ | rfl
          · exact .kept hold
          · obtain ⟨d₀, hd₀, hkey, rfl, -, -⟩ := Table.update_eq_done hu
            have hid : d₀.id = id := hkey
            refine .marked d₀ hd₀ status reason now (by rw [hid]) ?_
            simp [withKey, ← hid]
      · exact .kept hd
    · rw [deliveries_of_other (fun _ _ h => hc ⟨_, _, h⟩) (fun _ _ _ _ h => hm ⟨_, _, _, _, h⟩)]
        at hd
      exact .kept hd

theorem deliveryOrigin_of_outcome {c : TicketCall} {s s' : TicketStore}
    {x : Except RequestExn (TicketResp c)} (h : (service rt conf fails).Outcome c s x s') (t : Nat)
    {d : WebhookDelivery} (hd : d ∈ s'.deliveries.rows) : DeliveryOrigin t c s x d := by
  rcases h with ⟨ch, hm⟩ | ⟨-, rfl, -⟩
  · have hx : (ticketMachine rt ch c s).1 = x := congrArg Prod.fst hm
    have hs' : (ticketMachine rt ch c s).2 = s' := congrArg Prod.snd hm
    subst hx hs'
    exact deliveryOrigin_of_machine t hd
  · exact .kept hd

/-- A delivery stays, under its id, and only a mark changes it. -/
theorem exists_delivery_after {c : TicketCall} {s s' : TicketStore}
    {x : Except RequestExn (TicketResp c)} (h : (service rt conf fails).Outcome c s x s')
    {d : WebhookDelivery} (hd : d ∈ s.deliveries.rows) :
    ∃ d' ∈ s'.deliveries.rows, d'.id = d.id ∧ d'.deliveryId = d.deliveryId ∧
      (d' = d ∨ ∃ status reason now, c = .deliveryMark d.id status reason now ∧
        d'.status = status) := by
  rcases h with ⟨ch, hm⟩ | ⟨-, rfl, -⟩
  · have hs' : (ticketMachine rt ch c s).2 = s' := congrArg Prod.snd hm
    subst hs'
    by_cases hc : ∃ deliveryId payload, c = .deliveryCreate deliveryId payload
    · obtain ⟨deliveryId, payload, rfl⟩ := hc
      refine ⟨d, ?_, rfl, rfl, .inl rfl⟩
      simp only [ticketMachine, TicketStore.createDelivery]
      split
      · exact hd
      · next hcreate => exact (Table.mem_create hcreate).mpr (.inl hd)
    · by_cases hmark : ∃ id status reason now, c = .deliveryMark id status reason now
      · obtain ⟨id, status, reason, now, rfl⟩ := hmark
        simp only [ticketMachine, TicketStore.markDelivery]
        split
        · next hu =>
            obtain ⟨d₀, hd₀, hkey, rfl, -, -⟩ := Table.update_eq_done hu
            have hid : d₀.id = id := hkey
            by_cases hsame : d.id = id
            · have hdd : d₀ = d := s.deliveries.eq_of_key hd₀ hd (hkey.trans hsame.symm)
              subst hdd
              refine ⟨_, (Table.mem_update hu).mpr (.inr rfl), hid.symm, rfl, .inr ?_⟩
              exact ⟨status, reason, now, by rw [hid], rfl⟩
            · exact ⟨d, (Table.mem_update hu).mpr (.inl ⟨hd, hsame⟩), rfl, rfl, .inl rfl⟩
        · exact ⟨d, hd, rfl, rfl, .inl rfl⟩
      · have hsame : (ticketMachine rt ch c s).2.deliveries = s.deliveries :=
          deliveries_of_other (fun _ _ h => hc ⟨_, _, h⟩) (fun _ _ _ _ h => hmark ⟨_, _, _, _, h⟩)
        exact ⟨d, hsame ▸ hd, rfl, rfl, .inl rfl⟩
  · exact ⟨d, hd, rfl, rfl, .inl rfl⟩

/-- A mark of a delivery that is there succeeds. -/
theorem exists_mark {s : TicketStore} {d : WebhookDelivery} (hd : d ∈ s.deliveries.rows)
    (status : String) (reason : Option String) (now : Time) :
    ∃ row, (s.markDelivery d.id status reason now).1 = .ok row := by
  obtain ⟨table, hupdate⟩ := Table.exists_update hd
    (f := fun d => { d with status, reason, processedAt := some now }) fun _ _ => ⟨rfl, rfl⟩
  have hu : s.deliveries.update d.id
      (fun d => { d with status, reason, processedAt := some now }) = .done _ table := hupdate
  unfold TicketStore.markDelivery
  rw [hu]
  exact ⟨_, rfl⟩

/-! ## Every path of a recorded webhook ends in a mark -/

/-- The calls that may be answered by an exception. -/
def MayFail : TicketCall → Prop
  | .now | .random | .registrationById _ | .registrationByPublicId _ | .registrationClaim _ _
  | .registrationConsume _ _ _ => False
  | _ => True

/-- A mark of the delivery. -/
def Marks (id : Id) (c : TicketCall) : Prop :=
  ∃ status reason now, c = .deliveryMark id status reason now

variable {id : Id} (hid : id ≠ "")

section Reaches

include hid

theorem reaches_markDelivery (status : String) (reason : Option String) :
    (markDelivery id status reason).Reaches MayFail (Marks id) := by
  unfold markDelivery
  rw [if_neg hid]
  refine Prog.reaches_call_bind (by simp [MayFail]) fun now => ?_
  exact Prog.reaches_call ⟨status, reason, now, rfl⟩ _

theorem reaches_refuse (status reason : String) :
    (refuse id status reason).Reaches MayFail (Marks id) :=
  (reaches_markDelivery hid status (some reason)).bind _

omit hid in
/-- A claim returns. -/
theorem returning_claimTicketRequestSender (input : ClaimTicketRequestSenderInput) :
    (claimTicketRequestSender input).Returning MayFail := by
  have hcall : ∀ c : TicketCall, ¬ MayFail c → (ticketCall c).Returning MayFail :=
    fun c hc => Prog.returning_call hc
  unfold claimTicketRequestSender
  refine (hcall _ (by simp [MayFail])).bind fun now => ?_
  refine (hcall _ (by simp [MayFail])).bind fun found => ?_
  split
  · trivial
  · refine Prog.returning_ite (Prog.returning_ret _) (Prog.returning_ite (Prog.returning_ret _) ?_)
    split
    · trivial
    · refine (hcall _ (by simp [MayFail])).bind fun count => ?_
      refine Prog.returning_ite (Prog.returning_ret _) ?_
      refine (hcall _ (by simp [MayFail])).bind fun again => ?_
      split
      · trivial
      · split
        · trivial
        · refine Prog.returning_ite (Prog.returning_ret _) ?_
          refine (hcall _ (by simp [MayFail])).bind fun later => ?_
          refine Prog.returning_ite (Prog.returning_ret _) ?_
          exact Prog.returning_ite (Prog.returning_ret _) (Prog.returning_ret _)

theorem reaches_sendTicket (message : IncomingMessage) (registration : TicketRegistration)
    (token senderPhone : String) :
    (sendTicket conf id message registration token senderPhone).Reaches MayFail (Marks id) := by
  unfold sendTicket
  refine (returning_claimTicketRequestSender _).reaches_bind fun claimed => ?_
  split
  · exact reaches_refuse hid _ _
  · -- The image is resolved or the reason is kept; both are followed by a mark.
    refine .inr fun image _ => ?_
    cases image with
    | error e => exact reaches_refuse hid _ _
    | ok image =>
        dsimp only [Prog.ofExcept, Prog.bind, Prog.tryCatch, pure]
        split
        · exact reaches_refuse hid _ _
        · refine .inr fun notification _ => ?_
          cases notification with
          | error e => exact ((reaches_markDelivery hid _ _).bind _).bind _
          | ok notification =>
              refine Prog.reaches_call_bind (by simp [MayFail]) fun now => ?_
              refine Prog.reaches_call_bind (by simp [MayFail]) fun count => ?_
              exact (reaches_markDelivery hid _ _).bind _

theorem reaches_serveRequest (message : IncomingMessage) (publicId token : String) :
    (serveRequest conf id message publicId token).Reaches MayFail (Marks id) := by
  unfold serveRequest
  refine Prog.reaches_call_bind (by simp [MayFail]) fun found => ?_
  split
  · exact reaches_refuse hid _ _
  · split
    · exact reaches_refuse hid _ _
    · split
      · exact reaches_refuse hid _ _
      · split
        · exact reaches_refuse hid _ _
        · refine Prog.reaches_call_bind (by simp [MayFail]) fun now => ?_
          split
          · exact reaches_refuse hid _ _
          · dsimp only
            split
            · exact reaches_refuse hid _ _
            · exact reaches_sendTicket hid _ _ _ _

theorem reaches_serveDelivery (message : IncomingMessage) :
    (serveDelivery conf id message).Reaches MayFail (Marks id) := by
  unfold serveDelivery
  split
  · exact reaches_refuse hid _ _
  · split
    · exact reaches_refuse hid _ _
    · split
      · exact reaches_refuse hid _ _
      · split
        · exact reaches_refuse hid _ _
        · split
          · exact reaches_refuse hid _ _
          · exact reaches_serveRequest hid _ _ _

end Reaches

/-! ## A recorded webhook records nothing else -/

/-- A call that records no delivery. -/
def NoRecording (c : TicketCall) : Prop := ∀ deliveryId payload, c ≠ .deliveryCreate deliveryId payload

theorem all_ticketCall {c : TicketCall} (hc : NoRecording c) : (ticketCall c).All NoRecording :=
  Prog.all_call hc

theorem all_markDelivery (id : Id) (status : String) (reason : Option String) :
    (markDelivery id status reason).All NoRecording := by
  unfold markDelivery
  refine Prog.all_ite (Prog.all_ret _) ?_
  refine Prog.all_bind (all_ticketCall (by simp [NoRecording])) fun now => ?_
  exact Prog.all_bind (all_ticketCall (by simp [NoRecording])) fun _ => Prog.all_ret _

theorem all_refuse (id : Id) (status reason : String) : (refuse id status reason).All NoRecording :=
  Prog.all_bind (all_markDelivery id status _) fun _ => Prog.all_ret _

theorem all_claimTicketRequestSender (input : ClaimTicketRequestSenderInput) :
    (claimTicketRequestSender input).All NoRecording := by
  unfold claimTicketRequestSender
  refine Prog.all_bind (all_ticketCall (by simp [NoRecording])) fun now => ?_
  refine Prog.all_bind (all_ticketCall (by simp [NoRecording])) fun found => ?_
  split
  · trivial
  · refine Prog.all_ite (Prog.all_ret _) (Prog.all_ite (Prog.all_ret _) ?_)
    split
    · trivial
    · refine Prog.all_bind (all_ticketCall (by simp [NoRecording])) fun count => ?_
      refine Prog.all_ite (Prog.all_ret _) ?_
      refine Prog.all_bind (all_ticketCall (by simp [NoRecording])) fun again => ?_
      split
      · trivial
      · split
        · trivial
        · refine Prog.all_ite (Prog.all_ret _) ?_
          refine Prog.all_bind (all_ticketCall (by simp [NoRecording])) fun later => ?_
          refine Prog.all_ite (Prog.all_ret _) ?_
          exact Prog.all_ite (Prog.all_ret _) (Prog.all_ret _)

theorem all_sendTicket (id : Id) (message : IncomingMessage) (registration : TicketRegistration)
    (token senderPhone : String) :
    (sendTicket conf id message registration token senderPhone).All NoRecording := by
  unfold sendTicket
  refine Prog.all_bind (all_claimTicketRequestSender _) fun claimed => ?_
  refine Prog.all_ite (all_refuse _ _ _) ?_
  refine Prog.all_bind (Prog.all_tryCatch ?_ fun _ => Prog.all_ret _) fun image => ?_
  · exact Prog.all_bind (all_ticketCall (by simp [NoRecording])) fun _ => Prog.all_ret _
  · split
    · exact all_refuse _ _ _
    · split
      · exact all_refuse _ _ _
      · refine Prog.all_bind (Prog.all_tryCatch ?_ fun e => ?_) fun notification => ?_
        · exact all_ticketCall (by simp [NoRecording])
        · exact Prog.all_bind (all_markDelivery _ _ _) fun _ => Prog.all_throw _
        · refine Prog.all_bind (all_ticketCall (by simp [NoRecording])) fun now => ?_
          refine Prog.all_bind (all_ticketCall (by simp [NoRecording])) fun count => ?_
          exact Prog.all_bind (all_markDelivery _ _ _) fun _ => Prog.all_ret _

theorem all_serveRequest (id : Id) (message : IncomingMessage) (publicId token : String) :
    (serveRequest conf id message publicId token).All NoRecording := by
  unfold serveRequest
  refine Prog.all_bind (all_ticketCall (by simp [NoRecording])) fun found => ?_
  split
  · exact all_refuse _ _ _
  · refine Prog.all_ite (all_refuse _ _ _) (Prog.all_ite (all_refuse _ _ _) ?_)
    refine Prog.all_ite (all_refuse _ _ _) ?_
    refine Prog.all_bind (all_ticketCall (by simp [NoRecording])) fun now => ?_
    refine Prog.all_ite (all_refuse _ _ _) ?_
    exact Prog.all_ite (all_refuse _ _ _) (all_sendTicket _ _ _ _ _)

theorem all_serveDelivery (id : Id) (message : IncomingMessage) :
    (serveDelivery conf id message).All NoRecording := by
  unfold serveDelivery
  refine Prog.all_ite (all_refuse _ _ _) (Prog.all_ite (all_refuse _ _ _) ?_)
  refine Prog.all_ite (all_refuse _ _ _) ?_
  split
  · exact all_refuse _ _ _
  · split
    · exact all_refuse _ _ _
    · exact all_serveRequest _ _ _ _

/-! ## The deliveries under one id -/

/-- A delivery under the id is processed, unless a webhook of the run has recorded it. -/
def Recorded (deliveryId : String) (w : WebhookWorld) : Prop :=
  ∀ d ∈ w.store.deliveries.rows, d.deliveryId = deliveryId → d.status = "PROCESSED" ∨
    ∃ e ∈ w.trace, ∃ row, created? e = some row ∧ row.id = d.id

/-- Deliveries stay, and what is processed under the id stays processed. -/
def Keeps (deliveryId : String) (s s' : TicketStore) : Prop :=
  ∀ d ∈ s.deliveries.rows, ∃ d' ∈ s'.deliveries.rows, d'.id = d.id ∧ d'.deliveryId = d.deliveryId ∧
    (d.deliveryId = deliveryId → d.status = "PROCESSED" → d'.status = "PROCESSED")

theorem Keeps.of_eq {deliveryId : String} {s s' : TicketStore} (h : s'.deliveries = s.deliveries) :
    Keeps deliveryId s s' :=
  fun d hd => ⟨d, h ▸ hd, rfl, rfl, fun _ hp => hp⟩

theorem keeps_of_outcome {deliveryId : String} {t : Nat} {c : TicketCall} {w : WebhookWorld}
    {x : Except RequestExn (TicketResp c)} {s' : TicketStore} (hp : Unrefused deliveryId t c w)
    (ho : (service rt conf fails).Outcome c w.store x s') : Keeps deliveryId w.store s' := by
  intro d hd
  obtain ⟨d', hd', hid, hkey, hchange⟩ := exists_delivery_after ho hd
  refine ⟨d', hd', hid, hkey, fun hunder hdone => ?_⟩
  rcases hchange with rfl | ⟨status, reason, now, hc, hstatus⟩
  · exact hdone
  · by_cases hs : status = "PROCESSED"
    · exact hstatus.trans hs
    · exact absurd hunder (Unrefused.mark hp hc hs d hd rfl)

theorem recorded_of_outcome {deliveryId : String} {t : Nat} {c : TicketCall} {w : WebhookWorld}
    {x : Except RequestExn (TicketResp c)} {s' : TicketStore} (hi : Recorded deliveryId w)
    (hp : Unrefused deliveryId t c w) (ho : (service rt conf fails).Outcome c w.store x s') :
    Recorded deliveryId (w.log t c x s') := by
  intro d hd hunder
  cases deliveryOrigin_of_outcome ho t hd with
  | kept hold =>
      refine (hi d hold hunder).imp_right ?_
      rintro ⟨e, he, hrest⟩
      exact ⟨e, List.mem_cons_of_mem _ he, hrest⟩
  | created hnew => exact .inr ⟨_, List.mem_cons_self, d, hnew, rfl⟩
  | marked d₀ hd₀ status reason now hc heq =>
      subst heq
      left
      by_contra hs
      exact Unrefused.mark hp hc hs d₀ hd₀ rfl hunder

/-- The deliveries as a discipline of the runs in which none under the id is refused. -/
def discipline (rt : Runtime) (conf : Config) (fails : TicketCall → Prop) (deliveryId : String) :
    Discipline (service rt conf fails) (Unrefused deliveryId) where
  inv := Recorded deliveryId
  rely := Keeps deliveryId
  rely_refl _ := Keeps.of_eq rfl
  rely_trans := by
    intro s t u hst htu d hd
    obtain ⟨d', hd', hid, hkey, hdone⟩ := hst d hd
    obtain ⟨d'', hd'', hid', hkey', hdone'⟩ := htu d' hd'
    exact ⟨d'', hd'', hid'.trans hid, hkey'.trans hkey,
      fun hunder hp => hdone' (hkey.trans hunder) (hdone hunder hp)⟩
  call_rely _ hp ho := keeps_of_outcome hp ho
  env_inv := by
    intro w s' hi he d hd
    have hsame : s'.deliveries = w.store.deliveries := he
    exact hi d (hsame ▸ hd)
  env_rely _ he := Keeps.of_eq he
  start_inv := by
    rintro w p s' hi ⟨rfl, -⟩
    exact hi
  start_rely := by
    rintro w p s' - ⟨rfl, -⟩
    exact Keeps.of_eq rfl

/-- The delivery is there, and processed where it is under the id. -/
def Done (deliveryId : String) (row : WebhookDelivery) (w : WebhookWorld) : Prop :=
  ∃ d ∈ w.store.deliveries.rows, d.id = row.id ∧
    (d.deliveryId = deliveryId → d.status = "PROCESSED")

/-- The delivery is there. -/
def There (row : WebhookDelivery) (w : WebhookWorld) : Prop :=
  ∃ d ∈ w.store.deliveries.rows, d.id = row.id

variable {deliveryId : String} {row : WebhookDelivery} {w w' : WebhookWorld}

theorem There.leads (h : There row w) (hl : (discipline rt conf fails deliveryId).Leads w w') :
    There row w' := by
  obtain ⟨d, hd, hid⟩ := h
  obtain ⟨d', hd', hid', -⟩ := hl.1 d hd
  exact ⟨d', hd', hid'.trans hid⟩

theorem Done.leads (h : Done deliveryId row w)
    (hl : (discipline rt conf fails deliveryId).Leads w w') : Done deliveryId row w' := by
  obtain ⟨d, hd, hid, hdone⟩ := h
  obtain ⟨d', hd', hid', hkey, hkept⟩ := hl.1 d hd
  exact ⟨d', hd', hid'.trans hid, fun hunder =>
    hkept (hkey.symm.trans hunder) (hdone (hkey.symm.trans hunder))⟩

/-- A mark that the run allows settles the delivery. -/
theorem done_of_mark {t : Nat} {c : TicketCall} {x : Except RequestExn (TicketResp c)}
    {s' : TicketStore} (hthere : There row w) (hmark : Marks row.id c)
    (hp : Unrefused deliveryId t c w) (ho : (service rt conf Recording).Outcome c w.store x s') :
    Done deliveryId row (w.log t c x s') := by
  obtain ⟨status, reason, now, rfl⟩ := hmark
  obtain ⟨d, hd, hid⟩ := hthere
  rcases ho with ⟨ch, hm⟩ | ⟨⟨_, _, hfalse⟩, -⟩
  · change w.store.markDelivery row.id status reason now = (x, s') at hm
    obtain ⟨row', hok⟩ := exists_mark hd status reason now
    rw [hid] at hok
    simp only [TicketStore.markDelivery] at hm hok
    split at hm
    · next hu =>
        cases hm
        obtain ⟨d₀, hd₀, hkey, rfl, -, -⟩ := Table.update_eq_done hu
        refine ⟨_, (Table.mem_update hu).mpr (.inr rfl), rfl, fun hunder => ?_⟩
        by_contra hs
        exact hp hs d₀ hd₀ hkey hunder
    · next hno =>
        exfalso
        split at hok
        · exact hno _ _ ‹_›
        · cases hok
  · cases hfalse

/-! ## The webhooks of a run -/

theorem answered_of_not_mayFail {c : TicketCall} {s s' : TicketStore}
    {x : Except RequestExn (TicketResp c)} (hc : ¬ MayFail c)
    (ho : (service rt conf Recording).Outcome c s x s') : ∃ a, x = .ok a := by
  rcases ho with ⟨ch, hm⟩ | ⟨⟨deliveryId, payload, rfl⟩, -⟩
  · have hx : (ticketMachine rt ch c s).1 = x := congrArg Prod.fst hm
    subst hx
    cases c <;> first
      | exact ⟨_, rfl⟩
      | exact absurd trivial hc
  · exact absurd trivial hc

/-- The thread has settled every delivery that it recorded. -/
def Settled (deliveryId : String) (t : Nat) (w : WebhookWorld) : Prop :=
  ∀ e ∈ w.own t, ∀ row, created? e = some row → Done deliveryId row w

theorem Settled.of_none {t : Nat} (h : ∀ e ∈ w.own t, created? e = none) :
    Settled deliveryId t w := by
  intro e he row hrow
  rw [h e he] at hrow
  cases hrow

/-- A recorded delivery is there under a key. -/
theorem there_of_created {t : Nat} {payload : Json} {s' : TicketStore}
    (ho : (service rt conf Recording).Outcome (.deliveryCreate deliveryId payload) w.store
      (.ok row) s') :
    There row (w.log t (.deliveryCreate deliveryId payload) (.ok row) s') ∧ row.id ≠ "" := by
  rcases ho with ⟨ch, hm⟩ | ⟨-, -, e, he⟩
  · change w.store.createDelivery deliveryId payload = (.ok row, s') at hm
    simp only [TicketStore.createDelivery] at hm
    split at hm
    · cases hm
    · next hcreate =>
        cases hm
        refine ⟨⟨row, (Table.mem_create hcreate).mpr (.inr rfl), rfl⟩, ?_⟩
        obtain ⟨rfl, -, -⟩ := Table.create_eq_some hcreate
        intro hempty
        have hlen : ("c" ++ Nat.repr w.store.deliveries.serial).length = "".length :=
          congrArg String.length hempty
        simp at hlen
  · cases he

/-- What follows the recording settles the delivery. -/
theorem holds_serveDelivery {t : Nat} (hthere : There row w)
    (hid : row.id ≠ "") (message : IncomingMessage)
    (f : WasenderWebhookResult → Req Unit) (hf : ∀ a, (f a).All NoRecording) :
    (discipline rt conf Recording deliveryId).logic.Holds t
      (fun _ w' => Done deliveryId row w' ∧ Discipline.OwnCalls t NoRecording w w')
      ((serveDelivery conf row.id message).bind f) w := by
  refine Discipline.holds_own (Prog.all_bind (all_serveDelivery _ _) hf) ?_
    (Discipline.OwnCalls.refl w)
  refine Discipline.holds_reached (F := MayFail) (A := Marks row.id) (K := There row)
    (fun _ _ hl h => h.leads hl) (fun _ _ hl h => h.leads hl) ?_ hthere
    (.inr ((reaches_serveDelivery hid message).bind f))
  intro c w' hK hi' hp x s' ho
  exact ⟨recorded_of_outcome hi' hp ho, fun hA => done_of_mark hK hA hp ho,
    fun hF => answered_of_not_mayFail hF ho⟩

/-- A webhook ends with its delivery settled. -/
theorem holds_handleWasenderWebhook {t : Nat} (hfresh : w.own t = [])
    (headers : List (String × Header)) (payload : Json) :
    (discipline rt conf Recording deliveryId).logic.Holds t (fun _ w' => Settled deliveryId t w')
      (handleWasenderWebhook rt conf headers payload).void w := by
  have hnone : ∀ w', (discipline rt conf Recording deliveryId).Since t w w' →
      Settled deliveryId t w' := by
    intro w' hw'
    refine Settled.of_none ?_
    rw [hw'.own, hfresh]
    simp
  unfold handleWasenderWebhook
  cases validateWebhookSecret conf headers with
  | error e => exact fun w' hw' _ => hnone w' hw'
  | ok a =>
      intro w₁ hw₁ hi₁ x w₂ hstep
      obtain ⟨s₂, tr⟩ := w₂
      obtain ⟨hp, htr, ho⟩ := hstep
      cases htr
      have hi₂ := recorded_of_outcome hi₁ hp ho
      have hown : (w₁.log t _ x s₂).own t = [⟨t, _, x, w₁.store⟩] := by
        rw [World.own_log, hw₁.own, hfresh]
      refine ⟨hi₂, ?_⟩
      cases x with
      | error e =>
          have hstop : ∀ w', (discipline rt conf Recording deliveryId).Since t (w₁.log t
              (.deliveryCreate (extractIncomingMessage rt payload).deliveryId payload)
              (.error e) s₂) w' → Settled deliveryId t w' := by
            intro w' hw'
            refine Settled.of_none ?_
            rw [hw'.own]
            intro e' he'
            rw [hown] at he'
            obtain rfl := List.mem_singleton.mp he'
            rfl
          cases e <;> exact fun w' hw' _ => hstop w' hw'
      | ok row =>
          obtain ⟨hthere, hid⟩ := there_of_created ho
          refine Logic.Holds.mono (holds_serveDelivery hthere hid _ _ fun _ => trivial) ?_
          rintro - w' - ⟨hdone, new, hnew, hrest⟩ e' he' row' hrow'
          rw [hnew, hown] at he'
          rcases List.mem_append.mp he' with hlater | hfirst
          · have hno := hrest e' hlater
            obtain ⟨t', c, x', s⟩ := e'
            cases c with
            | deliveryCreate d p => exact absurd rfl (hno d p)
            | _ => cases hrow'
          · obtain rfl := List.mem_singleton.mp hfirst
            cases hrow'
            exact hdone

end Webhooks

open Webhooks

namespace Webhooks

/-- A webhook of the provider about one message. -/
def samplePayload (event : String) : Json :=
  .obj [("event", .str event), ("data", .obj [("messages", .obj [
    ("key", .obj [("id", .str "M1"), ("cleanedSenderPn", .str "123")]),
    ("messageBody", .str "REG_1 WTR_01234567890123456789")])])]

/-- One active registration with a token. -/
def requested : TicketStore where
  registrations := .ofData [{
    publicId := "REG_1"
    ticketRequestToken := some "WTR_01234567890123456789"
    ticketRequestExpiresAt := some 100 }]

/-- The provider calls with a valid secret. -/
def posts (rt : Runtime) (fails : TicketCall → Prop) (event : String) :
    (service rt sampleConfig fails).Action :=
  .start (handleWasenderWebhook rt sampleConfig [("x-webhook-signature", .one "secret")]
    (samplePayload event)).void (fun _ => true) id

theorem posts_legal (rt : Runtime) (fails : TicketCall → Prop) (event : String) :
    (posts rt fails event).Legal := fun _ _ => ⟨rfl, _, _, rfl⟩

/-- The services find the image and queue the notification. -/
def answering : TicketChoice where
  image := .ok { imageUrl := some "https://tickets.example/1.png", relativePath := none }
  notification := .ok (.queued true "whatsapp-1" "c0")

/-- The second webhook would pass and is about to be recorded, and its id is taken. -/
def duplicateNext (status : String) (c : WebhookConfig) : Bool :=
  match c.pool[(1 : Nat)]? with
  | some (.ask (.deliveryCreate deliveryId payload) _) =>
      deliveryId == "M1" && wouldPass sampleRuntime c.world.store payload &&
        c.world.store.deliveries.rows.any fun d => d.deliveryId == "M1" && d.status == status
  | _ => false

/-- Every webhook that recorded a delivery has ended. -/
def recordersEnded (c : WebhookConfig) : Bool :=
  c.world.trace.all fun e => (created? e).isNone || c.pool[e.thread]?.all System.finished

theorem not_served_of_recordersEnded {c : WebhookConfig} (h : recordersEnded c = true)
    {row : WebhookDelivery} (hs : row.status ≠ "PROCESSED") : ¬ Served c row := by
  rintro (hdone | ⟨t, p, hp, hbusy, e, he, row', hcreated, -⟩)
  · exact hs hdone
  · obtain ⟨hmem, rfl⟩ := World.mem_own.mp he
    have hended := List.all_eq_true.mp h e hmem
    rw [hcreated, hp] at hended
    simp [hbusy] at hended

end Webhooks

end CreativeBackend
