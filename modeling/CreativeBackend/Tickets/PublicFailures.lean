import CreativeBackend.Interaction.Failures
import CreativeBackend.Tickets.PublicService
import CreativeBackend.Tickets.Pending

/-!
# Failures of a public registration

One call of `register` may fail. The request survives if it is the one that adds the job of the
pipeline, the one that removes a replaced picture, or the one that asks for the link of WhatsApp;
the failure of any other call ends it with an exception.
-/

namespace CreativeBackend

open Relational Interaction

/-! ## Failures in the services of the scan store -/

section Fails

open Prog

variable {rt : Runtime} {e : Exn}

namespace QrService

theorem fails_findRegistrationWithRelations (registrationId : Id) :
    (findRegistrationWithRelations registrationId).Fails e := by
  refine (fails_call _).bind fun found => ?_
  cases found <;> trivial

theorem fails_tryTokenIds (attempts : Nat) : (tryTokenIds attempts).Fails e := by
  induction attempts with
  | zero => trivial
  | succ n ih =>
      refine (fails_call _).bind fun hex => (fails_call _).bind fun found => ?_
      cases found with
      | none => trivial
      | some _ => exact ih

theorem fails_findActive (registrationId : Id) (otherwise : Exn) :
    (findActive registrationId otherwise).Fails e := by
  refine (fails_call _).bind fun found => ?_
  cases found <;> trivial

/-- Only a violated unique key has another request to look for. -/
theorem fails_createOrRefreshQrToken (he : e ≠ .prisma .uniqueConstraint) (data : QrTokenData)
    (existing : Option QrToken) : (createOrRefreshQrToken data existing).Fails e := by
  cases existing with
  | some old =>
      refine (fails_call _).bind fun count => fails_ite ?_ (fails_findActive _ _)
      refine (fails_call _).bind fun found => ?_
      cases found <;> trivial
  | none =>
      refine fails_call_tryCatch ⟨e, if_neg he⟩ fun e' => ?_
      exact fails_ite (fails_findActive _ _) trivial

theorem fails_issue (he : e ≠ .prisma .uniqueConstraint) (registration : RegistrationView)
    (existing : Option QrToken) : (issue rt registration existing).Fails e := by
  refine (fails_tryTokenIds 5).bind fun tokenId => ?_
  refine (fails_call _).bind fun now => (fails_call _).bind fun nonce => ?_
  exact (fails_createOrRefreshQrToken he _ existing).bind fun _ => fails_ofExcept _

theorem fails_generate (he : e ≠ .prisma .uniqueConstraint) (registrationId : Id) :
    (generate rt registrationId).Fails e := by
  refine (fails_findRegistrationWithRelations registrationId).bind fun registration => ?_
  refine fails_ite trivial ((fails_call _).bind fun existing => ?_)
  cases existing with
  | none => exact fails_issue he registration none
  | some q => exact fails_ite (fails_ofExcept _) (fails_issue he registration (some q))

end QrService

theorem fails_generateRegistrationQrImage (registrationPublicId qrToken : String) :
    (QrImageService.generateRegistrationQrImage rt registrationPublicId qrToken).Fails e :=
  (fails_call _).bind fun _ => trivial

namespace RegistrationsService

/-- `create` up to the row. -/
def creating (rt : Runtime) (dto : CreateRegistrationDto) : Svc Registration := do
  let registration ← Prog.ofExcept (normalizeCreateDto dto)
  let event ← ScansService.ensureEventCanBeModified registration.eventId
  let _ ← ensureAttendeeTypeCanBeUsed registration.attendeeTypeId registration.eventId
  ensureDuplicateAllowed event registration
  let customFields := (Json.record? registration.customFields).getD []
  validateStoredFields rt registration.eventId registration.attendeeTypeId customFields
  createRegistrationOrThrowConflict registration

theorem create_eq (dto : CreateRegistrationDto) : create rt dto =
    (creating rt dto).bind fun created =>
      (enqueueRegistrationPipeline rt created).bind fun _ => .ret created := by
  simp only [create, creating, createNormalized, bind_eq, bind_assoc, pure_eq]

theorem fails_ensureEventCanBeModified (eventId : Id) :
    (ScansService.ensureEventCanBeModified eventId).Fails e := by
  refine (fails_call _).bind fun found => ?_
  cases found with
  | none => trivial
  | some event => exact fails_ite trivial trivial

theorem fails_ensureAttendeeTypeCanBeUsed (attendeeTypeId eventId : Id) :
    (ensureAttendeeTypeCanBeUsed attendeeTypeId eventId).Fails e := by
  refine (fails_call _).bind fun found => ?_
  cases found with
  | none => trivial
  | some attendeeType => exact fails_ite trivial (fails_ite trivial trivial)

theorem fails_ensureDuplicateAllowed (event : Event) (registration : Registration) :
    (ensureDuplicateAllowed event registration).Fails e := by
  refine fails_ite ((fails_call _).bind fun found => ?_) trivial
  cases found <;> trivial

theorem fails_tryPublicIds (attempts : Nat) : (tryPublicIds attempts).Fails e := by
  induction attempts with
  | zero => trivial
  | succ n ih =>
      refine (fails_call _).bind fun hex => (fails_call _).bind fun found => ?_
      cases found with
      | none => trivial
      | some _ => exact ih

theorem fails_createRegistrationOrThrowConflict (registration : Registration) :
    (createRegistrationOrThrowConflict registration).Fails e := by
  refine Fails.tryCatch ((fails_tryPublicIds 5).bind fun _ => fails_call _) fun error => ?_
  split <;> exact ⟨_, rfl⟩

theorem fails_creating (dto : CreateRegistrationDto) : (creating rt dto).Fails e := by
  refine (fails_ofExcept _).bind fun registration => ?_
  refine (fails_ensureEventCanBeModified _).bind fun event => ?_
  refine (fails_ensureAttendeeTypeCanBeUsed _ _).bind fun _ => ?_
  refine (fails_ensureDuplicateAllowed _ _).bind fun _ => ?_
  refine ((fails_call _).bind fun _ => fails_ofExcept _).bind fun _ => ?_
  exact fails_createRegistrationOrThrowConflict _

/-- A row that is created has the event and the phone of the input, and no job is queued. -/
def CreatesLike (registration : Registration) : Call → Prop
  | .registrationCreate data =>
      data.eventId = registration.eventId ∧ data.phone = registration.phone
  | .enqueuePipeline _ => False
  | _ => True

theorem createsLike_of_reads {registration : Registration} {c : Call} (hc : c.reads = true) :
    CreatesLike registration c := by
  cases c <;> trivial

theorem creating_createsLike {dto : CreateRegistrationDto} {registration : Registration}
    (h : normalizeCreateDto dto = .ok registration) :
    (creating rt dto).All (CreatesLike registration) := by
  simp only [creating, h, ofExcept_ok, bind_eq, bind_ret]
  refine all_bind ((ScansService.ensureEventCanBeModified_checks _).reads.mono
    fun _ => createsLike_of_reads) fun event => ?_
  refine all_bind ((ensureAttendeeTypeCanBeUsed_reads _ _).mono fun _ => createsLike_of_reads)
    fun _ => ?_
  refine all_bind ((ensureDuplicateAllowed_reads _ _).mono fun _ => createsLike_of_reads)
    fun _ => ?_
  refine all_bind ((validateStoredFields_reads rt _ _ _).mono fun _ => createsLike_of_reads)
    fun _ => ?_
  refine all_tryCatch (all_bind ((tryPublicIds_draws 5).mono fun c hc => ?_) fun publicId => ?_)
    fun error => ?_
  · cases c <;> trivial
  · exact all_call ⟨rfl, rfl⟩
  · split <;> trivial

theorem creating_of_error {dto : CreateRegistrationDto} {error : Exn}
    (h : normalizeCreateDto dto = .error error) : creating rt dto = .throw error := by
  unfold creating
  rw [h]
  rfl

end RegistrationsService

end Fails

namespace Tickets

open Prog DigitalTicketImageService PublicService
open CreativeBackend.Tickets.DigitalTicketsService

variable {rt : Runtime} {ch : TicketChoice} {e : Exn} {α β : Type}

/-! ## Failures that `register` survives -/

/-- What these calls answer is ignored: the job of the pipeline, and the removal of a picture. -/
def TicketCall.ignored : TicketCall → Bool
  | .base (.enqueuePipeline _) => true
  | .unlink _ => true
  | _ => false

/-- The link for WhatsApp comes last, and may be missing. -/
def TicketCall.last : TicketCall → Bool
  | .whatsappRequest _ => true
  | _ => false

/-- The calls between the row and the picture. -/
def TicketCall.renders : TicketCall → Bool
  | .base c => c.formats
  | .templatesFor _ _ => true
  | .activeFieldKeys _ => true
  | .imageFind _ _ _ => true
  | .imageUpsert _ => true
  | .render _ => true
  | .randomUUID => true
  | .writeFile _ _ => true
  | _ => false

theorem TicketCall.not_ignored_of_renders {c : TicketCall} (hc : c.renders = true) :
    ¬ c.ignored = true ∧ ¬ c.last = true := by
  cases c with
  | base c => cases c <;> first | exact ⟨Bool.false_ne_true, Bool.false_ne_true⟩ | cases hc
  | _ => first | exact ⟨Bool.false_ne_true, Bool.false_ne_true⟩ | cases hc

/-- Every call of the program renders. -/
abbrev Renders (p : TicketSvc α) : Prop := p.All fun c => c.renders = true

/-- How a program takes the failure of a call. -/
abbrev Survives (rt : Runtime) (ch : TicketChoice) (e : Exn) (p : TicketSvc α) : Prop :=
  p.Reacts (ticketMachine rt ch) e (fun c => c.ignored = true) fun c => c.last = true

theorem survives_bind_of_fatal {p : TicketSvc α} {f : α → TicketSvc β} (hp : p.Fails e)
    (hfatal : p.All fun c => ¬ c.ignored = true ∧ ¬ c.last = true)
    (hf : ∀ a, Survives rt ch e (f a)) : Survives rt ch e (p.bind f) := by
  refine (hp.reacts hfatal).bind (hfatal.mono ?_) hf
  rintro c ⟨hignored, hlast⟩
  exact ⟨hlast, fun h => absurd h hignored⟩

theorem survives_bind {p : TicketSvc α} {f : α → TicketSvc β} (hp : p.Fails e) (hr : Renders p)
    (hf : ∀ a, Survives rt ch e (f a)) : Survives rt ch e (p.bind f) :=
  survives_bind_of_fatal hp (hr.mono fun _ => TicketCall.not_ignored_of_renders) hf

theorem renders_onStore {p : Svc α} (hp : Formats p) : Renders (onStore p) :=
  TicketCall.embedding.all_embed (fun _ h => h) hp

theorem fails_onStore {p : Svc α} (hp : p.Fails e) : (onStore p).Fails e :=
  TicketCall.embedding.fails_embed hp

/-! ## The ticket -/

theorem fails_validateSelectedFields (eventId : Id) (value : Json) :
    (validateSelectedFields eventId value).Fails e := by
  refine ((fails_call _).bind fun event => ?_).bind fun keys => fails_ite trivial trivial
  cases event with
  | none => trivial
  | some event => exact (fails_call _).bind fun _ => trivial

theorem renders_validateSelectedFields (eventId : Id) (value : Json) :
    Renders (validateSelectedFields eventId value) := by
  refine all_bind (all_bind (all_call rfl) fun event => ?_) fun keys => all_ite trivial trivial
  cases event with
  | none => trivial
  | some event => exact all_bind (all_call rfl) fun _ => trivial

theorem fails_buildRenderInput (he : e ≠ .prisma .uniqueConstraint) (v : RegistrationView)
    (template : TicketTemplate) : (buildRenderInput rt v template).Fails e := by
  refine (fails_validateSelectedFields _ _).bind fun _ => ?_
  refine (fails_onStore (QrService.fails_generate he _)).bind fun qr => ?_
  exact (fails_onStore (fails_generateRegistrationQrImage _ _)).bind fun _ => trivial

theorem renders_buildRenderInput (v : RegistrationView) (template : TicketTemplate) :
    Renders (buildRenderInput rt v template) := by
  refine all_bind (renders_validateSelectedFields _ _) fun _ => ?_
  refine all_bind (renders_onStore (QrService.generate_formats rt _)) fun qr => ?_
  exact all_bind (renders_onStore (generateRegistrationQrImage_formats rt _ _)) fun _ => trivial

theorem fails_saveGeneratedImage (eventId registrationId templateId : Id) (templateVersion : Nat)
    (png : Png) :
    (saveGeneratedImage rt eventId registrationId templateId templateVersion png).Fails e := by
  have hwrite : (writeImage rt GENERATED_TICKET_DIR png).Fails e := by
    refine (fails_call _).bind fun uuid => ?_
    exact (fails_call _).bind fun _ => trivial
  exact hwrite.bind fun file => (fails_call _).bind fun generatedAt => fails_call _

theorem renders_saveGeneratedImage (eventId registrationId templateId : Id) (templateVersion : Nat)
    (png : Png) :
    Renders (saveGeneratedImage rt eventId registrationId templateId templateVersion png) := by
  have hwrite : Renders (writeImage rt GENERATED_TICKET_DIR png) :=
    all_bind (all_call rfl) fun uuid => all_bind (all_call rfl) fun _ => trivial
  exact all_bind hwrite fun file => all_bind (all_call rfl) fun generatedAt => all_call rfl

/-- Whether the picture was removed does not matter. -/
theorem survives_deleteGeneratedImage (relativePath : Option String) (b : β) :
    Survives rt ch e ((deleteGeneratedImage relativePath).bind fun _ => .ret b) := by
  unfold deleteGeneratedImage safeDeleteUploadFile
  split
  · trivial
  · next filePath _ =>
      have hrest : ∀ r : Except Exn Unit, (((Prog.ofExcept r : TicketSvc Unit).bind fun _ =>
          .ret ({ deleted := true, skipped := false } : SafeDeleteUploadResult)).tryCatch
          fun error => .ret {
            deleted := false
            skipped := true
            reason := some (if error = .error "ENOENT" then "NOT_FOUND" else "DELETE_FAILED") }).bind
          (fun _ => (.ret b : TicketSvc β)) = .ret b := by
        intro r
        cases r <;> rfl
      refine ⟨⟨fun _ => ⟨fun r r' => (hrest r).trans (hrest r').symm, fun r => ?_⟩,
        fun h => absurd h Bool.false_ne_true, fun h => absurd rfl h⟩, fun r => ?_⟩
      · cases r <;> trivial
      · cases r <;> trivial

theorem survives_renderTicket (he : e ≠ .prisma .uniqueConstraint) (v : RegistrationView)
    (template : TicketTemplate) (existingImage : Option DigitalTicketImage) :
    Survives rt ch e (renderTicket rt v template existingImage) := by
  refine survives_bind (fails_buildRenderInput he v template) (renders_buildRenderInput v template)
    fun renderInput => ?_
  refine survives_bind (fails_call _) (all_call rfl) fun png => ?_
  refine survives_bind (fails_saveGeneratedImage _ _ _ _ _) (renders_saveGeneratedImage _ _ _ _ _)
    fun image => ?_
  cases existingImage with
  | none => trivial
  | some old =>
      dsimp only
      split
      · exact survives_deleteGeneratedImage _ _
      · trivial

/-- The calls of a ticket that is rendered in any case. -/
def TicketCall.replaces (c : TicketCall) : Prop := c.renders = true ∨ ∃ path, c = .unlink path

theorem replaces_renderTicket (v : RegistrationView) (template : TicketTemplate)
    (existingImage : Option DigitalTicketImage) :
    (renderTicket rt v template existingImage).All TicketCall.replaces := by
  have hrenders : ∀ {γ : Type} {p : TicketSvc γ}, Renders p → p.All TicketCall.replaces :=
    fun hp => hp.mono fun _ => .inl
  refine all_bind (hrenders (renders_buildRenderInput v template)) fun renderInput => ?_
  refine all_bind (all_call (.inl rfl)) fun png => ?_
  refine all_bind (hrenders (renders_saveGeneratedImage _ _ _ _ _)) fun image => ?_
  cases existingImage with
  | none => trivial
  | some old =>
      refine all_ite (all_bind ?_ fun _ => trivial) trivial
      unfold deleteGeneratedImage safeDeleteUploadFile
      split
      · trivial
      · exact all_tryCatch (all_bind (all_call (.inr ⟨_, rfl⟩)) fun _ => trivial) fun _ => trivial

/-- A ticket that is rendered in any case. -/
theorem generateForRegistration_forced (registrationId : Id) :
    generateForRegistration rt registrationId { forceRegenerate := true } =
      (findRegistration registrationId).bind fun registration =>
        if registration.registration.status ≠ .ACTIVE then
          .throw (.badRequest "Registration must be ACTIVE")
        else (findActiveTemplateForRegistration registration.registration).bind fun template =>
          (findExistingImage registration.registration.id template).bind fun existingImage =>
            renderTicket rt registration template existingImage := by
  simp only [generateForRegistration, bind_eq, pure_eq, bind_ret, if_true]
  rfl

theorem fails_findRegistration (registrationId : Id) : (findRegistration registrationId).Fails e := by
  refine (fails_call _).bind fun found => ?_
  cases found <;> trivial

theorem renders_findRegistration (registrationId : Id) :
    Renders (findRegistration registrationId) := by
  refine all_bind (all_call rfl) fun found => ?_
  cases found <;> trivial

theorem fails_findActiveTemplateForRegistration (registration : Registration) :
    (findActiveTemplateForRegistration registration).Fails e := by
  refine (fails_call _).bind fun templates => ?_
  split <;> trivial

theorem renders_findActiveTemplateForRegistration (registration : Registration) :
    Renders (findActiveTemplateForRegistration registration) := by
  refine all_bind (all_call rfl) fun templates => ?_
  split <;> trivial

theorem survives_generateTicket (he : e ≠ .prisma .uniqueConstraint) (registrationId : Id) :
    Survives rt ch e (generateTicket rt registrationId) := by
  refine Reacts.tryCatch ?_ fun _ => ⟨_, rfl⟩
  rw [generateForRegistration_forced]
  refine survives_bind (fails_findRegistration _) (renders_findRegistration _) fun registration => ?_
  split
  · trivial
  · refine survives_bind (fails_findActiveTemplateForRegistration _)
      (renders_findActiveTemplateForRegistration _) fun template => ?_
    exact survives_bind (fails_call _) (all_call rfl) fun existingImage =>
      survives_renderTicket he _ _ _

theorem replaces_generateTicket (registrationId : Id) :
    (generateTicket rt registrationId).All TicketCall.replaces := by
  have hrenders : ∀ {γ : Type} {p : TicketSvc γ}, Renders p → p.All TicketCall.replaces :=
    fun hp => hp.mono fun _ => .inl
  refine all_tryCatch ?_ fun _ => trivial
  rw [generateForRegistration_forced]
  refine all_bind (hrenders (renders_findRegistration _)) fun registration => all_ite trivial ?_
  refine all_bind (hrenders (renders_findActiveTemplateForRegistration _)) fun template => ?_
  exact all_bind (all_call (.inl rfl)) fun existingImage => replaces_renderTicket _ _ _

/-! ## The request -/

theorem survives_completeRegistration (he : e ≠ .prisma .uniqueConstraint)
    (registration : Registration) :
    Survives rt ch e (completeRegistration rt registration) := by
  refine survives_bind (fails_onStore (QrService.fails_generate he _))
    (renders_onStore (QrService.generate_formats rt _)) fun qr => ?_
  refine (survives_generateTicket he _).bind ((replaces_generateTicket _).mono ?_)
    fun generatedTicket => ?_
  · rintro c (hc | ⟨path, rfl⟩)
    · obtain ⟨hignored, hlast⟩ := TicketCall.not_ignored_of_renders hc
      exact ⟨hlast, fun h => absurd h hignored⟩
    · refine ⟨Bool.false_ne_true, fun _ ticket => ?_⟩
      exact all_bind (all_tryCatch (all_call fun s => rfl) fun _ => trivial) fun _ => trivial
  · refine ⟨⟨fun h => absurd h Bool.false_ne_true, fun _ => ⟨_, rfl⟩, fun _ h => absurd rfl h⟩,
      fun r => ?_⟩
    cases r <;> trivial

/-- A job of the pipeline may be added before or after the rest of the request. -/
theorem commutes_enqueuePipeline (job : PipelineJob) {c : TicketCall}
    (hc : c.replaces ∨ c.last = true) :
    Commutes (ticketMachine rt ch) (.base (.enqueuePipeline job)) c := by
  intro s
  change ticketMachine rt ch c (s.addPipelineJob job) =
    ((ticketMachine rt ch c s).1, (ticketMachine rt ch c s).2.addPipelineJob job)
  rcases hc with (hc | ⟨path, rfl⟩) | hc
  · cases c with
    | base c =>
        have hbase : machine rt ch.toChoice c (QrService.withPipelineJob job s.base) = _ :=
          QrService.machine_withPipelineJob hc job s.base
        change ((machine rt ch.toChoice c (QrService.withPipelineJob job s.base)).1,
          ({ s with base := (machine rt ch.toChoice c (QrService.withPipelineJob job s.base)).2 } :
            TicketStore)) = _
        rw [hbase]
        rfl
    | imageUpsert data =>
        simp only [ticketMachine, TicketStore.upsertImage, TicketStore.addPipelineJob]
        cases s.images.rows.find? (data.sameTicket ·) with
        | none =>
            dsimp only
            cases s.images.create data <;> rfl
        | some old =>
            dsimp only
            split <;> rfl
    | _ => first | rfl | cases hc
  · simp only [ticketMachine, TicketStore.unlink, TicketStore.addPipelineJob, TicketStore.fileAt]
    split <;> rfl
  · cases c with
    | whatsappRequest registrationId => rfl
    | _ => cases hc

theorem commutes_completeRegistration (job : PipelineJob) (registration : Registration) :
    (completeRegistration rt registration).All
      (Commutes (ticketMachine rt ch) (.base (.enqueuePipeline job))) := by
  refine all_bind ((renders_onStore (QrService.generate_formats rt _)).mono fun _ hc =>
    commutes_enqueuePipeline job (.inl (.inl hc))) fun qr => ?_
  refine all_bind ((replaces_generateTicket _).mono fun _ hc =>
    commutes_enqueuePipeline job (.inl hc)) fun generatedTicket => ?_
  refine all_bind (all_tryCatch (all_call ?_) fun _ => trivial) fun _ => trivial
  exact commutes_enqueuePipeline job (.inr rfl)

/-- The calls of `creating` end the request with an exception if they fail. -/
theorem not_ignored_creating (dto : CreateRegistrationDto) :
    (onStore (RegistrationsService.creating rt dto)).All
      fun c => ¬ c.ignored = true ∧ ¬ c.last = true := by
  cases h : RegistrationsService.normalizeCreateDto dto with
  | error error =>
      rw [RegistrationsService.creating_of_error h]
      trivial
  | ok registration =>
      refine TicketCall.embedding.all_embed ?_ (RegistrationsService.creating_createsLike h)
      intro c hc
      cases c <;> first | exact ⟨Bool.false_ne_true, Bool.false_ne_true⟩ | cases hc

theorem survives_enqueueRegistrationPipeline (registration : Registration)
    {f : Unit → TicketSvc β} (hf : Survives rt ch e (f ()))
    (hcommutes : ∀ job, (f ()).All
      (Commutes (ticketMachine rt ch) (.base (.enqueuePipeline job)))) :
    Survives rt ch e
      ((onStore (RegistrationsService.enqueueRegistrationPipeline rt registration)).bind f) := by
  unfold RegistrationsService.enqueueRegistrationPipeline
  split
  · have hrest : ∀ job (r : Except Exn Unit), (TicketCall.embedding.embed
        ((Prog.ofExcept (TicketCall.embedding.read (c := .enqueuePipeline job) r) : Svc Unit).tryCatch
          fun _ => .ret ())).bind f = f () := by
      intro job r
      cases r <;> rfl
    refine ⟨⟨fun _ => ⟨fun r r' => (hrest _ r).trans (hrest _ r').symm, fun r => ?_⟩,
      fun h => absurd h Bool.false_ne_true, fun h => absurd rfl h⟩, fun r => ?_⟩
    · have hall := hcommutes {
        registrationId := registration.id
        eventId := registration.eventId
        source := registration.source
        skipDigitalTicket := false }
      cases r <;> exact hall
    · cases r <;> exact hf
  · exact hf

theorem survives_register (he : e ≠ .prisma .uniqueConstraint) (eventId : Id)
    (dto : PublicRegisterDto) : Survives rt ch e (register rt eventId dto) := by
  refine survives_bind_of_fatal (fails_call _) (all_call ⟨Bool.false_ne_true, Bool.false_ne_true⟩)
    fun found => ?_
  rcases found with - | (- | -)
  · trivial
  · trivial
  · refine survives_bind (fails_call _) (all_call rfl) fun templates => ?_
    split
    · trivial
    · have hcreate : onStore (RegistrationsService.create rt (dto.toCreate eventId)) =
          (onStore (RegistrationsService.creating rt (dto.toCreate eventId))).bind fun created =>
            (onStore (RegistrationsService.enqueueRegistrationPipeline rt created)).bind fun _ =>
              .ret created := by
        simp only [RegistrationsService.create_eq, onStore, Embedding.embed_bind,
          Embedding.embed_ret]
      simp only [hcreate, bind_eq, bind_assoc, bind_ret]
      refine survives_bind_of_fatal (fails_onStore (RegistrationsService.fails_creating _))
        (not_ignored_creating _) fun created => ?_
      exact survives_enqueueRegistrationPipeline created (survives_completeRegistration he created)
        fun job => commutes_completeRegistration job created

end Tickets

end CreativeBackend
