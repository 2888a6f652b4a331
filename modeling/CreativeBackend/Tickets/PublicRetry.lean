import CreativeBackend.Tickets.PublicFailures

/-!
# Submitting a public registration again

`register` creates the row before it generates the QR code and renders the ticket. A failure in
between ends the request with an exception and leaves the row behind, and the row has the phone of
the request: a second request with the same input is refused.
-/

namespace CreativeBackend

open Relational Interaction

namespace Tickets

open Prog PublicService

variable {rt : Runtime} {ch : TicketChoice} {e : Exn} {s s' : TicketStore}

/-! ## Rows of the input -/

/-- A row with the event and the phone of the input. -/
structure Like (registration r : Registration) : Prop where
  eventId : r.eventId = registration.eventId
  phone : r.phone = registration.phone

/-- A row that the call creates has the event and the phone of the input. -/
def TicketCall.RegistersLike (registration : Registration) : TicketCall → Prop
  | .base (.registrationCreate data) => Like registration data
  | _ => True

/-- The rows are kept, and those that are new have the event and the phone of the input. -/
structure Extends (registration : Registration) (s s' : TicketStore) : Prop where
  kept : ∀ r ∈ s.base.registrations.rows, r ∈ s'.base.registrations.rows
  added : ∀ r ∈ s'.base.registrations.rows,
    r ∈ s.base.registrations.rows ∨ Like registration r

theorem Extends.of_eq {registration : Registration}
    (h : s'.base.registrations = s.base.registrations) : Extends registration s s' where
  kept _ hr := h ▸ hr
  added _ hr := .inl (h ▸ hr)

theorem Extends.trans {registration : Registration} {s₀ s₁ s₂ : TicketStore}
    (h : Extends registration s₀ s₁) (h' : Extends registration s₁ s₂) :
    Extends registration s₀ s₂ where
  kept r hr := h'.kept r (h.kept r hr)
  added r hr := (h'.added r hr).elim (h.added r) .inr

theorem extends_of_effect {registration : Registration} {c : Call} {x : Except Exn (Resp c)}
    {b : Store} (hc : TicketCall.RegistersLike registration (.base c)) (h : Effect s.base c x b) :
    Extends registration s { s with base := b } := by
  cases h with
  | register hcreate =>
      refine ⟨fun r hr => (Table.mem_create hcreate).mpr (.inl hr), fun r hr => ?_⟩
      rcases (Table.mem_create hcreate).mp hr with hr | rfl
      · exact .inl hr
      · rw [(Table.create_eq_some hcreate).1]
        exact .inr ⟨hc.eventId, hc.phone⟩
  | _ => exact .of_eq rfl

theorem extends_of_registersLike {registration : Registration} {c : TicketCall}
    (hc : c.RegistersLike registration) (s : TicketStore) :
    Extends registration s (ticketMachine rt ch c s).2 := by
  cases c with
  | base c => exact extends_of_effect hc (effect_of_machine rfl)
  | imageUpsert data =>
      obtain ⟨row, s', hupsert, hspec⟩ := s.exists_upsertImage data
      change Extends registration s (s.upsertImage data).2
      rw [hupsert]
      obtain ⟨images, rfl⟩ := hspec.frame
      exact .of_eq rfl
  | unlink path => exact .of_eq (congrArg Store.registrations TicketStore.base_unlink)
  | templateUpdate eventId scopeKey f =>
      apply Extends.of_eq
      simp only [ticketMachine, TicketStore.updateTemplate]
      split
      · rfl
      · split <;> rfl
  | stat path =>
      apply Extends.of_eq
      simp only [ticketMachine]
      split <;> rfl
  | ticketJobAdd job =>
      apply Extends.of_eq
      simp only [ticketMachine, TicketStore.addTicketJob]
      split <;> rfl
  | _ => exact .of_eq rfl

/-! ## The input -/

theorem normalizeCreateDto_phone {dto : CreateRegistrationDto} {registration : Registration}
    (h : RegistrationsService.normalizeCreateDto dto = .ok registration) :
    registration.phone.isSome = true := by
  simp only [RegistrationsService.normalizeCreateDto, bind, Except.bind] at h
  split at h
  · cases h
  · split at h
    · cases h
    · split at h
      · cases h
      · cases h
        rfl

theorem registersLike_of_replaces {registration : Registration} {c : TicketCall}
    (hc : c.replaces ∨ c.last = true) : c.RegistersLike registration := by
  rcases hc with (hc | ⟨path, rfl⟩) | hc
  · cases c with
    | base c => cases c <;> trivial
    | _ => trivial
  · trivial
  · cases c <;> trivial

theorem registersLike_completeRegistration (registration r : Registration) :
    (completeRegistration rt r).All (TicketCall.RegistersLike registration) := by
  refine all_bind ((renders_onStore (QrService.generate_formats rt _)).mono fun _ hc =>
    registersLike_of_replaces (.inl (.inl hc))) fun qr => ?_
  refine all_bind ((replaces_generateTicket _).mono fun _ hc =>
    registersLike_of_replaces (.inl hc)) fun generatedTicket => ?_
  exact all_bind (all_tryCatch (all_call trivial) fun _ => trivial) fun _ => trivial

theorem registersLike_create {dto : CreateRegistrationDto} {registration : Registration}
    (h : RegistrationsService.normalizeCreateDto dto = .ok registration) :
    (onStore (RegistrationsService.create rt dto)).All (TicketCall.RegistersLike registration) := by
  rw [RegistrationsService.create_eq]
  refine TicketCall.embedding.all_embed (fun c hc => hc) ?_
  refine all_bind ((RegistrationsService.creating_createsLike h).mono ?_) fun created => ?_
  · intro c hc
    cases c with
    | registrationCreate data => exact ⟨hc.1, hc.2⟩
    | _ => trivial
  · refine all_bind ?_ fun _ => trivial
    unfold RegistrationsService.enqueueRegistrationPipeline
    exact all_ite (all_tryCatch (all_call trivial) fun _ => trivial) trivial

theorem registersLike_register {eventId : Id} {dto : PublicRegisterDto} {registration : Registration}
    (h : RegistrationsService.normalizeCreateDto (dto.toCreate eventId) = .ok registration) :
    (register rt eventId dto).All (TicketCall.RegistersLike registration) := by
  refine all_bind (all_call trivial) fun found => ?_
  rcases found with - | (- | -)
  · trivial
  · trivial
  · refine all_bind (all_call trivial) fun templates => all_ite trivial ?_
    exact all_bind (registersLike_create h) fun r => registersLike_completeRegistration _ _

/-! ## The second request -/

/-- A request that is accepted creates a row. -/
theorem created_of_register {eventId : Id} {dto : PublicRegisterDto} {resp : PublicRegistration}
    (h : (register rt eventId dto).run (ticketMachine rt ch) s = (.ok resp, s')) :
    ∃ row b, (RegistrationsService.create rt (dto.toCreate eventId)).run
      (machine rt ch.toChoice) s.base = (.ok row, b) := by
  obtain ⟨found, s₁, hevent, h₁⟩ := run_bind_eq_ok _ h
  obtain rfl : s₁ = s := (Prod.mk.inj hevent).2.symm
  rcases found with - | (- | -)
  · cases h₁
  · cases h₁
  · obtain ⟨templates, s₂, htemplates, h₂⟩ := run_bind_eq_ok _ h₁
    obtain rfl : s₂ = s₁ := (Prod.mk.inj htemplates).2.symm
    split at h₂
    · cases h₂
    · obtain ⟨row, s₃, hcreate, -⟩ := run_bind_eq_ok _ h₂
      rw [run_onStore] at hcreate
      exact ⟨row, _, Prod.ext (Prod.mk.inj hcreate).1 rfl⟩

/-- A row with the event and the phone of the input is in the way of the request. -/
theorem register_ne_ok {eventId : Id} {dto : PublicRegisterDto} {registration r : Registration}
    (h : RegistrationsService.normalizeCreateDto (dto.toCreate eventId) = .ok registration)
    (hr : r ∈ s.base.registrations.rows) (hlike : Like registration r)
    (resp : PublicRegistration) :
    (register rt eventId dto).run (ticketMachine rt ch) s ≠ (.ok resp, s') := by
  intro hrun
  obtain ⟨row, b, hcreate⟩ := created_of_register hrun
  have hextends : Extends registration s { s with base := b } := by
    have hall : (onStore (RegistrationsService.create rt (dto.toCreate eventId))).All
        (TicketCall.RegistersLike registration) := registersLike_create h
    have hextends := run_relation (ticketMachine rt ch) (fun _ => Extends.of_eq rfl)
      (fun _ _ _ h h' => Extends.trans h h') (fun c hc s => extends_of_registersLike hc s) hall s
    rwa [run_onStore, hcreate] at hextends
  obtain ⟨registration', b', hnormalize, hcreate'⟩ := run_bind_eq_ok _ hcreate
  obtain ⟨h', rfl⟩ := run_ofExcept_eq_ok _ hnormalize
  cases h.symm.trans h'
  obtain ⟨-, hcreated⟩ := RegistrationsService.createNormalized_ok hcreate'
  have hfresh : ∀ a ∈ s.base.registrations.rows, a ≠ row := by
    rintro a ha rfl
    exact s.base.registrations.key_ne_fresh ha (Nat.le_refl _) hcreated.key
  have hrow : Like registration row := by
    rcases hextends.added row ((hcreated.rows row).mpr (.inr rfl)) with hmem | hrow
    · exact absurd rfl (hfresh row hmem)
    · exact hrow
  have hclash : Record.clash r row = true := by
    have hphone : row.phone.isSome = true := by
      rw [hrow.phone]
      exact normalizeCreateDto_phone h
    simp [Record.clash, sameKey, hphone, hlike.eventId.trans hrow.eventId.symm,
      hlike.phone.trans hrow.phone.symm]
  have heq : r = row := b.registrations.eq_of_clash ((hcreated.rows r).mpr (.inl hr))
    ((hcreated.rows row).mpr (.inr rfl)) hclash
  exact hfresh r hr heq

/-! ## The claim about a retry -/

/-- If the request in which the call of number `n` fails returns an error, the same request without
failures returns the registration `r` with its ticket, and `r` is the only one created. -/
def Retriable (rt : Runtime) (ch : TicketChoice) (e : Exn) (s : TicketStore) (eventId : Id)
    (dto : PublicRegisterDto) (n : Nat) (r : Registration) : Prop :=
  ∀ error s₁, (register rt eventId dto).runFailing (ticketMachine rt ch) e n s = (.error error, s₁) →
    ∀ ch' : TicketChoice, ch'.imagesWritable = true →
      ∃ resp s₂, (register rt eventId dto).run (ticketMachine rt ch') s₁ = (.ok resp, s₂) ∧
        resp.registration.id = r.id ∧ resp.digitalTicket.status = .READY ∧
        s₂.base.registrations.rows.length = s.base.registrations.rows.length + 1

/-- A visitor registers for the first event. -/
def visitorDto : PublicRegisterDto where
  attendeeTypeId := "c0"
  fullName := "Visitor"
  phone := "0100"

/-- The request of the visitor. -/
def visitorRequest : TicketSvc PublicRegistration := register sampleRuntime "c0" visitorDto

def TicketCall.isRender : TicketCall → Bool
  | .render _ => true
  | _ => false

/-- The call of this number renders the ticket, and the registration is there. -/
def rendersAt (n : Nat) : Bool :=
  ((visitorRequest.calls (ticketMachine sampleRuntime {}) ticketStore)[n]?).any
      TicketCall.isRender &&
    (visitorRequest.stateAt (ticketMachine sampleRuntime {}) n ticketStore).base.registrations.rows.any
      (·.id == "c1")

theorem exists_rendering {n : Nat} (h : rendersAt n = true) :
    ∃ c r, (visitorRequest.calls (ticketMachine sampleRuntime {}) ticketStore)[n]? = some c ∧
      c.isRender = true ∧
      r ∈ (visitorRequest.stateAt (ticketMachine sampleRuntime {}) n
        ticketStore).base.registrations.rows ∧ r.id = "c1" := by
  unfold rendersAt at h
  rw [Bool.and_eq_true] at h
  obtain ⟨c, hcall, hc⟩ := (Option.any_eq_true _ _).mp h.1
  obtain ⟨r, hr, hid⟩ := List.any_eq_true.mp h.2
  exact ⟨c, r, hcall, hc, hr, eq_of_beq hid⟩

theorem visitor_is_new {r : Registration} (h : r.id = "c1") :
    r ∉ ticketStore.base.registrations.rows := by
  intro hr
  have hids : ticketStore.base.registrations.rows.all (·.id != "c1") = true := by decide +kernel
  have hid := List.all_eq_true.mp hids r hr
  rw [h] at hid
  exact absurd hid (by decide)

end Tickets

open Tickets

/-- After the registration was created, a failing call leaves the request to be retried exactly if
the request survives the failure: then no error is returned. -/
theorem public_registration_is_retriable_iff {rt : Runtime} {ch : TicketChoice} {s s' : TicketStore}
    {eventId : Id} {dto : PublicRegisterDto} {resp : PublicRegistration}
    (haccepted : (PublicService.register rt eventId dto).run (ticketMachine rt ch) s =
      (.ok resp, s')) {n : Nat} {c : TicketCall}
    (hcall : ((PublicService.register rt eventId dto).calls (ticketMachine rt ch) s)[n]? = some c)
    {r : Registration} (hcreated : r ∈ ((PublicService.register rt eventId dto).stateAt
      (ticketMachine rt ch) n s).base.registrations.rows) (hnew : r ∉ s.base.registrations.rows)
    {e : Exn} (he : e ≠ .prisma .uniqueConstraint) :
    Retriable rt ch e s eventId dto n r ↔ c.ignored = true ∨ c.last = true := by
  have hsurvives : Survives rt ch e (PublicService.register rt eventId dto) :=
    survives_register he eventId dto
  constructor
  · intro hretriable
    by_contra hfatal
    rw [not_or] at hfatal
    obtain ⟨error, s₁, hrun⟩ := hsurvives.exists_error hcall hfatal.1 hfatal.2
    obtain ⟨row, b, hcreate⟩ := created_of_register haccepted
    obtain ⟨registration, b', hnormalize, -⟩ := Prog.run_bind_eq_ok _ hcreate
    obtain ⟨h, -⟩ := Prog.run_ofExcept_eq_ok _ hnormalize
    have hall : (PublicService.register rt eventId dto).All (TicketCall.RegistersLike registration) :=
      registersLike_register h
    -- The row has the event and the phone of the input, and it is still there after the failure.
    have hlike : Like registration r := by
      have hextends := Prog.stateAt_invariant (m := ticketMachine rt ch) (I := Extends registration s)
        (fun c hc u hu => hu.trans (extends_of_registersLike hc u)) hall (.of_eq rfl) n
      exact (hextends.added r hcreated).resolve_left hnew
    have hkept : r ∈ s₁.base.registrations.rows := by
      have hkept := Prog.runFailing_invariant (m := ticketMachine rt ch) (e := e)
        (I := fun u => r ∈ u.base.registrations.rows)
        (fun c hc u hu => (extends_of_registersLike hc u).kept r hu) hall hcreated
      rwa [hrun] at hkept
    obtain ⟨resp', s₂, hretry, -⟩ := hretriable error s₁ hrun {} rfl
    exact register_ne_ok h hkept hlike resp' hretry
  · rintro hsurvived error s₁ hrun
    obtain ⟨resp', s₂, hok⟩ := hsurvives.exists_ok hcall hsurvived ⟨resp, s', haccepted⟩
    cases hrun.symm.trans hok

/-- If the picture cannot be rendered, the visitor cannot register again. -/
theorem visitor_is_not_retriable : ∃ r : Registration, r.id = "c1" ∧
    ¬ Retriable sampleRuntime {} (.error "sharp failed") ticketStore "c0" visitorDto 24 r := by
  obtain ⟨resp, haccepted⟩ := exists_of_isOk (x := visitorRequest.run
    (ticketMachine sampleRuntime {}) ticketStore) (by decide +kernel)
  obtain ⟨c, r, hcall, hrender, hr, hid⟩ := exists_rendering (n := 24) (by decide +kernel)
  refine ⟨r, hid, fun hretriable => ?_⟩
  have he : Exn.error "sharp failed" ≠ .prisma .uniqueConstraint := by decide
  have hsurvived := (public_registration_is_retriable_iff haccepted hcall hr (visitor_is_new hid)
    he).mp hretriable
  cases c with
  | render input => exact hsurvived.elim Bool.false_ne_true Bool.false_ne_true
  | _ => cases hrender

/-- After a failure of the rendering the same input is refused. -/
theorem failed_rendering_refuses_retry :
    ¬ ∀ (rt : Runtime) (ch : TicketChoice) (s : TicketStore) (eventId : Id) (dto : PublicRegisterDto)
      (resp : PublicRegistration) (s' : TicketStore),
      (PublicService.register rt eventId dto).run (ticketMachine rt ch) s = (.ok resp, s') →
      ∀ (n : Nat) (c : TicketCall),
        ((PublicService.register rt eventId dto).calls (ticketMachine rt ch) s)[n]? = some c →
      ∀ r ∈ ((PublicService.register rt eventId dto).stateAt (ticketMachine rt ch) n
          s).base.registrations.rows, r ∉ s.base.registrations.rows →
      ∀ e : Exn, e ≠ .prisma .uniqueConstraint → Retriable rt ch e s eventId dto n r := by
  intro hclaim
  obtain ⟨resp, haccepted⟩ := exists_of_isOk (x := visitorRequest.run
    (ticketMachine sampleRuntime {}) ticketStore) (by decide +kernel)
  obtain ⟨c, r, hcall, -, hr, hid⟩ := exists_rendering (n := 24) (by decide +kernel)
  have hretriable := hclaim _ _ _ _ _ _ _ haccepted 24 c hcall r hr (visitor_is_new hid)
    (.error "sharp failed") (by decide)
  -- The failing run ends with the exception, and the second one with a conflict.
  have hfails : (!(visitorRequest.runFailing (ticketMachine sampleRuntime {})
      (.error "sharp failed") 24 ticketStore).1.isOk &&
    !(visitorRequest.run (ticketMachine sampleRuntime {}) (visitorRequest.runFailing
      (ticketMachine sampleRuntime {}) (.error "sharp failed") 24 ticketStore).2).1.isOk) = true := by
    decide +kernel
  cases hrun : visitorRequest.runFailing (ticketMachine sampleRuntime {})
      (.error "sharp failed") 24 ticketStore with
  | mk x s₁ =>
      rw [hrun] at hfails
      cases x with
      | ok resp' => cases hfails
      | error error =>
          obtain ⟨resp', s₂, hretry, -⟩ := hretriable error s₁ hrun {} rfl
          rw [show visitorRequest.run (ticketMachine sampleRuntime {}) s₁ = (.ok resp', s₂) from
            hretry] at hfails
          cases hfails

end CreativeBackend
