import CreativeBackend.Qr.Issue
import CreativeBackend.Registrations.Create

/-!
# What `create` leaves behind

Before it writes the row, the creation of a registration reads and draws public ids.
On its own, it adds one registration, and changes no token and no mapping.
-/

namespace CreativeBackend

open Relational Interaction Prog

/-- The calls of the creation of a registration. -/
def Call.registers : Call → Bool
  | .random => true
  | .registrationCreate _ => true
  | .enqueuePipeline _ => true
  | c => c.reads

theorem Call.registers_of_reads {c : Call} (h : c.reads = true) : c.registers = true := by
  cases c <;> first | rfl | exact h

/-- Programs that create registrations. -/
abbrev Registers {α : Type} (p : Svc α) : Prop := p.All (·.registers = true)

theorem Reads.registers {α : Type} {p : Svc α} (hp : Reads p) : Registers p :=
  hp.mono fun _ => Call.registers_of_reads

theorem Checks.registers {α : Type} {p : Svc α} (hp : Checks p) : Registers p := hp.reads.registers

namespace RegistrationsService

variable (rt : Runtime)

theorem ensureAttendeeTypeCanBeUsed_reads (attendeeTypeId eventId : Id) :
    Reads (ensureAttendeeTypeCanBeUsed attendeeTypeId eventId) := by
  refine all_bind (all_call rfl) fun attendeeType => ?_
  cases attendeeType with
  | none => trivial
  | some attendeeType =>
      dsimp only
      split
      · trivial
      · split <;> trivial

theorem ensureDuplicateAllowed_reads (event : Event) (registration : Registration) :
    Reads (ensureDuplicateAllowed event registration) := by
  simp only [ensureDuplicateAllowed]
  split
  · refine all_bind (all_call rfl) fun found => ?_
    cases found <;> trivial
  · trivial

theorem validateStoredFields_reads (eventId attendeeTypeId : Id) (fields : List (String × Json)) :
    Reads (validateStoredFields rt eventId attendeeTypeId fields) :=
  all_bind (all_call rfl) fun _ => all_ofExcept _

/-- The calls of the loop that draws public ids. -/
def draws : Call → Bool
  | .random => true
  | c => c.reads

theorem tryPublicIds_draws (attempts : Nat) : (tryPublicIds attempts).All (draws · = true) := by
  induction attempts with
  | zero => trivial
  | succ n ih =>
      refine all_bind (all_call rfl) fun hex => all_bind (all_call rfl) fun found => ?_
      cases found with
      | none => trivial
      | some _ => exact ih

theorem registers_of_draws {c : Call} (h : draws c = true) : c.registers = true := by
  cases c <;> first | rfl | exact h

theorem formats_of_draws {c : Call} (h : draws c = true) : c.formats = true := by
  cases c <;> first | rfl | exact h

theorem createRegistrationOrThrowConflict_registers (registration : Registration) :
    Registers (createRegistrationOrThrowConflict registration) := by
  refine all_tryCatch (all_bind ?_ fun _ => all_call rfl) fun error => ?_
  · exact (tryPublicIds_draws 5).mono fun _ => registers_of_draws
  · split <;> trivial

theorem enqueueRegistrationPipeline_registers (registration : Registration) :
    Registers (enqueueRegistrationPipeline rt registration) := by
  unfold enqueueRegistrationPipeline
  split
  · exact all_tryCatch (all_call rfl) fun _ => trivial
  · trivial

theorem createNormalized_registers (registration : Registration) :
    Registers (createNormalized rt registration) := by
  refine all_bind (ScansService.ensureEventCanBeModified_checks _).registers fun event => ?_
  refine all_bind (ensureAttendeeTypeCanBeUsed_reads _ _).registers fun _ => ?_
  refine all_bind (ensureDuplicateAllowed_reads _ _).registers fun _ => ?_
  refine all_bind (validateStoredFields_reads rt _ _ _).registers fun _ => ?_
  refine all_bind (createRegistrationOrThrowConflict_registers _) fun created => ?_
  exact all_bind (enqueueRegistrationPipeline_registers rt created) fun _ => trivial

/-! ## On its own -/

/-- The tables that the creation of a registration leaves alone. -/
structure OnlyRegisters (s s' : Store) : Prop where
  clock : s'.clock = s.clock
  events : s'.events = s.events
  attendeeTypes : s'.attendeeTypes = s.attendeeTypes
  devices : s'.devices = s.devices
  offlineKeys : s'.offlineKeys = s.offlineKeys
  mappings : s'.mappings = s.mappings
  qrTokens : s'.qrTokens = s.qrTokens

theorem OnlyRegisters.refl (s : Store) : OnlyRegisters s s := ⟨rfl, rfl, rfl, rfl, rfl, rfl, rfl⟩

theorem OnlyRegisters.trans {s₀ s₁ s₂ : Store} (h : OnlyRegisters s₀ s₁)
    (h' : OnlyRegisters s₁ s₂) : OnlyRegisters s₀ s₂ where
  clock := h'.clock.trans h.clock
  events := h'.events.trans h.events
  attendeeTypes := h'.attendeeTypes.trans h.attendeeTypes
  devices := h'.devices.trans h.devices
  offlineKeys := h'.offlineKeys.trans h.offlineKeys
  mappings := h'.mappings.trans h.mappings
  qrTokens := h'.qrTokens.trans h.qrTokens

theorem onlyRegisters_of_effect {s s' : Store} {c : Call} {x : Except Exn (Resp c)}
    (hc : c.registers = true) (h : Effect s c x s') : OnlyRegisters s s' := by
  cases h with
  | read => exact .refl s
  | failed => exact .refl s
  | _ => first | exact ⟨rfl, rfl, rfl, rfl, rfl, rfl, rfl⟩ | exact Bool.noConfusion hc

theorem onlyRegisters_run {α : Type} {p : Svc α} (hp : Registers p) (rt : Runtime) (ch : Choice)
    (s : Store) : OnlyRegisters s (p.run (machine rt ch) s).2 :=
  Prog.run_relation (machine rt ch) OnlyRegisters.refl (fun _ _ _ h h' => h.trans h')
    (fun _ hc _ => onlyRegisters_of_effect hc (effect_of_machine rfl)) hp s

variable {rt} {ch : Choice} {s s' : Store}

/-- The row that a creation returns is new, and has the columns of the input. -/
structure Created (s : Store) (registration : Registration) (row : Registration) (s' : Store) :
    Prop where
  key : row.id = fresh s.registrations.serial
  event : row.eventId = registration.eventId
  attendeeType : row.attendeeTypeId = registration.attendeeTypeId
  externalId : row.externalId = registration.externalId
  rows : ∀ r, r ∈ s'.registrations.rows ↔ r ∈ s.registrations.rows ∨ r = row

theorem createRegistrationOrThrowConflict_ok {registration row : Registration}
    (h : (createRegistrationOrThrowConflict registration).run (machine rt ch) s =
      (.ok row, s')) : Created s registration row s' := by
  simp only [createRegistrationOrThrowConflict, tryCatch_eq] at h
  rw [run_tryCatch] at h
  split at h
  · next a s₁ hbody =>
      cases h
      obtain ⟨publicId, s₂, hdraw, hcreate⟩ := run_bind_eq_ok _ hbody
      have hsame : SameRows s s₂ := by
        have hformats : Formats generatePublicId :=
          (tryPublicIds_draws 5).mono fun _ => formats_of_draws
        have := hformats.sameRows rt ch s
        rwa [hdraw] at this
      rw [call, run_call] at hcreate
      rcases Store.createRegistration_cases hcreate with ⟨e, he, -⟩ | ⟨row', t, hc, hr, rfl⟩
      · cases he
      · cases hr
        have hrow := (Table.create_eq_some hc).1
        refine ⟨?_, ?_, ?_, ?_, fun r => ?_⟩
        · rw [hrow, ← hsame.registrations]; rfl
        · rw [hrow]; rfl
        · rw [hrow]; rfl
        · rw [hrow]; rfl
        · rw [Table.mem_create hc, hsame.registrations]
  · next e s₁ hbody =>
      split at h
      · cases h
      · cases h

/-- Normalising keeps the ids of the input. -/
theorem normalizeCreateDto_ok {dto : CreateRegistrationDto} {registration : Registration}
    (h : normalizeCreateDto dto = .ok registration) :
    registration.eventId = dto.eventId ∧ registration.attendeeTypeId = dto.attendeeTypeId := by
  simp only [normalizeCreateDto, bind, Except.bind] at h
  split at h
  · cases h
  · split at h
    · cases h
    · split at h
      · cases h
      · cases h
        exact ⟨rfl, rfl⟩

/-- What a creation leaves. -/
theorem createNormalized_ok {registration row : Registration}
    (h : (createNormalized rt registration).run (machine rt ch) s = (.ok row, s')) :
    OnlyRegisters s s' ∧ Created s registration row s' := by
  have honly : OnlyRegisters s s' := by
    have := onlyRegisters_run (createNormalized_registers rt registration) rt ch s
    rwa [h] at this
  refine ⟨honly, ?_⟩
  have hread : ∀ {α : Type} {p : Svc α} {a : α} {u u' : Store}, Reads p →
      p.run (machine rt ch) u = (.ok a, u') → u' = u := by
    intro α p a u u' hp hrun
    have := hp.run rt ch u
    rwa [hrun] at this
  obtain ⟨event, s₁, h₁, hrest⟩ := run_bind_eq_ok _ h
  obtain rfl := hread (ScansService.ensureEventCanBeModified_checks _).reads h₁
  obtain ⟨_, s₂, h₂, hrest₂⟩ := run_bind_eq_ok _ hrest
  obtain rfl := hread (ensureAttendeeTypeCanBeUsed_reads _ _) h₂
  obtain ⟨_, s₃, h₃, hrest₃⟩ := run_bind_eq_ok _ hrest₂
  obtain rfl := hread (ensureDuplicateAllowed_reads _ _) h₃
  obtain ⟨_, s₄, h₄, hrest₄⟩ := run_bind_eq_ok _ hrest₃
  obtain rfl := hread (validateStoredFields_reads rt _ _ _) h₄
  obtain ⟨created, s₅, hcreate, hrest₅⟩ := run_bind_eq_ok _ hrest₄
  have hcreated := createRegistrationOrThrowConflict_ok hcreate
  obtain ⟨_, s₆, hpipeline, hret⟩ := run_bind_eq_ok _ hrest₅
  have hsame : s₆.registrations = s₅.registrations := by
    have hcalls : (enqueueRegistrationPipeline rt created).All
        fun c => ∃ job, c = .enqueuePipeline job := by
      unfold enqueueRegistrationPipeline
      split
      · exact all_tryCatch (all_call ⟨_, rfl⟩) fun _ => trivial
      · trivial
    have := run_invariant (machine rt ch) (I := fun u => u.registrations = s₅.registrations)
      (by rintro c ⟨job, rfl⟩ u hu; exact hu) hcalls (s := s₅) rfl
    rwa [hpipeline] at this
  cases hret
  exact ⟨hcreated.key, hcreated.event, hcreated.attendeeType, hcreated.externalId,
    fun r => hsame ▸ hcreated.rows r⟩

end RegistrationsService

end CreativeBackend
