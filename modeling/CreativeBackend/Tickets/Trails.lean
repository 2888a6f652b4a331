import CreativeBackend.Interaction.OwnLog
import CreativeBackend.Tickets.Files

/-!
# What a ticket call has done so far

A call looks for the row of a ticket, draws a name, writes the picture, upserts the row and deletes
the file of the row that it has read. The trail of a call says how far its log has come, and each
step follows from the trail.
-/

namespace CreativeBackend.Tickets

open Relational Interaction Path DigitalTicketImageService

abbrev TicketEvent := Interaction.Event TicketResp Exn TicketStore

abbrev TicketWorld := World TicketResp Exn TicketStore

abbrev TicketPool := Interaction.Config TicketResp Exn TicketWorld

/-! ## Operations -/

/-- The operations on tickets, and the QR token of a registration. -/
inductive TicketOp where
  | generateForRegistration (registrationId : Id) (dto : GenerateDigitalTicketDto)
  | resolveUsableForRegistration (registrationId : Id)
  | resolveForRegistration (registration : RegistrationLike)
  | pipelineJob (job : PipelineJob)
  | generationJob (job : TicketJob)
  | generateQr (registrationId : Id)
  | revokeQr (registrationId : Id)

def TicketOp.program (rt : Runtime) : TicketOp → TicketSvc Unit
  | generateForRegistration registrationId dto =>
      (DigitalTicketsService.generateForRegistration rt registrationId dto).void
  | resolveUsableForRegistration registrationId =>
      (DigitalTicketsService.resolveUsableForRegistration rt registrationId).void
  | resolveForRegistration registration =>
      (DigitalTicketStatusService.resolveForRegistration registration).void
  | pipelineJob job => (RegistrationPipelineProcessor.process rt job).void
  | generationJob job => (DigitalTicketGenerationProcessor.process rt job).void
  | generateQr registrationId => (onStore (QrService.generate rt registrationId)).void
  | revokeQr registrationId => (onStore (QrService.revoke rt registrationId)).void

/-- The operations over the store. Others may change everything but the rows and the names of
pictures. A strict service loses no file, and none of its calls fails by chance. -/
def ticketService (rt : Runtime) (strict : Prop) : Service TicketResp Exn TicketStore where
  Choice := TicketChoice
  machine := ticketMachine rt
  faulty _ := ¬ strict
  env s s' := s'.images = s.images ∧ s'.uuids = s.uuids ∧ (strict → s'.files = s.files)
  starts s p s' := s' = s ∧ ∃ op : TicketOp, p = op.program rt

/-! ## Trails -/

/-- How far a call has come: the ticket that it looked for last and the row that it found, the
name that it drew, whether the picture is written, what it upserted, the row that it had read
before, and whether it tried to delete the file of that row. -/
structure Trail where
  ticket : Option (Id × Id × Nat) := none
  read : Option DigitalTicketImage := none
  uuid : Option String := none
  written : Bool := false
  upserted : Option DigitalTicketImage := none
  displaced : Option DigitalTicketImage := none
  unlinked : Bool := false

def Trail.after (tr : Trail) : (c : TicketCall) → Except Exn (TicketResp c) → Trail
  | .imageFind registrationId templateId version, .ok found =>
      { tr with ticket := some (registrationId, templateId, version), read := found }
  | .randomUUID, .ok uuid => { tr with uuid := some uuid }
  | .writeFile _ _, .ok _ => { tr with written := true }
  | .imageUpsert data, .ok _ => { tr with upserted := some data, displaced := tr.read }
  | .unlink _, _ => { tr with unlinked := true }
  | _, _ => tr

def trail : List TicketEvent → Trail
  | [] => {}
  | e :: log => (trail log).after e.call e.answer

@[simp] theorem trail_cons (t : Nat) (c : TicketCall) (r : Except Exn (TicketResp c))
    (s : TicketStore) (log : List TicketEvent) :
    trail (⟨t, c, r, s⟩ :: log) = (trail log).after c r := rfl

/-- The call has not drawn a name yet. -/
structure Trail.Idle (tr : Trail) : Prop where
  uuid : tr.uuid = none
  written : tr.written = false
  upserted : tr.upserted = none
  displaced : tr.displaced = none
  unlinked : tr.unlinked = false

/-- Nothing is left to be done: a picture that was written has its row, and the file that the row
had named before is deleted, if it is another one that can be deleted. -/
structure Trail.Done (tr : Trail) : Prop where
  upserted : tr.written = true → tr.upserted.isSome = true
  unlinked : ∀ old, tr.displaced = some old → tr.unlinked = true ∨ old.relativePath = "" ∨
    (∃ data, tr.upserted = some data ∧ old.relativePath = data.relativePath) ∨
      ∃ reason, deletedPath (some old.relativePath) GENERATED_TICKET_DIR = .error reason

theorem Trail.Idle.done {tr : Trail} (h : tr.Idle) : tr.Done where
  upserted hw := by
    rw [h.written] at hw
    cases hw
  unlinked old hd := by
    rw [h.displaced] at hd
    cases hd

/-- What the trail of a call says before its next step. -/
def ticketRule (log : List TicketEvent) : TicketCall → Prop
  | .imageFind _ _ _ => (trail log).Idle
  | .randomUUID => (trail log).Idle
  | .writeFile path png => (trail log).written = false ∧ (trail log).upserted = none ∧
      0 < png.size ∧ ∃ uuid, (trail log).uuid = some uuid ∧ path = generatedFile uuid
  | .imageUpsert data => (trail log).written = true ∧ (trail log).upserted = none ∧
      (trail log).ticket = some (data.registrationId, data.templateId, data.templateVersion) ∧
      ∃ uuid, (trail log).uuid = some uuid ∧ data.relativePath = generatedPath uuid
  | .unlink path => (trail log).upserted.isSome = true ∧ ∃ old, (trail log).displaced = some old ∧
      deletedPath (some old.relativePath) GENERATED_TICKET_DIR = .ok path
  | .templateUpdate _ _ _ => False
  | _ => True

/-- What the store can answer: no picture is empty, an upsert returns the row with the new path,
and in a strict service a picture that was rendered gets its file and its row. -/
def ticketAnswers (strict : Prop) (_ : List TicketEvent) :
    (c : TicketCall) → Except Exn (TicketResp c) → TicketStore → Prop
  | .render _, .ok png, _ => 0 < png.size
  | .imageUpsert data, .ok row, _ => row.relativePath = data.relativePath
  | .imageUpsert _, .error _, _ => ¬ strict
  | .writeFile _ _, .error _, _ => ¬ strict
  | .base .now, .error _, _ => ¬ strict
  | _, _, _ => True

theorem answers_of_outcome {rt : Runtime} {strict : Prop} {c : TicketCall}
    {x : Except Exn (TicketResp c)} {s s' : TicketStore}
    (ho : (ticketService rt strict).Outcome c s x s') (log : List TicketEvent) :
    ticketAnswers strict log c x s := by
  rcases ho with ⟨ch, hstep⟩ | ⟨hfaulty, -, e, rfl⟩
  · cases c with
    | render input =>
        cases hstep
        exact Nat.succ_pos _
    | imageUpsert data =>
        obtain ⟨row, s₁, hupsert, hspec⟩ := s.exists_upsertImage data
        cases hupsert.symm.trans hstep
        exact hspec.path
    | writeFile path png =>
        cases hstep
        trivial
    | base c =>
        cases c with
        | now =>
            cases hstep
            trivial
        | _ => cases x <;> trivial
    | _ => cases x <;> trivial
  · cases c with
    | imageUpsert data => exact hfaulty
    | writeFile path png => exact hfaulty
    | base c =>
        cases c with
        | now => exact hfaulty
        | _ => trivial
    | _ => trivial

/-! ## Calls without a trail -/

/-- The calls that leave the trail alone and may always be made. -/
def TicketCall.neutral : TicketCall → Bool
  | .imageFind _ _ _ => false
  | .randomUUID => false
  | .writeFile _ _ => false
  | .imageUpsert _ => false
  | .unlink _ => false
  | .templateUpdate _ _ _ => false
  | _ => true

theorem trail_of_neutral {c : TicketCall} (hc : c.neutral = true) (tr : Trail)
    (x : Except Exn (TicketResp c)) : tr.after c x = tr := by
  cases c <;> first | rfl | cases hc

theorem rule_of_neutral {c : TicketCall} (hc : c.neutral = true) (log : List TicketEvent) :
    ticketRule log c := by
  cases c <;> trivial

/-- Every call of the program is neutral. -/
abbrev Neutral {α : Type} (p : TicketSvc α) : Prop := p.All fun c => c.neutral = true

theorem neutral_call {c : TicketCall} (hc : c.neutral = true) : Neutral (ticketCall c) :=
  Prog.all_call hc

theorem neutral_onStore {α : Type} (p : Svc α) : Neutral (onStore p) :=
  TicketCall.embedding.all_embed (fun _ _ => rfl) (Prog.all_true p)

section Neutral

open CreativeBackend.Tickets.DigitalTicketsService

variable (rt : Runtime)

theorem neutral_findRegistration (registrationId : Id) : Neutral (findRegistration registrationId) := by
  refine Prog.all_bind (neutral_call rfl) fun found => ?_
  cases found <;> trivial

theorem neutral_findActiveTemplate (registration : Registration) :
    Neutral (findActiveTemplateForRegistration registration) := by
  refine Prog.all_bind (neutral_call rfl) fun templates => ?_
  cases pickTemplate registration.attendeeTypeId templates <;> trivial

theorem neutral_isGeneratedImageUsable (relativePath : Option String) :
    Neutral (isGeneratedImageUsable relativePath) := by
  unfold isGeneratedImageUsable
  split
  · trivial
  · exact Prog.all_tryCatch (Prog.all_bind (neutral_call rfl) fun _ => trivial) fun _ => trivial

theorem neutral_usableImage (existingImage : Option DigitalTicketImage) :
    Neutral (usableImage existingImage) := by
  unfold usableImage
  split
  · trivial
  · refine Prog.all_bind (neutral_isGeneratedImageUsable _) fun usable => ?_
    exact Prog.all_ite trivial trivial

theorem neutral_validateSelectedFields (eventId : Id) (value : Json) :
    Neutral (validateSelectedFields eventId value) := by
  refine Prog.all_bind (Prog.all_bind (neutral_call rfl) fun event => ?_) fun keys =>
    Prog.all_ite trivial trivial
  cases event with
  | none => trivial
  | some event => exact Prog.all_bind (neutral_call rfl) fun _ => trivial

theorem neutral_buildRenderInput (registration : RegistrationView) (template : TicketTemplate) :
    Neutral (buildRenderInput rt registration template) := by
  refine Prog.all_bind (neutral_validateSelectedFields _ _) fun _ => ?_
  refine Prog.all_bind (neutral_onStore _) fun qr => ?_
  exact Prog.all_bind (neutral_onStore _) fun _ => trivial

end Neutral

/-! ## Calls along their trails -/

section Along

open CreativeBackend.Tickets.DigitalTicketsService

variable {rt : Runtime} {strict : Prop} {t : Nat} {α β : Type} {tr : Trail} {log : List TicketEvent}

/-- The program follows the rule, and ends with `Q` of its trail and its result. -/
abbrev Follows (strict : Prop) (t : Nat) (p : TicketSvc α) (Q : Trail → Except Exn α → Prop)
    (log : List TicketEvent) : Prop :=
  p.Along ticketRule (ticketAnswers strict) t (fun log x => Q (trail log) x) log

theorem follows_neutral {p : TicketSvc α} (hp : Neutral p) (hlog : trail log = tr) :
    Follows strict t p (fun tr' _ => tr' = tr) log := by
  apply Prog.along_of_all (F := fun log => trail log = tr) ?_ ?_ hp hlog
  · intro log c r s hc hlog _
    rw [trail_cons, trail_of_neutral hc, hlog]
  · exact fun log c hc _ => rule_of_neutral hc log

/-- A neutral part comes first. -/
theorem follows_neutral_bind {p : TicketSvc α} {f : α → TicketSvc β}
    {Q : Trail → Except Exn β → Prop} (hp : Neutral p) (hlog : trail log = tr)
    (hok : ∀ log a, trail log = tr → Follows strict t (f a) Q log)
    (herr : ∀ e, Q tr (.error e)) : Follows strict t (p.bind f) Q log := by
  apply Prog.along_bind (follows_neutral hp hlog)
  · exact fun log a hlog => hok log a hlog
  · rintro log e rfl
    exact herr e

/-- The trail after a picture was saved and its row upserted. -/
structure Saved (tr : Trail) (data : DigitalTicketImage) (tr' : Trail) : Prop where
  written : tr'.written = true
  upserted : tr'.upserted = some data
  displaced : tr'.displaced = tr.read

/-- The trail is done, unless a call may have failed. -/
def Ends (strict : Prop) (tr : Trail) : Prop := strict → tr.Done

theorem follows_saveGeneratedImage {eventId registrationId templateId : Id} {version : Nat}
    {png : Png} (hidle : tr.Idle) (hpng : 0 < png.size)
    (hticket : tr.ticket = some (registrationId, templateId, version)) (hlog : trail log = tr) :
    Follows strict t (saveGeneratedImage rt eventId registrationId templateId version png)
      (fun tr' x => match x with
        | .ok image => ∃ data, Saved tr data tr' ∧ image.relativePath = data.relativePath
        | .error _ => Ends strict tr') log := by
  subst hlog
  unfold saveGeneratedImage writeImage
  apply Prog.along_bind (Q := fun log' x => match x with
    | .ok file => ∃ uuid, file.relativePath = generatedPath uuid ∧
        trail log' = { trail log with uuid := some uuid, written := true }
    | .error _ => Ends strict (trail log'))
  · apply Prog.along_call_bind (R := TicketResp) (c := .randomUUID) hidle
    · intro uuid s _
      apply Prog.along_call_bind (R := TicketResp) (c := .writeFile _ png)
      · exact ⟨hidle.written, hidle.upserted, hpng, uuid, rfl, rfl⟩
      · intro _ s' _
        exact ⟨uuid, rfl, rfl⟩
      · intro e s' hfail hstrict
        exact absurd hstrict hfail
    · intro e s _ _
      exact hidle.done
  · rintro log' file ⟨uuid, hpath, htrail⟩
    apply Prog.along_call_bind (R := TicketResp) (c := .base .now) trivial
    · intro generatedAt s _
      have htrail' : trail (⟨t, .base .now, .ok generatedAt, s⟩ :: log') =
          { trail log with uuid := some uuid, written := true } := htrail
      apply Prog.along_call
      · simp only [ticketRule, htrail']
        exact ⟨trivial, hidle.upserted, hticket, uuid, rfl, hpath⟩
      · intro x s' hx
        cases x with
        | ok row =>
            refine ⟨_, ⟨?_, rfl, ?_⟩, hx⟩ <;> rw [trail_cons, htrail'] <;> rfl
        | error e => exact fun hstrict => absurd hstrict hx
    · intro e s hfail hstrict
      exact absurd hstrict hfail
  · intro log' e hends
    exact hends

/-- What deleting the file of the displaced row leaves of the trail. -/
theorem follows_deleteGeneratedImage {old : DigitalTicketImage}
    (hupserted : tr.upserted.isSome = true) (hold : tr.displaced = some old)
    (hlog : trail log = tr) :
    Follows strict t (deleteGeneratedImage (some old.relativePath))
      (fun tr' _ => tr' = { tr with unlinked := true } ∨ tr' = tr ∧
        ∃ reason, deletedPath (some old.relativePath) GENERATED_TICKET_DIR = .error reason)
      log := by
  unfold deleteGeneratedImage safeDeleteUploadFile
  cases hpath : deletedPath (some old.relativePath) GENERATED_TICKET_DIR with
  | error reason => exact .inr ⟨hlog, reason, rfl⟩
  | ok filePath =>
      dsimp only
      have hunlinked : ∀ x s, trail (⟨t, .unlink filePath, x, s⟩ :: log) =
          { tr with unlinked := true } := by
        intro x s
        rw [trail_cons, hlog]
        cases x <;> rfl
      apply Prog.along_tryCatch (Q := fun log _ => trail log = { tr with unlinked := true })
      · apply Prog.along_call_bind (R := TicketResp) (c := .unlink filePath)
        · simp only [ticketRule, hlog]
          exact ⟨hupserted, old, hold, hpath⟩
        · exact fun _ s _ => hunlinked _ s
        · exact fun e s _ => hunlinked _ s
      · exact fun log a hlog => .inl hlog
      · exact fun log e hlog => .inl hlog

theorem follows_renderTicket {registration : RegistrationView} {template : TicketTemplate}
    {existingImage : Option DigitalTicketImage} (hidle : tr.Idle) (hread : tr.read = existingImage)
    (hticket : tr.ticket =
      some (registration.registration.id, template.row.id, template.columns.version))
    (hlog : trail log = tr) :
    Follows strict t (renderTicket rt registration template existingImage)
      (fun tr' _ => Ends strict tr') log := by
  refine follows_neutral_bind (neutral_buildRenderInput rt _ _) hlog ?_ fun _ _ => hidle.done
  intro log renderInput hlog
  apply Prog.along_call_bind (R := TicketResp) (c := .render renderInput) trivial
  · intro png s hpng
    have hlog' : trail (⟨t, .render renderInput, .ok png, s⟩ :: log) = tr := hlog
    apply Prog.along_bind (follows_saveGeneratedImage hidle hpng hticket hlog')
    · rintro log image ⟨data, hsaved, himage⟩
      have hdone : ∀ tr', Saved tr data tr' → (∀ old, existingImage = some old →
          tr'.unlinked = true ∨ old.relativePath = "" ∨
            old.relativePath = image.relativePath ∨
              ∃ reason, deletedPath (some old.relativePath) GENERATED_TICKET_DIR =
                .error reason) → tr'.Done := by
        intro tr' hsaved hunlinked
        constructor
        · intro _
          rw [hsaved.upserted]
          rfl
        · intro old hold
          rw [hsaved.displaced, hread] at hold
          rcases hunlinked old hold with h | h | h | h
          · exact .inl h
          · exact .inr (.inl h)
          · exact .inr (.inr (.inl ⟨data, hsaved.upserted, h.trans himage⟩))
          · exact .inr (.inr (.inr h))
      cases existingImage with
      | none => exact fun _ => hdone _ hsaved fun old hold => by cases hold
      | some old =>
          dsimp only
          split
          · have hdisplaced : (trail log).displaced = some old := hsaved.displaced.trans hread
            have hsome : (trail log).upserted.isSome = true := by
              rw [hsaved.upserted]
              rfl
            have hended : ∀ tr', (tr' = { trail log with unlinked := true } ∨ tr' = trail log ∧
                ∃ reason, deletedPath (some old.relativePath) GENERATED_TICKET_DIR =
                  .error reason) → tr'.Done := by
              rintro tr' (rfl | ⟨rfl, hreason⟩)
              · exact hdone _ ⟨hsaved.written, hsaved.upserted, hsaved.displaced⟩ fun _ _ => .inl rfl
              · refine hdone _ hsaved fun old' hold => ?_
                cases hold
                exact .inr (.inr (.inr hreason))
            apply Prog.along_bind (follows_deleteGeneratedImage hsome hdisplaced rfl)
            · exact fun log' _ h _ => hended _ h
            · exact fun log' _ h _ => hended _ h
          · next hsame =>
              refine fun _ => hdone _ hsaved fun old' hold => ?_
              cases hold
              rcases not_and_or.mp hsame with h | h
              · exact .inr (.inl (not_not.mp h))
              · exact .inr (.inr (.inl (not_not.mp h)))
    · intro log e hends
      exact hends
  · intro e s _ _
    change ((trail log).after _ _).Done
    rw [hlog]
    exact hidle.done

/-- Looking for the row of a ticket. -/
theorem follows_findExistingImage_bind {registrationId : Id} (template : TicketTemplate)
    {f : Option DigitalTicketImage → TicketSvc β} {Q : Trail → Except Exn β → Prop}
    (hidle : tr.Idle) (hlog : trail log = tr)
    (hok : ∀ log found, trail log = { tr with
        ticket := some (registrationId, template.row.id, template.columns.version)
        read := found } → Follows strict t (f found) Q log)
    (herr : ∀ e, Q tr (.error e)) :
    Follows strict t ((findExistingImage registrationId template).bind f) Q log := by
  apply Prog.along_call_bind (R := TicketResp)
    (c := .imageFind registrationId template.row.id template.columns.version)
  · change (trail log).Idle
    exact hlog ▸ hidle
  · intro found s _
    apply hok
    rw [trail_cons, hlog]
    rfl
  · intro e s _
    have htrail : trail (⟨t, .imageFind registrationId template.row.id template.columns.version,
        .error e, s⟩ :: log) = tr := hlog
    exact htrail ▸ herr e

theorem follows_generateForRegistration (registrationId : Id) (dto : GenerateDigitalTicketDto)
    (hidle : tr.Idle) (hlog : trail log = tr) :
    Follows strict t (generateForRegistration rt registrationId dto)
      (fun tr' _ => Ends strict tr') log := by
  refine follows_neutral_bind (neutral_findRegistration _) hlog ?_ fun _ _ => hidle.done
  intro log registration hlog
  dsimp only
  split
  · exact fun _ => hlog ▸ hidle.done
  · refine follows_neutral_bind (neutral_findActiveTemplate _) hlog ?_ fun _ _ => hidle.done
    intro log template hlog
    refine follows_findExistingImage_bind template hidle hlog ?_ fun _ _ => hidle.done
    intro log existingImage hlog
    have hidle' : Trail.Idle { tr with
        ticket := some (registration.registration.id, template.row.id, template.columns.version)
        read := existingImage } :=
      ⟨hidle.uuid, hidle.written, hidle.upserted, hidle.displaced, hidle.unlinked⟩
    split
    · exact follows_renderTicket hidle' rfl rfl hlog
    · refine follows_neutral_bind (neutral_usableImage _) hlog ?_ fun _ _ => hidle'.done
      intro log usable hlog
      cases usable with
      | some image => exact fun _ => hlog ▸ hidle'.done
      | none => exact follows_renderTicket hidle' rfl rfl hlog

theorem follows_resolveUsableForRegistration (registrationId : Id) (hidle : tr.Idle)
    (hlog : trail log = tr) :
    Follows strict t (resolveUsableForRegistration rt registrationId)
      (fun tr' _ => Ends strict tr') log := by
  refine follows_neutral_bind (neutral_findRegistration _) hlog ?_ fun _ _ => hidle.done
  intro log registration hlog
  refine follows_neutral_bind (neutral_findActiveTemplate _) hlog ?_ fun _ _ => hidle.done
  intro log template hlog
  refine follows_findExistingImage_bind template hidle hlog ?_ fun _ _ => hidle.done
  intro log existingImage hlog
  have hidle' : Trail.Idle { tr with
      ticket := some (registration.registration.id, template.row.id, template.columns.version)
      read := existingImage } :=
    ⟨hidle.uuid, hidle.written, hidle.upserted, hidle.displaced, hidle.unlinked⟩
  refine follows_neutral_bind (neutral_usableImage _) hlog ?_ fun _ _ => hidle'.done
  intro log usable hlog
  cases usable with
  | some image => exact fun _ => hlog ▸ hidle'.done
  | none =>
      apply Prog.along_bind (follows_generateForRegistration registrationId {} hidle' hlog)
      · exact fun log _ h => h
      · exact fun log _ h => h

theorem neutral_enqueueRegeneration (registration : RegistrationLike) :
    Neutral (DigitalTicketStatusService.enqueueRegeneration registration) :=
  Prog.all_tryCatch (neutral_onStore _) fun _ => trivial

theorem follows_resolveForRegistration (registration : RegistrationLike) (hidle : tr.Idle)
    (hlog : trail log = tr) :
    Follows strict t (DigitalTicketStatusService.resolveForRegistration registration)
      (fun tr' _ => Ends strict tr') log := by
  refine follows_neutral_bind (neutral_call rfl) hlog ?_ fun _ _ => hidle.done
  intro log templates hlog
  split
  · exact fun _ => hlog ▸ hidle.done
  · next template _ =>
      refine follows_findExistingImage_bind template hidle hlog ?_ fun _ _ => hidle.done
      intro log existingImage hlog
      have hidle' : Trail.Idle { tr with
          ticket := some (registration.id, template.row.id, template.columns.version)
          read := existingImage } :=
        ⟨hidle.uuid, hidle.written, hidle.upserted, hidle.displaced, hidle.unlinked⟩
      refine follows_neutral_bind (neutral_usableImage _) hlog ?_ fun _ _ => hidle'.done
      intro log usable hlog
      cases usable with
      | some image => exact fun _ => hlog ▸ hidle'.done
      | none =>
          dsimp only
          split
          · refine follows_neutral_bind (neutral_enqueueRegeneration _) hlog ?_ fun _ _ =>
              hidle'.done
            exact fun log _ hlog _ => hlog ▸ hidle'.done
          · exact fun _ => hlog ▸ hidle'.done

theorem neutral_enqueueDigitalTicketGeneration (registrationId eventId : Id) :
    Neutral (RegistrationPipelineProcessor.enqueueDigitalTicketGeneration registrationId
      eventId) := by
  refine Prog.all_tryCatch ?_ fun _ => trivial
  refine Prog.all_bind ?_ fun template => ?_
  · exact Prog.all_bind (neutral_findRegistration _) fun _ => neutral_findActiveTemplate _
  · refine Prog.all_bind (neutral_call rfl) fun existing => ?_
    cases existing with
    | some job => trivial
    | none => exact Prog.all_bind (neutral_call rfl) fun _ => trivial

theorem neutral_process (rt : Runtime) (job : PipelineJob) :
    Neutral (RegistrationPipelineProcessor.process rt job) := by
  refine Prog.all_bind (neutral_call rfl) fun found => ?_
  cases found with
  | none => trivial
  | some registration =>
      refine Prog.all_ite trivial ?_
      refine Prog.all_bind (neutral_call rfl) fun _ => ?_
      refine Prog.all_bind (neutral_onStore _) fun _ => ?_
      refine Prog.all_bind (neutral_onStore _) fun _ => Prog.all_ite trivial ?_
      exact Prog.all_bind (neutral_enqueueDigitalTicketGeneration _ _) fun _ => trivial

/-- Every operation follows the rule, from an empty log to its end. -/
theorem follows_program (op : TicketOp) (t : Nat) :
    (op.program rt).Along ticketRule (ticketAnswers strict) t
      (fun log _ => Ends strict (trail log)) [] := by
  have hidle : Trail.Idle (trail []) := ⟨rfl, rfl, rfl, rfl, rfl⟩
  have hvoid : ∀ {α : Type} {p : TicketSvc α},
      Follows strict t p (fun tr' _ => Ends strict tr') [] →
        p.void.Along ticketRule (ticketAnswers strict) t
          (fun log _ => Ends strict (trail log)) [] :=
    fun hp => Prog.along_bind hp (fun _ _ h => h) fun _ _ h => h
  have hneutral : ∀ {α : Type} {p : TicketSvc α}, Neutral p →
      Follows strict t p (fun tr' _ => Ends strict tr') [] := fun hp =>
    (follows_neutral hp rfl).mono fun _ _ htrail _ => htrail ▸ hidle.done
  cases op with
  | generateForRegistration registrationId dto =>
      exact hvoid (follows_generateForRegistration registrationId dto hidle rfl)
  | resolveUsableForRegistration registrationId =>
      exact hvoid (follows_resolveUsableForRegistration registrationId hidle rfl)
  | resolveForRegistration registration =>
      exact hvoid (follows_resolveForRegistration registration hidle rfl)
  | pipelineJob job => exact hvoid (hneutral (neutral_process rt job))
  | generationJob job => exact hvoid (follows_generateForRegistration _ _ hidle rfl)
  | generateQr registrationId => exact hvoid (hneutral (neutral_onStore _))
  | revokeQr registrationId => exact hvoid (hneutral (neutral_onStore _))

end Along

end CreativeBackend.Tickets
