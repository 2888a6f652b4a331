import CreativeBackend.Tickets.Rendering

/-!
# Tickets that are pending

A ticket is pending while there is no usable picture for the template and its version. What would
bring it on its way is a job of the pipeline, which adds a job of ticket generation unless one is
kept under the same id, or a job of ticket generation itself. Only a row whose picture is missing
makes the status add a job.
-/

namespace CreativeBackend

open Relational Interaction

/-! ## The token again -/

namespace QrService

variable {rt : Runtime} {ch : Choice} {s s' : Store}

/-- Another job of the pipeline. -/
def withPipelineJob (job : PipelineJob) (s : Store) : Store :=
  { s with pipelineJobs := s.pipelineJobs ++ [job] }

/-- Formatting does not look at the jobs of the pipeline. -/
theorem machine_withPipelineJob {c : Call} (hc : c.formats = true) (job : PipelineJob) (s : Store) :
    machine rt ch c (withPipelineJob job s) =
      ((machine rt ch c s).1, withPipelineJob job (machine rt ch c s).2) := by
  cases c with
  | registrationWithRelations id =>
      simp only [machine, withPipelineJob]
      cases s.registrations.find? id <;> rfl
  | imageWrite filename =>
      simp only [machine]
      split <;> rfl
  | qrTokenRefresh old d =>
      simp only [machine, Store.refreshQrToken, withPipelineJob]
      cases s.qrTokens.find? old.id with
      | none => rfl
      | some q =>
          dsimp only
          split
          · cases s.qrTokens.update old.id (Store.applyQrToken s.clock d) <;> rfl
          · rfl
  | qrTokenCreate d =>
      change (withPipelineJob job s).createQrToken d =
        ((s.createQrToken d).1, withPipelineJob job (s.createQrToken d).2)
      unfold Store.createQrToken
      by_cases hrefers :
          (Store.refers s.registrations d.registrationId && Store.refers s.events d.eventId) = true
      · rw [if_pos hrefers, if_pos (show (Store.refers (withPipelineJob job s).registrations
          d.registrationId && Store.refers (withPipelineJob job s).events d.eventId) = true from
            hrefers)]
        dsimp only [withPipelineJob]
        cases s.qrTokens.create (Store.qrTokenRow s.clock d) <;> rfl
      · rw [if_neg hrefers]
        exact if_neg hrefers
  | _ => first | rfl | exact Bool.noConfusion hc

/-- So a token can be generated as before. -/
theorem exists_generate_withPipelineJob {registrationId : Id} {qr : FormattedQr}
    (h : (generate rt registrationId).run (machine rt ch) s = (.ok qr, s')) (job : PipelineJob) :
    (generate rt registrationId).run (machine rt ch) (withPipelineJob job s) =
      (.ok qr, withPipelineJob job s') := by
  have hmap := Prog.run_map (machine rt ch) (f := withPipelineJob job)
    (fun _ hc s => machine_withPipelineJob hc job s) (generate_formats rt registrationId) s
  rwa [h] at hmap

theorem run_findRegistrationWithRelations (rt : Runtime) (ch : Choice) (s : Store)
    (registrationId : Id) :
    (findRegistrationWithRelations registrationId).run (machine rt ch) s =
      (match s.registrations.find? registrationId with
        | none => .error (.notFound "Registration not found")
        | some r => s.registrationView r, s) := by
  simp only [findRegistrationWithRelations, Prog.bind_eq, Prog.run_bind, call, Prog.run_call, machine]
  cases s.registrations.find? registrationId with
  | none => rfl
  | some r =>
      dsimp only
      cases s.registrationView r <;> rfl

theorem exists_formatQrToken {q : QrToken} {code : String}
    (h : createCompactQrToken rt q.tokenId = .ok code) : ∃ qr, formatQrToken rt q = .ok qr := by
  unfold formatQrToken
  rw [h]
  exact ⟨_, rfl⟩

/-- `generate` returns the token that it has just issued. -/
theorem exists_generate_again {registrationId : Id} {qr : FormattedQr}
    (h : (generate rt registrationId).run (machine rt ch) s = (.ok qr, s')) {s'' : Store}
    (hsame : OnlyTokens s' s'') (htokens : s''.qrTokens = s'.qrTokens) :
    ∃ qr', (generate rt registrationId).run (machine rt ch) s'' = (.ok qr', s'') := by
  obtain ⟨q, hq, hr, hactive, hcode⟩ := generate_presents h
  obtain ⟨qr', hformat⟩ := exists_formatQrToken hcode
  have honly : OnlyTokens s s'' := by
    have hgen := (generate_formats rt registrationId).onlyTokens rt ch s
    rw [h] at hgen
    exact hgen.trans hsame
  obtain ⟨v, s₁, hfind, hrest⟩ := Prog.run_bind_eq_ok _ h
  have hstill := run_findRegistrationWithRelations rt ch s registrationId
  have hagain := run_findRegistrationWithRelations rt ch s'' registrationId
  have hview : (match s''.registrations.find? registrationId with
      | none => .error (.notFound "Registration not found")
      | some r => s''.registrationView r) = (.ok v : Except Exn RegistrationView) := by
    rw [honly]
    exact (Prod.mk.inj (hstill.symm.trans hfind)).1
  rw [hview] at hagain
  refine ⟨qr', ?_⟩
  have hexisting : (call (.qrTokenByRegistration registrationId)).run (machine rt ch) s'' =
      (.ok (some q), s'') := by
    rw [call, Prog.run_call]
    change (_, _) = _
    rw [qrTokenOf_of_mem (htokens ▸ hq) hr]
  unfold generate
  simp only [Prog.bind_eq]
  rw [Prog.run_bind_ok _ hagain]
  split at hrest
  · cases hrest
  · next hopen =>
      rw [if_neg hopen, Prog.run_bind_ok _ hexisting]
      dsimp only
      rw [if_pos hactive, Prog.run_ofExcept, hformat]

end QrService

namespace Tickets

open Path TicketStore DigitalTicketImageService
open CreativeBackend.Tickets.DigitalTicketsService

variable {rt : Runtime} {ch : TicketChoice} {s s' : TicketStore}

/-! ## Names in every run -/

/-- Whatever fails and whatever is lost, the names are kept. -/
def namesGuard (rt : Runtime) : Guard (ticketService rt False) fun _ _ _ => True where
  inv w := Names w.store (trails w)
  rule := ticketRule
  answers := ticketAnswers False
  answered _ _ _ ho := answers_of_outcome ho _
  call_inv hi _ hrule ho := by
    rw [trails_log]
    exact hi.step (moves_of_outcome hrule ho)
  env_inv hi henv := hi.congr henv.1 henv.2.1
  start_inv hi hstart := by
    rw [hstart.1]
    exact hi

theorem rowsNamed_of_reach {s₀ : TicketStore} (h₀ : RowsNamed s₀) {cfg : TicketPool}
    (hr : (ticketService rt False).system.Reach (Service.init s₀) cfg) :
    RowsNamed cfg.world.store := by
  rw [← System.restrict_true (σ := (ticketService rt False).system)] at hr
  have hgood := Guard.good_of_reach (G := namesGuard rt)
    (Q := fun _ log => Ends False (trail log)) ?_ (names_init h₀) hr
  · exact hgood.1.rows
  · rintro t s p s' ⟨-, op, rfl⟩
    exact follows_program op t

/-! ## A job of ticket generation -/

/-- What the status is asked about. -/
def likeOf (r : Registration) (source : Option RegistrationSource) : RegistrationLike where
  id := r.id
  eventId := r.eventId
  attendeeTypeId := r.attendeeTypeId
  source

/-- The status is `READY`. -/
def Ready (rt : Runtime) (ch : TicketChoice) (s : TicketStore) (registration : RegistrationLike) :
    Prop :=
  ∃ resp s', (DigitalTicketStatusService.resolveForRegistration registration).run
    (ticketMachine rt ch) s = (.ok resp, s') ∧ resp.status = .READY

/-- The ticket can be drawn: its fields are known, and a token and its image can be issued. -/
structure Renderable (rt : Runtime) (ch : TicketChoice) (s : TicketStore) (r : Registration)
    (template : TicketTemplate) : Prop where
  fields : s.knowsFields r.eventId template.columns.selectedFields = true
  token : ∃ qr b, (QrService.generate rt r.id).run (machine rt ch.toChoice) s.base = (.ok qr, b)
  image : ch.imagesWritable = true

theorem exists_generateRegistrationQrImage (rt : Runtime) {ch : Choice}
    (himage : ch.imagesWritable = true) (registrationPublicId qrToken : String) (b : Store) :
    ∃ image b', (QrImageService.generateRegistrationQrImage rt registrationPublicId qrToken).run
      (machine rt ch) b = (.ok image, b') ∧ OnlyTokens b b' ∧ b'.qrTokens = b.qrTokens := by
  simp only [QrImageService.generateRegistrationQrImage, Prog.bind_eq, Prog.run_bind, call,
    Prog.run_call, machine, himage, if_true]
  exact ⟨_, _, rfl, rfl, rfl⟩

theorem exists_buildRenderInput {v : RegistrationView} {template : TicketTemplate}
    (h : Renderable rt ch s v.registration template) :
    ∃ input s₁, (buildRenderInput rt v template).run (ticketMachine rt ch) s = (.ok input, s₁) := by
  obtain ⟨x, hfields, hiff⟩ := exists_validateSelectedFields rt ch s v.registration.eventId
    template.columns.selectedFields
  rw [hiff.mpr h.fields] at hfields
  obtain ⟨qr, b, hqr⟩ := h.token
  have hgenerate : (onStore (QrService.generate rt v.registration.id)).run (ticketMachine rt ch) s =
      (.ok qr, { s with base := b }) := by
    rw [run_onStore, hqr]
  obtain ⟨image, b', himage, -⟩ := exists_generateRegistrationQrImage rt h.image
    v.registration.publicId qr.compactQrToken b
  have hwrite : (onStore (QrImageService.generateRegistrationQrImage rt v.registration.publicId
      qr.compactQrToken)).run (ticketMachine rt ch) { s with base := b } =
      (.ok image, { s with base := b' }) := by
    rw [run_onStore, himage]
  unfold buildRenderInput
  simp only [Prog.bind_eq]
  rw [Prog.run_bind_ok _ hfields, Prog.run_bind_ok _ hgenerate, Prog.run_bind_ok _ hwrite]
  exact ⟨_, _, rfl⟩

/-- The template is a matter of the templates and their columns. -/
theorem templateFor_congr (h : SameSources s s') (ch : Choice) (eventId attendeeTypeId : Id) :
    s'.templateFor ch eventId attendeeTypeId = s.templateFor ch eventId attendeeTypeId := by
  have htemplates : s'.base.ticketTemplates = s.base.ticketTemplates := by
    rw [h.base]
  have htemplate : s'.template = s.template := by
    funext t
    unfold TicketStore.template
    rw [h.columns]
  unfold TicketStore.templateFor TicketStore.templatesFor
  rw [htemplates, htemplate]

/-- A new picture for the current template makes the status `READY`. -/
theorem ready_of_rendered {image : DigitalTicketImage} {png : Png}
    (h : Rendered rt s image png s') {registration : RegistrationLike} {template : TicketTemplate}
    (htemplate : s'.templateFor ch.toChoice registration.eventId registration.attendeeTypeId =
      some template)
    (hr : image.registrationId = registration.id) (ht : image.templateId = template.row.id)
    (hv : image.templateVersion = template.columns.version) : Ready rt ch s' registration := by
  have hrow : image ∈ s'.images.rows := (h.rows image).mpr (.inr rfl)
  have hof : s'.imageOf registration.id template.row.id template.columns.version = some image := by
    rw [← hr, ← ht, ← hv]
    exact imageOf_of_mem hrow
  have hdrawn : s'.Drawn (fresh s.uuids) := by
    refine ⟨s.uuids, ?_, rfl⟩
    rw [h.uuids]
    exact Nat.lt_succ_self _
  have hshown : s'.Shown image := by
    rw [Shown, h.path]
    exact ⟨_, _, resolve_of_drawn hdrawn, h.file, h.size⟩
  rcases resolveForRegistration_of_template rt htemplate with
    ⟨i, -, -, hrun⟩ | ⟨i, hi, hnot, -⟩ | ⟨hnone, -⟩
  · exact ⟨_, _, hrun, rfl⟩
  · cases hof.symm.trans hi
    exact absurd hshown hnot
  · rw [hof] at hnone
    cases hnone

/-- A ticket that is missing is generated, and then the status is `READY`. -/
theorem exists_generateForRegistration (hs : RowsNamed s) {r : Registration} {v : RegistrationView}
    {template : TicketTemplate} (h : Eligible rt ch s r.id v template) (hview : v.registration = r)
    (hrender : Renderable rt ch s r template)
    (hmissing : ∀ image, s.imageOf r.id template.row.id template.columns.version = some image →
      ¬ s.Shown image) (dto : GenerateDigitalTicketDto) (source : Option RegistrationSource) :
    ∃ g s', (generateForRegistration rt r.id dto).run (ticketMachine rt ch) s = (.ok g, s') ∧
      Ready rt ch s' (likeOf r source) := by
  subst hview
  obtain ⟨input, s₁, hbuild⟩ := exists_buildRenderInput hrender
  obtain ⟨g, s', hrun, hrendered, hr, ht, hv, hsources⟩ := exists_renderTicket hs hbuild
  rcases generateForRegistration_of_eligible h dto with ⟨image, -, hof, hshown, -⟩ | ⟨-, hgenerate⟩
  · exact absurd hshown (hmissing image hof)
  · refine ⟨g, s', hgenerate.trans hrun, ready_of_rendered hrendered ?_ hr ht hv⟩
    exact (templateFor_congr hsources _ _ _).trans h.template

/-! ## A job of the pipeline -/

theorem run_findRegistration (rt : Runtime) (ch : TicketChoice) (s : TicketStore)
    (registrationId : Id) :
    (findRegistration registrationId).run (ticketMachine rt ch) s =
      (match s.base.registrations.find? registrationId with
        | none => .error (.notFound "Registration not found")
        | some r => s.base.registrationView r, s) := by
  simp only [findRegistration, Prog.bind_eq, Prog.run_bind, ticketCall, Prog.run_call, ticketMachine,
    machine]
  cases s.base.registrations.find? registrationId with
  | none => rfl
  | some r =>
      dsimp only
      cases s.base.registrationView r <;> rfl

/-- The registration is a matter of the rows that formatting leaves alone. -/
theorem findRegistration_congr {b : Store} (h : OnlyTokens s.base b) (hbase : s'.base = b)
    {registrationId : Id} {v : RegistrationView}
    (hfound : (findRegistration registrationId).run (ticketMachine rt ch) s = (.ok v, s)) :
    (findRegistration registrationId).run (ticketMachine rt ch) s' = (.ok v, s') := by
  rw [run_findRegistration] at hfound ⊢
  rw [hbase, h]
  exact congrArg (·, s') (Prod.mk.inj hfound).1

theorem Eligible.congr {registrationId : Id} {v : RegistrationView} {template : TicketTemplate}
    (h : Eligible rt ch s registrationId v template) (hbase : OnlyTokens s.base s'.base)
    (hcolumns : s'.columns = s.columns) : Eligible rt ch s' registrationId v template where
  found := findRegistration_congr hbase rfl h.found
  active := h.active
  template := by
    have hsources : SameSources s { s' with ticketJobs := s.ticketJobs } := ⟨hbase, hcolumns, rfl⟩
    exact (templateFor_congr hsources _ _ _).trans h.template

/-- The job that the pipeline adds. -/
def generationJobFor (r : Registration) (template : TicketTemplate) : TicketJob where
  jobId := RegistrationPipelineProcessor.ticketJobId r.id template.columns.version
  registrationId := r.id
  eventId := r.eventId

/-- A job under a new id is added. -/
theorem run_enqueueDigitalTicketGeneration {r : Registration} {v : RegistrationView}
    {template : TicketTemplate} (h : Eligible rt ch s r.id v template)
    (hfree : ∀ j ∈ s.ticketJobs,
      j.jobId ≠ RegistrationPipelineProcessor.ticketJobId r.id template.columns.version) :
    ∃ queued, (RegistrationPipelineProcessor.enqueueDigitalTicketGeneration r.id r.eventId).run
      (ticketMachine rt ch) s =
        (.ok queued, { s with ticketJobs := s.ticketJobs ++ [generationJobFor r template] }) := by
  have htemplate := run_findActiveTemplateForRegistration rt ch s v.registration
  rw [h.template] at htemplate
  have hresolve : (resolveActiveTemplateForRegistration r.id).run (ticketMachine rt ch) s =
      (.ok template, s) := by
    unfold resolveActiveTemplateForRegistration
    simp only [Prog.bind_eq]
    rw [Prog.run_bind_ok _ h.found, htemplate]
  have hget : (ticketCall (.ticketJobGet (RegistrationPipelineProcessor.ticketJobId r.id
      template.columns.version))).run (ticketMachine rt ch) s = (.ok none, s) := by
    rw [ticketCall, Prog.run_call]
    change (_, _) = _
    rw [List.find?_eq_none.mpr]
    intro j hj
    simpa using hfree j hj
  have hadd : (ticketCall (.ticketJobAdd {
      jobId := RegistrationPipelineProcessor.ticketJobId r.id template.columns.version
      registrationId := r.id
      eventId := r.eventId })).run (ticketMachine rt ch) s =
      (.ok (), { s with ticketJobs := s.ticketJobs ++ [generationJobFor r template] }) := by
    have hnone : ¬ s.ticketJobs.any (fun j => j.jobId =
        RegistrationPipelineProcessor.ticketJobId r.id template.columns.version) = true := by
      intro hany
      obtain ⟨j, hj, hid⟩ := List.any_eq_true.mp hany
      exact hfree j hj (of_decide_eq_true hid)
    rw [ticketCall, Prog.run_call]
    change (_, s.addTicketJob _) = _
    rw [TicketStore.addTicketJob, if_neg hnone]
    rfl
  unfold RegistrationPipelineProcessor.enqueueDigitalTicketGeneration
  simp only [Prog.tryCatch_eq, Prog.bind_eq]
  rw [Prog.run_tryCatch, Prog.run_bind_ok _ hresolve, Prog.run_bind_ok _ hget]
  dsimp only
  rw [Prog.run_bind_ok _ hadd]
  exact ⟨_, rfl⟩

/-- A job of the pipeline issues the token and adds the job that renders the ticket. -/
theorem exists_process {job : PipelineJob} {r : Registration} {v : RegistrationView}
    {template : TicketTemplate} (hrow : s.base.registrations.find? job.registrationId = some r)
    (h : Eligible rt ch s r.id v template) (hview : v.registration = r)
    (hrender : Renderable rt ch s r template) (hskip : job.skipDigitalTicket = false)
    (hsource : job.source ≠ .EXCEL_IMPORT)
    (hfree : ∀ j ∈ s.ticketJobs,
      j.jobId ≠ RegistrationPipelineProcessor.ticketJobId r.id template.columns.version) :
    ∃ result b, (RegistrationPipelineProcessor.process rt job).run (ticketMachine rt ch) s =
        (.ok result, { s with base := b, ticketJobs := s.ticketJobs ++ [generationJobFor r template] }) ∧
      OnlyTokens s.base b ∧
      ∃ qr, (QrService.generate rt r.id).run (machine rt ch.toChoice) b = (.ok qr, b) := by
  subst hview
  have hfind : (ticketCall (.base (.registrationById job.registrationId))).run (ticketMachine rt ch) s =
      (.ok (some v.registration), s) := by
    rw [ticketCall, Prog.run_call]
    change (Except.ok (s.base.registrations.find? job.registrationId), s) = _
    rw [hrow]
  have hstored : (ticketCall (.base (.qrTokenByRegistration v.registration.id))).run
      (ticketMachine rt ch) s = (.ok (s.base.qrTokenOf v.registration.id), s) := Prog.run_call _ _ _
  obtain ⟨qr, b, hqr⟩ := hrender.token
  have hgenerate : (onStore (QrService.generate rt v.registration.id)).run (ticketMachine rt ch) s =
      (.ok qr, { s with base := b }) := by
    rw [run_onStore, hqr]
  obtain ⟨image, b', himage, hafter, htokens⟩ := exists_generateRegistrationQrImage rt hrender.image
    v.registration.publicId qr.qrToken b
  have hwrite : (onStore (QrImageService.generateRegistrationQrImage rt v.registration.publicId
      qr.qrToken)).run (ticketMachine rt ch) { s with base := b } =
      (.ok image, { s with base := b' }) := by
    rw [run_onStore, himage]
  have hgen : OnlyTokens s.base b := by
    have honly := (QrService.generate_formats rt v.registration.id).onlyTokens rt ch.toChoice s.base
    rwa [hqr] at honly
  have heligible : Eligible rt ch { s with base := b' } v.registration.id v template :=
    h.congr (hgen.trans hafter) rfl
  obtain ⟨queued, henqueue⟩ := run_enqueueDigitalTicketGeneration heligible hfree
  obtain ⟨qr', hagain⟩ := QrService.exists_generate_again hqr hafter htokens
  unfold RegistrationPipelineProcessor.process
  simp only [Prog.bind_eq]
  rw [Prog.run_bind_ok _ hfind]
  dsimp only
  rw [if_neg (not_not.mpr h.active), Prog.run_bind_ok _ hstored, Prog.run_bind_ok _ hgenerate,
    Prog.run_bind_ok _ hwrite, if_neg (by simp [hskip, hsource]), Prog.run_bind_ok _ henqueue]
  exact ⟨_, b', rfl, hgen.trans hafter, qr', hagain⟩

/-! ## On its way -/

/-- A job is pending whose execution, with the job that it adds, makes the status `READY`. -/
inductive OnItsWay (rt : Runtime) (ch : TicketChoice) (s : TicketStore)
    (registration : RegistrationLike) : Prop
  | generation {job g s₁} (hjob : job ∈ s.ticketJobs) (hlive : job.live = true)
      (hrun : (DigitalTicketGenerationProcessor.process rt job).run (ticketMachine rt ch) s =
        (.ok g, s₁))
      (hready : Ready rt ch s₁ registration)
  | pipeline {job result s₁ added g s₂} (hjob : job ∈ s.base.pipelineJobs)
      (hrun : (RegistrationPipelineProcessor.process rt job).run (ticketMachine rt ch) s =
        (.ok result, s₁))
      (hadded : s₁.ticketJobs = s.ticketJobs ++ [added])
      (hgenerate : (DigitalTicketGenerationProcessor.process rt added).run (ticketMachine rt ch) s₁ =
        (.ok g, s₂))
      (hready : Ready rt ch s₂ registration)

/-- A job of ticket generation is pending for the registration, or one can be added under the id of
the template's version and a job of the pipeline is pending or will be added for a row whose
picture is missing. -/
def JobComes (s : TicketStore) (r : Registration) (template : TicketTemplate) : Prop :=
  (∃ job ∈ s.ticketJobs, job.live = true ∧ job.registrationId = r.id) ∨
    (∀ job ∈ s.ticketJobs,
      job.jobId ≠ RegistrationPipelineProcessor.ticketJobId r.id template.columns.version) ∧
      ((s.imageOf r.id template.row.id template.columns.version).isSome ∨
        ∃ job ∈ s.base.pipelineJobs, job.registrationId = r.id ∧ job.skipDigitalTicket = false ∧
          job.source ≠ .EXCEL_IMPORT)

/-- The ticket can be drawn, and a job for it comes. -/
structure Coming (rt : Runtime) (ch : TicketChoice) (s : TicketStore) (r : Registration)
    (template : TicketTemplate) : Prop where
  renderable : Renderable rt ch s r template
  job : JobComes s r template

/-- The pictures, the templates and the jobs after the status was asked for are those before, and a
job of the pipeline may be new. -/
theorem Renderable.addPipelineJob {r : Registration} {template : TicketTemplate}
    (h : Renderable rt ch s r template) (job : PipelineJob) :
    Renderable rt ch (s.addPipelineJob job) r template where
  fields := h.fields
  token := by
    obtain ⟨qr, b, hqr⟩ := h.token
    exact ⟨qr, _, QrService.exists_generate_withPipelineJob hqr job⟩
  image := h.image

theorem Eligible.addPipelineJob {registrationId : Id} {v : RegistrationView}
    {template : TicketTemplate} (h : Eligible rt ch s registrationId v template)
    (job : PipelineJob) : Eligible rt ch (s.addPipelineJob job) registrationId v template where
  found := by
    have hfound := h.found
    rw [run_findRegistration] at hfound ⊢
    exact congrArg (·, s.addPipelineJob job) (Prod.mk.inj hfound).1
  active := h.active
  template := h.template

/-- A pending job of the pipeline brings the ticket, if its job of ticket generation is new. -/
theorem onItsWay_of_pipelineJob (hs : RowsNamed s) {r : Registration} {v : RegistrationView}
    {template : TicketTemplate} (hrow : s.base.registrations.find? r.id = some r)
    (h : Eligible rt ch s r.id v template) (hview : v.registration = r)
    (hrender : Renderable rt ch s r template)
    (hmissing : ∀ image, s.imageOf r.id template.row.id template.columns.version = some image →
      ¬ s.Shown image)
    (hfree : ∀ job ∈ s.ticketJobs,
      job.jobId ≠ RegistrationPipelineProcessor.ticketJobId r.id template.columns.version)
    {job : PipelineJob} (hjob : job ∈ s.base.pipelineJobs) (hr : job.registrationId = r.id)
    (hskip : job.skipDigitalTicket = false) (hsource : job.source ≠ .EXCEL_IMPORT)
    (source : Option RegistrationSource) : OnItsWay rt ch s (likeOf r source) := by
  obtain ⟨result, b, hrun, honly, qr, hqr⟩ :=
    exists_process (hr ▸ hrow) h hview hrender hskip hsource hfree
  have hrender' : Renderable rt ch { s with
      base := b
      ticketJobs := s.ticketJobs ++ [generationJobFor r template] } r template := by
    refine ⟨?_, ⟨qr, b, hqr⟩, hrender.image⟩
    have hfields := hrender.fields
    unfold knowsFields activeFieldKeys at hfields ⊢
    rw [honly]
    exact hfields
  have heligible : Eligible rt ch { s with
      base := b
      ticketJobs := s.ticketJobs ++ [generationJobFor r template] } r.id v template :=
    h.congr honly rfl
  have hnamed : RowsNamed { s with
      base := b
      ticketJobs := s.ticketJobs ++ [generationJobFor r template] } := ⟨hs.drawn, hs.unique⟩
  obtain ⟨g, s₂, hgenerate, hready⟩ :=
    exists_generateForRegistration hnamed heligible hview hrender' hmissing {} source
  exact .pipeline hjob hrun rfl hgenerate hready

/-- What the status finds when it does not say `READY`. -/
theorem onItsWay_of_missing (hs : RowsNamed s) {r : Registration} {v : RegistrationView}
    {template : TicketTemplate} (hrow : s.base.registrations.find? r.id = some r)
    (h : Eligible rt ch s r.id v template) (hview : v.registration = r)
    (hrender : Renderable rt ch s r template)
    (hmissing : ∀ image, s.imageOf r.id template.row.id template.columns.version = some image →
      ¬ s.Shown image)
    (hjob : (∃ job ∈ s.ticketJobs, job.live = true ∧ job.registrationId = r.id) ∨
      (∀ job ∈ s.ticketJobs,
        job.jobId ≠ RegistrationPipelineProcessor.ticketJobId r.id template.columns.version) ∧
        ∃ job ∈ s.base.pipelineJobs, job.registrationId = r.id ∧ job.skipDigitalTicket = false ∧
          job.source ≠ .EXCEL_IMPORT) (source : Option RegistrationSource) :
    OnItsWay rt ch s (likeOf r source) := by
  rcases hjob with ⟨job, hjob, hlive, hr⟩ | ⟨hfree, job, hjob, hr, hskip, hsource⟩
  · obtain ⟨g, s₁, hgenerate, hready⟩ := exists_generateForRegistration hs h hview hrender hmissing
      { forceRegenerate := job.forceRegenerate } source
    have hprocess : (DigitalTicketGenerationProcessor.process rt job).run (ticketMachine rt ch) s =
        (.ok g, s₁) := by
      unfold DigitalTicketGenerationProcessor.process
      rwa [hr]
    exact .generation hjob hlive hprocess hready
  · exact onItsWay_of_pipelineJob hs hrow h hview hrender hmissing hfree hjob hr hskip hsource source

/-! ## A template that is edited -/

/-- The call gives no row another picture and draws no name. -/
def TicketCall.keepsNames : TicketCall → Bool
  | .imageUpsert _ => false
  | .randomUUID => false
  | _ => true

/-- The rows and the names drawn are the same. -/
def SameNames (s s' : TicketStore) : Prop := s'.images = s.images ∧ s'.uuids = s.uuids

theorem sameNames_of_keepsNames {c : TicketCall} (hc : c.keepsNames = true) (s : TicketStore) :
    SameNames s (ticketMachine rt ch c s).2 := by
  by_cases hneutral : c.neutral = true
  · have hsame : SamePictures s (ticketMachine rt ch c s).2 := samePictures_of_neutral hneutral s
    exact ⟨hsame.images, hsame.uuids⟩
  · cases c with
    | imageUpsert data => cases hc
    | randomUUID => cases hc
    | imageFind registrationId templateId version => exact ⟨rfl, rfl⟩
    | writeFile path png => exact ⟨rfl, rfl⟩
    | unlink path => exact ⟨images_unlink, uuids_unlink⟩
    | templateUpdate eventId scopeKey f =>
        simp only [ticketMachine, TicketStore.updateTemplate]
        split
        · exact ⟨rfl, rfl⟩
        · split <;> exact ⟨rfl, rfl⟩
    | _ => exact absurd rfl hneutral

section Update

open DigitalTicketTemplatesService

/-- Every call of the program keeps the names. -/
abbrev KeepsNames {α : Type} (p : TicketSvc α) : Prop := p.All fun c => c.keepsNames = true

theorem keepsNames_ensureEventExists (eventId : Id) : KeepsNames (ensureEventExists eventId) := by
  refine Prog.all_bind (Prog.all_call rfl) fun event => ?_
  cases event <;> trivial

theorem keepsNames_ensureSelectedFieldsAreValid (eventId : Id) (selectedFields : Option Json) :
    KeepsNames (ensureSelectedFieldsAreValid eventId selectedFields) := by
  unfold ensureSelectedFieldsAreValid
  split
  · trivial
  · refine Prog.all_bind (Prog.all_bind (Prog.all_call rfl) fun event => ?_) fun keys =>
      Prog.all_ite trivial trivial
    cases event with
    | none => trivial
    | some event => exact Prog.all_bind (Prog.all_call rfl) fun _ => trivial
  · trivial

theorem keepsNames_deleteBackgrounds (paths : List String) : KeepsNames (deleteBackgrounds paths) := by
  induction paths with
  | nil => trivial
  | cons path paths ih =>
      refine Prog.all_bind ?_ fun _ => ih
      unfold safeDeleteUploadFile
      split
      · trivial
      · exact Prog.all_tryCatch (Prog.all_bind (Prog.all_call rfl) fun _ => trivial) fun _ => trivial

theorem keepsNames_update (eventId : Id) (attendeeTypeId : Option String)
    (dto : UpsertDigitalTicketTemplateDto) : KeepsNames (update eventId attendeeTypeId dto) := by
  refine Prog.all_bind (keepsNames_ensureEventExists eventId) fun _ => Prog.all_ite trivial ?_
  refine Prog.all_ite trivial ?_
  refine Prog.all_bind (keepsNames_ensureSelectedFieldsAreValid _ _) fun _ => ?_
  refine Prog.all_bind ?_ fun existing => ?_
  · refine Prog.all_bind (keepsNames_ensureEventExists eventId) fun _ => ?_
    refine Prog.all_bind (Prog.all_call rfl) fun template => ?_
    cases template <;> trivial
  · refine Prog.all_bind (Prog.all_ofExcept _) fun columns => ?_
    refine Prog.all_bind (Prog.all_call rfl) fun updated => ?_
    exact Prog.all_bind (keepsNames_deleteBackgrounds _) fun _ => trivial

/-- An update of a template leaves the rows and the names alone. -/
theorem sameNames_update (rt : Runtime) (ch : TicketChoice) (s : TicketStore) (eventId : Id)
    (attendeeTypeId : Option String) (dto : UpsertDigitalTicketTemplateDto) :
    SameNames s ((update eventId attendeeTypeId dto).run (ticketMachine rt ch) s).2 :=
  Prog.run_relation _ (fun _ => ⟨rfl, rfl⟩)
    (fun _ _ _ h h' => ⟨h'.1.trans h.1, h'.2.trans h.2⟩)
    (fun _ hc s => sameNames_of_keepsNames hc s) (keepsNames_update eventId attendeeTypeId dto) s

/-- The template for the whole event gets its next version. -/
def editTemplate (s : TicketStore) : TicketStore :=
  ((update "c0" none {}).run (ticketMachine sampleRuntime {}) s).2

end Update

/-- The store of the first registration before its job of the pipeline. -/
def queuedStore : TicketStore where
  base := { ticketStore.base with
    pipelineJobs := [{
      registrationId := "c0"
      eventId := "c0"
      source := .PUBLIC
      skipDigitalTicket := false }] }

/-- The first registration is as the status requires, and it is `PENDING`. -/
def eligibleThere (r : Registration) : Bool :=
  r.id == "c0" && r.eventId == "c0" && r.attendeeTypeId == "c0" && r.status == .ACTIVE &&
    match (DigitalTicketStatusService.resolveForRegistration (likeOf r none)).run
      (ticketMachine sampleRuntime {}) queuedStore with
    | (.ok resp, _) => resp.status == .PENDING
    | _ => false

/-- The status of the first registration is `PENDING`, and there is no job. -/
def pendingWithoutJob (s : TicketStore) : Bool :=
  (s.base.registrations.find? "c0").any fun r =>
    r.id == "c0" && r.status == .ACTIVE && (s.base.events.find? r.eventId).isSome &&
      (s.base.attendeeTypes.find? r.attendeeTypeId).isSome &&
      match (DigitalTicketStatusService.resolveForRegistration (likeOf r none)).run
        (ticketMachine sampleRuntime {}) s with
      | (.ok resp, s') => resp.status == .PENDING && s'.ticketJobs.isEmpty &&
          s'.base.pipelineJobs.isEmpty
      | _ => false

/-- The ticket is rendered, and then the template is edited. -/
def editScript : List (ticketService sampleRuntime False).Action :=
  .start (TicketOp.program sampleRuntime (.generateForRegistration "c0" {})) (fun _ => true)
      (fun s => s) ::
    List.replicate 13 (.step 0 {}) ++ [.change (fun _ => true) editTemplate]

theorem legal_editScript : Service.Legal editScript := by
  intro a ha
  simp only [editScript, List.cons_append, List.mem_cons, List.mem_append, List.mem_replicate,
    List.not_mem_nil, or_false] at ha
  rcases ha with rfl | ⟨-, rfl⟩ | rfl
  · exact fun s _ => ⟨rfl, _, rfl⟩
  · trivial
  · intro s _
    obtain ⟨himages, huuids⟩ := sameNames_update sampleRuntime {} s "c0" none {}
    exact ⟨himages, huuids, False.elim⟩

end Tickets

open Tickets

/-- In every reachable state: if the ticket can be drawn and a job for it comes, then a pending ticket
is on its way. -/
theorem pending_ticket_is_on_its_way {rt : Runtime} {s₀ : TicketStore} (h₀ : RowsNamed s₀)
    {cfg : TicketPool} (hreach : (ticketService rt False).system.Reach (Service.init s₀) cfg)
    {s : TicketStore} (hs : cfg.world.store = s) {ch : TicketChoice} {r : Registration}
    (hrow : s.base.registrations.find? r.id = some r) (hactive : r.status = .ACTIVE)
    (hrelated : QrService.Related s.base r) {source : Option RegistrationSource}
    (himport : source ≠ some .EXCEL_IMPORT)
    (hcoming : ∀ template, s.templateFor ch.toChoice r.eventId r.attendeeTypeId = some template →
      Coming rt ch s r template)
    {resp : DigitalTicketStatusResponse} {s' : TicketStore}
    (hrun : (DigitalTicketStatusService.resolveForRegistration (likeOf r source)).run
      (ticketMachine rt ch) s = (.ok resp, s')) (hpending : resp.status = .PENDING) :
    OnItsWay rt ch s' (likeOf r source) := by
  subst hs
  have hnamed := rowsNamed_of_reach h₀ hreach
  obtain ⟨event, hevent⟩ := hrelated.event
  obtain ⟨attendeeType, htype⟩ := hrelated.attendeeType
  cases htemplate : cfg.world.store.templateFor ch.toChoice r.eventId r.attendeeTypeId with
  | none =>
      have hnone : (DigitalTicketStatusService.resolveForRegistration (likeOf r source)).run
          (ticketMachine rt ch) cfg.world.store = _ := resolveForRegistration_of_none htemplate
      cases hrun.symm.trans hnone
      cases hpending
  | some template =>
      have hfound : (DigitalTicketsService.findRegistration r.id).run (ticketMachine rt ch)
          cfg.world.store = (.ok ⟨r, event, attendeeType⟩, cfg.world.store) := by
        rw [run_findRegistration, hrow]
        simp only [Store.registrationView, hevent, htype]
      have heligible : Eligible rt ch cfg.world.store r.id ⟨r, event, attendeeType⟩ template :=
        ⟨hfound, hactive, htemplate⟩
      obtain ⟨hrender, hjob⟩ := hcoming template htemplate
      have htemplate' : cfg.world.store.templateFor ch.toChoice (likeOf r source).eventId
          (likeOf r source).attendeeTypeId = some template := htemplate
      rcases resolveForRegistration_of_template rt htemplate' with
        ⟨image, -, -, hresolve⟩ | ⟨image, hof, hnot, hresolve⟩ | ⟨hnone, hresolve⟩
      · cases hrun.symm.trans hresolve
        cases hpending
      · cases hrun.symm.trans hresolve
        have hmissing : ∀ i, cfg.world.store.imageOf r.id template.row.id template.columns.version =
            some i → ¬ cfg.world.store.Shown i := by
          intro i hi
          cases hof.symm.trans hi
          exact hnot
        apply onItsWay_of_missing (s := cfg.world.store.addPipelineJob _) ⟨hnamed.drawn, hnamed.unique⟩
          hrow (heligible.addPipelineJob _) rfl (hrender.addPipelineJob _) hmissing
        refine hjob.imp (fun h => h) fun h => ⟨h.1, regenerationJob (likeOf r source), ?_, rfl, rfl, ?_⟩
        · exact List.mem_append_right _ (List.mem_singleton_self _)
        · cases source with
          | none => exact RegistrationSource.noConfusion
          | some x => exact fun hx => himport (congrArg some hx)
      · cases hrun.symm.trans hresolve
        have hmissing : ∀ i, cfg.world.store.imageOf r.id template.row.id template.columns.version =
            some i → ¬ cfg.world.store.Shown i := by
          intro i hi
          cases hnone.symm.trans hi
        apply onItsWay_of_missing hnamed hrow heligible rfl hrender hmissing
        refine hjob.imp (fun h => h) fun h => ⟨h.1, ?_⟩
        rcases h.2 with hsome | hpipeline
        · rw [show cfg.world.store.imageOf r.id template.row.id template.columns.version = none from
            hnone] at hsome
          cases hsome
        · exact hpipeline

/-- Registering leaves a job of the pipeline behind, and with it the ticket is on its way. -/
theorem queued_ticket_is_on_its_way :
    ∃ r resp s', queuedStore.base.registrations.find? "c0" = some r ∧
      (DigitalTicketStatusService.resolveForRegistration (likeOf r none)).run
        (ticketMachine sampleRuntime {}) queuedStore = (.ok resp, s') ∧ resp.status = .PENDING ∧
      OnItsWay sampleRuntime {} s' (likeOf r none) := by
  have hnamed : RowsNamed queuedStore := ⟨fun i hi => (by cases hi), fun i hi => (by cases hi)⟩
  obtain ⟨r, hrow, hr⟩ := (Option.any_eq_true _ _).mp
    (show (queuedStore.base.registrations.find? "c0").any eligibleThere = true by decide +kernel)
  simp only [eligibleThere, Bool.and_eq_true, beq_iff_eq] at hr
  obtain ⟨⟨⟨⟨hid, hevent⟩, htype⟩, hactive⟩, hstatus⟩ := hr
  have hrelated : QrService.Related queuedStore.base r := by
    constructor
    · rw [hevent]
      exact Option.isSome_iff_exists.mp (by decide +kernel)
    · rw [htype]
      exact Option.isSome_iff_exists.mp (by decide +kernel)
  have hcoming : ∀ template, queuedStore.templateFor ({} : TicketChoice).toChoice r.eventId
      r.attendeeTypeId = some template → Coming sampleRuntime {} queuedStore r template := by
    intro template htemplate
    rw [hevent, htype] at htemplate
    have hfields : (queuedStore.templateFor {} "c0" "c0").all (fun t =>
        queuedStore.knowsFields "c0" t.columns.selectedFields) = true := by decide +kernel
    rw [htemplate] at hfields
    obtain ⟨qr, hqr⟩ := exists_of_isOk (x := (QrService.generate sampleRuntime "c0").run
      (machine sampleRuntime {}) queuedStore.base) (by decide +kernel)
    refine ⟨⟨hevent ▸ hfields, ⟨qr, _, hid ▸ hqr⟩, rfl⟩, .inr ⟨?_, .inr ⟨_, .head _, hid.symm, rfl, ?_⟩⟩⟩
    · intro job hjob
      cases hjob
    · decide
  split at hstatus
  · next resp s' hrun =>
      have hpending : resp.status = .PENDING := eq_of_beq hstatus
      have hreach : (ticketService sampleRuntime False).system.Reach (Service.init queuedStore)
          (Service.init queuedStore) := .refl
      exact ⟨r, resp, s', hrow, hrun, hpending, pending_ticket_is_on_its_way hnamed hreach rfl
        (hid ▸ hrow) hactive hrelated (by decide) hcoming hrun hpending⟩
  · cases hstatus

/-- After the template is edited the ticket is pending, and no job is. -/
theorem edited_template_leaves_ticket_pending :
    ¬ ∀ (rt : Runtime) (s₀ : TicketStore), RowsNamed s₀ →
      ∀ cfg : TicketPool, (ticketService rt False).system.Reach (Service.init s₀) cfg →
      ∀ (ch : TicketChoice) (r : Registration), ch.imagesWritable = true →
        cfg.world.store.base.registrations.find? r.id = some r → r.status = .ACTIVE →
        QrService.Related cfg.world.store.base r →
      ∀ (source : Option RegistrationSource), source ≠ some .EXCEL_IMPORT →
      ∀ (resp : DigitalTicketStatusResponse) (s' : TicketStore),
        (DigitalTicketStatusService.resolveForRegistration (likeOf r source)).run
          (ticketMachine rt ch) cfg.world.store = (.ok resp, s') → resp.status = .PENDING →
        OnItsWay rt ch s' (likeOf r source) := by
  intro hclaim
  obtain ⟨cfg, hr, hend⟩ := Service.exists_config_of_perform (fun _ _ _ => True) editScript
    (Service.init ticketStore) (fun cfg => pendingWithoutJob cfg.world.store) legal_editScript
    (by decide +kernel)
  rw [System.restrict_true] at hr
  obtain ⟨r, hrow, hr'⟩ := (Option.any_eq_true _ _).mp hend
  simp only [Bool.and_eq_true, beq_iff_eq, Option.isSome_iff_exists] at hr'
  obtain ⟨⟨⟨⟨hid, hactive⟩, hevent⟩, htype⟩, hstatus⟩ := hr'
  have hnamed : RowsNamed ticketStore := ⟨fun i hi => (by cases hi), fun i hi => (by cases hi)⟩
  split at hstatus
  · next resp s' hrun =>
      simp only [Bool.and_eq_true, beq_iff_eq, List.isEmpty_iff] at hstatus
      obtain ⟨⟨hpending, hjobs⟩, hpipeline⟩ := hstatus
      have hway := hclaim _ _ hnamed cfg hr {} r rfl (hid ▸ hrow) hactive ⟨hevent, htype⟩ none
        (by decide) resp s' hrun hpending
      cases hway with
      | generation hjob =>
          rw [hjobs] at hjob
          cases hjob
      | pipeline hjob =>
          rw [hpipeline] at hjob
          cases hjob
  · cases hstatus

end CreativeBackend
