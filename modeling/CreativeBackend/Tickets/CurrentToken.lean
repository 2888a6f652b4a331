import CreativeBackend.Tickets.Rendering

/-!
# Tickets and the current token

A picture shows the token that its registration had when it was rendered. The row of the picture
does not say which one that was, so a picture is returned after its token was revoked or replaced.
-/

namespace CreativeBackend

namespace Tickets

open Relational Interaction Path TicketStore DigitalTicketImageService
open CreativeBackend.Tickets.DigitalTicketsService

variable {rt : Runtime} {ch : TicketChoice} {s s' : TicketStore}

/-! ## The other calls on their own -/

theorem resolveUsableForRegistration_after (hs : RowsNamed s) (registrationId : Id) :
    (resolveUsableForRegistration rt registrationId).After (ticketMachine rt ch) s fun x s' =>
      match x with
      | .ok image => image.registrationId = registrationId ∧ Pictured rt s image s'
      | .error _ => SamePictures s s' := by
  unfold resolveUsableForRegistration
  simp only [Prog.bind_eq]
  rcases findRegistration_cases rt ch s registrationId with ⟨e, hrun⟩ | ⟨v, hrun, hfind⟩
  · exact Prog.after_bind_of_error hrun (SamePictures.refl s)
  · apply Prog.after_bind_of_ok hrun
    have htemplate := run_findActiveTemplateForRegistration rt ch s v.registration
    cases hfor : s.templateFor ch.toChoice v.registration.eventId v.registration.attendeeTypeId with
    | none =>
        rw [hfor] at htemplate
        exact Prog.after_bind_of_error htemplate (SamePictures.refl s)
    | some template =>
        rw [hfor] at htemplate
        apply Prog.after_bind_of_ok htemplate
        have hexisting : (findExistingImage v.registration.id template).run (ticketMachine rt ch) s =
            (.ok (s.imageOf v.registration.id template.row.id template.columns.version), s) :=
          Prog.run_call _ _ _
        apply Prog.after_bind_of_ok hexisting
        obtain ⟨usable, husable, hiff⟩ := exists_usableImage rt ch s
          (s.imageOf v.registration.id template.row.id template.columns.version)
        apply Prog.after_bind_of_ok husable
        cases usable with
        | some image =>
            obtain ⟨hof, hshown⟩ := (hiff image).mp rfl
            obtain ⟨hrow, hr, -⟩ := imageOf_eq_some hof
            exact ⟨hr.trans (Table.find?_eq_some_iff.mp hfind).2, .kept rfl hrow hshown⟩
        | none =>
            apply Prog.after_bind (generateForRegistration_after hs registrationId {})
            · exact fun g s' h => h
            · exact fun e s' h => h

/-- The status is `READY` for a picture that is in place. -/
theorem resolveForRegistration_after (registration : RegistrationLike) :
    (DigitalTicketStatusService.resolveForRegistration registration).After (ticketMachine rt ch) s
      fun x s' => SamePictures s s' ∧ s'.base.qrTokens = s.base.qrTokens ∧ ∀ resp, x = .ok resp →
        resp.status = .READY → ∃ image ∈ s.images.rows, image.registrationId = registration.id ∧
          s.Shown image ∧ resp.relativePath = some image.relativePath := by
  unfold Prog.After
  cases hfor : s.templateFor ch.toChoice registration.eventId registration.attendeeTypeId with
  | none =>
      rw [resolveForRegistration_of_none hfor]
      refine ⟨SamePictures.refl s, rfl, ?_⟩
      rintro resp ⟨⟩ hready
      cases hready
  | some template =>
      rcases resolveForRegistration_of_template rt hfor with
        ⟨image, hof, hshown, hrun⟩ | ⟨image, -, -, hrun⟩ | ⟨-, hrun⟩
      · rw [hrun]
        refine ⟨SamePictures.refl s, rfl, ?_⟩
        rintro resp ⟨⟩ -
        obtain ⟨hrow, hr, -⟩ := imageOf_eq_some hof
        exact ⟨image, hrow, hr, hshown, rfl⟩
      · rw [hrun]
        refine ⟨⟨rfl, rfl, rfl⟩, rfl, ?_⟩
        rintro resp ⟨⟩ hready
        cases hready
      · rw [hrun]
        refine ⟨SamePictures.refl s, rfl, ?_⟩
        rintro resp ⟨⟩ hready
        cases hready

/-! ## What an operation does to the pictures -/

/-- The pictures are the same, or one ticket has a new one. -/
def OnePicture (rt : Runtime) (s s' : TicketStore) : Prop :=
  SamePictures s s' ∨ ∃ image png, Rendered rt s image png s'

theorem Pictured.onePicture {image : DigitalTicketImage} (h : Pictured rt s image s') :
    OnePicture rt s s' := by
  cases h with
  | kept hs => exact .inl (hs ▸ SamePictures.refl s)
  | drawn h => exact .inr ⟨image, _, h⟩

/-- A program for its effect. -/
theorem onePicture_void {α : Type} {p : TicketSvc α}
    (h : p.After (ticketMachine rt ch) s fun _ s' => OnePicture rt s s') :
    OnePicture rt s (p.void.run (ticketMachine rt ch) s).2 := by
  rw [Prog.run_void]
  exact h

theorem onePicture_generate (hs : RowsNamed s) (registrationId : Id)
    (dto : GenerateDigitalTicketDto) :
    (generateForRegistration rt registrationId dto).After (ticketMachine rt ch) s
      fun _ s' => OnePicture rt s s' := by
  refine (generateForRegistration_after hs registrationId dto).mono fun x s' h => ?_
  cases x with
  | ok g => exact h.2.onePicture
  | error e => exact .inl h

/-- An operation renders one ticket at most. -/
theorem onePicture_program (hs : RowsNamed s) (op : TicketOp) :
    OnePicture rt s ((op.program rt).run (ticketMachine rt ch) s).2 := by
  have hneutral : ∀ {α : Type} {p : TicketSvc α}, Neutral p →
      OnePicture rt s (p.void.run (ticketMachine rt ch) s).2 :=
    fun hp => .inl (samePictures_run (Prog.all_void hp) rt ch s)
  cases op with
  | generateForRegistration registrationId dto =>
      exact onePicture_void (onePicture_generate hs registrationId dto)
  | generationJob job => exact onePicture_void (onePicture_generate hs job.registrationId _)
  | resolveUsableForRegistration registrationId =>
      apply onePicture_void
      refine (resolveUsableForRegistration_after hs registrationId).mono fun x s' h => ?_
      cases x with
      | ok image => exact h.2.onePicture
      | error e => exact .inl h
  | resolveForRegistration registration =>
      apply onePicture_void
      exact (resolveForRegistration_after registration).mono fun x s' h => .inl h.1
  | pipelineJob job => exact hneutral (neutral_process rt job)
  | generateQr registrationId => exact hneutral (neutral_onStore _)
  | revokeQr registrationId => exact hneutral (neutral_onStore _)

/-! ## Histories -/

/-- The states of a store, the last one first: after operations, each from its start to its end, and
after changes of anything but the pictures. -/
inductive History (rt : Runtime) (s₀ : TicketStore) : List TicketStore → Prop
  | start : History rt s₀ [s₀]
  | run {s past} (h : History rt s₀ (s :: past)) (op : TicketOp) (ch : TicketChoice) :
      History rt s₀ (((op.program rt).run (ticketMachine rt ch) s).2 :: s :: past)
  | change {s s' past} (h : History rt s₀ (s :: past)) (hsame : SamePictures s s') :
      History rt s₀ (s' :: s :: past)

/-- The file under the path that a row stores. -/
def TicketStore.pictureAt (s : TicketStore) (relativePath : String) : Option TicketFile :=
  (resolveGeneratedRelativePath (some relativePath)).bind s.fileAt

/-- The picture shows the token of the registration, and this token is active. -/
def ShowsToken (rt : Runtime) (s : TicketStore) (registrationId : Id) (relativePath : String) :
    Prop :=
  ∃ f, s.pictureAt relativePath = some f ∧
    QrService.Presents rt s.base registrationId f.png.shows.qrToken

/-- The row of the token has been the same since the picture was written. -/
def TokenKept (registrationId : Id) (relativePath : String) : List TicketStore → Prop
  | s' :: s :: past => s.pictureAt relativePath = none ∨
      s'.base.qrTokenOf registrationId = s.base.qrTokenOf registrationId ∧
        TokenKept registrationId relativePath (s :: past)
  | _ => True

/-- The rows are named, and their pictures show the active tokens. -/
structure UpToDate (rt : Runtime) (s : TicketStore) : Prop extends RowsNamed s where
  current : ∀ i ∈ s.images.rows, s.Shown i → ShowsToken rt s i.registrationId i.relativePath

theorem shown_iff {i : DigitalTicketImage} :
    s.Shown i ↔ ∃ f, s.pictureAt i.relativePath = some f ∧ 0 < f.png.size := by
  unfold TicketStore.Shown TicketStore.pictureAt
  constructor
  · rintro ⟨path, f, hresolve, hat, hsize⟩
    exact ⟨f, by rw [hresolve, Option.bind_some, hat], hsize⟩
  · rintro ⟨f, hbind, hsize⟩
    obtain ⟨path, hresolve, hat⟩ := Option.bind_eq_some_iff.mp hbind
    exact ⟨path, f, hresolve, hat, hsize⟩

/-- The token is a matter of the row of the registration. -/
theorem presents_of_qrTokenOf {b b' : Store} {registrationId : Id} {code : String}
    (h : QrService.Presents rt b registrationId code)
    (hsame : b'.qrTokenOf registrationId = b.qrTokenOf registrationId) :
    QrService.Presents rt b' registrationId code := by
  obtain ⟨q, hq, hr, hactive, hcode⟩ := h
  have hof : b.qrTokenOf registrationId = some q := by
    cases hfind : b.qrTokenOf registrationId with
    | none => exact absurd hr (by simpa using List.find?_eq_none.mp hfind q hq)
    | some x =>
        have hx : x.registrationId = registrationId := by simpa using List.find?_some hfind
        exact congrArg some (QrService.token_unique (List.mem_of_find?_eq_some hfind) hq
          (hx.trans hr.symm))
  rw [hof] at hsame
  exact ⟨q, List.mem_of_find?_eq_some hsame, hr, hactive, hcode⟩

/-- A picture that was there before and whose token is the same. -/
theorem showsToken_of_kept {past : List TicketStore} {registrationId : Id} {relativePath : String}
    (hat : s'.pictureAt relativePath = s.pictureAt relativePath)
    (hthere : s.pictureAt relativePath ≠ none)
    (hkept : TokenKept registrationId relativePath (s' :: s :: past))
    (hshows : TokenKept registrationId relativePath (s :: past) →
      ShowsToken rt s registrationId relativePath) :
    ShowsToken rt s' registrationId relativePath := by
  rcases hkept with hnone | ⟨htoken, hkept⟩
  · exact absurd hnone hthere
  · obtain ⟨f, hf, hpresents⟩ := hshows hkept
    exact ⟨f, hat.trans hf, presents_of_qrTokenOf hpresents htoken⟩

/-- In a history, a picture whose token has been the same since shows it. -/
structure Faithful (rt : Runtime) (s : TicketStore) (past : List TicketStore) : Prop
    extends RowsNamed s where
  current : ∀ i ∈ s.images.rows, s.Shown i →
    TokenKept i.registrationId i.relativePath (s :: past) →
      ShowsToken rt s i.registrationId i.relativePath

/-- What a step without a new picture preserves. -/
theorem Faithful.same {past : List TicketStore} (h : Faithful rt s past)
    (hsame : SamePictures s s') : Faithful rt s' (s :: past) := by
  have hat : ∀ relativePath, s'.pictureAt relativePath = s.pictureAt relativePath := by
    intro relativePath
    unfold TicketStore.pictureAt fileAt
    rw [hsame.files]
  refine ⟨hsame.rowsNamed h.toRowsNamed, fun i hi hshown hkept => ?_⟩
  rw [hsame.images] at hi
  have hshown' : s.Shown i := by
    rw [shown_iff] at hshown ⊢
    rwa [← hat]
  obtain ⟨f, hf, -⟩ := shown_iff.mp hshown'
  apply showsToken_of_kept (hat i.relativePath) ?_ hkept (h.current i hi hshown')
  rw [hf]
  exact Option.some_ne_none f

theorem pictureAt_of_drawn {uuid : String} (h : s'.Drawn uuid) (s : TicketStore) :
    s.pictureAt (generatedPath uuid) = s.fileAt (generatedFile uuid) := by
  unfold TicketStore.pictureAt
  rw [resolve_of_drawn h, Option.bind_some]

theorem Rendered.pictureAt {image : DigitalTicketImage} {png : Png}
    (h : Rendered rt s image png s') :
    s'.pictureAt image.relativePath = some ⟨generatedFile (fresh s.uuids), png⟩ := by
  have hdrawn : s'.Drawn (fresh s.uuids) := by
    refine ⟨s.uuids, ?_, rfl⟩
    rw [h.uuids]
    exact Nat.lt_succ_self _
  rw [h.path, pictureAt_of_drawn hdrawn, h.file]

/-- What a rendering preserves. -/
theorem Faithful.rendered {past : List TicketStore} (h : Faithful rt s past)
    {image : DigitalTicketImage} {png : Png} (hrendered : Rendered rt s image png s') :
    Faithful rt s' (s :: past) := by
  refine ⟨hrendered.rowsNamed h.toRowsNamed, fun i hi hshown hkept => ?_⟩
  rcases (hrendered.rows i).mp hi with ⟨hi, hother⟩ | rfl
  · obtain ⟨uuid, hdrawn, hpath⟩ := h.drawn i hi
    have hat : s'.pictureAt i.relativePath = s.pictureAt i.relativePath := by
      rw [hpath, pictureAt_of_drawn hdrawn, pictureAt_of_drawn hdrawn,
        hrendered.kept i hi hother uuid hdrawn hpath]
    have hshown' : s.Shown i := by
      rw [shown_iff] at hshown ⊢
      rwa [← hat]
    obtain ⟨f, hf, -⟩ := shown_iff.mp hshown'
    apply showsToken_of_kept hat ?_ hkept (h.current i hi hshown')
    rw [hf]
    exact Option.some_ne_none f
  · exact ⟨_, hrendered.pictureAt, hrendered.token⟩

/-- What a history preserves. -/
theorem faithful_of_history {s₀ : TicketStore} (h₀ : UpToDate rt s₀) {past : List TicketStore}
    (h : History rt s₀ (s :: past)) : Faithful rt s past := by
  generalize hpast : s :: past = states at h
  induction h generalizing s past with
  | start =>
      cases hpast
      exact ⟨h₀.toRowsNamed, fun i hi hshown _ => h₀.current i hi hshown⟩
  | run h op ch ih =>
      cases hpast
      have hfaithful := ih rfl
      rcases onePicture_program hfaithful.toRowsNamed op with hsame | ⟨image, png, hrendered⟩
      · exact hfaithful.same hsame
      · exact hfaithful.rendered hrendered
  | change h hsame ih =>
      cases hpast
      exact (ih rfl).same hsame

/-! ## Returned pictures -/

/-- A call on its own returns the path of a picture of the registration. -/
inductive Returns (rt : Runtime) (ch : TicketChoice) (s : TicketStore) (registrationId : Id) :
    String → TicketStore → Prop
  | generated {dto g s'}
      (h : (generateForRegistration rt registrationId dto).run (ticketMachine rt ch) s = (.ok g, s')) :
      Returns rt ch s registrationId g.image.relativePath s'
  | usable {image s'}
      (h : (resolveUsableForRegistration rt registrationId).run (ticketMachine rt ch) s =
        (.ok image, s')) :
      Returns rt ch s registrationId image.relativePath s'
  | ready {registration resp relativePath s'} (hid : registration.id = registrationId)
      (h : (DigitalTicketStatusService.resolveForRegistration registration).run
        (ticketMachine rt ch) s = (.ok resp, s'))
      (hready : resp.status = .READY) (hpath : resp.relativePath = some relativePath) :
      Returns rt ch s registrationId relativePath s'

/-- A row of the registration has the path that is returned, and its picture is in place. -/
def Offered (s : TicketStore) (registrationId : Id) (relativePath : String) : Prop :=
  ∃ i ∈ s.images.rows, i.registrationId = registrationId ∧ i.relativePath = relativePath ∧ s.Shown i

theorem Pictured.offered {image : DigitalTicketImage} (h : Pictured rt s image s') :
    Offered s' image.registrationId image.relativePath := by
  cases h with
  | kept hs hrow hshown =>
      subst hs
      exact ⟨image, hrow, rfl, rfl, hshown⟩
  | drawn h =>
      refine ⟨image, (h.rows image).mpr (.inr rfl), rfl, rfl, ?_⟩
      exact shown_iff.mpr ⟨_, h.pictureAt, h.size⟩

theorem Returns.offered (hs : RowsNamed s) {registrationId : Id} {relativePath : String}
    (h : Returns rt ch s registrationId relativePath s') :
    Offered s' registrationId relativePath := by
  cases h with
  | @generated dto g s' h =>
      have hafter : (generateForRegistration rt registrationId dto).After (ticketMachine rt ch) s _ :=
        generateForRegistration_after hs registrationId dto
      unfold Prog.After at hafter
      rw [h] at hafter
      exact hafter.1 ▸ hafter.2.offered
  | usable h =>
      have hafter : (resolveUsableForRegistration rt registrationId).After (ticketMachine rt ch) s _ :=
        resolveUsableForRegistration_after hs registrationId
      unfold Prog.After at hafter
      rw [h] at hafter
      exact hafter.1 ▸ hafter.2.offered
  | @ready registration resp relativePath s' hid h hready hpath =>
      have hafter : (DigitalTicketStatusService.resolveForRegistration registration).After
          (ticketMachine rt ch) s _ := resolveForRegistration_after registration
      unfold Prog.After at hafter
      rw [h] at hafter
      obtain ⟨hsame, -, hshown⟩ := hafter
      obtain ⟨image, hrow, hr, hshown, hrelative⟩ := hshown resp rfl hready
      refine ⟨image, hsame.images ▸ hrow, hr.trans hid, ?_, ?_⟩
      · exact Option.some.inj (hrelative.symm.trans hpath)
      · unfold TicketStore.Shown fileAt at hshown ⊢
        rwa [hsame.files]

theorem Returns.history {s₀ : TicketStore} {past : List TicketStore} {registrationId : Id}
    {relativePath : String} (h : History rt s₀ (s :: past))
    (hret : Returns rt ch s registrationId relativePath s') : History rt s₀ (s' :: s :: past) := by
  have hstate : ∀ (op : TicketOp) {α : Type} {p : TicketSvc α} {x : Except Exn α},
      op.program rt = p.void → p.run (ticketMachine rt ch) s = (x, s') →
        History rt s₀ (s' :: s :: past) := by
    intro op α p x hop hrun
    have hnext := h.run op ch
    rwa [hop, Prog.run_void, hrun] at hnext
  cases hret with
  | @generated dto g s' hrun => exact hstate (.generateForRegistration registrationId dto) rfl hrun
  | usable hrun => exact hstate (.resolveUsableForRegistration registrationId) rfl hrun
  | @ready registration resp relativePath s' hid hrun hready hpath =>
      exact hstate (.resolveForRegistration registration) rfl hrun

/-! ## A revoked token -/

theorem ticketStore_upToDate (rt : Runtime) : UpToDate rt ticketStore where
  drawn i hi := by cases hi
  unique i hi := by cases hi
  current i hi := by cases hi

theorem pictureAt_of_no_files (h : s.files = []) (relativePath : String) :
    s.pictureAt relativePath = none := by
  unfold TicketStore.pictureAt fileAt
  rw [h]
  cases resolveGeneratedRelativePath (some relativePath) <;> rfl

/-- The store after an operation. -/
def TicketStore.afterOp (s : TicketStore) (op : TicketOp) : TicketStore :=
  ((op.program sampleRuntime).run (ticketMachine sampleRuntime {}) s).2

/-- The store after the ticket of the registration was rendered. -/
def renderedStore : TicketStore := ticketStore.afterOp (.generateForRegistration "c0" {})

/-- The store after its token was revoked. -/
def revokedStore : TicketStore := renderedStore.afterOp (.revokeQr "c0")

theorem history_renderedStore :
    History sampleRuntime ticketStore [renderedStore, ticketStore] :=
  History.start.run _ {}

theorem history_revokedStore :
    History sampleRuntime ticketStore [revokedStore, renderedStore, ticketStore] :=
  history_renderedStore.run _ {}

end Tickets

open Interaction Tickets DigitalTicketImageService
open CreativeBackend.Tickets.DigitalTicketsService

/-- A picture that is returned shows the active token of the registration, if the row of the token
has been the same since the picture was written. -/
theorem returned_picture_shows_token {rt : Runtime} {s₀ : TicketStore} (h₀ : UpToDate rt s₀)
    {s : TicketStore} {past : List TicketStore} (h : History rt s₀ (s :: past)) {ch : TicketChoice}
    {registrationId : Id} {relativePath : String} {s' : TicketStore}
    (hret : Returns rt ch s registrationId relativePath s')
    (hkept : TokenKept registrationId relativePath (s' :: s :: past)) :
    ShowsToken rt s' registrationId relativePath := by
  have hrows : RowsNamed s := (faithful_of_history h₀ h).toRowsNamed
  obtain ⟨i, hi, rfl, rfl, hshown⟩ := hret.offered hrows
  exact (faithful_of_history h₀ (hret.history h)).current i hi hshown hkept

/-- A picture is returned again while its token is active. -/
theorem rendered_picture_shows_token :
    ∃ relativePath s', Returns sampleRuntime {} renderedStore "c0" relativePath s' ∧
      ShowsToken sampleRuntime s' "c0" relativePath := by
  obtain ⟨image, hrun⟩ := exists_of_isOk (x := (resolveUsableForRegistration sampleRuntime "c0").run
    (ticketMachine sampleRuntime {}) renderedStore) (by decide +kernel)
  have hret := Returns.usable hrun
  refine ⟨_, _, hret, ?_⟩
  apply returned_picture_shows_token (ticketStore_upToDate _) history_renderedStore hret
  refine .inr ⟨?_, .inl (pictureAt_of_no_files rfl _)⟩
  have hafter : (resolveUsableForRegistration sampleRuntime "c0").After
      (ticketMachine sampleRuntime {}) renderedStore _ := resolveUsableForRegistration_after
    (faithful_of_history (ticketStore_upToDate _) history_renderedStore).toRowsNamed "c0"
  have hnames : ((resolveUsableForRegistration sampleRuntime "c0").run
      (ticketMachine sampleRuntime {}) renderedStore).2.uuids ≠ renderedStore.uuids + 1 := by
    decide +kernel
  unfold Prog.After at hafter
  rw [hrun] at hafter
  -- No name was drawn, so the picture is the one that was there.
  cases hafter.2 with
  | kept hs => exact congrArg (fun s => s.base.qrTokenOf "c0") hs
  | drawn h => exact absurd h.uuids hnames

/-- After the token is revoked the picture is still returned. -/
theorem revoked_picture_is_returned :
    ¬ ∀ (rt : Runtime) (s₀ : TicketStore), UpToDate rt s₀ →
      ∀ (s : TicketStore) (past : List TicketStore), History rt s₀ (s :: past) →
      ∀ (ch : TicketChoice) (registrationId : Id) (relativePath : String) (s' : TicketStore),
        Returns rt ch s registrationId relativePath s' →
          ShowsToken rt s' registrationId relativePath := by
  intro hclaim
  obtain ⟨image, hrun⟩ := exists_of_isOk (x := (resolveUsableForRegistration sampleRuntime "c0").run
    (ticketMachine sampleRuntime {}) revokedStore) (by decide +kernel)
  obtain ⟨f, -, q, hq, -, hactive, -⟩ := hclaim _ _ (ticketStore_upToDate _) _ _
    history_revokedStore _ _ _ _ (Returns.usable hrun)
  have hrevoked : ((resolveUsableForRegistration sampleRuntime "c0").run
      (ticketMachine sampleRuntime {}) revokedStore).2.base.qrTokens.rows.all
        (fun q => q.status == .REVOKED) = true := by decide +kernel
  have hstatus := List.all_eq_true.mp hrevoked q hq
  rw [hactive] at hstatus
  cases hstatus

end CreativeBackend
