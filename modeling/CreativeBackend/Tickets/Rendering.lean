import CreativeBackend.Qr.Issue
import CreativeBackend.Tickets.Names

/-!
# What a rendering leaves behind

On its own, a call either leaves the rows and the files of tickets alone or gives one ticket a new
picture, which shows the active token of the registration.
-/

namespace CreativeBackend

open Relational Interaction

/-! ## The token that is drawn -/

namespace QrService

variable {rt : Runtime} {ch : Choice} {s s' : Store}

/-- The registration has the active token that is presented as `code`. -/
def Presents (rt : Runtime) (s : Store) (registrationId : Id) (code : String) : Prop :=
  ∃ q ∈ s.qrTokens.rows, q.registrationId = registrationId ∧ q.status = .ACTIVE ∧
    createCompactQrToken rt q.tokenId = .ok code

theorem formatQrToken_compact {q : QrToken} {qr : FormattedQr} (h : formatQrToken rt q = .ok qr) :
    createCompactQrToken rt q.tokenId = .ok qr.compactQrToken := by
  unfold formatQrToken at h
  cases hc : createCompactQrToken rt q.tokenId with
  | error e =>
      rw [hc] at h
      cases h
  | ok compact =>
      rw [hc] at h
      cases h
      rfl

theorem presents_of_stored {q : QrToken} {qr : FormattedQr} {registrationId : Id}
    (hq : q ∈ s.qrTokens.rows) (hr : q.registrationId = registrationId)
    (hactive : q.status = .ACTIVE) (h : formatQrToken rt q = .ok qr) :
    Presents rt s registrationId qr.compactQrToken :=
  ⟨q, hq, hr, hactive, formatQrToken_compact h⟩

theorem issue_presents {v : RegistrationView} {existing : Option QrToken} {qr : FormattedQr}
    (hex : s.qrTokenOf v.registration.id = existing)
    (hstatus : ∀ x, existing = some x → x.status ≠ .ACTIVE)
    (h : (issue rt v existing).run (machine rt ch) s = (.ok qr, s')) :
    Presents rt s' v.registration.id qr.compactQrToken := by
  obtain ⟨tokenId, s₁, hdraw, h⟩ := Prog.run_bind_eq_ok _ h
  have h₁ : s₁.qrTokens = s.qrTokens := by
    have hkept := tryTokenIds_qrTokens rt ch 5 s
    rw [generateTokenId] at hdraw
    rwa [hdraw] at hkept
  obtain ⟨now, s₂, hnow, h⟩ := Prog.run_bind_eq_ok _ h
  obtain ⟨nonce, s₃, hnonce, h⟩ := Prog.run_bind_eq_ok _ h
  have h₃ : s₃.qrTokens = s.qrTokens := by
    cases hnow
    cases hnonce
    exact h₁
  obtain ⟨q, s₄, hstore, hformat⟩ := Prog.run_bind_eq_ok _ h
  have hex₃ : s₃.qrTokenOf v.registration.id = existing := by
    rw [← hex, Store.qrTokenOf, Store.qrTokenOf, h₃]
  have hstored := createOrRefreshQrToken_ok hex₃ hstatus hstore
  obtain ⟨hqr, rfl⟩ := Prog.run_ofExcept_eq_ok _ hformat
  exact presents_of_stored hstored.stored hstored.registration hstored.active hqr

/-- What `generate` returns is presented by the active token that is stored after it. -/
theorem generate_presents {registrationId : Id} {qr : FormattedQr}
    (h : (generate rt registrationId).run (machine rt ch) s = (.ok qr, s')) :
    Presents rt s' registrationId qr.compactQrToken := by
  obtain ⟨v, s₁, hfind, hrest⟩ := Prog.run_bind_eq_ok _ h
  obtain ⟨rfl, hr, -⟩ := findRegistrationWithRelations_ok hfind
  have hid : v.registration.id = registrationId := (Table.find?_eq_some_iff.mp hr).2
  split at hrest
  · cases hrest
  · obtain ⟨existing, s₂, hexisting, hissue⟩ := Prog.run_bind_eq_ok _ hrest
    rw [call, Prog.run_call] at hexisting
    cases hexisting
    cases hof : s₁.qrTokenOf registrationId with
    | none =>
        rw [hof] at hissue
        exact hid ▸ issue_presents (hid ▸ hof) (fun x hx => by cases hx) hissue
    | some x =>
        rw [hof] at hissue
        dsimp only at hissue
        split at hissue
        · next hactive =>
            obtain ⟨hqr, rfl⟩ := Prog.run_ofExcept_eq_ok _ hissue
            have hreg : x.registrationId = registrationId := by simpa using List.find?_some hof
            exact presents_of_stored (List.mem_of_find?_eq_some hof) hreg hactive hqr
        · next hinactive =>
            exact hid ▸ issue_presents (hid ▸ hof) (fun y hy => by cases hy; exact hinactive) hissue

end QrService

/-- Nothing but the tokens and the QR images is different. -/
def OnlyTokens (s s' : Store) : Prop :=
  s' = { s with draws := s'.draws, qrTokens := s'.qrTokens, images := s'.images }

theorem OnlyTokens.refl (s : Store) : OnlyTokens s s := rfl

theorem OnlyTokens.trans {s s' s'' : Store} (h : OnlyTokens s s') (h' : OnlyTokens s' s'') :
    OnlyTokens s s'' := by
  unfold OnlyTokens at h h' ⊢
  rw [h', h]

theorem onlyTokens_of_effect {s s' : Store} {c : Call} {x : Except Exn (Resp c)}
    (hc : c.formats = true) (h : Effect s c x s') : OnlyTokens s s' := by
  cases h with
  | read => exact .refl s
  | failed => exact .refl s
  | _ => first | rfl | exact Bool.noConfusion hc

/-- On its own, a program that formats changes nothing else. -/
theorem Formats.onlyTokens {α : Type} {p : Svc α} (hp : Formats p) (rt : Runtime) (ch : Choice)
    (s : Store) : OnlyTokens s (p.run (machine rt ch) s).2 :=
  Prog.run_relation (machine rt ch) OnlyTokens.refl (fun _ _ _ h h' => h.trans h')
    (fun _ hc _ => onlyTokens_of_effect hc (effect_of_machine rfl)) hp s

/-- Writing an image changes no token. -/
theorem QrImageService.qrTokens_generateRegistrationQrImage (rt : Runtime) (ch : Choice)
    (registrationPublicId qrToken : String) (s : Store) :
    ((generateRegistrationQrImage rt registrationPublicId qrToken).run (machine rt ch) s).2.qrTokens =
      s.qrTokens := by
  simp only [generateRegistrationQrImage, Prog.bind_eq, Prog.run_bind, call, Prog.run_call, machine]
  cases ch.imagesWritable <;> rfl

namespace Tickets

open Path TicketStore DigitalTicketImageService
open CreativeBackend.Tickets.DigitalTicketsService

variable {rt : Runtime} {ch : TicketChoice} {α β : Type} {s s' : TicketStore}

theorem exists_of_isOk {σ : Type} {x : Except Exn α × σ} (h : x.1.isOk = true) :
    ∃ a, x = (.ok a, x.2) := by
  rcases x with ⟨x, s⟩
  cases x with
  | ok a => exact ⟨a, rfl⟩
  | error e => cases h

/-! ## Calls that draw nothing -/

/-- The rows, the names and the files of tickets are the same. -/
structure SamePictures (s s' : TicketStore) : Prop where
  images : s'.images = s.images
  uuids : s'.uuids = s.uuids
  files : s'.files = s.files

theorem SamePictures.refl (s : TicketStore) : SamePictures s s := ⟨rfl, rfl, rfl⟩

theorem SamePictures.trans {s'' : TicketStore} (h : SamePictures s s') (h' : SamePictures s' s'') :
    SamePictures s s'' :=
  ⟨h'.images.trans h.images, h'.uuids.trans h.uuids, h'.files.trans h.files⟩

theorem samePictures_of_neutral {c : TicketCall} (hc : c.neutral = true) (s : TicketStore) :
    SamePictures s (ticketMachine rt ch c s).2 := by
  cases c with
  | ticketJobAdd job =>
      simp only [ticketMachine, TicketStore.addTicketJob]
      split <;> exact ⟨rfl, rfl, rfl⟩
  | stat path =>
      simp only [ticketMachine]
      split <;> exact SamePictures.refl s
  | imageUpsert data => cases hc
  | unlink path => cases hc
  | writeFile path png => cases hc
  | randomUUID => cases hc
  | templateUpdate eventId scopeKey f => cases hc
  | _ => exact ⟨rfl, rfl, rfl⟩

/-- A program that makes neutral calls only. -/
theorem samePictures_run {p : TicketSvc α} (hp : Neutral p) (rt : Runtime) (ch : TicketChoice)
    (s : TicketStore) : SamePictures s (p.run (ticketMachine rt ch) s).2 :=
  Prog.run_relation _ SamePictures.refl (fun _ _ _ => SamePictures.trans)
    (fun _ hc s => samePictures_of_neutral hc s) hp s

/-! ## A rendering -/

/-- What tickets are drawn from is the same, but for the tokens, and so are the jobs. -/
structure SameSources (s s' : TicketStore) : Prop where
  base : OnlyTokens s.base s'.base
  columns : s'.columns = s.columns
  ticketJobs : s'.ticketJobs = s.ticketJobs

theorem SameSources.trans {s'' : TicketStore} (h : SameSources s s') (h' : SameSources s' s'') :
    SameSources s s'' :=
  ⟨h.base.trans h'.base, h'.columns.trans h.columns, h'.ticketJobs.trans h.ticketJobs⟩

/-- One ticket has a new picture. It is in place and shows the active token of the registration. -/
structure Rendered (rt : Runtime) (s : TicketStore) (image : DigitalTicketImage) (png : Png)
    (s' : TicketStore) : Prop where
  path : image.relativePath = generatedPath (fresh s.uuids)
  rows : ∀ i, i ∈ s'.images.rows ↔ (i ∈ s.images.rows ∧ image.sameTicket i = false) ∨ i = image
  uuids : s'.uuids = s.uuids + 1
  file : s'.fileAt (generatedFile (fresh s.uuids)) = some ⟨generatedFile (fresh s.uuids), png⟩
  size : 0 < png.size
  kept : ∀ i ∈ s.images.rows, image.sameTicket i = false → ∀ uuid, s.Drawn uuid →
    i.relativePath = generatedPath uuid → s'.fileAt (generatedFile uuid) = s.fileAt (generatedFile uuid)
  token : QrService.Presents rt s'.base image.registrationId png.shows.qrToken

theorem sameTicket_congr {a b : DigitalTicketImage} (h : a.sameTicket b = true)
    (i : DigitalTicketImage) : a.sameTicket i = b.sameTicket i := by
  obtain ⟨hr, ht, hv⟩ := sameTicket_iff.mp h
  simp only [DigitalTicketImage.sameTicket, hr, ht, hv]

theorem Drawn.mono {uuid : String} (h : s.Drawn uuid) (huuids : s.uuids ≤ s'.uuids) :
    s'.Drawn uuid := by
  obtain ⟨n, hn, rfl⟩ := h
  exact ⟨n, Nat.lt_of_lt_of_le hn huuids, rfl⟩

theorem Drawn.ne_fresh {uuid : String} (h : s.Drawn uuid) : uuid ≠ fresh s.uuids := by
  obtain ⟨n, hn, rfl⟩ := h
  exact fun heq => Nat.ne_of_lt hn (fresh_injective heq)

/-- The rows are still named after a rendering. -/
theorem Rendered.rowsNamed {image : DigitalTicketImage} {png : Png}
    (h : Rendered rt s image png s') (hs : RowsNamed s) : RowsNamed s' := by
  have hle : s.uuids ≤ s'.uuids := h.uuids ▸ Nat.le_succ s.uuids
  have hnew : ∀ i ∈ s.images.rows, i.relativePath ≠ image.relativePath := by
    intro i hi heq
    obtain ⟨uuid, hdrawn, hpath⟩ := hs.drawn i hi
    exact Drawn.ne_fresh hdrawn (generatedPath_inj.mp (hpath.symm.trans (heq.trans h.path)))
  constructor
  · intro i hi
    rcases (h.rows i).mp hi with ⟨hi, -⟩ | rfl
    · obtain ⟨uuid, hdrawn, hpath⟩ := hs.drawn i hi
      exact ⟨uuid, Drawn.mono hdrawn hle, hpath⟩
    · refine ⟨fresh s.uuids, ⟨s.uuids, ?_, rfl⟩, h.path⟩
      rw [h.uuids]
      exact Nat.lt_succ_self _
  · intro i hi j hj hsame
    rcases (h.rows i).mp hi with ⟨hi, -⟩ | rfl
    · rcases (h.rows j).mp hj with ⟨hj, -⟩ | rfl
      · exact hs.unique i hi j hj hsame
      · exact absurd hsame (hnew i hi)
    · rcases (h.rows j).mp hj with ⟨hj, -⟩ | rfl
      · exact absurd hsame.symm (hnew j hj)
      · rfl

theorem SamePictures.rowsNamed (h : SamePictures s s') (hs : RowsNamed s) : RowsNamed s' := by
  constructor
  · intro i hi
    rw [h.images] at hi
    obtain ⟨uuid, hdrawn, hpath⟩ := hs.drawn i hi
    exact ⟨uuid, Drawn.mono hdrawn (Nat.le_of_eq h.uuids.symm), hpath⟩
  · rw [h.images]
    exact hs.unique

/-- The picture is written under a fresh name, and its row is upserted. -/
theorem exists_saveGeneratedImage (rt : Runtime) (ch : TicketChoice) (s : TicketStore)
    (eventId registrationId templateId : Id) (version : Nat) (png : Png) :
    ∃ image s', (saveGeneratedImage rt eventId registrationId templateId version png).run
        (ticketMachine rt ch) s = (.ok image, s') ∧
      image.registrationId = registrationId ∧ image.templateId = templateId ∧
      image.templateVersion = version ∧ image.relativePath = generatedPath (fresh s.uuids) ∧
      (∀ i, i ∈ s'.images.rows ↔ (i ∈ s.images.rows ∧ image.sameTicket i = false) ∨ i = image) ∧
      s'.uuids = s.uuids + 1 ∧ SameSources s s' ∧ s'.base = s.base ∧
      s'.files = (s.writeFile (generatedFile (fresh s.uuids)) png).files := by
  obtain ⟨row, s₁, hupsert, hspec⟩ :=
    ({ s with uuids := s.uuids + 1 }.writeFile (generatedFile (fresh s.uuids)) png).exists_upsertImage {
      eventId, registrationId, templateId, templateVersion := version
      imageUrl := rt.publicBaseUrl ++ generatedPath (fresh s.uuids)
      relativePath := generatedPath (fresh s.uuids)
      generatedAt := s.base.clock }
  refine ⟨row, s₁, (Prog.run_call (ticketMachine rt ch) (.imageUpsert _) _).trans hupsert, ?_⟩
  obtain ⟨hr, ht, hv⟩ := sameTicket_iff.mp hspec.ticket
  refine ⟨hr.symm, ht.symm, hv.symm, hspec.path, fun i => ?_, ?_⟩
  · rw [hspec.rows i, sameTicket_congr hspec.ticket]
    rfl
  · obtain ⟨images, rfl⟩ := hspec.frame
    exact ⟨rfl, ⟨OnlyTokens.refl _, rfl, rfl⟩, rfl, rfl⟩

/-- Every visible field has a key that the event offers. -/
def TicketStore.knowsFields (s : TicketStore) (eventId : Id) (value : Json) : Bool :=
  (s.base.events.find? eventId).isSome &&
    (toFieldArray value).all
      (badgeFieldKeys ++ s.activeFieldKeys eventId ++ TICKET_SYSTEM_FIELDS).contains

theorem run_availableBadgeKeys (rt : Runtime) (ch : TicketChoice) (s : TicketStore) (eventId : Id) :
    (availableBadgeKeys eventId).run (ticketMachine rt ch) s =
      (match s.base.events.find? eventId with
        | none => .error (.notFound "Event not found")
        | some _ => .ok (badgeFieldKeys ++ s.activeFieldKeys eventId), s) := by
  have hevent : (ticketCall (.base (.eventById eventId))).run (ticketMachine rt ch) s =
      (.ok (s.base.events.find? eventId), s) := Prog.run_call _ _ _
  unfold availableBadgeKeys
  simp only [Prog.bind_eq]
  rw [Prog.run_bind_ok _ hevent]
  cases s.base.events.find? eventId <;> rfl

/-- The check of the fields leaves the store alone. -/
theorem exists_validateSelectedFields (rt : Runtime) (ch : TicketChoice) (s : TicketStore)
    (eventId : Id) (value : Json) :
    ∃ x, (validateSelectedFields eventId value).run (ticketMachine rt ch) s = (x, s) ∧
      (x = .ok () ↔ s.knowsFields eventId value = true) := by
  have hkeys := run_availableBadgeKeys rt ch s eventId
  unfold validateSelectedFields TicketStore.knowsFields
  simp only [Prog.bind_eq]
  cases hevent : s.base.events.find? eventId with
  | none =>
      rw [hevent] at hkeys
      exact ⟨_, Prog.run_bind_error _ hkeys _, by simp⟩
  | some event =>
      rw [hevent] at hkeys
      rw [Prog.run_bind_ok _ hkeys]
      split
      · next hall => exact ⟨_, rfl, by simpa using hall⟩
      · next hsome => exact ⟨_, rfl, by simpa using hsome⟩

/-- What is drawn shows the active token. -/
theorem buildRenderInput_ok {v : RegistrationView} {template : TicketTemplate} {input : RenderInput}
    (h : (buildRenderInput rt v template).run (ticketMachine rt ch) s = (.ok input, s')) :
    SamePictures s s' ∧ SameSources s s' ∧
      QrService.Presents rt s'.base v.registration.id input.qrToken := by
  have hsame : SamePictures s s' := by
    have hneutral := samePictures_run (neutral_buildRenderInput rt v template) rt ch s
    rwa [h] at hneutral
  refine ⟨hsame, ?_⟩
  obtain ⟨_, s₁, hfields, hrest⟩ := Prog.run_bind_eq_ok _ h
  have hs₁ : s₁ = s := by
    obtain ⟨x, hrun, -⟩ := exists_validateSelectedFields rt ch s v.registration.eventId
      template.columns.selectedFields
    exact (Prod.mk.inj (hfields.symm.trans hrun)).2
  obtain ⟨qr, s₂, hqr, hrest⟩ := Prog.run_bind_eq_ok _ hrest
  obtain ⟨qrImage, s₃, himage, hrest⟩ := Prog.run_bind_eq_ok _ hrest
  cases hrest
  subst hs₁
  rw [run_onStore] at hqr himage
  obtain ⟨hgen, rfl⟩ := Prod.mk.inj hqr
  obtain ⟨-, rfl⟩ := Prod.mk.inj himage
  constructor
  · refine ⟨?_, rfl, rfl⟩
    exact ((QrService.generate_formats rt v.registration.id).onlyTokens rt ch.toChoice s₁.base).trans
      ((generateRegistrationQrImage_formats rt v.registration.publicId qr.compactQrToken).onlyTokens
        rt ch.toChoice _)
  · obtain ⟨q, hq, hpresents⟩ := QrService.generate_presents (Prod.ext hgen rfl)
    refine ⟨q, ?_, hpresents⟩
    rw [QrImageService.qrTokens_generateRegistrationQrImage]
    exact hq

/-- Deleting the file of a row never fails, and removes no other file. -/
theorem exists_deleteGeneratedImage (rt : Runtime) (ch : TicketChoice) (s : TicketStore)
    (relativePath : String) :
    ∃ x s', (deleteGeneratedImage (some relativePath)).run (ticketMachine rt ch) s = (.ok x, s') ∧
      (∃ files, s' = { s with files }) ∧
      ∀ path, deletedPath (some relativePath) GENERATED_TICKET_DIR ≠ .ok path →
        s'.fileAt path = s.fileAt path := by
  unfold deleteGeneratedImage safeDeleteUploadFile
  cases deletedPath (some relativePath) GENERATED_TICKET_DIR with
  | error reason => exact ⟨_, s, rfl, ⟨s.files, rfl⟩, fun _ _ => rfl⟩
  | ok deleted =>
      have hfiles : ∃ files, (s.unlink deleted).2 = { s with files } := by
        unfold TicketStore.unlink
        split
        · exact ⟨s.files, rfl⟩
        · exact ⟨_, rfl⟩
      have hother : ∀ path, (.ok deleted : Except String (List String)) ≠ .ok path →
          (s.unlink deleted).2.fileAt path = s.fileAt path := by
        intro path hne
        apply fileAt_unlink_of_ne
        rintro rfl
        exact hne rfl
      simp only [Prog.tryCatch_eq, Prog.bind_eq, Prog.run_tryCatch, Prog.run_bind, ticketCall,
        Prog.run_call, ticketMachine]
      rcases hunlink : s.unlink deleted with ⟨x, s₁⟩
      rw [hunlink] at hfiles hother
      cases x with
      | ok a => exact ⟨_, s₁, rfl, hfiles, hother⟩
      | error e => exact ⟨_, s₁, rfl, hfiles, hother⟩

/-- The store after a rendering, from the store after the picture was saved. -/
theorem rendered_of_saved {s₁ s₂ : TicketStore} {image : DigitalTicketImage} {png : Png}
    (hs : RowsNamed s) (hsame : SamePictures s s₁)
    (hpath : image.relativePath = generatedPath (fresh s.uuids))
    (hrows : ∀ i, i ∈ s₂.images.rows ↔
      (i ∈ s₁.images.rows ∧ image.sameTicket i = false) ∨ i = image)
    (huuids : s₂.uuids = s₁.uuids + 1)
    (hfiles : s₂.files = (s₁.writeFile (generatedFile (fresh s.uuids)) png).files)
    (himages' : s'.images = s₂.images) (huuids' : s'.uuids = s₂.uuids)
    (hkept : ∀ path, (∀ i ∈ s.images.rows, image.sameTicket i = true →
      deletedPath (some i.relativePath) GENERATED_TICKET_DIR ≠ .ok path) →
        s'.fileAt path = s₂.fileAt path)
    (hsize : 0 < png.size)
    (htoken : QrService.Presents rt s'.base image.registrationId png.shows.qrToken) :
    Rendered rt s image png s' := by
  have hat : ∀ path, s₂.fileAt path =
      (s₁.writeFile (generatedFile (fresh s.uuids)) png).fileAt path := by
    intro path
    unfold fileAt
    rw [hfiles]
  -- The file of a row under another name than the deleted ones.
  have hother : ∀ uuid, (∀ i ∈ s.images.rows, image.sameTicket i = true →
      i.relativePath ≠ generatedPath uuid) →
        s'.fileAt (generatedFile uuid) = s₂.fileAt (generatedFile uuid) := by
    intro uuid hne
    apply hkept
    intro i hi hticket hdeleted
    obtain ⟨u, hdrawn, hu⟩ := hs.drawn i hi
    rw [hu, deletedPath_of_drawn hdrawn] at hdeleted
    apply hne i hi hticket
    rw [hu, generatedFile_inj.mp (Except.ok.inj hdeleted)]
  refine ⟨hpath, fun i => ?_, ?_, ?_, hsize, ?_, htoken⟩
  · rw [himages', hrows i, hsame.images]
  · rw [huuids', huuids, hsame.uuids]
  · rw [hother, hat, fileAt_writeFile]
    intro i hi _ heq
    obtain ⟨u, hdrawn, hu⟩ := hs.drawn i hi
    exact Drawn.ne_fresh hdrawn (generatedPath_inj.mp (hu.symm.trans heq))
  · intro i hi hdifferent uuid hdrawn hu
    rw [hother, hat, fileAt_writeFile_of_ne, fileAt, fileAt, hsame.files]
    · exact fun heq => Drawn.ne_fresh hdrawn (generatedFile_inj.mp heq)
    · intro j hj hticket heq
      rw [hs.unique j hj i hi (heq.trans hu.symm), hdifferent] at hticket
      cases hticket

/-- A rendering succeeds once its input is built. -/
theorem exists_renderTicket {v : RegistrationView} {template : TicketTemplate} {input : RenderInput}
    {s₁ : TicketStore} (hs : RowsNamed s)
    (hbuild : (buildRenderInput rt v template).run (ticketMachine rt ch) s = (.ok input, s₁)) :
    ∃ g s', (renderTicket rt v template
        (s.imageOf v.registration.id template.row.id template.columns.version)).run
        (ticketMachine rt ch) s = (.ok g, s') ∧ Rendered rt s g.image ⟨input, ch.pngSize + 1⟩ s' ∧
      g.image.registrationId = v.registration.id ∧ g.image.templateId = template.row.id ∧
      g.image.templateVersion = template.columns.version ∧ SameSources s s' := by
  obtain ⟨hsame, hsources, hpresents⟩ := buildRenderInput_ok hbuild
  obtain ⟨image, s₂, hsave, hr, ht, hv, hpath, hrows, huuids, hsources₂, hbase, hfiles⟩ :=
    exists_saveGeneratedImage rt ch s₁ v.registration.eventId v.registration.id template.row.id
      template.columns.version ⟨input, ch.pngSize + 1⟩
  have hrender : (ticketCall (.render input)).run (ticketMachine rt ch) s₁ =
      (.ok ⟨input, ch.pngSize + 1⟩, s₁) := Prog.run_call _ _ _
  rw [hsame.uuids] at hpath hfiles
  have hrendered : ∀ files, (∀ path, (∀ i ∈ s.images.rows, image.sameTicket i = true →
      deletedPath (some i.relativePath) GENERATED_TICKET_DIR ≠ .ok path) →
        { s₂ with files }.fileAt path = s₂.fileAt path) →
      Rendered rt s image ⟨input, ch.pngSize + 1⟩ { s₂ with files } ∧
        SameSources s { s₂ with files } := by
    intro files hkept
    refine ⟨rendered_of_saved hs hsame hpath hrows huuids hfiles rfl rfl hkept (Nat.succ_pos _) ?_,
      hsources.trans ⟨hsources₂.base, hsources₂.columns, hsources₂.ticketJobs⟩⟩
    change QrService.Presents rt s₂.base image.registrationId input.qrToken
    rw [hbase, hr]
    exact hpresents
  unfold renderTicket
  simp only [Prog.bind_eq]
  rw [Prog.run_bind_ok _ hbuild, Prog.run_bind_ok _ hrender, Prog.run_bind_ok _ hsave]
  cases hof : s.imageOf v.registration.id template.row.id template.columns.version with
  | none =>
      obtain ⟨hnew, hsame'⟩ := hrendered s₂.files fun path _ => rfl
      exact ⟨_, s₂, rfl, hnew, hr, ht, hv, hsame'⟩
  | some old =>
      dsimp only
      split
      · obtain ⟨x, s', hdelete, ⟨files, rfl⟩, hother⟩ :=
          exists_deleteGeneratedImage rt ch s₂ old.relativePath
        rw [Prog.run_bind_ok _ hdelete]
        have hold : old ∈ s.images.rows ∧ image.sameTicket old = true := by
          obtain ⟨hold, hor, hot, hov⟩ := imageOf_eq_some hof
          exact ⟨hold, sameTicket_iff.mpr
            ⟨hr.trans hor.symm, ht.trans hot.symm, hv.trans hov.symm⟩⟩
        obtain ⟨hnew, hsame'⟩ := hrendered files fun path hpath' =>
          hother path (hpath' old hold.1 hold.2)
        exact ⟨_, _, rfl, hnew, hr, ht, hv, hsame'⟩
      · obtain ⟨hnew, hsame'⟩ := hrendered s₂.files fun path _ => rfl
        exact ⟨_, s₂, rfl, hnew, hr, ht, hv, hsame'⟩

/-- What a rendering leaves, whether it succeeds or not. -/
theorem renderTicket_after {v : RegistrationView} {template : TicketTemplate} (hs : RowsNamed s) :
    (renderTicket rt v template
      (s.imageOf v.registration.id template.row.id template.columns.version)).After
      (ticketMachine rt ch) s fun x s' => match x with
        | .ok g => ∃ png, Rendered rt s g.image png s' ∧ g.image.registrationId = v.registration.id
        | .error _ => SamePictures s s' := by
  cases hbuild : (buildRenderInput rt v template).run (ticketMachine rt ch) s with
  | mk x s₁ =>
      unfold Prog.After
      cases x with
      | ok input =>
          obtain ⟨g, s', hrun, hrendered, hr, -⟩ := exists_renderTicket hs hbuild
          rw [hrun]
          exact ⟨_, hrendered, hr⟩
      | error e =>
          have hsame := samePictures_run (neutral_buildRenderInput rt v template) rt ch s
          rw [hbuild] at hsame
          rw [renderTicket, Prog.bind_eq, Prog.run_bind_error _ hbuild]
          exact hsame

/-! ## The calls on their own -/

/-- The check for a usable picture reads the file. -/
theorem exists_isGeneratedImageUsable (rt : Runtime) (ch : TicketChoice) (s : TicketStore)
    (relativePath : Option String) :
    ∃ usable, (isGeneratedImageUsable relativePath).run (ticketMachine rt ch) s = (.ok usable, s) ∧
      (usable = true ↔ ∃ path f, resolveGeneratedRelativePath relativePath = some path ∧
        s.fileAt path = some f ∧ 0 < f.png.size) := by
  unfold isGeneratedImageUsable
  cases hresolve : resolveGeneratedRelativePath relativePath with
  | none => exact ⟨false, rfl, by simp⟩
  | some path =>
      simp only [Prog.tryCatch_eq, Prog.bind_eq, Prog.run_tryCatch, Prog.run_bind, ticketCall,
        Prog.run_call, ticketMachine]
      cases hat : s.fileAt path with
      | none => exact ⟨false, rfl, by simp [hat]⟩
      | some f => exact ⟨decide (0 < f.png.size), rfl, by simp [hat]⟩

theorem exists_usableImage (rt : Runtime) (ch : TicketChoice) (s : TicketStore)
    (existingImage : Option DigitalTicketImage) :
    ∃ usable, (usableImage existingImage).run (ticketMachine rt ch) s = (.ok usable, s) ∧
      ∀ i, usable = some i ↔ existingImage = some i ∧ s.Shown i := by
  unfold usableImage
  cases existingImage with
  | none => exact ⟨none, rfl, by simp⟩
  | some image =>
      obtain ⟨usable, hrun, husable⟩ :=
        exists_isGeneratedImageUsable rt ch s (some image.relativePath)
      simp only [Prog.bind_eq]
      rw [Prog.run_bind_ok _ hrun]
      cases usable with
      | true =>
          refine ⟨some image, rfl, fun i => ?_⟩
          constructor
          · rintro ⟨⟩
            exact ⟨rfl, husable.mp rfl⟩
          · exact fun h => h.1
      | false =>
          refine ⟨none, rfl, fun i => ?_⟩
          constructor
          · rintro ⟨⟩
          · rintro ⟨⟨⟩, hshown⟩
            cases husable.mpr hshown

theorem findRegistration_cases (rt : Runtime) (ch : TicketChoice) (s : TicketStore)
    (registrationId : Id) :
    (∃ e, (findRegistration registrationId).run (ticketMachine rt ch) s = (.error e, s)) ∨
      ∃ v, (findRegistration registrationId).run (ticketMachine rt ch) s = (.ok v, s) ∧
        s.base.registrations.find? registrationId = some v.registration := by
  simp only [findRegistration, Prog.bind_eq, Prog.run_bind, ticketCall, Prog.run_call, ticketMachine,
    machine]
  cases hfind : s.base.registrations.find? registrationId with
  | none => exact .inl ⟨_, rfl⟩
  | some r =>
      simp only [Store.registrationView]
      cases s.base.events.find? r.eventId with
      | none => exact .inl ⟨_, rfl⟩
      | some event =>
          cases s.base.attendeeTypes.find? r.attendeeTypeId with
          | none => exact .inl ⟨_, rfl⟩
          | some attendeeType => exact .inr ⟨⟨r, event, attendeeType⟩, rfl, rfl⟩

/-- The template for an attendee type of an event. -/
def TicketStore.templateFor (s : TicketStore) (ch : Choice) (eventId attendeeTypeId : Id) :
    Option TicketTemplate :=
  pickTemplate attendeeTypeId (s.templatesFor ch eventId attendeeTypeId)

/-- The registration is stored and active, and there is a template for its ticket. -/
structure Eligible (rt : Runtime) (ch : TicketChoice) (s : TicketStore) (registrationId : Id)
    (v : RegistrationView) (template : TicketTemplate) : Prop where
  found : (findRegistration registrationId).run (ticketMachine rt ch) s = (.ok v, s)
  active : v.registration.status = .ACTIVE
  template : s.templateFor ch.toChoice v.registration.eventId v.registration.attendeeTypeId =
    some template

theorem Eligible.id_eq {registrationId : Id} {v : RegistrationView} {template : TicketTemplate}
    (h : Eligible rt ch s registrationId v template) : v.registration.id = registrationId := by
  rcases findRegistration_cases rt ch s registrationId with ⟨e, hrun⟩ | ⟨v', hrun, hfind⟩
  · cases hrun.symm.trans h.found
  · cases hrun.symm.trans h.found
    exact (Table.find?_eq_some_iff.mp hfind).2

theorem run_findActiveTemplateForRegistration (rt : Runtime) (ch : TicketChoice) (s : TicketStore)
    (registration : Registration) :
    (findActiveTemplateForRegistration registration).run (ticketMachine rt ch) s =
      (match s.templateFor ch.toChoice registration.eventId registration.attendeeTypeId with
        | none => .error (.notFound "Active digital ticket template not found")
        | some template => .ok template, s) := by
  simp only [findActiveTemplateForRegistration, Prog.bind_eq, Prog.run_bind, ticketCall,
    Prog.run_call, ticketMachine, ticketQuery, TicketStore.templateFor]
  cases pickTemplate registration.attendeeTypeId
    (s.templatesFor ch.toChoice registration.eventId registration.attendeeTypeId) <;> rfl

/-- The last part of `generateForRegistration`: a usable image is reused. -/
def reuseOrRender (rt : Runtime) (v : RegistrationView) (template : TicketTemplate)
    (existingImage : Option DigitalTicketImage) :
    Option DigitalTicketImage → TicketSvc GeneratedTicket
  | some image => return { image, templateVersion := template.columns.version, reused := true }
  | none => renderTicket rt v template existingImage

/-- A ticket is reused if it has a usable picture and none is forced, and rendered otherwise. -/
theorem generateForRegistration_of_eligible {registrationId : Id} {v : RegistrationView}
    {template : TicketTemplate} (h : Eligible rt ch s registrationId v template)
    (dto : GenerateDigitalTicketDto) :
    (∃ image, dto.forceRegenerate = false ∧
      s.imageOf v.registration.id template.row.id template.columns.version = some image ∧
      s.Shown image ∧
      (generateForRegistration rt registrationId dto).run (ticketMachine rt ch) s =
        (.ok { image, templateVersion := template.columns.version, reused := true }, s)) ∨
    (dto.forceRegenerate = true ∨ ∀ image,
        s.imageOf v.registration.id template.row.id template.columns.version = some image →
          ¬ s.Shown image) ∧
      (generateForRegistration rt registrationId dto).run (ticketMachine rt ch) s =
        (renderTicket rt v template
          (s.imageOf v.registration.id template.row.id template.columns.version)).run
          (ticketMachine rt ch) s := by
  have htemplate : (findActiveTemplateForRegistration v.registration).run (ticketMachine rt ch) s =
      (.ok template, s) := by
    rw [run_findActiveTemplateForRegistration, h.template]
  have hexisting : (findExistingImage v.registration.id template).run (ticketMachine rt ch) s =
      (.ok (s.imageOf v.registration.id template.row.id template.columns.version), s) :=
    Prog.run_call _ _ _
  have hrun : (generateForRegistration rt registrationId dto).run (ticketMachine rt ch) s =
      (if dto.forceRegenerate then reuseOrRender rt v template
          (s.imageOf v.registration.id template.row.id template.columns.version) none
        else (usableImage (s.imageOf v.registration.id template.row.id
          template.columns.version)).bind (reuseOrRender rt v template
            (s.imageOf v.registration.id template.row.id template.columns.version))).run
        (ticketMachine rt ch) s := by
    unfold generateForRegistration
    simp only [Prog.bind_eq]
    rw [Prog.run_bind_ok _ h.found, if_neg (not_not.mpr h.active), Prog.run_bind_ok _ htemplate,
      Prog.run_bind_ok _ hexisting]
    rfl
  rw [hrun]
  cases hforce : dto.forceRegenerate with
  | true => exact .inr ⟨.inl rfl, rfl⟩
  | false =>
      obtain ⟨usable, husable, hiff⟩ := exists_usableImage rt ch s
        (s.imageOf v.registration.id template.row.id template.columns.version)
      rw [if_neg (by decide), Prog.run_bind_ok _ husable]
      cases usable with
      | some image =>
          obtain ⟨hof, hshown⟩ := (hiff image).mp rfl
          exact .inl ⟨image, rfl, hof, hshown, rfl⟩
      | none =>
          refine .inr ⟨.inr fun image hof hshown => ?_, rfl⟩
          cases (hiff image).mpr ⟨hof, hshown⟩

/-- No ticket is generated for a registration that is not eligible. -/
theorem generateForRegistration_of_not_eligible {registrationId : Id}
    (h : ∀ v template, ¬ Eligible rt ch s registrationId v template)
    (dto : GenerateDigitalTicketDto) :
    ∃ e, (generateForRegistration rt registrationId dto).run (ticketMachine rt ch) s =
      (.error e, s) := by
  unfold generateForRegistration
  simp only [Prog.bind_eq]
  rcases findRegistration_cases rt ch s registrationId with ⟨e, hrun⟩ | ⟨v, hrun, -⟩
  · exact ⟨e, Prog.run_bind_error _ hrun _⟩
  · rw [Prog.run_bind_ok _ hrun]
    split
    · exact ⟨_, rfl⟩
    · next hactive =>
        have htemplate := run_findActiveTemplateForRegistration rt ch s v.registration
        cases hfor : s.templateFor ch.toChoice v.registration.eventId
            v.registration.attendeeTypeId with
        | none =>
            rw [hfor] at htemplate
            exact ⟨_, Prog.run_bind_error _ htemplate _⟩
        | some template => exact absurd ⟨hrun, not_not.mp hactive, hfor⟩ (h v template)

/-- The picture that a call returns: one that was there, or a new one. -/
inductive Pictured (rt : Runtime) (s : TicketStore) (image : DigitalTicketImage)
    (s' : TicketStore) : Prop
  | kept (hs : s' = s) (hrow : image ∈ s.images.rows) (hshown : s.Shown image)
  | drawn {png} (h : Rendered rt s image png s')

theorem generateForRegistration_after (hs : RowsNamed s) (registrationId : Id)
    (dto : GenerateDigitalTicketDto) :
    (generateForRegistration rt registrationId dto).After (ticketMachine rt ch) s fun x s' =>
      match x with
      | .ok g => g.image.registrationId = registrationId ∧ Pictured rt s g.image s'
      | .error _ => SamePictures s s' := by
  by_cases h : ∃ v template, Eligible rt ch s registrationId v template
  · obtain ⟨v, template, h⟩ := h
    rcases generateForRegistration_of_eligible h dto with
      ⟨image, -, hof, hshown, hrun⟩ | ⟨-, hrun⟩
    · unfold Prog.After
      rw [hrun]
      obtain ⟨hrow, hr, -⟩ := imageOf_eq_some hof
      exact ⟨hr.trans h.id_eq, .kept rfl hrow hshown⟩
    · have hrender : (renderTicket rt v template (s.imageOf v.registration.id template.row.id
          template.columns.version)).After (ticketMachine rt ch) s _ := renderTicket_after hs
      unfold Prog.After at hrender ⊢
      rw [hrun]
      cases hx : (renderTicket rt v template (s.imageOf v.registration.id template.row.id
          template.columns.version)).run (ticketMachine rt ch) s with
      | mk x s' =>
          rw [hx] at hrender
          cases x with
          | ok g =>
              obtain ⟨png, hrendered, hr⟩ := hrender
              exact ⟨hr.trans h.id_eq, .drawn hrendered⟩
          | error e => exact hrender
  · have hnot : ∀ v template, ¬ Eligible rt ch s registrationId v template :=
      fun v template hv => h ⟨v, template, hv⟩
    obtain ⟨e, hrun⟩ := generateForRegistration_of_not_eligible hnot dto
    unfold Prog.After
    rw [hrun]
    exact SamePictures.refl s

/-- The job that the status adds for a row whose picture is missing. -/
def regenerationJob (registration : RegistrationLike) : PipelineJob where
  registrationId := registration.id
  eventId := registration.eventId
  source := registration.source.getD .PUBLIC
  skipDigitalTicket := false

/-- The store with one more job of the pipeline. -/
def TicketStore.addPipelineJob (s : TicketStore) (job : PipelineJob) : TicketStore :=
  { s with base := { s.base with pipelineJobs := s.base.pipelineJobs ++ [job] } }

theorem resolveForRegistration_of_none {registration : RegistrationLike}
    (h : s.templateFor ch.toChoice registration.eventId registration.attendeeTypeId = none) :
    (DigitalTicketStatusService.resolveForRegistration registration).run (ticketMachine rt ch) s =
      (.ok { status := .NOT_CONFIGURED }, s) := by
  unfold TicketStore.templateFor at h
  simp only [DigitalTicketStatusService.resolveForRegistration, Prog.bind_eq, Prog.run_bind,
    ticketCall, Prog.run_call, ticketMachine, ticketQuery, h]
  rfl

/-- The status of a ticket that has a template. -/
theorem resolveForRegistration_of_template (rt : Runtime) {registration : RegistrationLike}
    {template : TicketTemplate}
    (h : s.templateFor ch.toChoice registration.eventId registration.attendeeTypeId = some template) :
    (∃ image, s.imageOf registration.id template.row.id template.columns.version = some image ∧
      s.Shown image ∧
      (DigitalTicketStatusService.resolveForRegistration registration).run (ticketMachine rt ch) s =
        (.ok {
          status := .READY
          relativePath := some image.relativePath
          generatedAt := some image.generatedAt
          templateVersion := some image.templateVersion }, s)) ∨
    (∃ image, s.imageOf registration.id template.row.id template.columns.version = some image ∧
      ¬ s.Shown image ∧
      (DigitalTicketStatusService.resolveForRegistration registration).run (ticketMachine rt ch) s =
        (.ok { status := .PENDING }, s.addPipelineJob (regenerationJob registration))) ∨
    s.imageOf registration.id template.row.id template.columns.version = none ∧
      (DigitalTicketStatusService.resolveForRegistration registration).run (ticketMachine rt ch) s =
        (.ok { status := .PENDING }, s) := by
  have htemplates : (ticketCall (.templatesFor registration.eventId
      registration.attendeeTypeId)).run (ticketMachine rt ch) s =
      (.ok (s.templatesFor ch.toChoice registration.eventId registration.attendeeTypeId), s) :=
    Prog.run_call _ _ _
  have hfind : (ticketCall (.imageFind registration.id template.row.id
      template.columns.version)).run (ticketMachine rt ch) s =
      (.ok (s.imageOf registration.id template.row.id template.columns.version), s) :=
    Prog.run_call _ _ _
  obtain ⟨usable, husable, hiff⟩ := exists_usableImage rt ch s
    (s.imageOf registration.id template.row.id template.columns.version)
  unfold TicketStore.templateFor at h
  unfold DigitalTicketStatusService.resolveForRegistration
  simp only [Prog.bind_eq]
  rw [Prog.run_bind_ok _ htemplates, h]
  dsimp only
  rw [Prog.run_bind_ok _ hfind, Prog.run_bind_ok _ husable]
  cases usable with
  | some image =>
      obtain ⟨hof, hshown⟩ := (hiff image).mp rfl
      exact .inl ⟨image, hof, hshown, rfl⟩
  | none =>
      cases hof : s.imageOf registration.id template.row.id template.columns.version with
      | none => exact .inr (.inr ⟨rfl, rfl⟩)
      | some image =>
          refine .inr (.inl ⟨image, rfl, fun hshown => ?_, rfl⟩)
          cases (hiff image).mpr ⟨hof, hshown⟩

end Tickets

end CreativeBackend
