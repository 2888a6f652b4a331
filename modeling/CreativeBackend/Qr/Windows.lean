import CreativeBackend.Tickets.Rendering
import CreativeBackend.Qr.Codec
import Mathlib

/-!
# The windows of events and tokens

`generate` copies the window of the event into the row of a token when the token is issued, and
returns an active row as it is. `EventsService.update` edits the event alone, and `validate` reads
the window of the row.
-/

namespace CreativeBackend

open Relational Interaction

namespace QrWindows

/-! ## Windows -/

/-- `[qrValidFrom or startsAt, qrValidUntil or endsAt]`. -/
def eventWindow (e : Event) : Set Time :=
  Set.Icc (e.qrValidFrom.getD e.startsAt) (e.qrValidUntil.getD e.endsAt)

/-- The window in the row of a token. -/
def tokenWindow (q : QrToken) : Set Time := Set.Icc q.validFrom q.validUntil

/-! ## Updates of an event -/

/-- The columns of `UpdateEventDto` that the store keeps, with their initialisers. Of a column
that may be null the inner `none` is `null`. -/
structure UpdateEventDto where
  clientId : Option (Option String) := none
  titleAr : Option (Option String) := none
  titleEn : Option (Option String) := none
  startsAt : Option String := none
  endsAt : Option String := none
  allowReEntry : Option (Option Bool) := some (some true)
  duplicateStrategy : Option (Option String) := some (some "PHONE")
  qrValidFrom : Option String := none
  qrValidUntil : Option String := none

namespace EventsService

variable (rt : Runtime) (clients : Id → Bool)

/-- `text ? new Date(text) : undefined`; the inner `none` is an invalid date. -/
def dateOf (text : Option String) : Option (Option Time) := (truthy text).map rt.parseDate

def ensureClientExists : Option Id → Except Exn Unit
  | none => .ok ()
  | some clientId => if clients clientId then .ok () else .error (.notFound "Client not found")

/-- An invalid date compares as false. -/
def ensureEndsAfterStarts : Option Time → Option Time → Except Exn Unit
  | some startsAt, some endsAt =>
      if endsAt ≤ startsAt then .error (.badRequest "endsAt must be after startsAt") else .ok ()
  | _, _ => .ok ()

/-- A date that is written is valid, and a column that is not nullable is not set to `null`. -/
def isWritable (dto : UpdateEventDto) : Bool :=
  [dto.startsAt, dto.endsAt, dto.qrValidFrom, dto.qrValidUntil].all
      (fun text => dateOf rt text ≠ some none) &&
    dto.clientId ≠ some none && dto.titleAr ≠ some none && dto.allowReEntry ≠ some none &&
    dto.duplicateStrategy ≠ some none

/-- What `update` checks on the row it read, and what Prisma checks on the data. -/
def check (dto : UpdateEventDto) (event : Event) : Except Exn Unit :=
  if event.status = .ARCHIVED then .error (.badRequest "Archived events cannot be modified")
  else do
    ensureClientExists clients (truthy dto.clientId.join)
    ensureEndsAfterStarts ((dateOf rt dto.startsAt).getD (some event.startsAt))
      ((dateOf rt dto.endsAt).getD (some event.endsAt))
    if isWritable rt dto = false then .error (.prisma .validation)
    else if dto.clientId.join.any (fun clientId => !clients clientId) then
      .error (.prisma .foreignKey)
    else .ok ()

/-- The row with the columns that are given. -/
def edited (dto : UpdateEventDto) (event : Event) : Event :=
  { event with
    titleAr := dto.titleAr.join.getD event.titleAr
    titleEn := dto.titleEn.getD event.titleEn
    startsAt := (dateOf rt dto.startsAt).join.getD event.startsAt
    endsAt := (dateOf rt dto.endsAt).join.getD event.endsAt
    allowReEntry := dto.allowReEntry.join.getD event.allowReEntry
    duplicateStrategy := dto.duplicateStrategy.join.getD event.duplicateStrategy
    qrValidFrom := (dateOf rt dto.qrValidFrom).join.or event.qrValidFrom
    qrValidUntil := (dateOf rt dto.qrValidUntil).join.or event.qrValidUntil }

def update (id : Id) (dto : UpdateEventDto) (s : Store) : Store.Answer Event :=
  match s.events.find? id with
  | none => (.error (.notFound "Event not found"), s)
  | some event =>
      match check rt clients dto event with
      | .error e => (.error e, s)
      | .ok _ =>
          match s.events.update id (edited rt dto) with
          | .done row t => (.ok row, { s with events := t })
          | _ => (.error (.prisma .notFound), s)

/-- An update writes the edited row or nothing. -/
theorem update_cases (id : Id) (dto : UpdateEventDto) (s : Store) :
    (update rt clients id dto s).2 = s ∨
      ∃ event row t, s.events.find? id = some event ∧ check rt clients dto event = .ok () ∧
        s.events.update id (edited rt dto) = .done row t ∧
        (update rt clients id dto s).2 = { s with events := t } := by
  unfold update
  cases hfind : s.events.find? id with
  | none => exact .inl rfl
  | some event =>
      dsimp only
      cases hcheck : check rt clients dto event with
      | error e => exact .inl rfl
      | ok _ =>
          dsimp only
          cases hupdate : s.events.update id (edited rt dto) with
          | done row t => exact .inr ⟨event, row, t, rfl, hcheck, rfl, rfl⟩
          | missing => exact .inl rfl
          | duplicate => exact .inl rfl

theorem qrTokens_update (id : Id) (dto : UpdateEventDto) (s : Store) :
    (update rt clients id dto s).2.qrTokens = s.qrTokens := by
  rcases update_cases rt clients id dto s with h | ⟨event, row, t, -, -, -, h⟩
  · rw [h]
  · rw [h]

end EventsService

/-! ## What a generation writes -/

section Generation

open QrService Prog

variable {rt : Runtime} {ch : Choice} {s s' : Store} {registrationId : Id}

/-- The columns of a row that was just issued. -/
structure IsIssued (q : QrToken) (d : QrTokenData) : Prop where
  registration : q.registrationId = d.registrationId
  event : q.eventId = d.eventId
  tokenId : q.tokenId = d.tokenId
  validFrom : q.validFrom = d.validFrom
  validUntil : q.validUntil = d.validUntil

/-- Every row is an earlier one or has just been issued. -/
def OnlyIssues (d : QrTokenData) (s s' : Store) : Prop :=
  ∀ q ∈ s'.qrTokens.rows, q ∈ s.qrTokens.rows ∨ IsIssued q d

theorem onlyIssues_of_eq {d : QrTokenData} (h : s'.qrTokens = s.qrTokens) : OnlyIssues d s s' := by
  intro q hq
  rw [h] at hq
  exact .inl hq

theorem onlyIssues_create {d : QrTokenData} {x : Except Exn QrToken}
    (h : s.createQrToken d = (x, s')) : OnlyIssues d s s' := by
  rcases Store.createQrToken_cases h with ⟨e, -, rfl⟩ | ⟨row, t, hcreate, -, rfl⟩
  · exact onlyIssues_of_eq rfl
  · intro q hq
    rcases (Table.mem_create hcreate).mp hq with hold | rfl
    · exact .inl hold
    · rw [(Table.create_eq_some hcreate).1]
      exact .inr ⟨rfl, rfl, rfl, rfl, rfl⟩

theorem onlyIssues_refresh {d : QrTokenData} {existing : QrToken} {x : Except Exn Nat}
    (hmem : existing ∈ s.qrTokens.rows) (hreg : existing.registrationId = d.registrationId)
    (h : s.refreshQrToken existing d = (x, s')) : OnlyIssues d s s' := by
  rcases Store.refreshQrToken_cases h with
    ⟨e, -, rfl⟩ | ⟨-, rfl⟩ | ⟨_, row, t, -, -, hupdate, -, rfl⟩
  · exact onlyIssues_of_eq rfl
  · exact onlyIssues_of_eq rfl
  · intro q hq
    rcases (Table.mem_update hupdate).mp hq with ⟨hold, -⟩ | rfl
    · exact .inl hold
    · obtain ⟨old, hold, hkey, hrow, -, -⟩ := Table.update_eq_done hupdate
      have hsame : old = existing := s.qrTokens.eq_of_key hold hmem hkey
      rw [hrow, hsame]
      exact .inr ⟨hreg, rfl, rfl, rfl, rfl⟩

theorem findActive_reads (registrationId : Id) (e : Exn) : Reads (findActive registrationId e) := by
  refine all_bind (all_call rfl) fun found => ?_
  cases found <;> trivial

theorem onlyIssues_findActive {d : QrTokenData} {e : Exn} (h : OnlyIssues d s s') :
    (findActive registrationId e).After (machine rt ch) s' fun _ u => OnlyIssues d s u := by
  unfold After
  rw [(findActive_reads registrationId e).run rt ch s']
  exact h

theorem createOrRefreshQrToken_issues {d : QrTokenData} {existing : Option QrToken}
    (hexisting : s.qrTokenOf d.registrationId = existing) :
    (createOrRefreshQrToken d existing).After (machine rt ch) s fun _ u => OnlyIssues d s u := by
  cases existing with
  | none =>
      simp only [createOrRefreshQrToken, Prog.tryCatch_eq]
      have hcreate : (call (.qrTokenCreate d)).After (machine rt ch) s
          fun _ u => OnlyIssues d s u := by
        unfold After
        rw [call, run_call]
        exact onlyIssues_create rfl
      refine after_tryCatch hcreate (fun _ _ h => h) fun e u h => ?_
      split
      · exact onlyIssues_findActive h
      · exact h
  | some existing =>
      have hmem : existing ∈ s.qrTokens.rows := List.mem_of_find?_eq_some hexisting
      have hreg : existing.registrationId = d.registrationId := by
        simpa using List.find?_some hexisting
      have hrefresh : (call (.qrTokenRefresh existing d)).After (machine rt ch) s
          fun _ u => OnlyIssues d s u := by
        unfold After
        rw [call, run_call]
        exact onlyIssues_refresh hmem hreg rfl
      refine after_bind hrefresh (fun count u h => ?_) fun _ _ h => h
      split
      · refine after_bind_still rfl (fun found _ => ?_) fun _ _ => h
        cases found with
        | none => exact h
        | some refreshed => exact h
      · exact onlyIssues_findActive h

/-- A token id that was drawn. -/
def IsDrawn (rt : Runtime) (tokenId : String) : Prop := ∃ n, tokenId = "QRT_" ++ rt.random n

theorem tryTokenIds_draws (attempts : Nat) (s : Store) :
    (tryTokenIds attempts).After (machine rt ch) s fun x s' =>
      s'.qrTokens = s.qrTokens ∧ ∀ tokenId, x = .ok tokenId → IsDrawn rt tokenId := by
  induction attempts generalizing s with
  | zero => exact ⟨rfl, fun _ h => by cases h⟩
  | succ n ih =>
      simp only [tryTokenIds, Prog.bind_eq]
      have hdraw : (call .random).run (machine rt ch) s =
          (.ok (rt.random s.draws), { s with draws := s.draws + 1 }) := rfl
      refine after_bind_of_ok hdraw ?_
      have hlookup : Reads (call (.qrTokenByTokenId ("QRT_" ++ rt.random s.draws))) := all_call rfl
      refine after_bind_still (hlookup.run rt ch _) (fun found _ => ?_)
        fun _ _ => ⟨rfl, fun _ h => by cases h⟩
      cases found with
      | none => exact ⟨rfl, fun tokenId h => ⟨s.draws, (Except.ok.inj h).symm⟩⟩
      | some view => exact ih _

/-- The data of a token that is issued for a registration of the event. -/
structure IsFresh (rt : Runtime) (r : Registration) (e : Event) (d : QrTokenData) : Prop where
  registration : d.registrationId = r.id
  event : d.eventId = r.eventId
  tokenId : IsDrawn rt d.tokenId
  validFrom : d.validFrom = e.qrValidFrom.getD e.startsAt
  validUntil : d.validUntil = e.qrValidUntil.getD e.endsAt

/-- Every row is an earlier one or is issued for the registration and its event. -/
def Issues (rt : Runtime) (r : Registration) (e : Event) (s s' : Store) : Prop :=
  ∀ q ∈ s'.qrTokens.rows, q ∈ s.qrTokens.rows ∨ ∃ d, IsFresh rt r e d ∧ IsIssued q d

theorem issues_of_eq {r : Registration} {e : Event} (h : s'.qrTokens = s.qrTokens) :
    Issues rt r e s s' := by
  intro q hq
  rw [h] at hq
  exact .inl hq

theorem issue_issues {v : RegistrationView} {existing : Option QrToken}
    (hexisting : s.qrTokenOf v.registration.id = existing) :
    (issue rt v existing).After (machine rt ch) s fun _ u =>
      Issues rt v.registration v.event s u := by
  refine after_bind (tryTokenIds_draws 5 s) (fun tokenId s₁ hdraw => ?_)
    fun e u h => issues_of_eq h.1
  refine after_bind_still rfl (fun now _ => ?_) fun _ _ => issues_of_eq hdraw.1
  have hnonce : (call .random).run (machine rt ch) s₁ =
      (.ok (rt.random s₁.draws), { s₁ with draws := s₁.draws + 1 }) := rfl
  refine after_bind_of_ok hnonce ?_
  have hsame : ({ s₁ with draws := s₁.draws + 1 } : Store).qrTokens = s.qrTokens := hdraw.1
  have hof : ({ s₁ with draws := s₁.draws + 1 } : Store).qrTokenOf v.registration.id =
      existing := by
    rw [← hexisting, Store.qrTokenOf, Store.qrTokenOf, hsame]
  refine after_bind (createOrRefreshQrToken_issues hof) (fun q u h => ?_) fun e u h => ?_
  · unfold After
    rw [run_ofExcept]
    intro q' hq'
    rcases h q' hq' with hold | hissued
    · exact .inl (hsame ▸ hold)
    · exact .inr ⟨_, ⟨rfl, rfl, hdraw.2 tokenId rfl, rfl, rfl⟩, hissued⟩
  · intro q' hq'
    rcases h q' hq' with hold | hissued
    · exact .inl (hsame ▸ hold)
    · exact .inr ⟨_, ⟨rfl, rfl, hdraw.2 tokenId rfl, rfl, rfl⟩, hissued⟩

theorem findRegistrationWithRelations_view {v : RegistrationView}
    (h : (findRegistrationWithRelations registrationId).run (machine rt ch) s = (.ok v, s')) :
    s.events.find? v.registration.eventId = some v.event ∧
      s.attendeeTypes.find? v.registration.attendeeTypeId = some v.attendeeType := by
  obtain ⟨found, s₁, hcall, hrest⟩ := run_bind_eq_ok _ h
  rw [call, run_call] at hcall
  simp only [machine] at hcall
  split at hcall
  · cases hcall
    simp at hrest
  · next r hr =>
      simp only [Store.registrationView] at hcall
      split at hcall
      · next e a he ha =>
          cases hcall
          cases hrest
          exact ⟨he, ha⟩
      · cases hcall

/-- What a generation does to the rows, whether it returns or throws. -/
theorem generate_issues (rt : Runtime) (ch : Choice) (s : Store) (registrationId : Id) :
    (generate rt registrationId).After (machine rt ch) s fun _ u => u.qrTokens = s.qrTokens ∨
      ∃ r e, s.registrations.find? registrationId = some r ∧ s.events.find? r.eventId = some e ∧
        Issues rt r e s u := by
  refine after_bind_still ((findRegistrationWithRelations_reads registrationId).run rt ch s)
    (fun v hv => ?_) fun _ _ => .inl rfl
  have hrun : (findRegistrationWithRelations registrationId).run (machine rt ch) s = (.ok v, s) :=
    Prod.ext hv ((findRegistrationWithRelations_reads registrationId).run rt ch s)
  obtain ⟨-, hr, -⟩ := findRegistrationWithRelations_ok hrun
  have hid : v.registration.id = registrationId := (Table.find?_eq_some_iff.mp hr).2
  have hevent := (findRegistrationWithRelations_view hrun).1
  split
  · exact .inl rfl
  · refine after_bind_still rfl (fun existing hexisting => ?_) fun _ _ => .inl rfl
    have hof : s.qrTokenOf v.registration.id = existing := by
      rw [hid]
      exact Except.ok.inj hexisting
    have hissue : ∀ existing, s.qrTokenOf v.registration.id = existing →
        (issue rt v existing).After (machine rt ch) s fun _ u => u.qrTokens = s.qrTokens ∨
          ∃ r e, s.registrations.find? registrationId = some r ∧
            s.events.find? r.eventId = some e ∧ Issues rt r e s u := by
      intro existing h
      exact (issue_issues h).mono fun _ _ hissues =>
        .inr ⟨v.registration, v.event, hr, hevent, hissues⟩
    cases existing with
    | none => exact hissue none hof
    | some q =>
        dsimp only
        split
        · unfold After
          rw [run_ofExcept]
          exact .inl rfl
        · exact hissue (some q) hof

/-- A generation of an active token returns it and changes nothing. -/
theorem generate_active {q : QrToken} {r : Registration} {e : Event} {code : String}
    (hr : s.registrations.find? r.id = some r) (he : s.events.find? r.eventId = some e)
    (ha : ∃ a, s.attendeeTypes.find? r.attendeeTypeId = some a) (hopen : e.status ≠ .ARCHIVED)
    (hq : q ∈ s.qrTokens.rows) (hreg : q.registrationId = r.id) (hactive : q.status = .ACTIVE)
    (hcode : createCompactQrToken rt q.tokenId = .ok code) :
    ∃ qr, (generate rt r.id).run (machine rt ch) s = (.ok qr, s) ∧ qr.compactQrToken = code := by
  obtain ⟨a, ha⟩ := ha
  have hfind : (findRegistrationWithRelations r.id).run (machine rt ch) s =
      (.ok ⟨r, e, a⟩, s) := by
    simp only [findRegistrationWithRelations, Prog.bind_eq, run_bind, call, run_call, machine, hr,
      Store.registrationView, he, ha, Except.map]
    rfl
  have hof : (call (.qrTokenByRegistration r.id)).run (machine rt ch) s = (.ok (some q), s) :=
    congrArg (fun found => (Except.ok found, s)) (qrTokenOf_of_mem hq hreg)
  obtain ⟨qr, hqr⟩ : ∃ qr, formatQrToken rt q = .ok qr := by
    unfold formatQrToken
    rw [hcode]
    exact ⟨_, rfl⟩
  refine ⟨qr, ?_, ?_⟩
  · rw [generate, Prog.bind_eq, run_bind_ok _ hfind]
    simp only [hopen, if_false]
    rw [Prog.bind_eq, run_bind_ok _ hof]
    simp only [hactive, if_true, run_ofExcept, hqr]
  · have hcompact := formatQrToken_compact hqr
    rw [hcode] at hcompact
    exact (Except.ok.inj hcompact).symm

end Generation

/-! ## What a validation answers -/

section Validation

open QrService Prog

variable {rt : Runtime} {ch : Choice} {s : Store} {p : QrPayload}

/-- The random part of a token id is text, of sixteen digits at most. -/
def DrawsText (rt : Runtime) : Prop :=
  ∀ n, isTokenText (rt.random n) = true ∧ (rt.random n).length ≤ 16

theorem IsDrawn.text (hrandom : DrawsText rt) {tokenId : String} (h : IsDrawn rt tokenId) :
    isTokenText tokenId = true ∧ tokenId.length ≤ 128 := by
  obtain ⟨n, rfl⟩ := h
  obtain ⟨htext, hlength⟩ := hrandom n
  constructor
  · simp only [isTokenText, String.toList_append, List.all_append, Bool.and_eq_true] at htext ⊢
    exact ⟨by simp, by decide, htext.2⟩
  · have hstem : ("QRT_" : String).length = 4 := by decide
    rw [String.length_append, hstem]
    omega

theorem find_tokenId {q : QrToken} (hq : q ∈ s.qrTokens.rows) :
    (s.qrTokens.rows.find? fun x => x.tokenId = q.tokenId) = some q := by
  cases hfind : s.qrTokens.rows.find? fun x => x.tokenId = q.tokenId with
  | none => exact absurd (by simp) (List.find?_eq_none.mp hfind q hq)
  | some x =>
      have hid : x.tokenId = q.tokenId := by simpa using List.find?_some hfind
      exact congrArg some (s.qrTokens.eq_of_clash (List.mem_of_find?_eq_some hfind) hq
        (by simp [clash, hid]))

/-- The answer is that of the window, at the clock of the store. -/
def AnswersIn (rt : Runtime) (ch : Choice) (code : String) (w : Set Time) (s : Store) : Prop :=
  ∃ v, (validate rt code).run (machine rt ch) s = (.ok v, s) ∧ (s.clock ∈ w → v.valid = true) ∧
    (s.clock ∉ w → v.valid = false ∧ v.reason = "TOKEN_EXPIRED")

/-- The code of an active token of an active registration is answered in the token's window. -/
theorem answersIn_tokenWindow (ideal : IdealPrimitives rt p) (hrandom : DrawsText rt) {q : QrToken}
    {r : Registration} {a : AttendeeType} {code : String} (hq : q ∈ s.qrTokens.rows)
    (hactive : q.status = .ACTIVE) (hdrawn : IsDrawn rt q.tokenId)
    (hr : s.registrations.find? q.registrationId = some r) (hstatus : r.status = .ACTIVE)
    (ha : s.attendeeTypes.find? r.attendeeTypeId = some a)
    (hcode : createCompactQrToken rt q.tokenId = .ok code) :
    AnswersIn rt ch code (tokenWindow q) s := by
  obtain ⟨htext, hlength⟩ := hdrawn.text hrandom
  rw [Codec.createCompactQrToken_text htext] at hcode
  cases hcode
  have hverify : verifyServerQr rt (COMPACT_QR_PREFIX ++ "." ++ q.tokenId ++ "." ++
      signCompactTokenId rt q.tokenId) = .ok (.obj [("tokenId", .str q.tokenId)]) := by
    simp only [verifyServerQr, Codec.verifySignedQrToken_compact ideal htext,
      Codec.verifyCompactQrToken_create ideal htext hlength]
  have hview : tokenView s (s.qrTokens.rows.find? fun x => x.tokenId = q.tokenId) =
      .ok (some ⟨q, r, a⟩) := by
    rw [find_tokenId hq]
    simp only [tokenView, Store.qrTokenView, hr, ha, Except.map]
  have hlookup : (call (.qrTokenByTokenId q.tokenId)).run (machine rt ch) s =
      (.ok (some ⟨q, r, a⟩), s) := by
    simp only [call, run_call, machine, hview]
  have hnow : (call .now).run (machine rt ch) s = (.ok s.clock, s) := rfl
  have hstring : ((Json.obj [("tokenId", .str q.tokenId)]).string? "tokenId").getD "" = q.tokenId :=
    rfl
  have hmismatch : mismatches (.obj [("tokenId", .str q.tokenId)]) ⟨q, r, a⟩ = false := rfl
  unfold AnswersIn validate
  rw [hverify]
  dsimp only
  rw [hstring, Prog.bind_eq, run_bind_ok _ hlookup]
  simp only [hmismatch, Bool.false_eq_true, if_false, hactive, reduceCtorEq, false_or]
  rw [Prog.bind_eq, run_bind_ok _ hnow]
  by_cases hin : s.clock ∈ tokenWindow q
  · have hwithin : ¬ (s.clock < q.validFrom ∨ q.validUntil < s.clock) := by
      have hbounds := Set.mem_Icc.mp hin
      push Not
      exact hbounds
    simp only [hwithin, if_false, hstatus, ne_eq, not_true_eq_false]
    exact ⟨_, rfl, fun _ => rfl, fun hout => absurd hin hout⟩
  · have hwithout : s.clock < q.validFrom ∨ q.validUntil < s.clock := by
      by_contra hnot
      push Not at hnot
      exact hin (Set.mem_Icc.mpr hnot)
    simp only [hwithout, if_true]
    exact ⟨_, rfl, fun hin' => absurd hin' hin, fun _ => ⟨rfl, rfl⟩⟩

end Validation

end QrWindows

end CreativeBackend
