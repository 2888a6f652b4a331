import CreativeBackend.Qr.Windows

/-!
# The window of a generated code

A code that `generate` returns is accepted in the window of its event exactly where the active
token of the registration, if there is one, has the window of the event. No update that leaves the
window of an event with active tokens alone takes that away.

## Implementation notes

A run lists updates, generations and revocations, each on its own, from a store without tokens.
Between them other tables may change, where registrations keep their event and events their window.
-/

namespace CreativeBackend

open Relational Interaction

namespace QrWindows

open QrService Prog

variable {rt : Runtime} {ch : Choice} {s s' : Store} {clients : Id → Bool}

/-! ## Codes that are valid for the event -/

/-- An active registration of an event that is not archived. -/
structure IsLive (s : Store) (r : Registration) (e : Event) : Prop where
  registration : s.registrations.find? r.id = some r
  event : s.events.find? r.eventId = some e
  attendeeType : ∃ a, s.attendeeTypes.find? r.attendeeTypeId = some a
  active : r.status = .ACTIVE
  notArchived : e.status ≠ .ARCHIVED

/-- Neither the event nor the token of the registration has changed, and the registration is as it
was. -/
structure Unchanged (r : Registration) (s s' : Store) : Prop where
  token : s'.qrTokenOf r.id = s.qrTokenOf r.id
  event : s'.events.find? r.eventId = s.events.find? r.eventId
  registration : s'.registrations.find? r.id = some r
  attendeeType : ∃ a, s'.attendeeTypes.find? r.attendeeTypeId = some a

/-- The code that `generate` returns is answered in the window of the event. -/
def GeneratesValid (rt : Runtime) (s : Store) (r : Registration) (e : Event) : Prop :=
  ∀ ch qr s', (generate rt r.id).run (machine rt ch) s = (.ok qr, s') →
    ∀ ch' u, Unchanged r s' u → AnswersIn rt ch' qr.compactQrToken (eventWindow e) u

/-- An active token of the registration has the window of the event. -/
def IsCurrent (s : Store) (r : Registration) (e : Event) : Prop :=
  ∀ q ∈ s.qrTokens.rows, q.registrationId = r.id → q.status = .ACTIVE →
    tokenWindow q = eventWindow e

/-- Every token id was drawn. -/
def AllDrawn (rt : Runtime) (s : Store) : Prop := ∀ q ∈ s.qrTokens.rows, IsDrawn rt q.tokenId

section Generated

variable {p : QrPayload} {r : Registration} {e : Event}

/-- The token that a generation returns, with its window. -/
theorem window_of_generate {qr : FormattedQr} (hlive : IsLive s r e) (hcurrent : IsCurrent s r e)
    (hdrawn : AllDrawn rt s) (h : (generate rt r.id).run (machine rt ch) s = (.ok qr, s')) :
    ∃ q ∈ s'.qrTokens.rows, q.registrationId = r.id ∧ q.status = .ACTIVE ∧
      IsDrawn rt q.tokenId ∧ createCompactQrToken rt q.tokenId = .ok qr.compactQrToken ∧
      tokenWindow q = eventWindow e := by
  obtain ⟨q, hq, hreg, hactive, hcode⟩ := generate_presents h
  have hissues := generate_issues rt ch s r.id
  unfold After at hissues
  rw [h] at hissues
  have hkept : q ∈ s.qrTokens.rows → IsDrawn rt q.tokenId ∧ tokenWindow q = eventWindow e :=
    fun hold => ⟨hdrawn q hold, hcurrent q hold hreg hactive⟩
  have hboth : IsDrawn rt q.tokenId ∧ tokenWindow q = eventWindow e := by
    rcases hissues with hsame | ⟨r', e', hr', he', hissues⟩
    · exact hkept (hsame ▸ hq)
    · rcases hissues q hq with hold | ⟨d, hfresh, hissued⟩
      · exact hkept hold
      · have hsame : r' = r := Option.some.inj (hr'.symm.trans hlive.registration)
        subst hsame
        have hevent : e' = e := Option.some.inj (he'.symm.trans hlive.event)
        subst hevent
        constructor
        · rw [hissued.tokenId]
          exact hfresh.tokenId
        · rw [tokenWindow, eventWindow, hissued.validFrom, hissued.validUntil, hfresh.validFrom,
            hfresh.validUntil]
  exact ⟨q, hq, hreg, hactive, hboth.1, hcode, hboth.2⟩

/-- The answer for a code, in a store where its token is as it was. -/
theorem answersIn_of_unchanged (ideal : IdealPrimitives rt p) (hrandom : DrawsText rt)
    {q : QrToken} {code : String} {u : Store} (hactive : r.status = .ACTIVE)
    (hq : q ∈ s.qrTokens.rows) (hreg : q.registrationId = r.id) (hstatus : q.status = .ACTIVE)
    (hdrawn : IsDrawn rt q.tokenId) (hcode : createCompactQrToken rt q.tokenId = .ok code)
    (hu : Unchanged r s u) : AnswersIn rt ch code (tokenWindow q) u := by
  have hof : u.qrTokenOf r.id = some q := hu.token.trans (qrTokenOf_of_mem hq hreg)
  have hr : u.registrations.find? q.registrationId = some r := by
    rw [hreg]
    exact hu.registration
  obtain ⟨a, ha⟩ := hu.attendeeType
  exact answersIn_tokenWindow ideal hrandom (List.mem_of_find?_eq_some hof) hstatus hdrawn hr
    hactive ha hcode

/-- A window is told from the answers at all times. -/
theorem window_unique {code : String} {w w' : Set Time}
    (h : ∀ now, AnswersIn rt ch code w { s with clock := now })
    (h' : ∀ now, AnswersIn rt ch code w' { s with clock := now }) : w = w' := by
  ext now
  obtain ⟨v, hv, hin, hout⟩ := h now
  obtain ⟨v', hv', hin', hout'⟩ := h' now
  have hsame : v = v' := Except.ok.inj (Prod.mk.inj (hv.symm.trans hv')).1
  subst hsame
  constructor
  · intro hmem
    by_contra hnot
    have hvalid := hin hmem
    rw [(hout' hnot).1] at hvalid
    cases hvalid
  · intro hmem
    by_contra hnot
    have hvalid := hin' hmem
    rw [(hout hnot).1] at hvalid
    cases hvalid

/-- A generated code is valid for the event exactly where an active token has its window. -/
theorem generatesValid_iff_isCurrent (ideal : IdealPrimitives rt p) (hrandom : DrawsText rt)
    (hdrawn : AllDrawn rt s) (hlive : IsLive s r e) :
    GeneratesValid rt s r e ↔ IsCurrent s r e := by
  constructor
  · intro hvalid q hq hreg hactive
    obtain ⟨htext, -⟩ := (hdrawn q hq).text hrandom
    obtain ⟨code, hcode⟩ : ∃ code, createCompactQrToken rt q.tokenId = .ok code :=
      ⟨_, Codec.createCompactQrToken_text htext⟩
    obtain ⟨qr, hrun, rfl⟩ : ∃ qr, (generate rt r.id).run (machine rt {}) s = (.ok qr, s) ∧
        qr.compactQrToken = code :=
      generate_active hlive.registration hlive.event hlive.attendeeType hlive.notArchived hq hreg
        hactive hcode
    have hunchanged : ∀ now, Unchanged r s { s with clock := now } := fun now =>
      ⟨rfl, rfl, hlive.registration, hlive.attendeeType⟩
    have hevent : ∀ now,
        AnswersIn rt {} qr.compactQrToken (eventWindow e) { s with clock := now } :=
      fun now => hvalid {} qr s hrun {} _ (hunchanged now)
    have htoken : ∀ now,
        AnswersIn rt {} qr.compactQrToken (tokenWindow q) { s with clock := now } :=
      fun now => answersIn_of_unchanged ideal hrandom hlive.active hq hreg hactive (hdrawn q hq)
        hcode (hunchanged now)
    exact window_unique htoken hevent
  · intro hcurrent ch qr s' hrun ch' u hu
    obtain ⟨q, hq, hreg, hactive, htoken, hcode, hwindow⟩ :=
      window_of_generate hlive hcurrent hdrawn hrun
    rw [← hwindow]
    exact answersIn_of_unchanged ideal hrandom hlive.active hq hreg hactive htoken hcode hu

end Generated

/-! ## Runs -/

/-- An accepted update moves no window under an active token. -/
def KeepsWindow (rt : Runtime) (clients : Id → Bool) (s : Store) (id : Id) (dto : UpdateEventDto) :
    Prop :=
  ∀ e, s.events.find? id = some e → EventsService.check rt clients dto e = .ok () →
    (∃ q ∈ s.qrTokens.rows, q.eventId = id ∧ q.status = .ACTIVE) →
      eventWindow (EventsService.edited rt dto e) = eventWindow e

/-- What others may do between the calls of a run. -/
structure Elsewhere (s s' : Store) : Prop where
  tokens : s'.qrTokens = s.qrTokens
  events : ∀ id e, s.events.find? id = some e →
    ∃ e', s'.events.find? id = some e' ∧ eventWindow e' = eventWindow e
  registrations : ∀ id r, s.registrations.find? id = some r →
    ∃ r', s'.registrations.find? id = some r' ∧ r'.eventId = r.eventId

/-- Runs from a store without tokens, in which an event is updated where `permits` says so. -/
inductive WindowRun (rt : Runtime)
    (permits : (Id → Bool) → Store → Id → UpdateEventDto → Prop) : Store → Prop
  | start {s : Store} (h : s.qrTokens.rows = []) : WindowRun rt permits s
  | update {s : Store} (clients : Id → Bool) (id : Id) (dto : UpdateEventDto)
      (hr : WindowRun rt permits s) (hp : permits clients s id dto) :
      WindowRun rt permits (EventsService.update rt clients id dto s).2
  | generate {s : Store} (ch : Choice) (registrationId : Id) (hr : WindowRun rt permits s) :
      WindowRun rt permits ((generate rt registrationId).run (machine rt ch) s).2
  | revoke {s : Store} (ch : Choice) (registrationId : Id) (hr : WindowRun rt permits s) :
      WindowRun rt permits ((revoke rt registrationId).run (machine rt ch) s).2
  | other {s s' : Store} (hr : WindowRun rt permits s) (h : Elsewhere s s') :
      WindowRun rt permits s'

/-- One row is revoked, or none. -/
def Revokes (s s' : Store) : Prop :=
  s' = s ∨ ∃ (q row : QrToken) (t : Table QrToken),
    s.qrTokens.update q.id (Store.revokedRow s.clock) = .done row t ∧ s' = { s with qrTokens := t }

theorem revokes_of_call {registrationId : Id} {x : Except Exn QrToken}
    (h : s.revokeQrToken registrationId = (x, s')) : Revokes s s' := by
  rcases Store.revokeQrToken_cases h with ⟨e, -, rfl⟩ | ⟨q, row, t, -, hupdate, -, rfl⟩
  · exact .inl rfl
  · exact .inr ⟨q, row, t, hupdate, rfl⟩

/-- What a revocation does, whether it returns or throws. -/
theorem revoke_revokes (rt : Runtime) (ch : Choice) (s : Store) (registrationId : Id) :
    (revoke rt registrationId).After (machine rt ch) s fun _ u => Revokes s u := by
  refine after_bind_still ((findRegistrationWithRelations_reads registrationId).run rt ch s)
    (fun v _ => ?_) fun _ _ => .inl rfl
  split
  · exact .inl rfl
  · refine after_bind_still rfl (fun found _ => ?_) fun _ _ => .inl rfl
    cases found with
    | none => exact .inl rfl
    | some existing =>
        have hrevoke : (call (.qrTokenRevoke registrationId)).After (machine rt ch) s
            fun _ u => Revokes s u := by
          unfold After
          rw [call, run_call]
          exact revokes_of_call rfl
        refine after_bind hrevoke (fun revoked u h => ?_) fun _ _ h => h
        unfold After
        rw [run_ofExcept]
        exact h

theorem Revokes.registrations (h : Revokes s s') : s'.registrations = s.registrations := by
  rcases h with rfl | ⟨q, row, t, -, rfl⟩
  · rfl
  · rfl

theorem Revokes.events (h : Revokes s s') : s'.events = s.events := by
  rcases h with rfl | ⟨q, row, t, -, rfl⟩
  · rfl
  · rfl

/-- The rows after a revocation. -/
theorem Revokes.mem {q : QrToken} (h : Revokes s s') (hq : q ∈ s'.qrTokens.rows) :
    q ∈ s.qrTokens.rows ∨ ∃ q₀ ∈ s.qrTokens.rows, q = Store.revokedRow s.clock q₀ := by
  rcases h with rfl | ⟨x, row, t, hupdate, rfl⟩
  · exact .inl hq
  · rcases (Table.mem_update hupdate).mp hq with ⟨hold, -⟩ | rfl
    · exact .inl hold
    · obtain ⟨old, hold, hkey, hrow, -, -⟩ := Table.update_eq_done hupdate
      refine .inr ⟨old, hold, ?_⟩
      rw [hrow, ← hkey]
      rfl

/-! ## Invariants of runs -/

section Invariants

variable {permits : (Id → Bool) → Store → Id → UpdateEventDto → Prop}

theorem AllDrawn.generate (h : AllDrawn rt s) (ch : Choice) (registrationId : Id) :
    AllDrawn rt ((generate rt registrationId).run (machine rt ch) s).2 := by
  intro q hq
  rcases generate_issues rt ch s registrationId with hsame | ⟨r, e, -, -, hissues⟩
  · exact h q (hsame ▸ hq)
  · rcases hissues q hq with hold | ⟨d, hfresh, hissued⟩
    · exact h q hold
    · rw [hissued.tokenId]
      exact hfresh.tokenId

theorem AllDrawn.revoke (h : AllDrawn rt s) (ch : Choice) (registrationId : Id) :
    AllDrawn rt ((revoke rt registrationId).run (machine rt ch) s).2 := by
  intro q hq
  rcases Revokes.mem (revoke_revokes rt ch s registrationId) hq with hold | ⟨q₀, hq₀, rfl⟩
  · exact h q hold
  · exact h q₀ hq₀

theorem allDrawn_of_run (hrun : WindowRun rt permits s) : AllDrawn rt s := by
  induction hrun with
  | start h =>
      intro q hq
      rw [h] at hq
      cases hq
  | @update s clients id dto hr hp ih =>
      intro q hq
      rw [EventsService.qrTokens_update] at hq
      exact ih q hq
  | generate ch registrationId hr ih => exact ih.generate ch registrationId
  | revoke ch registrationId hr ih => exact ih.revoke ch registrationId
  | other hr h ih =>
      intro q hq
      rw [h.tokens] at hq
      exact ih q hq

/-- A token belongs to a registration of an event, and has its window while it is active. -/
structure Follows (s : Store) (q : QrToken) (r : Registration) (e : Event) : Prop where
  registration : s.registrations.find? q.registrationId = some r
  event : s.events.find? q.eventId = some e
  sameEvent : q.eventId = r.eventId
  window : q.status = .ACTIVE → tokenWindow q = eventWindow e

/-- Every token follows its event. -/
def AllFollow (s : Store) : Prop := ∀ q ∈ s.qrTokens.rows, ∃ r e, Follows s q r e

/-- The event after an update, seen from a token. -/
theorem AllFollow.update {id : Id} {dto : UpdateEventDto} (h : AllFollow s)
    (hkeeps : KeepsWindow rt clients s id dto) :
    AllFollow (EventsService.update rt clients id dto s).2 := by
  rcases EventsService.update_cases rt clients id dto s with
    hsame | ⟨event, row, t, hfind, hcheck, hupdate, hafter⟩
  · rw [hsame]
    exact h
  · rw [hafter]
    intro q hq
    obtain ⟨r, e, hfollows⟩ := h q hq
    by_cases hid : q.eventId = id
    · have hevent : e = event := Option.some.inj (hfollows.event.symm.trans (hid ▸ hfind))
      subst hevent
      refine ⟨r, row, hfollows.registration, ?_, hfollows.sameEvent, fun hactive => ?_⟩
      · exact (Table.find?_update hupdate q.eventId).trans (if_pos hid)
      · rw [hfollows.window hactive, ← hkeeps e hfind hcheck ⟨q, hq, hid, hactive⟩]
        obtain ⟨old, hold, hkey, hrow, -, -⟩ := Table.update_eq_done hupdate
        have hsame : old = e := by
          obtain ⟨hmem, hkey'⟩ := Table.find?_eq_some_iff.mp hfind
          exact s.events.eq_of_key hold hmem (hkey.trans hkey'.symm)
        rw [hrow, hsame]
        rfl
    · refine ⟨r, e, hfollows.registration, ?_, hfollows.sameEvent, hfollows.window⟩
      exact (Table.find?_update hupdate q.eventId).trans ((if_neg hid).trans hfollows.event)

/-- A generated token follows its event, and the others follow theirs. -/
theorem AllFollow.generate (h : AllFollow s) (ch : Choice) (registrationId : Id) :
    AllFollow ((generate rt registrationId).run (machine rt ch) s).2 := by
  have hsame := (generate_formats rt registrationId).sameRows rt ch s
  have hkept : ∀ q ∈ s.qrTokens.rows,
      ∃ r e, Follows ((QrService.generate rt registrationId).run (machine rt ch) s).2 q r e := by
    intro q hq
    obtain ⟨r, e, hfollows⟩ := h q hq
    refine ⟨r, e, ?_, ?_, hfollows.sameEvent, hfollows.window⟩
    · rw [hsame.registrations]
      exact hfollows.registration
    · rw [hsame.events]
      exact hfollows.event
  intro q hq
  rcases generate_issues rt ch s registrationId with htokens | ⟨r, e, hr, he, hissues⟩
  · exact hkept q (htokens ▸ hq)
  · rcases hissues q hq with hold | ⟨d, hfresh, hissued⟩
    · exact hkept q hold
    · have hid : r.id = registrationId := (Table.find?_eq_some_iff.mp hr).2
      refine ⟨r, e, ?_, ?_, hissued.event.trans hfresh.event, fun _ => ?_⟩
      · rw [hissued.registration, hfresh.registration, hid, hsame.registrations]
        exact hr
      · rw [hissued.event, hfresh.event, hsame.events]
        exact he
      · rw [tokenWindow, eventWindow, hissued.validFrom, hissued.validUntil, hfresh.validFrom,
          hfresh.validUntil]

/-- A revoked token has no window to keep. -/
theorem Follows.revoked {q : QrToken} {r : Registration} {e : Event} (h : Follows s q r e)
    (now : Time) : Follows s (Store.revokedRow now q) r e :=
  ⟨h.registration, h.event, h.sameEvent, fun hactive => by cases hactive⟩

theorem AllFollow.revoke (h : AllFollow s) (ch : Choice) (registrationId : Id) :
    AllFollow ((revoke rt registrationId).run (machine rt ch) s).2 := by
  have hrevokes := revoke_revokes rt ch s registrationId
  unfold After at hrevokes
  intro q hq
  have hfollows : ∃ r e, Follows s q r e := by
    rcases Revokes.mem hrevokes hq with hold | ⟨q₀, hq₀, rfl⟩
    · exact h q hold
    · obtain ⟨r, e, hfollows⟩ := h q₀ hq₀
      exact ⟨r, e, hfollows.revoked s.clock⟩
  obtain ⟨r, e, hfollows⟩ := hfollows
  refine ⟨r, e, ?_, ?_, hfollows.sameEvent, hfollows.window⟩
  · rw [hrevokes.registrations]
    exact hfollows.registration
  · rw [hrevokes.events]
    exact hfollows.event

theorem AllFollow.other (h : AllFollow s) (helsewhere : Elsewhere s s') : AllFollow s' := by
  intro q hq
  rw [helsewhere.tokens] at hq
  obtain ⟨r, e, hfollows⟩ := h q hq
  obtain ⟨r', hr', hevent⟩ := helsewhere.registrations _ r hfollows.registration
  obtain ⟨e', he', hwindow⟩ := helsewhere.events _ e hfollows.event
  refine ⟨r', e', hr', he', hfollows.sameEvent.trans hevent.symm, fun hactive => ?_⟩
  rw [hwindow]
  exact hfollows.window hactive

theorem allFollow_of_run (hrun : WindowRun rt (KeepsWindow rt) s) : AllFollow s := by
  induction hrun with
  | start h =>
      intro q hq
      rw [h] at hq
      cases hq
  | update clients id dto hr hp ih => exact ih.update hp
  | generate ch registrationId hr ih => exact ih.generate ch registrationId
  | revoke ch registrationId hr ih => exact ih.revoke ch registrationId
  | other hr h ih => exact ih.other h

theorem AllFollow.isCurrent {r : Registration} {e : Event} (h : AllFollow s)
    (hlive : IsLive s r e) : IsCurrent s r e := by
  intro q hq hreg hactive
  obtain ⟨r', e', hfollows⟩ := h q hq
  have hr : r' = r := by
    have hfind := hfollows.registration
    rw [hreg] at hfind
    exact Option.some.inj (hfind.symm.trans hlive.registration)
  have he : e' = e := by
    have hfind := hfollows.event
    rw [hfollows.sameEvent, hr] at hfind
    exact Option.some.inj (hfind.symm.trans hlive.event)
  rw [hfollows.window hactive, he]

end Invariants

/-- A generated code is valid for the event exactly where an active token of the registration has
the window of the event; where no accepted update moves a window under an active token, it is valid
in every store of the run. -/
theorem generatesValid_iff (rt : Runtime) (p : QrPayload) (ideal : IdealPrimitives rt p)
    (hrandom : DrawsText rt) :
    (∀ s, WindowRun rt (fun _ _ _ _ => True) s → ∀ r e, IsLive s r e →
      (GeneratesValid rt s r e ↔ IsCurrent s r e)) ∧
    (∀ s, WindowRun rt (KeepsWindow rt) s → ∀ r e, IsLive s r e → GeneratesValid rt s r e) := by
  constructor
  · intro s hrun r e hlive
    exact generatesValid_iff_isCurrent ideal hrandom (allDrawn_of_run hrun) hlive
  · intro s hrun r e hlive
    have hcurrent := (allFollow_of_run hrun).isCurrent hlive
    exact (generatesValid_iff_isCurrent ideal hrandom (allDrawn_of_run hrun) hlive).mpr hcurrent

/-! ## An extended event -/

section Extended

/-- Node's dates on the inputs below. -/
def extendedDate (text : String) : Option Time :=
  if text = "2026-08-02T20:00:00.000Z" then some 1785700800000
  else if text = "2026-08-03T06:00:00.000Z" then some 1785736800000
  else none

/-- A runtime with other random values and dates. -/
def withDates (rt : Runtime) (hex : String) (parseDate : String → Option Time) : Runtime :=
  { rt with random := fun _ => hex, parseDate }

theorem idealPrimitives_withDates {p : QrPayload} (h : IdealPrimitives rt p) (hex : String)
    (parseDate : String → Option Time) : IdealPrimitives (withDates rt hex parseDate) p :=
  ⟨h.digest_ne_nil, h.base64url_text, h.encoded_text, h.decode_encode, h.parse_stringify,
    h.parse_empty, h.decode_O2, h.parse_semicolon⟩

def extendedRuntime : Runtime := withDates Codec.credentialRuntime "0011223344556677" extendedDate

theorem drawsText_extended : DrawsText extendedRuntime := by
  intro n
  change isTokenText "0011223344556677" = true ∧ "0011223344556677".length ≤ 16
  decide

/-- An event that starts at eight o'clock. -/
def extendedEvent (endsAt : Time) : Event where
  id := "c0"
  status := .ACTIVE
  startsAt := 1785657600000
  endsAt

def extendedRegistration : Registration where
  id := "c0"
  publicId := "REG-1"
  eventId := "c0"
  attendeeTypeId := "c0"
  fullName := "Visitor"

/-- The event ends at twenty o'clock. -/
def extendedStore : Store where
  events := .ofData [extendedEvent 1785700800000]
  attendeeTypes := .ofData [{ eventId := "c0", code := "VISITOR" }]
  registrations := .ofData [extendedRegistration]

theorem extendedStore_live :
    IsLive extendedStore extendedRegistration (extendedEvent 1785700800000) :=
  ⟨rfl, rfl, ⟨_, rfl⟩, rfl, by decide⟩

/-- The event ends ten hours later. -/
def extension : UpdateEventDto := { endsAt := some "2026-08-03T06:00:00.000Z" }

/-- The store after the extension, before any token. -/
def extendedFirst : Store :=
  (EventsService.update extendedRuntime (fun _ => true) "c0" extension extendedStore).2

theorem extendedFirst_live :
    IsLive extendedFirst extendedRegistration (extendedEvent 1785736800000) :=
  ⟨rfl, rfl, ⟨_, rfl⟩, rfl, by decide⟩

/-- An event that is extended before its tokens are issued. -/
theorem generatesValid_extendedFirst : GeneratesValid extendedRuntime extendedFirst
    extendedRegistration (extendedEvent 1785736800000) := by
  have hrun : WindowRun extendedRuntime (KeepsWindow extendedRuntime) extendedFirst := by
    refine .update (fun _ => true) "c0" extension (.start rfl) ?_
    rintro e - - ⟨q, hq, -⟩
    cases hq
  exact (generatesValid_iff extendedRuntime Codec.credential
    (idealPrimitives_withDates Codec.idealPrimitives_credential _ _) drawsText_extended).2
      extendedFirst hrun extendedRegistration (extendedEvent 1785736800000) extendedFirst_live

/-- The store after a code was generated and the event was extended. -/
def extendedLast : Store :=
  (EventsService.update extendedRuntime (fun _ => true) "c0" extension
    ((generate extendedRuntime "c0").run (machine extendedRuntime {}) extendedStore).2).2

/-- The update reads no other table. -/
theorem update_events (rt : Runtime) (clients : Id → Bool) (id : Id) (dto : UpdateEventDto)
    (h : s'.events = s.events) : (EventsService.update rt clients id dto s').2 =
      { s' with events := (EventsService.update rt clients id dto s).2.events } := by
  unfold EventsService.update
  rw [h]
  cases s.events.find? id with
  | none =>
      dsimp only
      rw [← h]
  | some event =>
      dsimp only
      cases EventsService.check rt clients dto event with
      | error e =>
          dsimp only
          rw [← h]
      | ok _ =>
          dsimp only
          cases s.events.update id (EventsService.edited rt dto) with
          | done row t => rfl
          | missing =>
              dsimp only
              rw [← h]
          | duplicate =>
              dsimp only
              rw [← h]

/-- The token of the first generation has the window of the event before the extension. -/
theorem extendedStore_issued : ∃ q ∈ ((generate extendedRuntime "c0").run
    (machine extendedRuntime {}) extendedStore).2.qrTokens.rows, q.registrationId = "c0" ∧
      q.status = .ACTIVE ∧ tokenWindow q = eventWindow (extendedEvent 1785700800000) := by
  have hok : ((generate extendedRuntime "c0").run (machine extendedRuntime {})
      extendedStore).1.isOk = true := by decide +kernel
  obtain ⟨qr, hqr⟩ := Tickets.exists_of_isOk hok
  have hcurrent : IsCurrent extendedStore extendedRegistration (extendedEvent 1785700800000) :=
    fun q hq => by cases hq
  have hdrawn : AllDrawn extendedRuntime extendedStore := fun q hq => by cases hq
  obtain ⟨q, hq, hreg, hactive, -, -, htoken⟩ :=
    window_of_generate extendedStore_live hcurrent hdrawn hqr
  exact ⟨q, hq, hreg, hactive, htoken⟩

/-- A code that was generated before its event was extended is refused in the last hours. -/
theorem not_generatesValid_extendedLast : ¬ ∀ (rt : Runtime) (p : QrPayload), IdealPrimitives rt p →
    DrawsText rt → ∀ s, WindowRun rt (fun _ _ _ _ => True) s →
      ∀ r e, IsLive s r e → GeneratesValid rt s r e := by
  intro hclaim
  have ideal : IdealPrimitives extendedRuntime Codec.credential :=
    idealPrimitives_withDates Codec.idealPrimitives_credential _ _
  have hrun : WindowRun extendedRuntime (fun _ _ _ _ => True) extendedLast :=
    .update _ _ _ (.generate {} "c0" (.start rfl)) trivial
  have hsame := (generate_formats extendedRuntime "c0").sameRows extendedRuntime {} extendedStore
  have hlast : extendedLast = { ((generate extendedRuntime "c0").run (machine extendedRuntime {})
      extendedStore).2 with events := extendedFirst.events } := update_events _ _ _ _ hsame.events
  have hlive : IsLive extendedLast extendedRegistration (extendedEvent 1785736800000) := by
    refine ⟨?_, ?_, ?_, rfl, by decide⟩
    · rw [hlast, hsame.registrations]
      exact extendedStore_live.registration
    · rw [hlast]
      exact extendedFirst_live.event
    · rw [hlast, hsame.attendeeTypes]
      exact extendedStore_live.attendeeType
  have hcurrent := (generatesValid_iff_isCurrent ideal drawsText_extended (allDrawn_of_run hrun)
    hlive).mp (hclaim _ _ ideal drawsText_extended _ hrun _ _ hlive)
  obtain ⟨q, hq, hreg, hactive, htoken⟩ := extendedStore_issued
  have hq' : q ∈ extendedLast.qrTokens.rows := by
    rw [hlast]
    exact hq
  have hsets := hcurrent q hq' hreg hactive
  rw [htoken] at hsets
  have hlate : (1785736800000 : Time) ∈ eventWindow (extendedEvent 1785700800000) := by
    rw [hsets]
    exact ⟨by decide, by decide⟩
  exact absurd hlate.2 (by decide)

end Extended

end QrWindows

end CreativeBackend
