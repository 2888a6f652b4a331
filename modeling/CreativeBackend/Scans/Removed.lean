import CreativeBackend.Interaction.Interference
import CreativeBackend.Registrations.Remove
import CreativeBackend.Scans.Service

/-!
# The credentials of a removed registration

The removal of a registration deletes the rows that its credentials are looked up in.
A QR token that is not stored is refused. A badge that was printed offline is read as
one whose registration has not arrived yet, unless its offline operation has been
registered again.
-/

namespace CreativeBackend

open Relational Interaction Prog

/-- Whether a reply lets the visitor in. -/
def IngestReply.allowed : IngestReply → Bool
  | .response r => r.allowed
  | .duplicate _ => false
  | .provisional reply => reply.allowed

def ProcessReply.allowed : ProcessReply → Bool
  | .skipped _ _ => false
  | .provisional allowed _ _ _ => allowed
  | .response r => r.allowed
  | .failed _ _ => false

/-- The calls that write a movement or park a scan. -/
def Call.commits : Call → Bool
  | .createProcessed _ _ _ => true
  | .updateProcessed _ _ => true
  | .offlineScanCreate _ => true
  | _ => false

namespace Removal

/-- A QR token by its token id, or a badge that was printed offline by its token. -/
inductive Credential where
  | token (tokenId : String)
  | badge (offlineQrToken : String)
  deriving DecidableEq

/-- The credential that a presented code names. -/
def credentialOf (rt : Runtime) (code : String) : Option Credential :=
  let normalizedQr := trim code
  if startsWith normalizedQr "O2." then some (.badge (trim normalizedQr))
  else
    match verifyServerQr rt normalizedQr with
    | .ok payload => (payload.string? "tokenId").map .token
    | .error _ =>
        match parseSignedOfflineQr rt normalizedQr with
        | .error _ => none
        | .ok parsed =>
            match assertOfflineQrPayload rt parsed.payload with
            | .error _ => none
            | .ok qr => some (.badge qr.offlineQrToken)

/-- The store in which the credential is one of the registration. -/
def Issued (s : Store) (registrationId : Id) : Credential → Prop
  | .token tokenId =>
      ∃ q ∈ s.qrTokens.rows, q.tokenId = tokenId ∧ q.registrationId = registrationId
  | .badge offlineQrToken => ∃ m ∈ s.mappings.rows,
      m.offlineQrToken = offlineQrToken ∧ m.registrationId = some registrationId

/-! ## Histories -/

/-- What the rest of the program does to a store: registrations, raw scans and mappings
come, change and go, no key is used again, and QR tokens are issued by calls only. -/
structure Elsewhere (s s' : Store) : Prop where
  tokens : ∀ q ∈ s'.qrTokens.rows, ∃ q₀ ∈ s.qrTokens.rows,
    q₀.tokenId = q.tokenId ∧ q₀.registrationId = q.registrationId
  registrations : s.registrations.Evolves (fun _ => ()) s'.registrations
  mappings : ∀ m ∈ s'.mappings.rows, ∀ registrationId, m.registrationId = some registrationId →
    ∃ r ∈ s'.registrations.rows, r.id = registrationId
  rawScans : s.rawScans.Evolves Store.rawIdentity s'.rawScans

/-- The calls of the services. No token id is drawn again, and a mapping is opened
without a registration. -/
def Served (cred : Credential) : Call → Prop
  | .qrTokenCreate d => cred ≠ .token d.tokenId
  | .qrTokenRefresh _ d => cred ≠ .token d.tokenId
  | .mappingUpsert data => data.registrationId = none
  | _ => True

/-- The scan operations on a store that others change. -/
abbrev scans (rt : Runtime) : Service Resp Exn Store := scanService rt (anyScans rt)

/-- One step of a history: a call of any operation of the services, or a change elsewhere. -/
inductive Step (rt : Runtime) (cred : Credential) (s s' : Store) : Prop
  | call {c : Call} {x : Except Exn (Resp c)} (hc : Served cred c)
      (h : (scans rt).Outcome c s x s') : Step rt cred s s'
  | elsewhere (h : Elsewhere s s') : Step rt cred s s'

/-- Any calls of any operations in any order, and any changes elsewhere. -/
def History (rt : Runtime) (cred : Credential) : Store → Store → Prop :=
  Relation.ReflTransGen (Step rt cred)

variable {rt : Runtime} {cred : Credential} {registrationId : Id} {s s' : Store}

/-! ## What a step preserves -/

/-- The credential is no token of another registration. -/
def Owned (cred : Credential) (registrationId : Id) (s : Store) : Prop :=
  ∀ q ∈ s.qrTokens.rows, cred = .token q.tokenId → q.registrationId = registrationId

/-- The registration is gone, with its credential. -/
structure Gone (cred : Credential) (registrationId : Id) (s : Store) : Prop where
  registration : ∀ r ∈ s.registrations.rows, r.id ≠ registrationId
  key : ∀ n, registrationId = fresh n → n < s.registrations.serial
  tokens : ∀ q ∈ s.qrTokens.rows, cred ≠ .token q.tokenId
  mappings : ∀ m ∈ s.mappings.rows, m.registrationId ≠ some registrationId

/-- A later token with the id of the credential was there before. -/
theorem tokens_of_effect {c : Call} {x : Except Exn (Resp c)} (h : Effect s c x s')
    (hc : Served cred c) : ∀ q ∈ s'.qrTokens.rows, cred = .token q.tokenId →
      ∃ q₀ ∈ s.qrTokens.rows, q₀.tokenId = q.tokenId ∧ q₀.registrationId = q.registrationId := by
  intro q hq hcred
  cases h with
  | refresh _ _ hu =>
      rcases (Table.mem_update hu).mp hq with ⟨hold, -⟩ | rfl
      · exact ⟨q, hold, rfl, rfl⟩
      · obtain ⟨old, -, -, hrow, -, -⟩ := Table.update_eq_done hu
        rw [hrow] at hcred
        exact absurd hcred hc
  | issue hcreate =>
      rcases (Table.mem_create hcreate).mp hq with hold | rfl
      · exact ⟨q, hold, rfl, rfl⟩
      · rw [(Table.create_eq_some hcreate).1] at hcred
        exact absurd hcred hc
  | revoke _ hu =>
      rcases (Table.mem_update hu).mp hq with ⟨hold, -⟩ | rfl
      · exact ⟨q, hold, rfl, rfl⟩
      · obtain ⟨old, hold, -, hrow, -, -⟩ := Table.update_eq_done hu
        exact ⟨old, hold, by rw [hrow]; rfl, by rw [hrow]; rfl⟩
  | _ => exact ⟨q, hq, rfl, rfl⟩

theorem registrations_of_effect {c : Call} {x : Except Exn (Resp c)} (h : Effect s c x s') :
    s.registrations.Evolves (fun _ => ()) s'.registrations := by
  cases h with
  | register hc => exact .create hc
  | _ => exact .refl _

/-- The foreign key of a mapping. -/
theorem refers_of_updateMapping {id k : Id} {p : MappingPatch} {row : OfflineRegistrationMapping}
    (h : s.updateMapping id p = (.ok row, s')) (hk : p.registrationId = some k) :
    ∃ r ∈ s.registrations.rows, r.id = k := by
  simp only [Store.updateMapping] at h
  split at h
  · next hrefers =>
      have hrefer := (Bool.and_eq_true _ _ ▸ hrefers).1
      rw [hk] at hrefer
      obtain ⟨r, hr⟩ := Option.isSome_iff_exists.mp hrefer
      obtain ⟨hmem, hid⟩ := Table.find?_eq_some_iff.mp hr
      exact ⟨r, hmem, hid⟩
  · cases h

/-- A mapping comes to point only to a stored registration. -/
theorem links_of_machine {ch : Choice} {c : Call} {x : Except Exn (Resp c)}
    (h : machine rt ch c s = (x, s')) (hc : Served cred c) : ∀ m ∈ s'.mappings.rows,
      ∀ k, m.registrationId = some k →
        (∃ m₀ ∈ s.mappings.rows, m₀.registrationId = some k) ∨
          ∃ r ∈ s.registrations.rows, r.id = k := by
  intro m hm k hk
  cases effect_of_machine h with
  | @patchMapping id p row t hu =>
      rcases (Table.mem_update hu).mp hm with ⟨hold, -⟩ | rfl
      · exact .inl ⟨m, hold, hk⟩
      · obtain ⟨old, hold, -, hrow, -, -⟩ := Table.update_eq_done hu
        rw [hrow] at hk
        cases hp : p.registrationId with
        | none =>
            refine .inl ⟨old, hold, ?_⟩
            simpa [Store.applyMappingPatch, hp] using hk
        | some k' =>
            have hsame : some k' = some k := by simpa [Store.applyMappingPatch, hp] using hk
            exact .inr (refers_of_updateMapping h (hp.trans hsame))
  | addMapping _ hcreate =>
      rcases (Table.mem_create hcreate).mp hm with hold | rfl
      · exact .inl ⟨m, hold, hk⟩
      · rw [(Table.create_eq_some hcreate).1] at hk
        have hnone : (none : Option Id) = some k := hc.symm.trans hk
        cases hnone
  | _ => exact .inl ⟨m, hm, hk⟩

/-- What one step keeps of the tokens, registrations, mappings and raw scans. -/
structure Keeps (cred : Credential) (s s' : Store) : Prop where
  tokens : ∀ q ∈ s'.qrTokens.rows, cred = .token q.tokenId →
    ∃ q₀ ∈ s.qrTokens.rows, q₀.tokenId = q.tokenId ∧ q₀.registrationId = q.registrationId
  registrations : s.registrations.Evolves (fun _ => ()) s'.registrations
  links : ∀ m ∈ s'.mappings.rows, ∀ k, m.registrationId = some k →
    (∃ m₀ ∈ s.mappings.rows, m₀.registrationId = some k) ∨
      (∃ r ∈ s.registrations.rows, r.id = k) ∨ ∃ r ∈ s'.registrations.rows, r.id = k
  rawScans : s.rawScans.Evolves Store.rawIdentity s'.rawScans

theorem keeps_of_outcome {c : Call} {x : Except Exn (Resp c)} (hc : Served cred c)
    (h : (scans rt).Outcome c s x s') : Keeps cred s s' := by
  have heff := effect_of_outcome h
  refine ⟨tokens_of_effect heff hc, registrations_of_effect heff, fun m hm k hk => ?_,
    heff.later.rawScans⟩
  rcases h with ⟨ch, hmachine⟩ | ⟨-, rfl, -⟩
  · rcases links_of_machine hmachine hc m hm k hk with hold | hstored
    · exact .inl hold
    · exact .inr (.inl hstored)
  · exact .inl ⟨m, hm, hk⟩

theorem Step.keeps (h : Step rt cred s s') : Keeps cred s s' := by
  cases h with
  | call hc ho => exact keeps_of_outcome hc ho
  | elsewhere h =>
      exact ⟨fun q hq _ => h.tokens q hq, h.registrations,
        fun m hm k hk => .inr (.inr (h.mappings m hm k hk)), h.rawScans⟩

theorem Owned.next (hi : Owned cred registrationId s) (h : Keeps cred s s') :
    Owned cred registrationId s' := by
  intro q hq hcred
  obtain ⟨q₀, hq₀, htoken, hreg⟩ := h.tokens q hq hcred
  rw [← hreg]
  exact hi q₀ hq₀ (htoken ▸ hcred)

theorem Gone.next (hi : Gone cred registrationId s) (h : Keeps cred s s') :
    Gone cred registrationId s' := by
  have hregistration : ∀ r ∈ s'.registrations.rows, r.id ≠ registrationId := by
    intro r hr hid
    rcases h.registrations.2 r hr with ⟨r₀, hr₀, hkey, -⟩ | ⟨n, hn, hkey⟩
    · exact hi.registration r₀ hr₀ (hkey.trans hid)
    · exact Nat.not_lt.mpr hn (hi.key n (hid.symm.trans hkey))
  refine ⟨hregistration, fun n hn => Nat.lt_of_lt_of_le (hi.key n hn) h.registrations.1,
    fun q hq hcred => ?_, fun m hm hlink => ?_⟩
  · obtain ⟨q₀, hq₀, htoken, -⟩ := h.tokens q hq hcred
    exact hi.tokens q₀ hq₀ (htoken ▸ hcred)
  · rcases h.links m hm registrationId hlink with ⟨m₀, hm₀, hold⟩ | ⟨r, hr, hid⟩ | ⟨r, hr, hid⟩
    · exact hi.mappings m₀ hm₀ hold
    · exact hi.registration r hr hid
    · exact hregistration r hr hid

/-! ## What a history preserves -/

theorem Owned.history (hi : Owned cred registrationId s) (h : History rt cred s s') :
    Owned cred registrationId s' := by
  induction h with
  | refl => exact hi
  | tail _ hs ih => exact ih.next hs.keeps

theorem Gone.history (hi : Gone cred registrationId s) (h : History rt cred s s') :
    Gone cred registrationId s' := by
  induction h with
  | refl => exact hi
  | tail _ hs ih => exact ih.next hs.keeps

/-- Raw scans keep the code that they were made with. -/
theorem History.rawScans (h : History rt cred s s') :
    s.rawScans.Evolves Store.rawIdentity s'.rawScans := by
  induction h with
  | refl => exact .refl _
  | tail _ hs ih => exact ih.trans hs.keeps.rawScans

/-- One token has the id of an issued credential. -/
theorem owned_of_issued (h : Issued s registrationId cred) : Owned cred registrationId s := by
  intro q hq hcred
  subst hcred
  obtain ⟨q₀, hq₀, htoken, hreg⟩ := h
  have hsame : q = q₀ := by
    apply s.qrTokens.eq_of_clash hq hq₀
    simp [clash, htoken]
  rw [hsame]
  exact hreg

/-- The removal takes the credential with the registration. -/
theorem gone_of_remove {r : RegistrationsService.Removed} (hi : Owned cred registrationId s)
    (h : RegistrationsService.remove s registrationId = (.ok r, s')) :
    Gone cred registrationId s' := by
  obtain ⟨rfl, registration, hregistration, hid⟩ := RegistrationsService.remove_eq_ok h
  refine ⟨fun r hr => (Store.mem_registrations_withoutRegistration.mp hr).2, fun n hn => ?_,
    fun q hq hcred => ?_, fun m hm => (Store.mem_mappings_withoutRegistration hm).1⟩
  · exact s.registrations.bounded registration hregistration n (hid.trans hn)
  · obtain ⟨hold, hne⟩ := Store.mem_qrTokens_withoutRegistration.mp hq
    exact hne (hi q hold hcred)

/-! ## Presentations -/

/-- A code, as it is presented for an event. -/
structure Shown where
  code : String
  eventId : Id

/-- A scan of a code, through `ingest` or through a raw scan that was accepted with it. -/
inductive Presentation (rt : Runtime) (shown : Shown) (s : Store) : Svc Bool → Prop
  | ingest (dto : CreateScanDto) (h : shown = ⟨dto.qrToken, dto.eventId⟩) :
      Presentation rt shown s (do return (← ScansService.ingest rt dto).allowed)
  | processRawScan (a : ScanEventRaw) (ha : a ∈ s.rawScans.rows)
      (h : shown = ⟨a.qrRaw.getD "", a.eventId⟩) :
      Presentation rt shown s (do return (← ScansService.processRawScan rt a.id).allowed)

/-- The operation id of a scan is not that of an allowed one, and a badge of the
credential is looked up where its offline operation is registered. A reference may also
belong to another event. -/
def Admissible (cred : Credential) (shown : Shown) (turn : Turn Resp Exn Store) : Prop :=
  match turn.call with
  | .rawScanByOperation operationId => ∀ a ∈ turn.before.rawScans.rows,
      a.operationId = operationId → a.result ≠ some .ALLOWED
  | .mappingByToken offlineQrToken => cred = .badge offlineQrToken →
      ∃ m ∈ turn.before.mappings.rows, m.offlineQrToken = offlineQrToken ∧
        (m.registrationId.isSome = true ∨
          startsWith (trim shown.code) "O2." = true ∧ m.eventId ≠ shown.eventId)
  | _ => True

instance (cred : Credential) (shown : Shown) (turn : Turn Resp Exn Store) :
    Decidable (Admissible cred shown turn) := by
  unfold Admissible
  split <;> infer_instance

/-- The offline operation of the badge has been registered again. -/
def Reregistered (cred : Credential) (registrationId : Id) (turns : List (Turn Resp Exn Store)) :
    Prop :=
  ∃ turn ∈ turns, ∃ m ∈ turn.before.mappings.rows, cred = .badge m.offlineQrToken ∧
    ∃ other, m.registrationId = some other ∧ other ≠ registrationId

/-- The visitor is not let in, no movement is written, and no scan is parked. -/
structure Refused (turns : List (Turn Resp Exn Store)) (answer : Except Exn Bool) : Prop where
  answer : answer ≠ .ok true
  calls : ∀ turn ∈ turns, turn.call.commits = false

/-- A presentation of the credential is refused, unless the badge is registered again. -/
def StaysOut (cred : Credential) (registrationId : Id) (turns : List (Turn Resp Exn Store))
    (answer : Except Exn Bool) : Prop :=
  Reregistered cred registrationId turns ∨ Refused turns answer

/-- Every admissible execution keeps the credential out. -/
def Stays (rt : Runtime) (cred : Credential) (shown : Shown) (registrationId : Id) {α : Type}
    (p : Svc α) (allowed : α → Bool) (s : Store) : Prop :=
  ∀ turns x s', (scans rt).Runs (History rt cred) p s turns x s' →
    (∀ turn ∈ turns, Admissible cred shown turn) →
      StaysOut cred registrationId turns (x.map allowed)

theorem Reregistered.mono {first turns : List (Turn Resp Exn Store)}
    (h : Reregistered cred registrationId first) (hsub : ∀ turn ∈ first, turn ∈ turns) :
    Reregistered cred registrationId turns := by
  obtain ⟨turn, hturn, hm⟩ := h
  exact ⟨turn, hsub turn hturn, hm⟩

theorem history_refl (rt : Runtime) (cred : Credential) (s : Store) : History rt cred s s := .refl

section Rules

variable {shown : Shown} {α β : Type} {p : Svc α} {allowed : β → Bool}
  {turns : List (Turn Resp Exn Store)} {x : Except Exn α}

/-- The calls before the decision leave the registration gone. -/
def Precedes (cred : Credential) (c : Call) : Prop := Served cred c ∧ c.commits = false

theorem precedes_of_reads {c : Call} (h : c.reads = true) : Precedes cred c := by
  cases c <;> first | exact ⟨trivial, rfl⟩ | exact Bool.noConfusion h

theorem reads_precedes {p : Svc α} (h : Reads p) : p.All (Precedes cred) :=
  All.mono h fun _ => precedes_of_reads

theorem gone_of_runs (hg : Gone cred registrationId s) (hp : p.All (Precedes cred))
    (h : (scans rt).Runs (History rt cred) p s turns x s') :
    Gone cred registrationId s' ∧ ∀ turn ∈ turns, Gone cred registrationId turn.before :=
  h.invariant (fun _ _ hi hh => hi.history hh)
    (fun _ _ _ _ hc hi ho => hi.next (keeps_of_outcome hc.1 ho)) hp hg

/-- A program that commits nothing and lets nobody in. -/
theorem stays_of_refuses {p : Svc β} (hp : p.All (·.commits = false))
    (hg : p.Gives (allowed · = false)) : Stays rt cred shown registrationId p allowed s := by
  intro turns x s' h _
  refine .inr ⟨fun hx => ?_, h.all hp⟩
  cases x with
  | error e => cases hx
  | ok a =>
      have hallowed : allowed a = true := Except.ok.inj hx
      have hrefused : allowed a = false := h.gives hg a rfl
      rw [hallowed] at hrefused
      cases hrefused

/-- The parts of a sequence keep the credential out one after the other. -/
theorem stays_bind {f : α → Svc β} (hg : Gone cred registrationId s) (hp : p.All (Precedes cred))
    (hf : ∀ a first s₁, (scans rt).Runs (History rt cred) p s first (.ok a) s₁ →
      (∀ turn ∈ first, Admissible cred shown turn) → Gone cred registrationId s₁ →
        Reregistered cred registrationId first ∨ Stays rt cred shown registrationId (f a) allowed s₁) :
    Stays rt cred shown registrationId (p.bind f) allowed s := by
  intro turns y s' h hadmissible
  rcases h.of_bind (history_refl rt cred) with
    ⟨a, s₁, first, second, hfirst, hsecond, rfl⟩ | ⟨e, he, rfl⟩
  · have hfirst_adm : ∀ turn ∈ first, Admissible cred shown turn :=
      fun turn hturn => hadmissible turn (List.mem_append_left _ hturn)
    have hsecond_adm : ∀ turn ∈ second, Admissible cred shown turn :=
      fun turn hturn => hadmissible turn (List.mem_append_right _ hturn)
    rcases hf a first s₁ hfirst hfirst_adm (gone_of_runs hg hp hfirst).1 with hagain | hstays
    · exact .inl (hagain.mono fun turn hturn => List.mem_append_left _ hturn)
    · rcases hstays second y s' hsecond hsecond_adm with hagain | hrefused
      · exact .inl (hagain.mono fun turn hturn => List.mem_append_right _ hturn)
      · refine .inr ⟨hrefused.answer, fun turn hturn => ?_⟩
        rcases List.mem_append.mp hturn with h₁ | h₂
        · exact (hfirst.all hp turn h₁).2
        · exact hrefused.calls turn h₂
  · refine .inr ⟨fun herr => (by cases herr), fun turn hturn => (he.all hp turn hturn).2⟩

/-- A part whose answer does not matter. -/
theorem stays_bind_any {f : α → Svc β} (hg : Gone cred registrationId s)
    (hp : p.All (Precedes cred))
    (hf : ∀ a s₁, Gone cred registrationId s₁ → Stays rt cred shown registrationId (f a) allowed s₁) :
    Stays rt cred shown registrationId (p.bind f) allowed s :=
  stays_bind hg hp fun a _ s₁ _ _ hg₁ => .inr (hf a s₁ hg₁)

end Rules

/-! ## The validators -/

section Validators

variable {shown : Shown} {turns : List (Turn Resp Exn Store)} {code : String} {eventId : Id}

/-- The answer of a validator to a code that is not accepted. -/
def IsInvalid (context : QrContext) : Prop :=
  ∃ reason payload qrTokenId scanRegistrationId,
    context = .invalid reason payload qrTokenId scanRegistrationId

/-- After the removal, a mapping that is linked points to another registration. -/
theorem reregistered_of_linked {turn : Turn Resp Exn Store} {offlineQrToken : String}
    {m : OfflineRegistrationMapping}
    (hg : Gone (.badge offlineQrToken) registrationId turn.before) (hturn : turn ∈ turns)
    (hm : m ∈ turn.before.mappings.rows) (htoken : m.offlineQrToken = offlineQrToken)
    (hlinked : m.registrationId.isSome = true) :
    Reregistered (.badge offlineQrToken) registrationId turns := by
  obtain ⟨other, hother⟩ := Option.isSome_iff_exists.mp hlinked
  refine ⟨turn, hturn, m, hm, by rw [htoken], other, hother, fun hsame => ?_⟩
  exact hg.mappings m hm (hsame ▸ hother)

/-- A signed badge is looked up where its offline operation is registered again. -/
theorem reregistered_of_first {α : Type} {offlineQrToken : String}
    {f : Option OfflineRegistrationMapping → Svc α} {x : Except Exn α}
    (hform : startsWith (trim shown.code) "O2." = false)
    (hg : Gone (.badge offlineQrToken) registrationId s)
    (h : (scans rt).Runs (History rt (.badge offlineQrToken))
      ((call (.mappingByToken offlineQrToken)).bind f) s turns x s')
    (hadm : ∀ turn ∈ turns, Admissible (.badge offlineQrToken) shown turn) :
    Reregistered (.badge offlineQrToken) registrationId turns := by
  cases h with
  | ask hh ho hk =>
      obtain ⟨m, hm, htoken, hlinked⟩ := hadm _ List.mem_cons_self rfl
      have hsome : m.registrationId.isSome = true := by simpa [hform] using hlinked
      exact reregistered_of_linked (hg.history hh) List.mem_cons_self hm htoken hsome

/-- One mapping has a token. -/
theorem find_mappingByToken {m : OfflineRegistrationMapping} {offlineQrToken : String}
    (hm : m ∈ s.mappings.rows) (htoken : m.offlineQrToken = offlineQrToken) :
    (s.mappings.rows.find? fun a => a.offlineQrToken = offlineQrToken) = some m := by
  cases hrow : s.mappings.rows.find? fun a => a.offlineQrToken = offlineQrToken with
  | none =>
      have hne := List.find?_eq_none.mp hrow m hm
      simp [htoken] at hne
  | some a =>
      have hfound : a.offlineQrToken = offlineQrToken := by simpa using List.find?_some hrow
      apply congrArg some
      apply s.mappings.eq_of_clash (List.mem_of_find?_eq_some hrow) hm
      simp [clash, hfound, htoken]

/-- A reference is looked up where its offline operation is registered again, or it
belongs to another event. -/
theorem runs_validateOfflineReferenceQrForScan {offlineQrToken : String}
    {x : Except Exn QrContext} (hg : Gone (.badge (trim offlineQrToken)) registrationId s)
    (h : (scans rt).Runs (History rt (.badge (trim offlineQrToken)))
      (ScansService.validateOfflineReferenceQrForScan offlineQrToken shown.eventId) s turns x s')
    (hadm : ∀ turn ∈ turns, Admissible (.badge (trim offlineQrToken)) shown turn) :
    Reregistered (.badge (trim offlineQrToken)) registrationId turns ∨
      ∀ context, x = .ok context → IsInvalid context := by
  cases h with
  | @ask _ _ _ u r u' _ _ _ hh ho hk =>
      obtain ⟨m, hm, htoken, hsome | ⟨-, hother⟩⟩ := hadm _ List.mem_cons_self rfl
      · exact .inl (reregistered_of_linked (hg.history hh) List.mem_cons_self hm htoken hsome)
      · refine .inr fun context hx => ?_
        subst hx
        rcases ho with ⟨ch, hmachine⟩ | ⟨-, -, e, rfl⟩
        · have hquery : query u (u.mappings.rows.find? fun a =>
              a.offlineQrToken = trim offlineQrToken) = (r, u') := hmachine
          rw [find_mappingByToken hm htoken] at hquery
          cases hquery
          simp only [Prog.ofExcept, Prog.bind, hother, ne_eq, not_false_eq_true, if_true] at hk
          cases hk
          exact ⟨_, _, _, _, rfl⟩
        · cases hk

/-- What the signed form of a badge says. -/
theorem credentialOf_signed {now : Time} {expected : Option Id} {verified : VerifiedOfflineQr}
    {e : Exn} (hform : startsWith (trim code) "O2." = false)
    (hserver : verifyServerQr rt (trim code) = .error e)
    (h : readOfflineQr rt (trim code) expected now = .ok verified) :
    credentialOf rt code = some (.badge verified.payload.offlineQrToken) := by
  obtain ⟨hparse, hassert⟩ := readOfflineQr_ok rt h
  simp [credentialOf, hform, hserver, hparse, hassert]

theorem runs_verifySignedOfflineQr {verified : VerifiedOfflineQr} {expected : Option Id}
    (h : (scans rt).Runs (History rt cred) (verifySignedOfflineQr rt code expected) s turns
      (.ok verified) s') : ∃ now, readOfflineQr rt code expected now = .ok verified := by
  rcases h.of_bind (history_refl rt cred) with ⟨now, s₁, first, second, -, hread, -⟩ | ⟨e, -, he⟩
  · rcases hread.of_bind (history_refl rt cred) with ⟨read, s₂, t₂, t₃, hok, hrest, -⟩ | ⟨e, -, he⟩
    · obtain ⟨hok, -, -⟩ := hok.of_ofExcept
      rcases hrest.of_bind (history_refl rt cred) with
        ⟨issuer, s₃, t₄, t₅, -, hcheck, -⟩ | ⟨e, -, he⟩
      · rcases hcheck.of_bind (history_refl rt cred) with
          ⟨_, s₄, t₆, t₇, -, hret, -⟩ | ⟨e, -, he⟩
        · cases hret
          exact ⟨now, hok.symm⟩
        · cases he
      · cases he
    · cases he
  · cases he

/-- A token that is not stored is not accepted. -/
theorem runs_validateServerQrForScan {payload : Json} {x : Except Exn QrContext}
    (hcred : (payload.string? "tokenId").map Credential.token = some cred)
    (hg : Gone cred registrationId s)
    (h : (scans rt).Runs (History rt cred) (ScansService.validateServerQrForScan payload eventId) s
      turns x s') : ∀ context, x = .ok context → IsInvalid context := by
  intro context hx
  subst hx
  obtain ⟨tokenId, htoken, rfl⟩ := Option.map_eq_some_iff.mp hcred
  simp only [ScansService.validateServerQrForScan, htoken, Option.getD_some] at h
  split at h
  · cases h
    exact ⟨_, _, _, _, rfl⟩
  · rcases h.of_bind (history_refl rt _) with ⟨found, s₁, first, second, hfind, hrest, -⟩ | ⟨e, -, he⟩
    · obtain ⟨u, u', hu, ho, -, -⟩ := hfind.of_call
      have hnone : (u.qrTokens.rows.find? fun q => q.tokenId = tokenId) = none := by
        apply List.find?_eq_none.mpr
        intro q hq
        have hne := (hg.history hu).tokens q hq
        simp only [ne_eq, Credential.token.injEq] at hne
        simpa using fun hsame => hne hsame.symm
      rcases ho with ⟨ch, hm⟩ | ⟨-, -, e, he⟩
      · have hview : tokenView u (u.qrTokens.rows.find? fun q =>
            q.tokenId = (payload.string? "tokenId").getD "") = .ok found := congrArg Prod.fst hm
        rw [htoken, Option.getD_some, hnone] at hview
        cases hview
        cases hrest
        exact ⟨_, _, _, _, rfl⟩
      · cases he
    · cases he

/-- A badge is looked up where it is registered again, or cannot be read. -/
theorem runs_validateOfflineQrForScan {x : Except Exn QrContext} {e : Exn}
    (hform : startsWith (trim shown.code) "O2." = false)
    (hserver : verifyServerQr rt (trim shown.code) = .error e)
    (hcode : credentialOf rt shown.code = some cred) (hg : Gone cred registrationId s)
    (h : (scans rt).Runs (History rt cred)
      ((ScansService.validateOfflineQrForScan rt (trim shown.code) shown.eventId).tryCatch fun _ =>
        .ret (ScansService.unreadable none)) s turns x s')
    (hadm : ∀ turn ∈ turns, Admissible cred shown turn) :
    Reregistered cred registrationId turns ∨ ∀ context, x = .ok context → IsInvalid context := by
  have hunreadable : IsInvalid (ScansService.unreadable none) := ⟨_, _, _, _, rfl⟩
  have hlookup : ∀ {y turns s'}, (scans rt).Runs (History rt cred)
      (ScansService.validateOfflineQrForScan rt (trim shown.code) shown.eventId) s turns y s' →
      (∀ turn ∈ turns, Admissible cred shown turn) → (∃ e, y = .error e) ∨
        Reregistered cred registrationId turns := by
    intro y turns s' hrun hadm
    rcases hrun.of_bind (history_refl rt cred) with
      ⟨verified, s₁, first, second, hverify, hrest, rfl⟩ | ⟨e, -, he⟩
    · obtain ⟨now, hread⟩ := runs_verifySignedOfflineQr hverify
      have hbadge := (hcode.symm.trans (credentialOf_signed hform hserver hread))
      cases hbadge
      have hg₁ := (gone_of_runs hg (reads_precedes (verifySignedOfflineQr_reads rt _ _)) hverify).1
      have hagain := reregistered_of_first hform hg₁ hrest
        fun turn hturn => hadm turn (List.mem_append_right _ hturn)
      exact .inr (hagain.mono fun turn hturn => List.mem_append_right _ hturn)
    · exact .inl ⟨e, he⟩
  rcases h.of_tryCatch (history_refl rt cred) with
    ⟨context, rfl, hok⟩ | ⟨e, s₁, first, second, hfirst, hret, rfl⟩
  · rcases hlookup hok hadm with ⟨e, he⟩ | hagain
    · cases he
    · exact .inl hagain
  · cases hret
    refine .inr fun context hx => ?_
    cases hx
    exact hunreadable

/-- The server does not find the token, and a badge is looked up where it is registered
again. -/
theorem runs_validateQrForScan {x : Except Exn QrContext} (hcode : credentialOf rt shown.code = some cred)
    (hg : Gone cred registrationId s)
    (h : (scans rt).Runs (History rt cred) (ScansService.validateQrForScan rt shown.code shown.eventId) s turns
      x s') (hadm : ∀ turn ∈ turns, Admissible cred shown turn) :
    Reregistered cred registrationId turns ∨ ∀ context, x = .ok context → IsInvalid context := by
  unfold ScansService.validateQrForScan at h
  dsimp only at h
  split at h
  · refine .inr fun context hx => ?_
    cases h with
    | ret =>
        cases hx
        exact ⟨_, _, _, _, rfl⟩
  · split at h
    · next hform =>
        have hbadge : credentialOf rt shown.code = some (.badge (trim (trim shown.code))) := by
          simp [credentialOf, hform]
        cases hcode.symm.trans hbadge
        exact runs_validateOfflineReferenceQrForScan hg h hadm
    · next hform =>
        have hform : startsWith (trim shown.code) "O2." = false := by simpa using hform
        cases hserver : verifyServerQr rt (trim shown.code) with
        | ok payload =>
            rw [hserver] at h
            have hcred : (payload.string? "tokenId").map Credential.token = some cred := by
              rw [← hcode]
              simp [credentialOf, hform, hserver]
            exact .inr (runs_validateServerQrForScan hcred hg h)
        | error e =>
            rw [hserver] at h
            exact runs_validateOfflineQrForScan hform hserver hcode hg h hadm

end Validators

/-! ## The scan operations -/

section Operations

variable {shown : Shown}

theorem formatScanResponse_gives (allowed : Bool) (reason : String) (scanEvent : RawScanView)
    (movement : Option MovementLog) (generateQrImage : Bool) :
    (ScansService.formatScanResponse rt allowed reason scanEvent movement generateQrImage).Gives
      (·.allowed = allowed) :=
  gives_bind fun _ => gives_bind fun _ => gives_bind fun _ => rfl

theorem commits_of_formats {c : Call} (h : c.formats = true) : c.commits = false := by
  cases c <;> first | rfl | exact Bool.noConfusion h

theorem formats_commits {α : Type} {p : Svc α} (h : Formats p) : p.All (·.commits = false) :=
  All.mono h fun _ => commits_of_formats

/-- A validation, followed by a decision that refuses invalid codes. -/
theorem stays_validated {α : Type} {allowed : α → Bool} {decision : QrContext → Svc α}
    (hcode : credentialOf rt shown.code = some cred) (hg : Gone cred registrationId s)
    (hd : ∀ reason payload qrTokenId scanRegistrationId,
      (decision (.invalid reason payload qrTokenId scanRegistrationId)).All (·.commits = false) ∧
        (decision (.invalid reason payload qrTokenId scanRegistrationId)).Gives
          (allowed · = false)) :
    Stays rt cred shown registrationId
      ((ScansService.validateQrForScan rt shown.code shown.eventId).bind decision) allowed s := by
  refine stays_bind hg (reads_precedes (ScansService.validateQrForScan_reads rt _ _))
    fun context first s₁ hrun hadm _ => ?_
  rcases runs_validateQrForScan hcode hg hrun hadm with hagain | hinvalid
  · exact .inl hagain
  · obtain ⟨reason, payload, qrTokenId, scanRegistrationId, rfl⟩ := hinvalid context rfl
    obtain ⟨hcalls, hgives⟩ := hd reason payload qrTokenId scanRegistrationId
    exact .inr (stays_of_refuses hcalls hgives)

/-- The checks before the validation commit nothing. -/
theorem stays_checked (shown : Shown) {α : Type} {allowed : α → Bool} {deviceId : Id}
    {staffSessionId checkpointId : Option Id}
    {decision : Event → Device → Option StaffSession → Option Checkpoint → QrContext → Svc α}
    (hcode : credentialOf rt shown.code = some cred) (hg : Gone cred registrationId s)
    (hd : ∀ event device staffSession checkpoint reason payload qrTokenId scanRegistrationId,
      (decision event device staffSession checkpoint
          (.invalid reason payload qrTokenId scanRegistrationId)).All (·.commits = false) ∧
        (decision event device staffSession checkpoint
          (.invalid reason payload qrTokenId scanRegistrationId)).Gives (allowed · = false)) :
    Stays rt cred shown registrationId
      (do
        let event ← ScansService.ensureEventCanBeModified shown.eventId
        let device ← ScansService.ensureActiveDevice deviceId shown.eventId
        let staffSession ← ScansService.ensureActiveStaffSession staffSessionId shown.eventId
        let checkpoint ← ScansService.ensureActiveCheckpoint checkpointId shown.eventId
        let qrContext ← ScansService.validateQrForScan rt shown.code shown.eventId
        decision event device staffSession checkpoint qrContext) allowed s := by
  refine stays_bind_any hg
    (reads_precedes (ScansService.ensureEventCanBeModified_checks _).reads) fun event s₁ hg₁ => ?_
  refine stays_bind_any hg₁
    (reads_precedes (ScansService.ensureActiveDevice_checks _ _).reads) fun device s₂ hg₂ => ?_
  refine stays_bind_any hg₂ (reads_precedes (ScansService.ensureActiveStaffSession_checks _ _).reads)
    fun staffSession s₃ hg₃ => ?_
  refine stays_bind_any hg₃ (reads_precedes (ScansService.ensureActiveCheckpoint_checks _ _).reads)
    fun checkpoint s₄ hg₄ => ?_
  exact stays_validated hcode hg₄ (hd event device staffSession checkpoint)

theorem stays_ingestNew (dto : CreateScanDto) (hcode : credentialOf rt dto.qrToken = some cred)
    (hg : Gone cred registrationId s) :
    Stays rt cred ⟨dto.qrToken, dto.eventId⟩ registrationId (ScansService.ingestNew rt dto)
      (·.allowed) s := by
  apply stays_checked ⟨dto.qrToken, dto.eventId⟩ hcode hg
  intro event device staffSession checkpoint reason payload qrTokenId scanRegistrationId
  constructor
  · refine all_bind (all_call rfl) fun scanEvent => all_bind (all_call rfl) fun _ => ?_
    exact all_bind (formats_commits (ScansService.formatScanResponse_formats rt _ _ _ _ _))
      fun _ => trivial
  · refine gives_bind fun scanEvent => gives_bind fun _ => ?_
    exact gives_bind_of (formatScanResponse_gives _ _ _ _ _) fun response h => h

/-- A stored scan answers with its own result. -/
theorem stays_ingestDuplicate {existing : RawScanView}
    (hresult : existing.scan.result ≠ some .ALLOWED) :
    Stays rt cred shown registrationId (ScansService.ingestDuplicate rt existing)
      (·.allowed) s := by
  unfold ScansService.ingestDuplicate
  split
  · refine stays_of_refuses ?_ ?_
    · exact all_bind (formats_commits (ScansService.formatScanResponse_formats rt _ _ _ _ _)) fun _ => trivial
    · refine gives_bind_of (formatScanResponse_gives _ _ _ _ _) fun response h => ?_
      have hrefused : response.allowed = false := by simpa [hresult] using h
      exact hrefused
  · exact stays_of_refuses trivial rfl

theorem stays_ingest (dto : CreateScanDto) (hcode : credentialOf rt dto.qrToken = some cred)
    (hg : Gone cred registrationId s) :
    Stays rt cred ⟨dto.qrToken, dto.eventId⟩ registrationId (ScansService.ingest rt dto)
      (·.allowed) s := by
  refine stays_bind hg (all_call ⟨trivial, rfl⟩) fun found first s₁ hrun hadm hg₁ => .inr ?_
  cases found with
  | none => exact stays_ingestNew dto hcode hg₁
  | some existing =>
      dsimp only
      split
      · refine stays_bind_any hg₁ (all_call ⟨trivial, rfl⟩) fun _ s₂ hg₂ => ?_
        exact stays_ingestNew dto hcode hg₂
      · apply stays_ingestDuplicate
        obtain ⟨u, u', -, ho, -, rfl⟩ := hrun.of_call
        rcases ho with ⟨ch, hm⟩ | ⟨-, -, e, he⟩
        · have hview : (u.rawScans.rows.find? fun a => a.operationId = dto.operationId).map
              u.rawScanView = some existing := Except.ok.inj (congrArg Prod.fst hm)
          obtain ⟨a, ha, rfl⟩ := Option.map_eq_some_iff.mp hview
          have hoperation : a.operationId = dto.operationId := by simpa using List.find?_some ha
          exact hadm _ (List.mem_singleton_self _) a (List.mem_of_find?_eq_some ha) hoperation
        · cases he

theorem stays_processPending (scanEvent : ScanEventRaw)
    (hcode : credentialOf rt (scanEvent.qrRaw.getD "") = some cred)
    (hg : Gone cred registrationId s) :
    Stays rt cred ⟨scanEvent.qrRaw.getD "", scanEvent.eventId⟩ registrationId
      (ScansService.processPending rt scanEvent) (·.allowed) s := by
  apply stays_checked ⟨scanEvent.qrRaw.getD "", scanEvent.eventId⟩ hcode hg
  intro event device staffSession checkpoint reason payload qrTokenId scanRegistrationId
  constructor
  · refine all_bind (all_call rfl) fun scanEvent => all_bind (all_call rfl) fun _ => ?_
    exact all_bind (formats_commits (ScansService.formatScanResponse_formats rt _ _ _ _ _))
      fun _ => trivial
  · refine gives_bind fun scanEvent => gives_bind fun _ => ?_
    exact gives_bind_of (formatScanResponse_gives _ _ _ _ _) fun response h => h

/-- A `try` block whose handler refuses. -/
theorem stays_tryCatch {α : Type} {allowed : α → Bool} {p : Svc α} {handler : Exn → Svc α}
    (hp : Stays rt cred shown registrationId p allowed s)
    (hh : ∀ e, (handler e).All (·.commits = false) ∧ (handler e).Gives (allowed · = false)) :
    Stays rt cred shown registrationId (p.tryCatch handler) allowed s := by
  intro turns x s' h hadm
  rcases h.of_tryCatch (history_refl rt cred) with
    ⟨a, rfl, hok⟩ | ⟨e, s₁, first, second, hfirst, hsecond, rfl⟩
  · exact hp turns _ s' hok hadm
  · rcases hp first _ s₁ hfirst fun turn hturn => hadm turn (List.mem_append_left _ hturn) with
      hagain | hrefused
    · exact .inl (hagain.mono fun turn hturn => List.mem_append_left _ hturn)
    · rcases stays_of_refuses (hh e).1 (hh e).2 second x s' hsecond
        fun turn hturn => hadm turn (List.mem_append_right _ hturn) with hagain | hlast
      · exact .inl (hagain.mono fun turn hturn => List.mem_append_right _ hturn)
      · refine .inr ⟨hlast.answer, fun turn hturn => ?_⟩
        rcases List.mem_append.mp hturn with h₁ | h₂
        · exact hrefused.calls turn h₁
        · exact hlast.calls turn h₂

theorem stays_processRawScan {a : ScanEventRaw} (ha : a ∈ s.rawScans.rows)
    (hcode : credentialOf rt (a.qrRaw.getD "") = some cred) (hg : Gone cred registrationId s) :
    Stays rt cred ⟨a.qrRaw.getD "", a.eventId⟩ registrationId
      (ScansService.processRawScan rt a.id) (·.allowed) s := by
  refine stays_bind hg (all_call ⟨trivial, rfl⟩) fun found first s₁ hrun _ hg₁ => .inr ?_
  cases found with
  | none => exact stays_of_refuses trivial rfl
  | some scanEvent =>
      dsimp only
      split
      · exact stays_of_refuses trivial rfl
      · have hsame : (⟨scanEvent.qrRaw.getD "", scanEvent.eventId⟩ : Shown) =
            ⟨a.qrRaw.getD "", a.eventId⟩ := by
          obtain ⟨u, u', hu, ho, -, -⟩ := hrun.of_call
          rcases ho with ⟨ch, hm⟩ | ⟨-, -, e, he⟩
          · have hfind : u.rawScans.find? a.id = some scanEvent :=
              Except.ok.inj (congrArg Prod.fst hm)
            obtain ⟨hmem, hid⟩ := Table.find?_eq_some_iff.mp hfind
            have hidentity := (History.rawScans hu).core_eq ha hmem hid.symm
            simp only [Store.rawIdentity, Prod.mk.injEq] at hidentity
            rw [hidentity.2.1, hidentity.2.2.2.2.2.2.2]
          · cases he
        have hstored : credentialOf rt (scanEvent.qrRaw.getD "") = some cred := by
          rw [(Shown.mk.inj hsame).1]
          exact hcode
        refine stays_tryCatch (hsame ▸ stays_processPending scanEvent hstored hg₁)
          fun e => ⟨?_, ?_⟩
        · exact all_bind (all_call rfl) fun _ => trivial
        · exact gives_bind fun _ => rfl

end Operations

/-- The answer of a presentation is that of its operation. -/
theorem stays_presentation {shown : Shown} {p : Svc Bool} (hp : Presentation rt shown s p)
    (hcode : credentialOf rt shown.code = some cred) (hg : Gone cred registrationId s) :
    Stays rt cred shown registrationId p id s := by
  have hanswer : ∀ {α : Type} {q : Svc α} {allowed : α → Bool},
      Stays rt cred shown registrationId q allowed s →
        Stays rt cred shown registrationId (q.bind fun reply => .ret (allowed reply)) id s := by
    intro α q allowed hq turns x s' h hadm
    rcases h.of_bind (history_refl rt cred) with
      ⟨reply, s₁, first, second, hfirst, hret, rfl⟩ | ⟨e, he, rfl⟩
    · cases hret
      rw [List.append_nil] at hadm ⊢
      exact hq first _ s₁ hfirst hadm
    · exact hq turns _ s' he hadm
  cases hp with
  | ingest dto h =>
      subst h
      exact hanswer (stays_ingest dto hcode hg)
  | processRawScan a ha h =>
      subst h
      exact hanswer (stays_processRawScan ha hcode hg)

/-- A removed registration stays out. Its credential was issued in `s₀`, the removal took
`s₁` to `s₂`, and a code that names the credential is presented in `s₃`. -/
theorem removed_stays_out {s₀ s₁ s₂ s₃ s₄ : Store} (hissued : Issued s₀ registrationId cred)
    (hbefore : History rt cred s₀ s₁) {removed : RegistrationsService.Removed}
    (hremove : RegistrationsService.remove s₁ registrationId = (.ok removed, s₂))
    (hafter : History rt cred s₂ s₃) {shown : Shown}
    (hcode : credentialOf rt shown.code = some cred) {p : Svc Bool}
    (hp : Presentation rt shown s₃ p) {turns : List (Turn Resp Exn Store)}
    {answer : Except Exn Bool} (h : (scans rt).Runs (History rt cred) p s₃ turns answer s₄)
    (hadm : ∀ turn ∈ turns, Admissible cred shown turn) :
    StaysOut cred registrationId turns answer := by
  have hgone : Gone cred registrationId s₃ :=
    (gone_of_remove ((owned_of_issued hissued).history hbefore) hremove).history hafter
  have hstays := stays_presentation hp hcode hgone turns answer s₄ h hadm
  cases answer with
  | ok a => exact hstays
  | error e => exact hstays

/-! ## Sample runs -/

/-- The sample store with the printed card registered. -/
def printedStore : Store :=
  { sampleStore with mappings := .ofData [sampleMapping "O2.card" "reg-1"] }

/-- The removal of the sample registration. -/
def sampleRemoval (s : Store) : Except Exn RegistrationsService.Removed × Store :=
  RegistrationsService.remove s "c0"

/-- An entry scan of a code after the removal. -/
def samplePresentation (code : String) : Svc Bool :=
  do return (← ScansService.ingest sampleRuntime (sampleScan "op-1" code)).allowed

def sampleTurns (s : Store) (code : String) : List (Turn Resp Exn Store) :=
  (samplePresentation code).turns (machine sampleRuntime {}) (sampleRemoval s).2

def sampleAnswer (s : Store) (code : String) : Except Exn Bool :=
  ((samplePresentation code).run (machine sampleRuntime {}) (sampleRemoval s).2).1

theorem runs_sample (cred : Credential) (s : Store) (code : String) : ∃ s₄,
    (scans sampleRuntime).Runs (History sampleRuntime cred) (samplePresentation code)
      (sampleRemoval s).2 (sampleTurns s code) (sampleAnswer s code) s₄ :=
  ⟨_, Service.runs_of_run (scans sampleRuntime) (history_refl sampleRuntime cred) {} _ _⟩

/-- The removal of the sample registration is answered. -/
theorem sampleRemoval_ok {s : Store} (h : (sampleRemoval s).1.toOption.isSome = true) :
    ∃ removed, RegistrationsService.remove s "c0" = (.ok removed, (sampleRemoval s).2) := by
  obtain ⟨removed, hremoved, -⟩ := exists_ok (x := (sampleRemoval s).1) (p := fun _ => true)
    (by simpa [Option.isSome_iff_exists, Option.any_eq_true] using h)
  exact ⟨removed, Prod.ext hremoved rfl⟩

/-- The compact token of a removed registration is refused. -/
theorem removed_token_stays_out : ∃ s₄,
    (scans sampleRuntime).Runs (History sampleRuntime (.token "T")) (samplePresentation "Q2.T.s")
        (sampleRemoval sampleStore).2 (sampleTurns sampleStore "Q2.T.s")
        (sampleAnswer sampleStore "Q2.T.s") s₄ ∧
      StaysOut (.token "T") "c0" (sampleTurns sampleStore "Q2.T.s")
        (sampleAnswer sampleStore "Q2.T.s") := by
  obtain ⟨s₄, hruns⟩ := runs_sample (.token "T") sampleStore "Q2.T.s"
  obtain ⟨removed, hremoved⟩ := sampleRemoval_ok (s := sampleStore) (by decide +kernel)
  have hissued : Issued sampleStore "c0" (.token "T") := by
    refine ⟨_, List.mem_singleton_self _, ?_, ?_⟩ <;> rfl
  have hcode : credentialOf sampleRuntime "Q2.T.s" = some (.token "T") := by decide +kernel
  refine ⟨s₄, hruns, removed_stays_out hissued .refl hremoved .refl hcode (.ingest _ rfl) hruns ?_⟩
  decide +kernel

/-- A signed badge of a removed registration is let in. -/
theorem removed_badge_let_in :
    ¬ ∀ (rt : Runtime) (cred : Credential) (registrationId : Id) (s₀ s₁ s₂ s₃ s₄ : Store)
        (removed : RegistrationsService.Removed) (shown : Shown) (p : Svc Bool)
        (turns : List (Turn Resp Exn Store)) (answer : Except Exn Bool),
      Issued s₀ registrationId cred → History rt cred s₀ s₁ →
      RegistrationsService.remove s₁ registrationId = (.ok removed, s₂) →
      History rt cred s₂ s₃ → credentialOf rt shown.code = some cred → Presentation rt shown s₃ p →
      (scans rt).Runs (History rt cred) p s₃ turns answer s₄ →
        StaysOut cred registrationId turns answer := by
  intro h
  obtain ⟨s₄, hruns⟩ := runs_sample (.badge "O2.card") printedStore "card.-"
  obtain ⟨removed, hremoved⟩ := sampleRemoval_ok (s := printedStore) (by decide +kernel)
  have hissued : Issued printedStore "c0" (.badge "O2.card") := by
    refine ⟨_, List.mem_singleton_self _, ?_, ?_⟩ <;> rfl
  have hcode : credentialOf sampleRuntime "card.-" = some (.badge "O2.card") := by
    decide +kernel
  have hanswer : sampleAnswer printedStore "card.-" = .ok true := by
    obtain ⟨allowed, hallowed, htrue⟩ := exists_ok (x := sampleAnswer printedStore "card.-")
      (p := fun allowed => allowed) (by decide +kernel)
    rw [hallowed, htrue]
  have hunmapped : ∀ turn ∈ sampleTurns printedStore "card.-", turn.before.mappings.rows = [] := by
    decide +kernel
  rcases h _ _ _ _ _ _ _ _ _ _ _ _ _ hissued .refl hremoved .refl hcode (.ingest _ rfl) hruns with
    ⟨turn, hturn, m, hm, -⟩ | hrefused
  · rw [hunmapped turn hturn] at hm
    cases hm
  · exact hrefused.answer hanswer

end Removal

end CreativeBackend
