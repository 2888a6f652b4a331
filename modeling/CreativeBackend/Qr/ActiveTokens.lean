import CreativeBackend.Interaction.Interference
import CreativeBackend.Qr.Convergence
import CreativeBackend.Registrations.Creation

/-!
# Active tokens

No operation of a device takes an active QR token away: a token is refreshed only where
it was read as not active, and a refresh that finds another row than it read does
nothing. So a registration whose token was shown once shows it again.
-/

namespace CreativeBackend

open Relational Interaction Prog

namespace ActiveTokens

variable {rt : Runtime} {s s' : Store} {registrationId : Id} {qr : FormattedQr} {α : Type}

/-! ## Calls that spare active tokens -/

/-- No active token is refreshed, and none is revoked. -/
def Spares : Call → Prop
  | .qrTokenRefresh old _ => old.status ≠ .ACTIVE
  | .qrTokenRevoke _ => False
  | _ => True

/-- Programs that spare active tokens. -/
abbrev Sparing (p : Svc α) : Prop := p.All Spares

theorem spares_of_reads {c : Call} (h : c.reads = true) : Spares c := by
  cases c <;> trivial

theorem spares_of_registers {c : Call} (h : c.registers = true) : Spares c := by
  cases c <;> trivial

theorem sparing_of_reads {p : Svc α} (hp : Reads p) : Sparing p := hp.mono fun _ => spares_of_reads

theorem sparing_of_checks {p : Svc α} (hp : Checks p) : Sparing p := sparing_of_reads hp.reads

theorem generate_sparing (registrationId : Id) : Sparing (QrService.generate rt registrationId) := by
  refine (Convergence.allowed_generate rt registrationId).mono fun c hc => ?_
  cases c <;> trivial

/-! ## Tokens that are shown -/

/-- The registration is there, of an event that is not archived, and its active token is
formatted as `qr`. -/
structure Shows (rt : Runtime) (s : Store) (registrationId : Id) (qr : FormattedQr) : Prop where
  registration : ∃ r e a, s.registrations.find? registrationId = some r ∧
    s.events.find? r.eventId = some e ∧ s.attendeeTypes.find? r.attendeeTypeId = some a ∧
    e.status ≠ .ARCHIVED
  token : ∃ q ∈ s.qrTokens.rows, q.registrationId = registrationId ∧ q.status = .ACTIVE ∧
    QrService.formatQrToken rt q = .ok qr

/-- The token is still there. -/
theorem Shows.of_tables (h : Shows rt s registrationId qr)
    (hr : ∀ r, s.registrations.find? registrationId = some r →
      s'.registrations.find? registrationId = some r)
    (he : s'.events = s.events) (ha : s'.attendeeTypes = s.attendeeTypes)
    (hq : ∀ q ∈ s.qrTokens.rows, q.status = .ACTIVE → q ∈ s'.qrTokens.rows) :
    Shows rt s' registrationId qr := by
  obtain ⟨⟨r, e, a, hfind, hevent, htype, hopen⟩, q, hmem, hown, hactive, hformat⟩ := h
  refine ⟨⟨r, e, a, hr r hfind, ?_, ?_, hopen⟩, q, hq q hmem hactive, hown, hactive, hformat⟩
  · rw [he]
    exact hevent
  · rw [ha]
    exact htype

/-- A call that spares active tokens leaves what is shown. -/
theorem Shows.effect (h : Shows rt s registrationId qr) {c : Call} {x : Except Exn (Resp c)}
    (hc : Spares c) (heff : Effect s c x s') : Shows rt s' registrationId qr := by
  cases heff with
  | @refresh old d q row t hfind hsame hu =>
      refine h.of_tables (fun _ hr => hr) rfl rfl fun q' hq' hactive => ?_
      refine (Table.mem_update hu).mpr (.inl ⟨hq', fun hkey => ?_⟩)
      obtain ⟨hmem, hid⟩ := Table.find?_eq_some_iff.mp hfind
      have heq : q' = q := s.qrTokens.eq_of_key hq' hmem (hkey.trans hid.symm)
      exact hc (by rw [← hsame.2, ← heq]; exact hactive)
  | @issue d row t hcreate =>
      exact h.of_tables (fun _ hr => hr) rfl rfl fun q hq _ => (Table.mem_create hcreate).mpr (.inl hq)
  | revoke => exact hc.elim
  | @register data row t hcreate =>
      refine h.of_tables (fun r hr => ?_) rfl rfl fun _ hq _ => hq
      obtain ⟨hmem, hkey⟩ := Table.find?_eq_some_iff.mp hr
      exact Table.find?_eq_some_iff.mpr ⟨(Table.mem_create hcreate).mpr (.inl hmem), hkey⟩
  | read | failed => exact h
  | _ => exact h.of_tables (fun _ hr => hr) rfl rfl fun _ hq _ => hq

/-! ## The operations of a device -/

section Offline

open ScansService

theorem writeSettlement_sparing (offlineScan : OfflineScanOperation)
    (existingRawScan : Option RawScanView) (d : Decision) :
    Sparing (writeSettlement rt offlineScan existingRawScan d) := by
  cases existingRawScan with
  | none => exact all_call trivial
  | some existing => exact all_call trivial

theorem settleOfflineScan_sparing (offlineScan : OfflineScanOperation)
    (existingRawScan : Option RawScanView) (context : ValidQrContext) :
    Sparing (settleOfflineScan rt offlineScan existingRawScan context) := by
  refine all_bind (sparing_of_checks (ensureEventCanBeModified_checks _)) fun event => ?_
  refine all_bind (sparing_of_checks (ensureActiveDevice_checks _ _)) fun device => ?_
  refine all_bind (sparing_of_checks (ensureStaffSessionForOfflineReplay_checks _ _ _ _))
    fun staffSession => ?_
  refine all_bind (sparing_of_checks (ensureActiveCheckpoint_checks _ _)) fun checkpoint => ?_
  refine all_bind (sparing_of_checks (scanReason_checks rt _ _ _ _)) fun reason => ?_
  refine all_bind (writeSettlement_sparing _ _ _) fun written => ?_
  exact all_bind (all_call trivial) fun _ => all_bind (all_call trivial) fun _ => trivial

theorem settleNew_sparing (offlineScan : OfflineScanOperation)
    (existingRawScan : Option RawScanView) :
    Sparing (settleNew rt offlineScan existingRawScan) := by
  refine all_bind (sparing_of_reads (getCanonicalContextForOfflineScan_reads _)) fun context => ?_
  cases context with
  | none => trivial
  | some context => exact settleOfflineScan_sparing _ _ _

theorem processOfflineScanOperation_sparing (id : Id) :
    Sparing (processOfflineScanOperation rt id) := by
  refine all_bind (all_call trivial) fun x => ?_
  cases x with
  | none => trivial
  | some x =>
      dsimp only
      split
      · trivial
      · refine all_bind (all_call trivial) fun existing => ?_
        cases existing with
        | none => exact settleNew_sparing _ _
        | some existing =>
            dsimp only
            split
            · exact settleNew_sparing _ _
            · exact all_bind (all_call trivial) fun _ => trivial

theorem ingestOfflineExisting_sparing (input : OfflineScanInput) (verified : VerifiedOfflineQr)
    (existing : OfflineScanOperation) (registrationId : Option Id) :
    Sparing (ingestOfflineExisting rt input verified existing registrationId) := by
  unfold ingestOfflineExisting
  split
  · exact all_bind (all_call trivial) fun _ => trivial
  · split
    · split
      · exact all_bind (all_call trivial) fun _ => processOfflineScanOperation_sparing _
      · trivial
    · split <;> trivial

theorem ingestOfflineScan_sparing (mappingFirst : Bool) (input : OfflineScanInput) :
    Sparing (ingestOfflineScan rt mappingFirst input) := by
  refine all_bind (sparing_of_reads (verifySignedOfflineQr_reads rt _ _)) fun verified => ?_
  dsimp only
  split
  · trivial
  · refine all_bind (sparing_of_checks (ensureEventCanBeModified_checks _)) fun _ => ?_
    refine all_bind (sparing_of_checks (ensureActiveDevice_checks _ _)) fun _ => ?_
    refine all_bind (sparing_of_checks (ensureActiveStaffSession_checks _ _)) fun _ => ?_
    refine all_bind (sparing_of_checks (ensureActiveCheckpoint_checks _ _)) fun _ => ?_
    refine all_bind (sparing_of_reads (readScanAndMapping_reads _ _ _)) fun found => ?_
    obtain ⟨existing, mapping⟩ := found
    cases existing with
    | some existing => exact ingestOfflineExisting_sparing _ _ _ _
    | none =>
        refine all_bind (all_call trivial) fun _ => ?_
        split
        · trivial
        · exact processOfflineScanOperation_sparing _

theorem reconcileScans_sparing (registrationId : Id) (xs : List OfflineScanOperation) :
    Sparing (reconcileScans rt registrationId xs) := by
  induction xs with
  | nil => trivial
  | cons x rest ih =>
      refine all_bind (all_tryCatch ?_ fun error => ?_) fun _ => all_bind ih fun _ => trivial
      · refine all_bind (all_call trivial) fun _ => ?_
        exact all_bind (processOfflineScanOperation_sparing _) fun _ => trivial
      · exact all_bind (all_call trivial) fun _ => trivial

theorem reconcileOfflineRegistration_sparing (input : ReconcileInput) :
    Sparing (reconcileOfflineRegistration rt input) :=
  all_bind (all_call trivial) fun _ => reconcileScans_sparing _ _

end Offline

/-! ## Programs on their own -/

/-- The store for one program at a time; the calls in `faulty` may fail. -/
def alone (rt : Runtime) (faulty : Call → Prop) : Service Resp Exn Store where
  Choice := Choice
  machine := machine rt
  faulty := faulty
  env _ _ := False
  starts _ _ _ := False

/-- A run of a program. -/
def Ended (rt : Runtime) (faulty : Call → Prop) (p : Svc α) (s : Store) (y : Except Exn α)
    (s' : Store) : Prop :=
  ∃ turns, (alone rt faulty).Runs Eq p s turns y s'

variable {faulty : Call → Prop}

theorem ended_bind_cases {β : Type} {p : Svc α} {f : α → Svc β} {y : Except Exn β}
    (h : Ended rt faulty (p.bind f) s y s') :
    (∃ a s₁, Ended rt faulty p s (.ok a) s₁ ∧ Ended rt faulty (f a) s₁ y s') ∨
      ∃ e, Ended rt faulty p s (.error e) s' ∧ y = .error e := by
  obtain ⟨turns, h⟩ := h
  rcases Service.Runs.of_bind (fun _ => rfl) h with
    ⟨a, s₁, first, second, hfirst, hsecond, -⟩ | ⟨e, herror, rfl⟩
  · exact .inl ⟨a, s₁, ⟨first, hfirst⟩, second, hsecond⟩
  · exact .inr ⟨e, ⟨turns, herror⟩, rfl⟩

theorem ended_bind {β : Type} {p : Svc α} {f : α → Svc β} {b : β}
    (h : Ended rt faulty (p.bind f) s (.ok b) s') :
    ∃ a s₁, Ended rt faulty p s (.ok a) s₁ ∧ Ended rt faulty (f a) s₁ (.ok b) s' := by
  rcases ended_bind_cases h with hok | ⟨e, -, hbad⟩
  · exact hok
  · cases hbad

theorem ended_ret {a : α} {y : Except Exn α} (h : Ended rt faulty (.ret a) s y s') :
    y = .ok a ∧ s' = s := by
  obtain ⟨turns, h⟩ := h
  cases h with
  | ret h => exact ⟨rfl, h.symm⟩

theorem ended_throw {e : Exn} {y : Except Exn α} (h : Ended rt faulty (.throw e) s y s') :
    y = .error e ∧ s' = s := by
  obtain ⟨turns, h⟩ := h
  cases h with
  | throw h => exact ⟨rfl, h.symm⟩

theorem ended_ofExcept {x y : Except Exn α} (h : Ended rt faulty (Prog.ofExcept x) s y s') :
    y = x ∧ s' = s := by
  obtain ⟨turns, h⟩ := h
  obtain ⟨rfl, hsame, -⟩ := Service.Runs.of_ofExcept h
  exact ⟨rfl, hsame.symm⟩

theorem ended_call {c : Call} {y : Except Exn (Resp c)} (h : Ended rt faulty (call c) s y s') :
    (alone rt faulty).Outcome c s y s' := by
  obtain ⟨turns, h⟩ := h
  obtain ⟨s₁, s₂, rfl, ho, rfl, -⟩ := Service.Runs.of_call h
  exact ho

theorem ended_call_ok {c : Call} {a : Resp c} (h : Ended rt faulty (call c) s (.ok a) s') :
    ∃ ch, machine rt ch c s = (.ok a, s') := by
  rcases ended_call h with hm | ⟨-, -, e, he⟩
  · exact hm
  · cases he

theorem ended_tryCatch {p : Svc α} {handler : Exn → Svc α} {a : α}
    (h : Ended rt faulty (p.tryCatch handler) s (.ok a) s') :
    Ended rt faulty p s (.ok a) s' ∨ ∃ e s₁, Ended rt faulty p s (.error e) s₁ ∧
      Ended rt faulty (handler e) s₁ (.ok a) s' := by
  obtain ⟨turns, h⟩ := h
  rcases Service.Runs.of_tryCatch (fun _ => rfl) h with
    ⟨a', ha, hok⟩ | ⟨e, s₁, first, second, hfirst, hsecond, -⟩
  · cases ha
    exact .inl ⟨turns, hok⟩
  · exact .inr ⟨e, s₁, ⟨first, hfirst⟩, second, hsecond⟩

theorem effect_of_alone {c : Call} {y : Except Exn (Resp c)}
    (ho : (alone rt faulty).Outcome c s y s') : Effect s c y s' := by
  rcases ho with ⟨ch, hm⟩ | ⟨-, rfl, e, rfl⟩
  · exact effect_of_machine hm
  · exact .failed

/-- A property that the calls of a program keep. -/
theorem Ended.invariant {I : Store → Prop} {P : Call → Prop} {p : Svc α} {y : Except Exn α}
    (h : Ended rt faulty p s y s') (hp : p.All P)
    (hcall : ∀ c s (r : Except Exn (Resp c)) s', P c → I s → Effect s c r s' → I s') (hs : I s) :
    I s' := by
  obtain ⟨turns, h⟩ := h
  refine (Service.Runs.invariant ?_ (fun c s r s' hc hi ho => hcall c s r s' hc hi
    (effect_of_alone ho)) hp h hs).1
  rintro s₁ _ hi rfl
  exact hi

theorem Shows.ended (hs : Shows rt s registrationId qr) {p : Svc α} (hp : Sparing p)
    {y : Except Exn α} (h : Ended rt faulty p s y s') : Shows rt s' registrationId qr :=
  h.invariant (I := fun s => Shows rt s registrationId qr) hp
    (fun _ _ _ _ hc hi heff => hi.effect hc heff) hs

/-! ## Tokens that are generated -/

/-- Draws and lookups leave the tokens alone. -/
theorem tryTokenIds_draws (attempts : Nat) :
    (QrService.tryTokenIds attempts).All (RegistrationsService.draws · = true) := by
  induction attempts with
  | zero => trivial
  | succ n ih =>
      refine all_bind (all_call rfl) fun hex => all_bind (all_call rfl) fun found => ?_
      cases found with
      | none => trivial
      | some _ => exact ih

/-- Draws change nothing but the count of the draws. -/
theorem ended_draws {p : Svc α} (hp : p.All (RegistrationsService.draws · = true))
    {y : Except Exn α} (h : Ended rt faulty p s y s') :
    s'.registrations = s.registrations ∧ s'.events = s.events ∧
      s'.attendeeTypes = s.attendeeTypes ∧ s'.qrTokens = s.qrTokens := by
  refine h.invariant (I := fun s₁ => s₁.registrations = s.registrations ∧ s₁.events = s.events ∧
    s₁.attendeeTypes = s.attendeeTypes ∧ s₁.qrTokens = s.qrTokens) hp ?_ ⟨rfl, rfl, rfl, rfl⟩
  intro c s₁ r s₂ hc hi heff
  cases heff with
  | read | failed => exact hi
  | draw => exact hi
  | _ => exact Bool.noConfusion hc

theorem qrTokenOf_eq_some {q : QrToken} (h : s.qrTokenOf registrationId = some q) :
    q ∈ s.qrTokens.rows ∧ q.registrationId = registrationId :=
  ⟨List.mem_of_find?_eq_some h, by simpa using List.find?_some h⟩

/-- The token of a registration is active. -/
def IsActive (s : Store) (registrationId : Id) (q : QrToken) : Prop :=
  q ∈ s.qrTokens.rows ∧ q.registrationId = registrationId ∧ q.status = .ACTIVE

theorem findActive_active {e : Exn} {q : QrToken}
    (h : Ended rt faulty (QrService.findActive registrationId e) s (.ok q) s') :
    IsActive s' registrationId q ∧ s' = s := by
  obtain ⟨found, s₁, hcall, hrest⟩ := ended_bind h
  obtain ⟨ch, hm⟩ := ended_call_ok hcall
  cases found with
  | none => cases (ended_throw hrest).1
  | some view =>
      obtain ⟨hq, rfl⟩ := ended_ret hrest
      cases hq
      have hview := (QrService.tokenView_ok (congrArg Prod.fst hm)).1
      obtain ⟨hmem, hholds⟩ := List.mem_filter.mp (Choice.first_mem hview.symm)
      simp only [QrTokenWhere.holds, Option.all_none, Option.all_some, Bool.and_true,
        Bool.and_eq_true, beq_iff_eq] at hholds
      have hsame : s = s' := congrArg Prod.snd hm
      subst hsame
      exact ⟨⟨hmem, hholds⟩, rfl⟩

/-- The stored token of a registration is active once it was created or refreshed. -/
theorem createOrRefreshQrToken_active {data : QrTokenData} {existing : Option QrToken} {q : QrToken}
    (hexisting : ∀ old, existing = some old → old ∈ s.qrTokens.rows ∧
      old.registrationId = data.registrationId)
    (h : Ended rt faulty (QrService.createOrRefreshQrToken data existing) s (.ok q) s') :
    IsActive s' data.registrationId q ∧ s'.registrations = s.registrations ∧
      s'.events = s.events ∧ s'.attendeeTypes = s.attendeeTypes := by
  cases existing with
  | none =>
      rcases ended_tryCatch h with hcreate | ⟨e, s₁, hfailed, hhandler⟩
      · obtain ⟨ch, hm⟩ := ended_call_ok hcreate
        rcases Store.createQrToken_cases hm with ⟨e, he, -⟩ | ⟨row, t, hc, hrow, rfl⟩
        · cases he
        · cases hrow
          refine ⟨⟨(Table.mem_create hc).mpr (.inr rfl), ?_, ?_⟩, rfl, rfl, rfl⟩ <;>
            rw [(Table.create_eq_some hc).1] <;> rfl
      · have hsame : s₁ = s := by
          rcases ended_call hfailed with ⟨ch, hm⟩ | ⟨-, hsame, -⟩
          · rcases Store.createQrToken_cases hm with ⟨-, -, hsame⟩ | ⟨row, t, -, hrow, -⟩
            · exact hsame
            · cases hrow
          · exact hsame
        subst hsame
        split at hhandler
        · obtain ⟨hactive, rfl⟩ := findActive_active hhandler
          exact ⟨hactive, rfl, rfl, rfl⟩
        · cases (ended_throw hhandler).1
  | some old =>
      obtain ⟨hold, hreg⟩ := hexisting old rfl
      obtain ⟨count, s₁, hrefresh, hrest⟩ := ended_bind h
      obtain ⟨ch, hm⟩ := ended_call_ok hrefresh
      rcases Store.refreshQrToken_cases hm with
        ⟨e, he, -⟩ | ⟨hzero, rfl⟩ | ⟨found, row, t, hfind, hsame, hu, hone, rfl⟩
      · cases he
      · cases hzero
        obtain ⟨hactive, rfl⟩ := findActive_active hrest
        exact ⟨hactive, rfl, rfl, rfl⟩
      · cases hone
        obtain ⟨again, s₂, hread, hret⟩ := ended_bind hrest
        obtain ⟨ch', hm'⟩ := ended_call_ok hread
        cases hm'
        have hrow : IsActive { s with qrTokens := t } data.registrationId row := by
          obtain ⟨x, hx, hkey, hrow, -, -⟩ := Table.update_eq_done hu
          have hxold : x = old := s.qrTokens.eq_of_key hx hold hkey
          refine ⟨(Table.mem_update hu).mpr (.inr rfl), ?_, ?_⟩
          · rw [hrow, hxold]
            exact hreg
          · rw [hrow]
            rfl
        cases hagain : ({ s with qrTokens := t } : Store).qrTokenOf data.registrationId with
        | none =>
            have hnone := List.find?_eq_none.mp hagain row hrow.1
            exact absurd hrow.2.1 (by simpa using hnone)
        | some refreshed =>
            rw [hagain] at hret
            obtain ⟨hq, rfl⟩ := ended_ret hret
            cases hq
            obtain ⟨hmem, hown⟩ := qrTokenOf_eq_some hagain
            have hq : q = row := QrService.token_unique hmem hrow.1 (hown.trans hrow.2.1.symm)
            exact ⟨hq ▸ hrow, rfl, rfl, rfl⟩

theorem findRegistration_shown {v : RegistrationView}
    (h : Ended rt faulty (QrService.findRegistrationWithRelations registrationId) s (.ok v) s') :
    s' = s ∧ s.registrations.find? registrationId = some v.registration ∧
      s.events.find? v.registration.eventId = some v.event ∧
      s.attendeeTypes.find? v.registration.attendeeTypeId = some v.attendeeType := by
  obtain ⟨found, s₁, hcall, hrest⟩ := ended_bind h
  obtain ⟨ch, hm⟩ := ended_call_ok hcall
  cases found with
  | none => cases (ended_throw hrest).1
  | some view =>
      obtain ⟨hv, rfl⟩ := ended_ret hrest
      cases hv
      simp only [machine] at hm
      split at hm
      · cases hm
      · next r hr =>
          unfold Store.registrationView at hm
          split at hm
          · next e a he ha =>
              cases hm
              exact ⟨rfl, hr, he, ha⟩
          · cases hm

/-- A token that was generated is shown. -/
theorem generate_shows
    (h : Ended rt faulty (QrService.generate rt registrationId) s (.ok qr) s') :
    Shows rt s' registrationId qr := by
  obtain ⟨v, s₁, hfind, hrest⟩ := ended_bind h
  obtain ⟨rfl, hr, hevent, htype⟩ := findRegistration_shown hfind
  have hid : v.registration.id = registrationId := (Table.find?_eq_some_iff.mp hr).2
  split at hrest
  · cases (ended_throw hrest).1
  · next hopen =>
      obtain ⟨existing, s₂, hread, hissue⟩ := ended_bind hrest
      obtain ⟨ch, hm⟩ := ended_call_ok hread
      cases hm
      have hregistration : ∀ s₃ : Store, s₃.registrations = s₁.registrations →
          s₃.events = s₁.events → s₃.attendeeTypes = s₁.attendeeTypes →
          ∃ r e a, s₃.registrations.find? registrationId = some r ∧
            s₃.events.find? r.eventId = some e ∧ s₃.attendeeTypes.find? r.attendeeTypeId = some a ∧
            e.status ≠ .ARCHIVED := by
        intro s₃ hr₃ he₃ ha₃
        refine ⟨v.registration, v.event, v.attendeeType, ?_, ?_, ?_, hopen⟩
        · rw [hr₃]
          exact hr
        · rw [he₃]
          exact hevent
        · rw [ha₃]
          exact htype
      have hissued : ∀ {existing : Option QrToken}, (∀ old, existing = some old →
          old ∈ s₁.qrTokens.rows ∧ old.registrationId = registrationId) →
          Ended rt faulty (QrService.issue rt v existing) s₁ (.ok qr) s' →
          Shows rt s' registrationId qr := by
        intro existing hexisting hissue
        obtain ⟨tokenId, s₃, hdraw, hissue⟩ := ended_bind hissue
        obtain ⟨now, s₄, hnow, hissue⟩ := ended_bind hissue
        obtain ⟨nonce, s₅, hnonce, hissue⟩ := ended_bind hissue
        obtain ⟨stored, s₆, hstore, hformat⟩ := ended_bind hissue
        obtain ⟨hqr, rfl⟩ := ended_ofExcept hformat
        obtain ⟨hr₃, he₃, ha₃, hq₃⟩ := ended_draws (tryTokenIds_draws 5) hdraw
        obtain ⟨hr₄, he₄, ha₄, hq₄⟩ := ended_draws (all_call rfl) hnow
        obtain ⟨hr₅, he₅, ha₅, hq₅⟩ := ended_draws (all_call rfl) hnonce
        have hsame : s₅.qrTokens = s₁.qrTokens := hq₅.trans (hq₄.trans hq₃)
        obtain ⟨hactive, hr₆, he₆, ha₆⟩ := createOrRefreshQrToken_active (fun old hold => by
          rw [hsame, hid]
          exact hexisting old hold) hstore
        rw [hid] at hactive
        exact ⟨hregistration _ (hr₆.trans (hr₅.trans (hr₄.trans hr₃)))
          (he₆.trans (he₅.trans (he₄.trans he₃))) (ha₆.trans (ha₅.trans (ha₄.trans ha₃))),
          stored, hactive.1, hactive.2.1, hactive.2.2, hqr.symm⟩
      cases hof : s₁.qrTokenOf registrationId with
      | none =>
          rw [hof] at hissue
          exact hissued (fun old hold => by cases hold) hissue
      | some q =>
          rw [hof] at hissue
          obtain ⟨hmem, hown⟩ := qrTokenOf_eq_some hof
          dsimp only at hissue
          split at hissue
          · next hactive =>
              obtain ⟨hqr, rfl⟩ := ended_ofExcept hissue
              exact ⟨hregistration _ rfl rfl rfl, q, hmem, hown, hactive, hqr.symm⟩
          · refine hissued (fun old hold => ?_) hissue
            cases hold
            exact ⟨hmem, hown⟩

/-- A read that does not fail. -/
theorem ended_read {c : Call} {a : Resp c} (hread : ∀ ch, machine rt ch c s = (.ok a, s))
    {y : Except Exn (Resp c)} (h : Ended rt (fun _ => False) (call c) s y s') :
    y = .ok a ∧ s' = s := by
  rcases ended_call h with ⟨ch, hm⟩ | ⟨hfaulty, -⟩
  · cases (hread ch).symm.trans hm
    exact ⟨rfl, rfl⟩
  · exact hfaulty.elim

/-- What is shown is generated again, where no call fails. -/
theorem generate_again (hs : Shows rt s registrationId qr) {y : Except Exn FormattedQr}
    (h : Ended rt (fun _ => False) (QrService.generate rt registrationId) s y s') :
    y = .ok qr := by
  obtain ⟨⟨r, e, a, hr, he, ha, hopen⟩, q, hq, hown, hactive, hformat⟩ := hs
  have hview : ∀ {y s'}, Ended rt (fun _ => False)
      (QrService.findRegistrationWithRelations registrationId) s y s' → y = .ok ⟨r, e, a⟩ ∧ s' = s := by
    intro y s' h
    have hread : ∀ ch, machine rt ch (.registrationWithRelations registrationId) s =
        (.ok (some ⟨r, e, a⟩), s) := by
      intro ch
      simp [machine, hr, Store.registrationView, he, ha, Except.map]
    rcases ended_bind_cases h with ⟨found, s₁, hcall, hrest⟩ | ⟨e', herror, -⟩
    · obtain ⟨hfound, rfl⟩ := ended_read hread hcall
      cases hfound
      exact ended_ret hrest
    · cases (ended_read hread herror).1
  have htoken : ∀ ch, machine rt ch (.qrTokenByRegistration registrationId) s = (.ok (some q), s) := by
    intro ch
    have hof : s.qrTokenOf registrationId = some q := QrService.qrTokenOf_of_mem hq hown
    simp [machine, query, hof]
  rcases ended_bind_cases h with ⟨v, s₁, hfind, hrest⟩ | ⟨e', herror, -⟩
  · obtain ⟨hv, rfl⟩ := hview hfind
    cases hv
    rw [if_neg hopen] at hrest
    rcases ended_bind_cases hrest with ⟨existing, s₂, hread, hrest⟩ | ⟨e', herror, -⟩
    · obtain ⟨hexisting, rfl⟩ := ended_read htoken hread
      cases hexisting
      dsimp only at hrest
      rw [if_pos hactive] at hrest
      exact (ended_ofExcept hrest).1.trans hformat
    · cases (ended_read htoken herror).1
  · cases (hview herror).1

end ActiveTokens

end CreativeBackend
