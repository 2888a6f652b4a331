import CreativeBackend.Runtime.Text
import CreativeBackend.Interaction.Results
import CreativeBackend.Qr.Issue
import CreativeBackend.Scans.Service

/-!
# Concurrent generation of one QR token

Any number of calls of `QrService.generate` for one registration run at the same time. The first
of them that creates or refreshes the row leaves it active, and an active row is never
overwritten, so all of them return it.
-/

namespace CreativeBackend

open Relational Interaction

/-- The calls of `generate` for a registration, while others leave its row, the registration, its
event and its attendee type alone. -/
def generateService (rt : Runtime) (registrationId : Id) : Service Resp Exn Store where
  Choice := Choice
  machine := machine rt
  faulty _ := False
  env s s' := s'.qrTokens = s.qrTokens ∧ s'.registrations = s.registrations ∧
    s'.events = s.events ∧ s'.attendeeTypes = s.attendeeTypes ∧ s.draws ≤ s'.draws
  starts s p s' := p = (QrService.generate rt registrationId).void ∧ s' = s

namespace Convergence

variable {rt : Runtime} {s₀ : Store} {registrationId : Id}

/-! ## Calls -/

/-- The calls that write the row. -/
def issues : Call → Bool
  | .qrTokenCreate _ => true
  | .qrTokenRefresh _ _ => true
  | _ => false

/-- The calls of `generate`; it refreshes no active row. -/
def Allowed : Call → Prop
  | .registrationWithRelations _ => True
  | .qrTokenByRegistration _ => True
  | .qrTokenByTokenId _ => True
  | .qrTokenFirst _ => True
  | .random => True
  | .now => True
  | .qrTokenCreate _ => True
  | .qrTokenRefresh old _ => old.status ≠ .ACTIVE
  | _ => False

theorem allowed_findActive (id : Id) (e : Exn) : (QrService.findActive id e).All Allowed := by
  refine Prog.all_bind (Prog.all_call trivial) fun found => ?_
  cases found <;> trivial

theorem allowed_createOrRefresh (d : QrTokenData) {existing : Option QrToken}
    (h : ∀ q, existing = some q → q.status ≠ .ACTIVE) :
    (QrService.createOrRefreshQrToken d existing).All Allowed := by
  cases existing with
  | none =>
      refine Prog.all_tryCatch (Prog.all_call trivial) fun error => ?_
      split
      · exact allowed_findActive _ _
      · trivial
  | some q =>
      refine Prog.all_bind (Prog.all_call (h q rfl)) fun count => ?_
      split
      · refine Prog.all_bind (Prog.all_call trivial) fun refreshed => ?_
        cases refreshed <;> trivial
      · exact allowed_findActive _ _

theorem allowed_tryTokenIds (attempts : Nat) : (QrService.tryTokenIds attempts).All Allowed := by
  induction attempts with
  | zero => trivial
  | succ attempts ih =>
      refine Prog.all_bind (Prog.all_call trivial) fun hex => ?_
      refine Prog.all_bind (Prog.all_call trivial) fun found => ?_
      cases found with
      | none => trivial
      | some view => exact ih

theorem allowed_issue (v : RegistrationView) {existing : Option QrToken}
    (h : ∀ q, existing = some q → q.status ≠ .ACTIVE) :
    (QrService.issue rt v existing).All Allowed := by
  refine Prog.all_bind (allowed_tryTokenIds 5) fun tokenId => ?_
  refine Prog.all_bind (Prog.all_call trivial) fun now => ?_
  refine Prog.all_bind (Prog.all_call trivial) fun nonce => ?_
  refine Prog.all_bind (allowed_createOrRefresh _ h) fun stored => ?_
  exact Prog.all_ofExcept _

theorem allowed_generate (rt : Runtime) (registrationId : Id) :
    (QrService.generate rt registrationId).All Allowed := by
  refine Prog.all_bind (Prog.all_bind (Prog.all_call trivial) fun found => ?_) fun v => ?_
  · cases found <;> trivial
  · split
    · trivial
    · refine Prog.all_bind (Prog.all_call trivial) fun existing => ?_
      cases existing with
      | none =>
          apply allowed_issue
          intro q hq
          cases hq
      | some q =>
          dsimp only
          split
          · exact Prog.all_ofExcept _
          · next hinactive =>
              apply allowed_issue
              intro q' hq'
              cases hq'
              exact hinactive

/-! ## The invariant -/

/-- A row of the registration stays, or an active one takes the place of an inactive one. -/
def Advances (registrationId : Id) (s s' : Store) : Prop :=
  ∀ q ∈ s.qrTokens.rows, q.registrationId = registrationId → q ∈ s'.qrTokens.rows ∨
    q.status ≠ .ACTIVE ∧ ∃ q' ∈ s'.qrTokens.rows, q'.registrationId = registrationId ∧
      q'.status = .ACTIVE

theorem Advances.refl (s : Store) : Advances registrationId s s := fun _ hq _ => .inl hq

theorem Advances.trans {s s' s'' : Store} (h : Advances registrationId s s')
    (h' : Advances registrationId s' s'') : Advances registrationId s s'' := by
  intro q hq hr
  rcases h q hq hr with hstays | ⟨hinactive, q', hq', hr', hactive⟩
  · exact h' q hstays hr
  · rcases h' q' hq' hr' with hstays | ⟨hinactive', -⟩
    · exact .inr ⟨hinactive, q', hstays, hr', hactive⟩
    · exact absurd hactive hinactive'

/-- An active row stays. -/
theorem Advances.active {s s' : Store} (h : Advances registrationId s s') {q : QrToken}
    (hq : q ∈ s.qrTokens.rows) (hr : q.registrationId = registrationId)
    (hactive : q.status = .ACTIVE) : q ∈ s'.qrTokens.rows := by
  rcases h q hq hr with hstays | ⟨hinactive, -⟩
  · exact hstays
  · exact absurd hactive hinactive

theorem Advances.of_tokens {s s' : Store} (h : s'.qrTokens = s.qrTokens) :
    Advances registrationId s s' :=
  fun _ hq _ => .inl (h ▸ hq)

/-- The thread drew the number. -/
def Drew (w : World Resp Exn Store) (t n : Nat) : Prop :=
  ∃ e ∈ w.trace, e.thread = t ∧ e.call = .random ∧ e.before.draws = n

/-- The thread wrote a row. -/
def Wrote (w : World Resp Exn Store) (t : Nat) : Prop :=
  ∃ e ∈ w.trace, e.thread = t ∧ issues e.call = true

/-- A row that was written since the start, under a token id that its writer drew. -/
structure Fresh (rt : Runtime) (s₀ : Store) (registrationId : Id) (w : World Resp Exn Store)
    (q : QrToken) : Prop where
  registration : q.registrationId = registrationId
  active : q.status = .ACTIVE
  payload : q.payload.tokenId = q.tokenId
  drawn : ∃ t n, s₀.draws ≤ n ∧ q.tokenId = "QRT_" ++ rt.random n ∧ Drew w t n ∧ Wrote w t

/-- The invariant of the calls. -/
structure Converging (rt : Runtime) (s₀ : Store) (registrationId : Id)
    (w : World Resp Exn Store) : Prop where
  registrations : w.store.registrations = s₀.registrations
  events : w.store.events = s₀.events
  attendeeTypes : w.store.attendeeTypes = s₀.attendeeTypes
  draws : s₀.draws ≤ w.store.draws
  drawn : ∀ t n, Drew w t n → n < w.store.draws
  drawn_once : ∀ t u n, Drew w t n → Drew w u n → t = u
  rows : ∀ q ∈ w.store.qrTokens.rows, q ∈ s₀.qrTokens.rows ∨ Fresh rt s₀ registrationId w q
  advances : Advances registrationId s₀ w.store

/-! ## What a call does -/

/-- The changes of the store. -/
inductive Moves (s : Store) : Call → Store → Prop
  | same {c} (h : c ≠ .random) : Moves s c s
  | draw : Moves s .random { s with draws := s.draws + 1 }
  | create {d row t} (h : s.qrTokens.create (Store.qrTokenRow s.clock d) = some (row, t)) :
      Moves s (.qrTokenCreate d) { s with qrTokens := t }
  | refresh {old d q row t} (hq : s.qrTokens.find? old.id = some q)
      (hsame : q.tokenId = old.tokenId ∧ q.status = old.status) (hold : old.status ≠ .ACTIVE)
      (hu : s.qrTokens.update old.id (Store.applyQrToken s.clock d) = .done row t) :
      Moves s (.qrTokenRefresh old d) { s with qrTokens := t }

theorem moves_of_allowed {ch : Choice} {c : Call} (hc : Allowed c) {s s' : Store}
    {x : Except Exn (Resp c)} (h : machine rt ch c s = (x, s')) : Moves s c s' := by
  cases c with
  | registrationWithRelations id =>
      simp only [machine] at h
      split at h
      · cases h
        exact .same (by simp)
      · cases h
        exact .same (by simp)
  | qrTokenByRegistration id =>
      cases h
      exact .same (by simp)
  | qrTokenByTokenId tokenId =>
      cases h
      exact .same (by simp)
  | qrTokenFirst cond =>
      cases h
      exact .same (by simp)
  | random =>
      cases h
      exact .draw
  | now =>
      cases h
      exact .same (by simp)
  | qrTokenCreate d =>
      rcases Store.createQrToken_cases h with ⟨e, -, rfl⟩ | ⟨row, t, hcreate, -, rfl⟩
      · exact .same (by simp)
      · exact .create hcreate
  | qrTokenRefresh old d =>
      rcases Store.refreshQrToken_cases h with
        ⟨e, -, rfl⟩ | ⟨-, rfl⟩ | ⟨q, row, t, hq, hsame, hu, -, rfl⟩
      · exact .same (by simp)
      · exact .same (by simp)
      · exact .refresh hq hsame hc hu
  | _ => exact hc.elim

/-- No call overwrites an active row. -/
theorem Moves.advances {c : Call} {s s' : Store} (h : Moves s c s') :
    Advances registrationId s s' := by
  cases h with
  | same _ => exact Advances.refl s
  | draw => exact Advances.of_tokens rfl
  | create hcreate => exact fun q hq _ => .inl ((Table.mem_create hcreate).mpr (.inl hq))
  | @refresh old d q₀ row t hq hsame hold hu =>
      intro q hmem hr
      by_cases hkey : q.id = old.id
      · obtain ⟨hmem₀, hkey₀⟩ := Table.find?_eq_some_iff.mp hq
        have hq₀ : q = q₀ := s.qrTokens.eq_of_key hmem hmem₀ (hkey.trans hkey₀.symm)
        obtain ⟨a, ha, hka, hrow, -, -⟩ := Table.update_eq_done hu
        have ha₀ : a = q := s.qrTokens.eq_of_key ha hmem (hka.trans hkey.symm)
        refine .inr ⟨?_, row, (Table.mem_update hu).mpr (.inr rfl), ?_, ?_⟩
        · rw [hq₀, hsame.2]
          exact hold
        · rw [hrow, ha₀]
          exact hr
        · rw [hrow]
          rfl
      · exact .inl ((Table.mem_update hu).mpr (.inl ⟨hmem, hkey⟩))

variable {w : World Resp Exn Store} {t n : Nat} {c : Call} {x : Except Exn (Resp c)} {s' : Store}

theorem Drew.log {u : Nat} (h : Drew w u n) : Drew (w.log t c x s') u n := by
  obtain ⟨e, he, hdrew⟩ := h
  exact ⟨e, List.mem_cons_of_mem _ he, hdrew⟩

theorem Wrote.log {u : Nat} (h : Wrote w u) : Wrote (w.log t c x s') u := by
  obtain ⟨e, he, hwrote⟩ := h
  exact ⟨e, List.mem_cons_of_mem _ he, hwrote⟩

theorem Fresh.log {q : QrToken} (h : Fresh rt s₀ registrationId w q) :
    Fresh rt s₀ registrationId (w.log t c x s') q := by
  obtain ⟨u, n, hn, hid, hdrew, hwrote⟩ := h.drawn
  exact ⟨h.registration, h.active, h.payload, u, n, hn, hid, hdrew.log, hwrote.log⟩

/-- Only a draw is logged as one. -/
theorem drew_log {u : Nat} (h : Drew (w.log t c x s') u n) :
    Drew w u n ∨ u = t ∧ c = .random ∧ w.store.draws = n := by
  obtain ⟨e, he, hthread, hcall, hdraws⟩ := h
  rcases List.mem_cons.mp he with rfl | he
  · exact .inr ⟨hthread.symm, hcall, hdraws⟩
  · exact .inl ⟨e, he, hthread, hcall, hdraws⟩

/-- What the thread writes: its own token id, for the registration. -/
structure OwnData (rt : Runtime) (s₀ : Store) (w : World Resp Exn Store) (t : Nat)
    (d : QrTokenData) : Prop where
  payload : d.payload.tokenId = d.tokenId
  drawn : ∃ n, s₀.draws ≤ n ∧ d.tokenId = "QRT_" ++ rt.random n ∧ Drew w t n

/-- What the thread may write. -/
def OwnCall (rt : Runtime) (s₀ : Store) (registrationId : Id) (w : World Resp Exn Store) (t : Nat) :
    Call → Prop
  | .qrTokenCreate d => d.registrationId = registrationId ∧ OwnData rt s₀ w t d
  | .qrTokenRefresh old d => old ∈ s₀.qrTokens.rows ∧ old.registrationId = registrationId ∧
      OwnData rt s₀ w t d
  | _ => True

/-- Each number is drawn once. -/
theorem Converging.drawn_log (h : Converging rt s₀ registrationId w) (t : Nat) (c : Call)
    (x : Except Exn (Resp c)) (s' : Store) (hle : w.store.draws ≤ s'.draws) (hdraw : c = .random → w.store.draws < s'.draws) :
    (∀ u n, Drew (w.log t c x s') u n → n < s'.draws) ∧
      ∀ u v n, Drew (w.log t c x s') u n → Drew (w.log t c x s') v n → u = v := by
  constructor
  · intro u n hdrew
    rcases drew_log hdrew with hold | ⟨-, hc, hn⟩
    · exact Nat.lt_of_lt_of_le (h.drawn u n hold) hle
    · exact hn ▸ hdraw hc
  · intro u v n hu hv
    rcases drew_log hu with hu | ⟨rfl, -, hn⟩
    · rcases drew_log hv with hv | ⟨-, -, hn⟩
      · exact h.drawn_once u v n hu hv
      · exact absurd (h.drawn u n hu) (by omega)
    · rcases drew_log hv with hv | ⟨rfl, -, -⟩
      · exact absurd (h.drawn v n hv) (by omega)
      · rfl

/-- A row that the thread wrote. -/
theorem OwnData.fresh {d : QrTokenData} {q : QrToken} (h : OwnData rt s₀ w t d)
    (hc : issues c = true) (hregistration : q.registrationId = registrationId)
    (hactive : q.status = .ACTIVE) (hpayload : q.payload = d.payload)
    (hid : q.tokenId = d.tokenId) : Fresh rt s₀ registrationId (w.log t c x s') q := by
  obtain ⟨n, hn, hdrawn, hdrew⟩ := h.drawn
  constructor
  case registration => exact hregistration
  case active => exact hactive
  case payload => rw [hpayload, hid, h.payload]
  case drawn =>
    exact ⟨t, n, hn, hid.trans hdrawn, hdrew.log, _, List.mem_cons_self, rfl, hc⟩

/-- What a call keeps. -/
theorem Converging.of_moves (h : Converging rt s₀ registrationId w) (hm : Moves w.store c s')
    (hown : OwnCall rt s₀ registrationId w t c) :
    Converging rt s₀ registrationId (w.log t c x s') := by
  have hadvances : Advances registrationId s₀ s' := h.advances.trans hm.advances
  have hrows : ∀ q ∈ w.store.qrTokens.rows, q ∈ s₀.qrTokens.rows ∨
      Fresh rt s₀ registrationId (w.log t c x s') q :=
    fun q hq => (h.rows q hq).imp_right Fresh.log
  cases hm with
  | same hrandom =>
      obtain ⟨hdrawn, honce⟩ := h.drawn_log t _ x w.store (Nat.le_refl _)
        fun hc => absurd hc hrandom
      exact ⟨h.registrations, h.events, h.attendeeTypes, h.draws, hdrawn, honce, hrows, hadvances⟩
  | draw =>
      obtain ⟨hdrawn, honce⟩ := h.drawn_log t .random x
        { w.store with draws := w.store.draws + 1 } (Nat.le_succ _) fun _ => Nat.lt_succ_self _
      exact ⟨h.registrations, h.events, h.attendeeTypes, Nat.le_succ_of_le h.draws, hdrawn, honce,
        hrows, hadvances⟩
  | @create d row table hcreate =>
      obtain ⟨hdrawn, honce⟩ := h.drawn_log t (.qrTokenCreate d) x
        { w.store with qrTokens := table } (Nat.le_refl _) fun hc => by cases hc
      refine ⟨h.registrations, h.events, h.attendeeTypes, h.draws, hdrawn, honce, fun q hq => ?_,
        hadvances⟩
      rcases (Table.mem_create hcreate).mp hq with hold | rfl
      · exact hrows q hold
      · have hrow := (Table.create_eq_some hcreate).1
        right
        apply hown.2.fresh rfl
        · rw [hrow]
          exact hown.1
        · rw [hrow]
          rfl
        · rw [hrow]
          rfl
        · rw [hrow]
          rfl
  | @refresh old d q₀ row table hq₀ hsame hold hu =>
      obtain ⟨hdrawn, honce⟩ := h.drawn_log t (.qrTokenRefresh old d) x
        { w.store with qrTokens := table } (Nat.le_refl _) fun hc => by cases hc
      refine ⟨h.registrations, h.events, h.attendeeTypes, h.draws, hdrawn, honce, fun q hq => ?_,
        hadvances⟩
      rcases (Table.mem_update hu).mp hq with ⟨hmem, -⟩ | rfl
      · exact hrows q hmem
      · obtain ⟨a, ha, hka, hrow, -, -⟩ := Table.update_eq_done hu
        obtain ⟨hold₀, holdReg, hdata⟩ := hown
        -- The row is that of the registration, as its key is.
        have hregistration : a.registrationId = registrationId := by
          rcases h.rows a ha with ha₀ | hfresh
          · rw [s₀.qrTokens.eq_of_key ha₀ hold₀ hka]
            exact holdReg
          · exact hfresh.registration
        right
        apply hdata.fresh rfl
        · rw [hrow]
          exact hregistration
        · rw [hrow]
          rfl
        · rw [hrow]
          rfl
        · rw [hrow]
          rfl

/-! ## The discipline -/

/-- The rely-guarantee rules of the calls. -/
def discipline (rt : Runtime) (s₀ : Store) (registrationId : Id) :
    Discipline (generateService rt registrationId) (fun _ c _ => Allowed c) where
  inv := Converging rt s₀ registrationId
  rely := Advances registrationId
  rely_refl := Advances.refl
  rely_trans h h' := h.trans h'
  call_rely := by
    intro t c w x s' _ hc ho
    rcases ho with ⟨ch, hrun⟩ | ⟨hfalse, -⟩
    · exact (moves_of_allowed hc hrun).advances
    · exact hfalse.elim
  env_inv := by
    rintro w s' h ⟨htokens, hregistrations, hevents, htypes, hdraws⟩
    constructor
    case registrations => exact hregistrations.trans h.registrations
    case events => exact hevents.trans h.events
    case attendeeTypes => exact htypes.trans h.attendeeTypes
    case draws => exact Nat.le_trans h.draws hdraws
    case drawn => exact fun t n hdrew => Nat.lt_of_lt_of_le (h.drawn t n hdrew) hdraws
    case drawn_once => exact h.drawn_once
    case rows =>
      intro q hq
      change q ∈ s'.qrTokens.rows at hq
      rw [htokens] at hq
      exact (h.rows q hq).imp_right fun hfresh =>
        ⟨hfresh.registration, hfresh.active, hfresh.payload, hfresh.drawn⟩
    case advances => exact h.advances.trans (Advances.of_tokens htokens)
  env_rely := by
    rintro w s' - ⟨htokens, -⟩
    exact Advances.of_tokens htokens
  start_inv := by
    rintro w p s' h ⟨-, rfl⟩
    exact h
  start_rely := by
    rintro w p s' - ⟨-, rfl⟩
    exact Advances.refl _

/-- A call that writes nothing keeps the invariant. -/
theorem keeps_read {c : Call} (hc : issues c = false) (w : World Resp Exn Store) :
    (discipline rt s₀ registrationId).Keeps t c w := by
  intro w' _ hi hallowed x s' ho
  obtain ⟨ch, hrun⟩ | ⟨hfalse, -⟩ := ho
  · refine Converging.of_moves hi (moves_of_allowed hallowed hrun) ?_
    cases c with
    | qrTokenCreate d => cases hc
    | qrTokenRefresh old d => cases hc
    | _ => trivial
  · exact hfalse.elim

/-! ## The start -/

/-- The registration is stored with its event, which is not archived, and its attendee type. An
active token is as it was generated. No token has an id that is still to be drawn, and each id
is drawn once. -/
structure Start (rt : Runtime) (s₀ : Store) (registrationId : Id) (v : RegistrationView) :
    Prop where
  registration : s₀.registrations.find? registrationId = some v.registration
  event : s₀.events.find? v.registration.eventId = some v.event
  attendeeType : s₀.attendeeTypes.find? v.registration.attendeeTypeId = some v.attendeeType
  modifiable : v.event.status ≠ .ARCHIVED
  generated : ∀ q ∈ s₀.qrTokens.rows, q.registrationId = registrationId → q.status = .ACTIVE →
    q.payload.tokenId = q.tokenId ∧ trim q.tokenId ≠ ""
  unused : ∀ n, s₀.draws ≤ n → ∀ q ∈ s₀.qrTokens.rows, q.tokenId ≠ "QRT_" ++ rt.random n
  distinct : ∀ m n, s₀.draws ≤ m → s₀.draws ≤ n → rt.random m = rt.random n → m = n

variable {v : RegistrationView} {q : QrToken}

theorem Start.id_eq (hs : Start rt s₀ registrationId v) : v.registration.id = registrationId :=
  (Table.find?_eq_some_iff.mp hs.registration).2

/-- The views of the registration are those of the start. -/
theorem Converging.tokenView (h : Converging rt s₀ registrationId w)
    (hs : Start rt s₀ registrationId v) (hq : q.registrationId = registrationId) :
    CreativeBackend.tokenView w.store (some q) = .ok (some ⟨q, v.registration, v.attendeeType⟩) := by
  simp only [CreativeBackend.tokenView, Store.qrTokenView, h.registrations, h.attendeeTypes, hq,
    hs.registration, hs.attendeeType]
  rfl

/-- A token id of the thread is in no row. -/
theorem Converging.not_stored (h : Converging rt s₀ registrationId w)
    (hs : Start rt s₀ registrationId v) (hn : s₀.draws ≤ n) (hdrew : Drew w t n)
    (hclean : ¬ Wrote w t) : ∀ q ∈ w.store.qrTokens.rows, q.tokenId ≠ "QRT_" ++ rt.random n := by
  intro q hq hid
  rcases h.rows q hq with hold | hfresh
  · exact hs.unused n hn q hold hid
  · obtain ⟨u, m, hm, hid', hdrew', hwrote⟩ := hfresh.drawn
    have hsame : rt.random m = rt.random n := by
      have hlist := congrArg String.toList (hid'.symm.trans hid)
      rw [String.toList_append, String.toList_append] at hlist
      exact String.toList_inj.mp (List.append_cancel_left hlist)
    have hmn : m = n := hs.distinct m n hm hn hsame
    subst hmn
    have hut : u = t := h.drawn_once u t m hdrew' hdrew
    exact hclean (hut ▸ hwrote)

/-- There is an active row of the registration. -/
def Active (registrationId : Id) (s : Store) : Prop :=
  ∃ q ∈ s.qrTokens.rows, q.registrationId = registrationId ∧ q.status = .ACTIVE

theorem Active.advances {s s' : Store} (h : Active registrationId s)
    (ha : Advances registrationId s s') : Active registrationId s' := by
  obtain ⟨q, hq, hr, hactive⟩ := h
  exact ⟨q, ha.active hq hr hactive, hr, hactive⟩

theorem wrote_iff : Wrote w t ↔ ∃ e ∈ w.own t, issues e.call = true := by
  constructor
  · rintro ⟨e, he, hthread, hissues⟩
    exact ⟨e, World.mem_own.mpr ⟨he, hthread⟩, hissues⟩
  · rintro ⟨e, he, hissues⟩
    obtain ⟨hmem, hthread⟩ := World.mem_own.mp he
    exact ⟨e, hmem, hthread, hissues⟩

theorem drew_iff : Drew w t n ↔ ∃ e ∈ w.own t, e.call = .random ∧ e.before.draws = n := by
  constructor
  · rintro ⟨e, he, hthread, hcall, hdraws⟩
    exact ⟨e, World.mem_own.mpr ⟨he, hthread⟩, hcall, hdraws⟩
  · rintro ⟨e, he, hcall, hdraws⟩
    obtain ⟨hmem, hthread⟩ := World.mem_own.mp he
    exact ⟨e, hmem, hthread, hcall, hdraws⟩

/-! ## The programs -/

/-- The thread has drawn the token id and written nothing. -/
def Holder (rt : Runtime) (s₀ : Store) (w : World Resp Exn Store) (t : Nat) (tokenId : String) :
    Prop :=
  ¬ Wrote w t ∧ ∃ n, s₀.draws ≤ n ∧ tokenId = "QRT_" ++ rt.random n ∧ Drew w t n

variable {w' : World Resp Exn Store} {tokenId : String}

theorem not_wrote_of_own (h : ¬ Wrote w t) (hc : issues c = false) {s : Store}
    (hown : w'.own t = ⟨t, c, x, s⟩ :: w.own t) : ¬ Wrote w' t := by
  rw [wrote_iff] at h ⊢
  rw [hown]
  rintro ⟨e, he, hissues⟩
  rcases List.mem_cons.mp he with rfl | he
  · rw [hc] at hissues
    cases hissues
  · exact h ⟨e, he, hissues⟩

theorem Holder.of_own (h : Holder rt s₀ w t tokenId) (hc : issues c = false) {s : Store}
    (hown : w'.own t = ⟨t, c, x, s⟩ :: w.own t) : Holder rt s₀ w' t tokenId := by
  obtain ⟨hclean, n, hn, hid, hdrew⟩ := h
  refine ⟨not_wrote_of_own hclean hc hown, n, hn, hid, ?_⟩
  rw [drew_iff] at hdrew ⊢
  rw [hown]
  obtain ⟨e, he, hrest⟩ := hdrew
  exact ⟨e, List.mem_cons_of_mem _ he, hrest⟩

theorem Holder.since (h : Holder rt s₀ w t tokenId)
    (hsince : (discipline rt s₀ registrationId).Since t w w') : Holder rt s₀ w' t tokenId := by
  obtain ⟨hclean, n, hn, hid, hdrew⟩ := h
  rw [wrote_iff, ← hsince.own, ← wrote_iff] at hclean
  rw [drew_iff, ← hsince.own, ← drew_iff] at hdrew
  exact ⟨hclean, n, hn, hid, hdrew⟩

/-- What a thread knows of the answer to a read: it was given in a store on the way. -/
structure ReadAt (rt : Runtime) (s₀ : Store) (registrationId : Id) (t : Nat)
    (w : World Resp Exn Store) (c : Call) (ch : Choice) (w₁ : World Resp Exn Store)
    (w' : World Resp Exn Store) : Prop where
  inv : Converging rt s₀ registrationId w₁
  before : Advances registrationId w.store w₁.store
  after : Advances registrationId (machine rt ch c w₁.store).2 w'.store
  own₁ : w₁.own t = w.own t
  own : w'.own t = ⟨t, c, (machine rt ch c w₁.store).1, w₁.store⟩ :: w.own t

/-- A read that is answered normally, and what follows it. -/
theorem holds_read_bind {α : Type} {c : Call} (hc : issues c = false)
    {f : Resp c → Svc α} {Q : Except Exn α → World Resp Exn Store → Prop}
    (hi : Converging rt s₀ registrationId w)
    (h : ∀ ch w₁ w', ReadAt rt s₀ registrationId t w c ch w₁ w' →
      Converging rt s₀ registrationId w' → ∃ a, (machine rt ch c w₁.store).1 = .ok a ∧
        (discipline rt s₀ registrationId).logic.Holds t Q (f a) w') :
    (discipline rt s₀ registrationId).logic.Holds t Q ((call c).bind f) w := by
  have hread : ∀ {x : Except Exn (Resp c)} {w' : World Resp Exn Store},
      (discipline rt s₀ registrationId).Performed t w c x w' → ∃ ch w₁,
        ReadAt rt s₀ registrationId t w c ch w₁ w' ∧ (machine rt ch c w₁.store).1 = x := by
    rintro x w' ⟨w₁, s₁, hbefore, hi₁, -, ho, hafter⟩
    obtain ⟨ch, hrun⟩ | ⟨hfalse, -⟩ := ho
    · have hrun' : machine rt ch c w₁.store = (x, s₁) := hrun
      refine ⟨ch, w₁, ⟨hi₁, hbefore.1, ?_, hbefore.own, ?_⟩, by rw [hrun']⟩
      · rw [hrun']
        exact hafter.1
      · rw [hrun', hafter.own, World.own_log, hbefore.own]
    · exact hfalse.elim
  refine Discipline.holds_bind hi (Discipline.holds_performed (keeps_read hc w)) ?_ ?_
  · intro a w' hi' _ hp
    obtain ⟨ch, w₁, hat, hx⟩ := hread hp
    obtain ⟨a', ha', hholds⟩ := h ch w₁ w' hat hi'
    cases ha'.symm.trans hx
    exact hholds
  · intro e w' hi' _ hp
    obtain ⟨ch, w₁, hat, hx⟩ := hread hp
    obtain ⟨a', ha', -⟩ := h ch w₁ w' hat hi'
    cases ha'.symm.trans hx

/-- The registration is found. -/
theorem holds_findRegistration (hs : Start rt s₀ registrationId v)
    (hi : Converging rt s₀ registrationId w) (hclean : ¬ Wrote w t) :
    (discipline rt s₀ registrationId).logic.Holds t (fun x w' => x = .ok v ∧ ¬ Wrote w' t)
      (QrService.findRegistrationWithRelations registrationId) w := by
  refine holds_read_bind rfl hi fun ch w₁ w' hat _ => ⟨some v, ?_, ?_⟩
  · simp only [machine, hat.inv.registrations, hs.registration, Store.registrationView,
      hat.inv.events, hat.inv.attendeeTypes, hs.event, hs.attendeeType]
    rfl
  · have hclean' := not_wrote_of_own hclean rfl hat.own
    refine Logic.holds_ret fun w'' hsince _ => ⟨rfl, ?_⟩
    rw [wrote_iff, Discipline.Since.own hsince, ← wrote_iff]
    exact hclean'

/-- A token id is drawn that no row has. -/
theorem holds_generateTokenId (hs : Start rt s₀ registrationId v)
    (hi : Converging rt s₀ registrationId w) (hclean : ¬ Wrote w t) :
    (discipline rt s₀ registrationId).logic.Holds t
      (fun x w' => ∃ tokenId, x = .ok tokenId ∧ Holder rt s₀ w' t tokenId)
      QrService.generateTokenId w := by
  refine holds_read_bind rfl hi fun ch w₁ w' hat hi' => ⟨_, rfl, ?_⟩
  have hclean' := not_wrote_of_own hclean rfl hat.own
  have hholder : Holder rt s₀ w' t ("QRT_" ++ rt.random w₁.store.draws) := by
    refine ⟨hclean', w₁.store.draws, hat.inv.draws, rfl, ?_⟩
    rw [drew_iff, hat.own]
    exact ⟨_, List.mem_cons_self, rfl, rfl⟩
  refine holds_read_bind rfl hi' fun ch₂ w₂ w'' hat₂ hi'' => ⟨none, ?_, ?_⟩
  · -- No row has the token id, as this thread drew it and has not written.
    obtain ⟨-, n, hn, hid, hdrew⟩ := hholder
    have hclean₂ : ¬ Wrote w₂ t := by
      rw [wrote_iff, hat₂.own₁, ← wrote_iff]
      exact hclean'
    have hdrew₂ : Drew w₂ t n := by
      rw [drew_iff, hat₂.own₁, ← drew_iff]
      exact hdrew
    have hnone : w₂.store.qrTokens.rows.find?
        (fun q => q.tokenId = "QRT_" ++ rt.random w₁.store.draws) = none := by
      apply List.find?_eq_none.mpr
      intro q hq
      rw [hid]
      simpa using hat₂.inv.not_stored hs hn hdrew₂ hclean₂ q hq
    simp only [machine, hnone]
    rfl
  · have hholder' := hholder.of_own rfl hat₂.own
    exact Logic.holds_ret fun w₃ hsince _ => ⟨_, rfl, hholder'.since hsince⟩

/-- The active row is found. -/
theorem holds_findActive (hs : Start rt s₀ registrationId v)
    (hi : Converging rt s₀ registrationId w) (hactive : Active registrationId w.store) (e : Exn) :
    (discipline rt s₀ registrationId).logic.Holds t
      (fun x w' => ∃ q ∈ w'.store.qrTokens.rows, q.registrationId = registrationId ∧
        q.status = .ACTIVE ∧ x = .ok q) (QrService.findActive registrationId e) w := by
  have hfound : ∀ ch w₁ w', ReadAt rt s₀ registrationId t w
      (.qrTokenFirst { registrationId, status := some .ACTIVE }) ch w₁ w' →
      ∃ q ∈ w₁.store.qrTokens.rows, q.registrationId = registrationId ∧ q.status = .ACTIVE ∧
        (machine rt ch (.qrTokenFirst { registrationId, status := some .ACTIVE }) w₁.store).1 =
          .ok (some ⟨q, v.registration, v.attendeeType⟩) := by
    intro ch w₁ w' hat
    obtain ⟨q₀, hq₀, hr₀, ha₀⟩ := hactive.advances hat.before
    cases hfirst : ch.first (w₁.store.qrTokens.rows.filter
        (QrTokenWhere.holds { registrationId, status := some .ACTIVE })) with
    | none =>
        have hempty := Choice.first_eq_none.mp hfirst
        have hmem : q₀ ∈ w₁.store.qrTokens.rows.filter
            (QrTokenWhere.holds { registrationId, status := some .ACTIVE }) := by
          apply List.mem_filter.mpr
          exact ⟨hq₀, by simp [QrTokenWhere.holds, hr₀, ha₀]⟩
        rw [hempty] at hmem
        cases hmem
    | some q =>
        obtain ⟨hq, hholds⟩ := List.mem_filter.mp (Choice.first_mem hfirst)
        have hfields : q.registrationId = registrationId ∧ q.status = .ACTIVE := by
          simpa [QrTokenWhere.holds] using hholds
        refine ⟨q, hq, hfields.1, hfields.2, ?_⟩
        simp only [machine, hfirst]
        exact hat.inv.tokenView hs hfields.1
  refine holds_read_bind rfl hi fun ch w₁ w' hat _ => ?_
  obtain ⟨q, hq, hr, ha, hrun⟩ := hfound ch w₁ w' hat
  refine ⟨_, hrun, ?_⟩
  have hstays : q ∈ w'.store.qrTokens.rows := hat.after.active hq hr ha
  exact Logic.holds_ret fun w'' hsince _ => ⟨q, hsince.1.active hstays hr ha, hr, ha, rfl⟩

/-! ## The writes -/

/-- A call that may write, with the data of the thread, keeps the invariant. -/
theorem keeps_write (hown : ∀ w', (discipline rt s₀ registrationId).Since t w w' →
    OwnCall rt s₀ registrationId w' t c) : (discipline rt s₀ registrationId).Keeps t c w := by
  intro w' hsince hi hallowed x s' ho
  obtain ⟨ch, hrun⟩ | ⟨hfalse, -⟩ := ho
  · exact Converging.of_moves hi (moves_of_allowed hallowed hrun) (hown w' hsince)
  · exact hfalse.elim

/-- The data of a call of `generate`. -/
structure CallData (rt : Runtime) (s₀ : Store) (v : RegistrationView) (w : World Resp Exn Store)
    (t : Nat) (d : QrTokenData) : Prop where
  registration : d.registrationId = v.registration.id
  event : d.eventId = v.registration.eventId
  payload : d.payload.tokenId = d.tokenId
  holder : Holder rt s₀ w t d.tokenId

theorem CallData.since {d : QrTokenData} (h : CallData rt s₀ v w t d)
    (hsince : (discipline rt s₀ registrationId).Since t w w') : CallData rt s₀ v w' t d :=
  ⟨h.registration, h.event, h.payload, h.holder.since hsince⟩

theorem CallData.ownData {d : QrTokenData} (h : CallData rt s₀ v w t d) : OwnData rt s₀ w t d :=
  ⟨h.payload, h.holder.2⟩

/-- The token id of the thread clashes with no row. -/
theorem CallData.unused {d : QrTokenData} (h : CallData rt s₀ v w t d)
    (hi : Converging rt s₀ registrationId w) (hs : Start rt s₀ registrationId v) :
    ∀ q ∈ w.store.qrTokens.rows, q.tokenId ≠ d.tokenId := by
  obtain ⟨hclean, n, hn, hid, hdrew⟩ := h.holder
  rw [hid]
  exact hi.not_stored hs hn hdrew hclean

/-- The row is created, or another call has created it. -/
theorem create_result {d : QrTokenData} (hs : Start rt s₀ registrationId v)
    (hi : Converging rt s₀ registrationId w) (hd : CallData rt s₀ v w t d)
    (hnone : ∀ q ∈ s₀.qrTokens.rows, q.registrationId ≠ registrationId) {x : Except Exn QrToken}
    (hcreate : w.store.createQrToken d = (x, s')) :
    (∃ q ∈ s'.qrTokens.rows, q.registrationId = registrationId ∧ q.status = .ACTIVE ∧ x = .ok q) ∨
      x = .error (.prisma .uniqueConstraint) ∧ Active registrationId s' := by
  have hrefers : (Store.refers w.store.registrations d.registrationId &&
      Store.refers w.store.events d.eventId) = true := by
    rw [hi.registrations, hi.events, hd.registration, hd.event, hs.id_eq]
    simp [Store.refers, hs.registration, hs.event]
  unfold Store.createQrToken at hcreate
  rw [if_pos hrefers] at hcreate
  cases hrow : w.store.qrTokens.create (Store.qrTokenRow w.store.clock d) with
  | some row =>
      obtain ⟨q, table⟩ := row
      rw [hrow] at hcreate
      cases hcreate
      have hq := (Table.create_eq_some hrow).1
      refine .inl ⟨q, (Table.mem_create hrow).mpr (.inr rfl), ?_, ?_, rfl⟩
      · rw [hq]
        exact hd.registration.trans hs.id_eq
      · rw [hq]
        rfl
  | none =>
      rw [hrow] at hcreate
      cases hcreate
      refine .inr ⟨rfl, ?_⟩
      by_contra hinactive
      -- A row of the registration would be active, so there is nothing to clash with.
      have hfree : ∀ b ∈ w.store.qrTokens.rows, b.registrationId ≠ registrationId := by
        intro b hb hr
        rcases hi.rows b hb with hold | hfresh
        · exact hnone b hold hr
        · exact hinactive ⟨b, hb, hr, hfresh.active⟩
      have hclash : ∀ b ∈ w.store.qrTokens.rows,
          clash (withKey (fresh w.store.qrTokens.serial) (Store.qrTokenRow w.store.clock d)) b = false ∧
          clash b (withKey (fresh w.store.qrTokens.serial) (Store.qrTokenRow w.store.clock d)) = false := by
        intro b hb
        have hreg : b.registrationId ≠ d.registrationId := by
          rw [hd.registration, hs.id_eq]
          exact hfree b hb
        have htoken : b.tokenId ≠ d.tokenId := hd.unused hi hs b hb
        constructor
        · simp [clash, withKey, Store.qrTokenRow, hreg.symm, htoken.symm]
        · simp [clash, withKey, Store.qrTokenRow, hreg, htoken]
      obtain ⟨table, hsome⟩ := Table.exists_create hclash
      rw [hsome] at hrow
      cases hrow

/-- The row is refreshed, or another call has refreshed it. -/
theorem refresh_result {old : QrToken} {d : QrTokenData}
    (hs : Start rt s₀ registrationId v) (hi : Converging rt s₀ registrationId w)
    (hd : CallData rt s₀ v w t d) (hold : old ∈ s₀.qrTokens.rows)
    (hr : old.registrationId = registrationId) (hinactive : old.status ≠ .ACTIVE)
    {x : Except Exn Nat} (hrefresh : w.store.refreshQrToken old d = (x, s')) :
    ∃ count, x = .ok count ∧ Active registrationId s' := by
  unfold Store.refreshQrToken at hrefresh
  rcases hi.advances old hold hr with hstays | ⟨-, hactive⟩
  · have hfind : w.store.qrTokens.find? old.id = some old :=
      Table.find?_eq_some_iff.mpr ⟨hstays, rfl⟩
    have hfree : ∀ b ∈ w.store.qrTokens.rows, key b ≠ key old →
        clash (withKey (key old) (Store.applyQrToken w.store.clock d old)) b = false ∧
          clash b (withKey (key old) (Store.applyQrToken w.store.clock d old)) = false := by
      intro b hb hne
      have hreg : b.registrationId ≠ old.registrationId := by
        intro heq
        exact hne (congrArg key (QrService.token_unique hb hstays heq))
      have htoken : b.tokenId ≠ d.tokenId := hd.unused hi hs b hb
      constructor
      · simp [clash, withKey, Store.applyQrToken, hreg.symm, htoken.symm]
      · simp [clash, withKey, Store.applyQrToken, hreg, htoken]
    obtain ⟨table, hupdate⟩ := Table.exists_update_of_free hstays hfree
    have hupdate' : w.store.qrTokens.update old.id (Store.applyQrToken w.store.clock d) =
        .done (withKey (key old) (Store.applyQrToken w.store.clock d old)) table := hupdate
    rw [hfind] at hrefresh
    simp only [and_self, if_true, hupdate'] at hrefresh
    cases hrefresh
    refine ⟨1, rfl, _, (Table.mem_update hupdate).mpr (.inr rfl), ?_, ?_⟩
    · exact hr
    · rfl
  · cases hfind : w.store.qrTokens.find? old.id with
    | none =>
        rw [hfind] at hrefresh
        cases hrefresh
        exact ⟨0, rfl, hactive⟩
    | some q =>
        -- A row under the key that is not active would be the old one, beside the active row.
        have hdiff : ¬ (q.tokenId = old.tokenId ∧ q.status = old.status) := by
          rintro ⟨-, hstatus⟩
          obtain ⟨hq, hkey⟩ := Table.find?_eq_some_iff.mp hfind
          rcases hi.rows q hq with hq₀ | hfresh
          · have hsame : q = old := s₀.qrTokens.eq_of_key hq₀ hold hkey
            obtain ⟨a, ha, hra, hactive'⟩ := hactive
            have haq : a = old := QrService.token_unique ha (hsame ▸ hq) (hra.trans hr.symm)
            exact hinactive (haq ▸ hactive')
          · exact hinactive (hstatus.symm.trans hfresh.active)
        rw [hfind] at hrefresh
        simp only [if_neg hdiff] at hrefresh
        cases hrefresh
        exact ⟨0, rfl, hactive⟩

/-- What `createOrRefreshQrToken` returns is the active row. -/
theorem holds_createOrRefresh {d : QrTokenData} {existing : Option QrToken}
    (hs : Start rt s₀ registrationId v) (hi : Converging rt s₀ registrationId w)
    (hd : CallData rt s₀ v w t d)
    (hnone : existing = none → ∀ q ∈ s₀.qrTokens.rows, q.registrationId ≠ registrationId)
    (hsome : ∀ old, existing = some old → old ∈ s₀.qrTokens.rows ∧
      old.registrationId = registrationId ∧ old.status ≠ .ACTIVE) :
    (discipline rt s₀ registrationId).logic.Holds t
      (fun x w' => ∃ q ∈ w'.store.qrTokens.rows, q.registrationId = registrationId ∧
        q.status = .ACTIVE ∧ x = .ok q) (QrService.createOrRefreshQrToken d existing) w := by
  have hid : d.registrationId = registrationId := hd.registration.trans hs.id_eq
  cases existing with
  | none =>
      have hkeeps : (discipline rt s₀ registrationId).Keeps t (.qrTokenCreate d) w :=
        keeps_write fun w' hsince => ⟨hid, (hd.since hsince).ownData⟩
      have hresult : ∀ {x : Except Exn QrToken} {w' : World Resp Exn Store},
          (discipline rt s₀ registrationId).Performed t w (.qrTokenCreate d) x w' →
          (∃ q ∈ w'.store.qrTokens.rows, q.registrationId = registrationId ∧ q.status = .ACTIVE ∧
            x = .ok q) ∨ x = .error (.prisma .uniqueConstraint) ∧ Active registrationId w'.store := by
        rintro x w' ⟨w₁, s₁, hbefore, hi₁, -, ho, hafter⟩
        obtain ⟨ch, hrun⟩ | ⟨hfalse, -⟩ := ho
        · rcases create_result hs hi₁ (hd.since hbefore) (hnone rfl) hrun with
            ⟨q, hq, hr, ha, hx⟩ | ⟨hx, hactive⟩
          · exact .inl ⟨q, hafter.1.active hq hr ha, hr, ha, hx⟩
          · exact .inr ⟨hx, hactive.advances hafter.1⟩
        · exact hfalse.elim
      refine Discipline.holds_tryCatch hi (Discipline.holds_performed hkeeps) ?_ ?_
      · intro q w' _ _ hp
        rcases hresult hp with hrow | ⟨herror, -⟩
        · exact hrow
        · cases herror
      · intro e w' hi' _ hp
        rcases hresult hp with ⟨q, -, -, -, hok⟩ | ⟨herror, hactive⟩
        · cases hok
        · cases herror
          rw [if_pos rfl, hid]
          exact holds_findActive hs hi' hactive _
  | some old =>
      obtain ⟨hold, hr, hinactive⟩ := hsome old rfl
      have hkeeps : (discipline rt s₀ registrationId).Keeps t (.qrTokenRefresh old d) w :=
        keeps_write fun w' hsince => ⟨hold, hr, (hd.since hsince).ownData⟩
      have hresult : ∀ {x : Except Exn Nat} {w' : World Resp Exn Store},
          (discipline rt s₀ registrationId).Performed t w (.qrTokenRefresh old d) x w' →
          ∃ count, x = .ok count ∧ Active registrationId w'.store := by
        rintro x w' ⟨w₁, s₁, hbefore, hi₁, -, ho, hafter⟩
        obtain ⟨ch, hrun⟩ | ⟨hfalse, -⟩ := ho
        · obtain ⟨count, hx, hactive⟩ :=
            refresh_result hs hi₁ (hd.since hbefore) hold hr hinactive hrun
          exact ⟨count, hx, hactive.advances hafter.1⟩
        · exact hfalse.elim
      refine Discipline.holds_bind hi (Discipline.holds_performed hkeeps) ?_ ?_
      · intro count w' hi' _ hp
        obtain ⟨-, -, hactive⟩ := hresult hp
        split
        · rw [hid]
          refine holds_read_bind rfl hi' fun ch w₁ w'' hat _ => ?_
          obtain ⟨q, hq, hrq, ha⟩ := hactive.advances hat.before
          have hfound : w₁.store.qrTokenOf registrationId = some q := by
            cases hof : w₁.store.qrTokenOf registrationId with
            | none =>
                have hno := List.find?_eq_none.mp hof q hq
                simp [hrq] at hno
            | some q' =>
                have hq' : q'.registrationId = registrationId := by
                  simpa using List.find?_some hof
                rw [QrService.token_unique (List.mem_of_find?_eq_some hof) hq
                  (hq'.trans hrq.symm)]
          refine ⟨some q, ?_, ?_⟩
          · simp only [machine, query, hfound]
          · have hstays : q ∈ w''.store.qrTokens.rows := hat.after.active hq hrq ha
            exact Logic.holds_ret fun w₃ hsince _ =>
              ⟨q, hsince.1.active hstays hrq ha, hrq, ha, rfl⟩
        · rw [hid]
          exact holds_findActive hs hi' hactive _
      · intro e w' _ _ hp
        obtain ⟨count, hok, -⟩ := hresult hp
        cases hok

/-! ## The result -/

/-- What a call of `generate` returns is the active row. -/
def Agreed (rt : Runtime) (registrationId : Id) (x : Except Exn FormattedQr)
    (w : World Resp Exn Store) : Prop :=
  ∃ q ∈ w.store.qrTokens.rows, q.registrationId = registrationId ∧ q.status = .ACTIVE ∧
    x = QrService.formatQrToken rt q

theorem holds_format (hq : q ∈ w.store.qrTokens.rows) (hr : q.registrationId = registrationId)
    (ha : q.status = .ACTIVE) : (discipline rt s₀ registrationId).logic.Holds t
      (Agreed rt registrationId) (Prog.ofExcept (QrService.formatQrToken rt q)) w :=
  Logic.holds_ofExcept fun w' hsince _ => ⟨q, hsince.1.active hq hr ha, hr, ha, rfl⟩

theorem holds_issue {existing : Option QrToken} (hs : Start rt s₀ registrationId v)
    (hi : Converging rt s₀ registrationId w) (hclean : ¬ Wrote w t)
    (hnone : existing = none → ∀ q ∈ s₀.qrTokens.rows, q.registrationId ≠ registrationId)
    (hsome : ∀ old, existing = some old → old ∈ s₀.qrTokens.rows ∧
      old.registrationId = registrationId ∧ old.status ≠ .ACTIVE) :
    (discipline rt s₀ registrationId).logic.Holds t (Agreed rt registrationId)
      (QrService.issue rt v existing) w := by
  refine Discipline.holds_bind hi (holds_generateTokenId hs hi hclean) ?_ ?_
  · rintro tokenId w₁ hi₁ - ⟨_, hok, hholder⟩
    cases hok
    refine holds_read_bind rfl hi₁ fun ch₂ w₂ w₂' hat₂ hi₂ => ⟨_, rfl, ?_⟩
    have hholder₂ := hholder.of_own rfl hat₂.own
    refine holds_read_bind rfl hi₂ fun ch₃ w₃ w₃' hat₃ hi₃ => ⟨_, rfl, ?_⟩
    have hholder₃ := hholder₂.of_own rfl hat₃.own
    refine Discipline.holds_bind hi₃
      (holds_createOrRefresh hs hi₃ ⟨rfl, rfl, rfl, hholder₃⟩ hnone hsome) ?_ ?_
    · rintro stored w₄ - - ⟨q, hq, hr, ha, hok⟩
      cases hok
      exact holds_format hq hr ha
    · rintro e w₄ - - ⟨q, -, -, -, hok⟩
      cases hok
  · rintro e w₁ - - ⟨_, hok, -⟩
    cases hok

/-- A row that was read was there at the start, or is active. -/
theorem Converging.read (h : Converging rt s₀ registrationId w) :
    (w.store.qrTokenOf registrationId = none →
      ∀ q ∈ s₀.qrTokens.rows, q.registrationId ≠ registrationId) ∧
    ∀ q, w.store.qrTokenOf registrationId = some q → q ∈ w.store.qrTokens.rows ∧
      q.registrationId = registrationId ∧ (q.status ≠ .ACTIVE → q ∈ s₀.qrTokens.rows) := by
  constructor
  · intro hnone q hq hr
    have hno : ∀ q ∈ w.store.qrTokens.rows, q.registrationId ≠ registrationId := by
      simpa using List.find?_eq_none.mp hnone
    rcases h.advances q hq hr with hstays | ⟨-, q', hq', hr', -⟩
    · exact hno q hstays hr
    · exact hno q' hq' hr'
  · intro q hsome
    have hq := List.mem_of_find?_eq_some hsome
    have hr : q.registrationId = registrationId := by simpa using List.find?_some hsome
    refine ⟨hq, hr, fun hinactive => ?_⟩
    rcases h.rows q hq with hold | hfresh
    · exact hold
    · exact absurd hfresh.active hinactive

theorem holds_generate (hs : Start rt s₀ registrationId v)
    (hi : Converging rt s₀ registrationId w) (hclean : ¬ Wrote w t) :
    (discipline rt s₀ registrationId).logic.Holds t (Agreed rt registrationId)
      (QrService.generate rt registrationId) w := by
  refine Discipline.holds_bind hi (holds_findRegistration hs hi hclean) ?_ ?_
  · rintro found w₁ hi₁ - ⟨hok, hclean₁⟩
    cases hok
    rw [if_neg hs.modifiable]
    refine holds_read_bind rfl hi₁ fun ch w₂ w' hat hi' => ⟨_, rfl, ?_⟩
    have hclean' := not_wrote_of_own hclean₁ rfl hat.own
    obtain ⟨hnone, hsome⟩ := hat.inv.read
    cases hof : w₂.store.qrTokenOf registrationId with
    | none =>
        apply holds_issue hs hi' hclean'
        · exact fun _ => hnone hof
        · intro old hold
          cases hold
    | some q =>
        obtain ⟨hq, hr, hstart⟩ := hsome q hof
        dsimp only
        split
        · next ha => exact holds_format (hat.after.active hq hr ha) hr ha
        · next hinactive =>
            apply holds_issue hs hi' hclean'
            · intro hfalse
              cases hfalse
            · intro old hold
              cases hold
              exact ⟨hstart hinactive, hr, hinactive⟩
  · rintro e w₁ - - ⟨hok, -⟩
    cases hok

/-- An active row of the registration is as it was generated, and can be formatted. -/
theorem Converging.generated (h : Converging rt s₀ registrationId w)
    (hs : Start rt s₀ registrationId v) (hq : q ∈ w.store.qrTokens.rows)
    (hr : q.registrationId = registrationId) (ha : q.status = .ACTIVE) :
    q.payload.tokenId = q.tokenId ∧ ∃ f, QrService.formatQrToken rt q = .ok f := by
  have hfields : q.payload.tokenId = q.tokenId ∧ trim q.tokenId ≠ "" := by
    rcases h.rows q hq with hold | hfresh
    · exact hs.generated q hold hr ha
    · obtain ⟨-, n, -, hid, -⟩ := hfresh.drawn
      refine ⟨hfresh.payload, ?_⟩
      rw [hid]
      have hQ : 'Q' ∈ ("QRT_" ++ rt.random n).toList := by simp [String.toList_append]
      exact trim_ne_empty hQ (by decide)
  refine ⟨hfields.1, ?_⟩
  unfold QrService.formatQrToken createCompactQrToken
  simp only [hfields.2, if_false]
  exact ⟨_, rfl⟩

theorem converging_init :
    Converging rt s₀ registrationId ⟨s₀, []⟩ := by
  constructor
  case registrations => rfl
  case events => rfl
  case attendeeTypes => rfl
  case draws => exact Nat.le_refl _
  case drawn =>
    rintro t n ⟨e, he, -⟩
    cases he
  case drawn_once =>
    rintro t u n ⟨e, he, -⟩
    cases he
  case rows => exact fun q hq => .inl hq
  case advances => exact Advances.refl s₀

/-- Every call is on its way to the active row. -/
theorem tracks_of_reach (hs : Start rt s₀ registrationId v)
    {cfg : Config Resp Exn (World Resp Exn Store)}
    (hr : (generateService rt registrationId).system.Reach (Service.init s₀) cfg) :
    Discipline.Tracks (discipline rt s₀ registrationId) (QrService.generate rt registrationId)
      (Agreed rt registrationId) cfg := by
  have hall : ((generateService rt registrationId).system.restrict fun _ _ _ => True).Reach
      (Service.init s₀) cfg := by
    rw [System.restrict_true]
    exact hr
  have hallowed := (System.Reach.permit_all (P := Allowed) (fun _ p _ hstart => by
    rw [hstart.2.1]
    exact Prog.all_void (allowed_generate rt registrationId)) (fun p hp => by cases hp) hall).1
  have hdiscipline : ((generateService rt registrationId).system.restrict
      fun _ c _ => Allowed c).Reach (Service.init s₀) cfg := by
    refine System.Reach.mono ?_ ?_ ?_ hallowed
    · rintro t c w x w' ⟨⟨-, hc⟩, ha⟩
      exact ⟨hc, ha⟩
    · exact fun he => he
    · exact fun hp => hp
  refine Discipline.tracks_of_reach ?_ converging_init hdiscipline
  rintro t w p s' hfresh hi ⟨rfl, rfl⟩
  refine ⟨rfl, holds_generate hs hi ?_⟩
  rintro ⟨e, he, hthread, -⟩
  exact hfresh e he hthread

/-- Concurrent calls of `generate` return, and all return the one active row of the
registration. A row that was active stays as it was. -/
theorem generate_converges (rt : Runtime) (s₀ : Store) (registrationId : Id) (v : RegistrationView)
    (hs : Start rt s₀ registrationId v) (cfg : Config Resp Exn (World Resp Exn Store))
    (hr : (generateService rt registrationId).system.Reach (Service.init s₀) cfg) :
    (∀ t p, cfg.pool[t]? = some p → System.finished p = true →
      ∃ q ∈ cfg.world.store.qrTokens.rows, ∃ f, q.registrationId = registrationId ∧
        q.status = .ACTIVE ∧ q.payload.tokenId = q.tokenId ∧
        (∀ q' ∈ cfg.world.store.qrTokens.rows, q'.registrationId = registrationId → q' = q) ∧
        QrService.formatQrToken rt q = .ok f ∧
        Ended (QrService.generate rt registrationId) t (.ok f) cfg.world) ∧
    (∀ t u f g, t < cfg.pool.length → u < cfg.pool.length →
      Ended (QrService.generate rt registrationId) t (.ok f) cfg.world →
      Ended (QrService.generate rt registrationId) u (.ok g) cfg.world → f = g) ∧
    ∀ q ∈ s₀.qrTokens.rows, q.registrationId = registrationId → q.status = .ACTIVE →
      q ∈ cfg.world.store.qrTokens.rows := by
  have htracks := tracks_of_reach hs hr
  have hi : Converging rt s₀ registrationId cfg.world := htracks.1
  refine ⟨?_, ?_, ?_⟩
  · intro t p ht hdone
    obtain ⟨x, hx⟩ := htracks.ended ht hdone
    obtain ⟨q, hq, hrq, ha, hformat⟩ :=
      htracks.result (List.getElem?_eq_some_iff.mp ht).1 hx
    obtain ⟨hpayload, f, hf⟩ := hi.generated hs hq hrq ha
    refine ⟨q, hq, f, hrq, ha, hpayload, fun q' hq' hr' => ?_, hf, ?_⟩
    · exact QrService.token_unique hq' hq (hr'.trans hrq.symm)
    · rw [← hf, ← hformat]
      exact hx
  · intro t u f g ht hu hf hg
    obtain ⟨q, hq, hrq, -, hformat⟩ := htracks.result ht hf
    obtain ⟨q', hq', hrq', -, hformat'⟩ := htracks.result hu hg
    have hsame : q = q' := QrService.token_unique hq hq' (hrq.trans hrq'.symm)
    subst hsame
    exact Except.ok.inj (hformat.trans hformat'.symm)
  · exact fun q hq hrq ha => hi.advances.active hq hrq ha

/-! ## A race -/

section Race

/-- The registration has no token yet. -/
def racedStore : Store := { sampleStore with qrTokens := .empty }

/-- A call of `generate` for the registration starts. -/
def racer : (generateService sampleRuntime "c0").Action :=
  .start (QrService.generate sampleRuntime "c0").void (fun _ => true) id

def turns (t n : Nat) : List (generateService sampleRuntime "c0").Action :=
  List.replicate n (.step t ({} : Choice))

def racedView : RegistrationView where
  registration :=
    { id := "c0", publicId := "REG-1", eventId := "c0", attendeeTypeId := "c0", fullName := "Visitor" }
  event := { id := "c0", status := .ACTIVE, startsAt := 0, endsAt := 10, allowReEntry := false }
  attendeeType := { id := "c0", eventId := "c0", code := "VISITOR" }

theorem start_raced : Start sampleRuntime racedStore "c0" racedView where
  registration := rfl
  event := rfl
  attendeeType := rfl
  modifiable := by decide
  generated q hq := by cases hq
  unused n _ q hq := by cases hq
  distinct m n _ _ h := by
    have hlist : Nat.toDigits 10 m = Nat.toDigits 10 n := by
      rw [← Nat.toList_repr, ← Nat.toList_repr]
      exact congrArg String.toList h
    rw [← Nat.ofDigitChars_ten_toDigits (n := m), hlist, Nat.ofDigitChars_ten_toDigits]

/-- Both calls find no row and create one; the second one returns that of the first. -/
theorem racing_calls_agree : ∃ cfg f,
    (generateService sampleRuntime "c0").system.Reach (Service.init racedStore) cfg ∧
      Ended (QrService.generate sampleRuntime "c0") 0 (.ok f) cfg.world ∧
      Ended (QrService.generate sampleRuntime "c0") 1 (.ok f) cfg.world := by
  have hracer : racer.Legal := fun s _ => ⟨rfl, rfl⟩
  have hturns : ∀ t n, Service.Legal (turns t n) := by
    intro t n a ha
    rw [List.eq_of_mem_replicate ha]
    trivial
  obtain ⟨cfg, hr, hends⟩ := Service.exists_config_of_perform
    (v := generateService sampleRuntime "c0") (fun _ _ _ => True)
    ([racer, racer] ++ turns 0 6 ++ turns 1 6 ++ turns 0 1 ++ turns 1 2) (Service.init racedStore)
    (fun cfg => cfg.pool.length = 2 && cfg.pool.all System.finished)
    (by simp [hracer, hturns]) (by decide +kernel)
  rw [System.restrict_true] at hr
  obtain ⟨hlength, hdone⟩ := Bool.and_eq_true_iff.mp hends
  have htwo : cfg.pool.length = 2 := of_decide_eq_true hlength
  have hfinished : ∀ t (ht : t < cfg.pool.length), System.finished cfg.pool[t] = true :=
    fun t ht => List.all_eq_true.mp hdone _ (List.getElem_mem ht)
  obtain ⟨hreturns, hagree, -⟩ :=
    generate_converges sampleRuntime racedStore "c0" racedView start_raced cfg hr
  have hfirst : 0 < cfg.pool.length := by omega
  have hsecond : 1 < cfg.pool.length := by omega
  obtain ⟨-, -, f, -, -, -, -, -, hf⟩ :=
    hreturns 0 _ (List.getElem?_eq_getElem hfirst) (hfinished 0 hfirst)
  obtain ⟨-, -, g, -, -, -, -, -, hg⟩ :=
    hreturns 1 _ (List.getElem?_eq_getElem hsecond) (hfinished 1 hsecond)
  have hfg : f = g := hagree 0 1 f g hfirst hsecond hf hg
  exact ⟨cfg, f, hr, hf, hfg ▸ hg⟩

end Race

end Convergence

end CreativeBackend
