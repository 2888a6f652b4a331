import CreativeBackend.Scans.Decisions

/-!
# The rules of admission

A movement that admits a registration was decided by one operation on what it had
read. The online paths read an active token of an active registration inside its
window, a checkpoint that takes the attendee type, and, for an offline credential,
a mapping that is neither conflicted nor revoked. The settlement of a parked scan
only asks for an active token: the other rules hold of it as far as they happen to
hold of the rows that it finds.

## Implementation notes

Rows may change while an operation runs, so each rule is stated of a store that
the operation itself has read from before its transaction.
-/

namespace CreativeBackend

open Relational Interaction Prog Discipline Store

/-- The movement by which a call has admitted a registration. -/
def admission : (c : Call) → Except Exn (Resp c) → Option MovementLog
  | .createProcessed _ _ _, .ok (_, m) => if m.result = .ALLOWED then some m else none
  | .updateProcessed _ _, .ok (_, m) => if m.result = .ALLOWED then some m else none
  | _, _ => none

/-- A time in the validity window of a token. -/
def InWindow (token : QrToken) (time : Time) : Prop :=
  token.validFrom ≤ time ∧ time ≤ token.validUntil

instance (token : QrToken) (time : Time) : Decidable (InWindow token time) :=
  inferInstanceAs (Decidable (_ ∧ _))

/-- A movement that follows the rules of admission, by the stores that its operation has
read from and the offline credential that was presented to it, if any. -/
structure Admissible (rt : Runtime) (moments : List Store) (credential : Option String)
    (m : MovementLog) : Prop where
  token : ∃ s ∈ moments, ∃ q ∈ s.qrTokens.rows, ∃ r ∈ s.registrations.rows,
    ∃ a ∈ s.attendeeTypes.rows,
      m.qrTokenId = some q.id ∧ m.registrationId = r.id ∧ q.registrationId = r.id ∧
        r.attendeeTypeId = a.id ∧ q.status = .ACTIVE ∧ r.status = .ACTIVE ∧
          ((∃ s' ∈ moments, InWindow q s'.clock) ∨ InWindow q m.occurredAt) ∧
            ∀ id, truthy m.checkpointId = some id → ∃ s' ∈ moments, ∃ c ∈ s'.checkpoints.rows,
              c.id = id ∧ ScansService.getCheckpointAccessDenial rt (some c) a.code = none
  mapping : ∀ offlineQrToken, credential = some offlineQrToken → ∃ s ∈ moments,
    ∀ mapping ∈ s.mappings.rows, mapping.offlineQrToken = offlineQrToken →
      mapping.status ≠ .CONFLICTED ∧ mapping.status ≠ .REVOKED

/-- The movement was committed by a logged call, and admissibly. -/
def AdmittedIn (rt : Runtime) (log : List Entry) (m : MovementLog) : Prop :=
  ∃ later e past, log = later ++ e :: past ∧ admission e.call e.answer = some m ∧
    Admissible rt ((ownLog e.thread past).map (·.before)) (lookedUp (ownLog e.thread past)) m

/-- The filter of a token lookup. -/
def Call.findsToken : Call → Option QrTokenWhere
  | .qrTokenFirst q => some q
  | _ => none

/-- The parked scan that a thread is resolving, with the raw scan of its operation. -/
def parkedScan : List Entry → Option (OfflineScanOperation × Option RawScanView)
  | ⟨_, .mappingCanonical _, _, _⟩ :: ⟨_, .rawScanByOperation _, .ok existing, _⟩ ::
      ⟨_, .offlineScanById _, .ok (some x), _⟩ :: _ => some (x, existing)
  | _ => none

/-- The device time of a parked scan: that of its raw scan, where there is one. -/
def scannedAtDevice (scan : OfflineScanOperation × Option RawScanView) : Time :=
  (scan.2.map (·.scan.scannedAtDevice)).getD scan.1.scannedAtDevice

/-- The settlement of a parked scan finds what the rules ask for: the mapping of its
credential is neither conflicted nor revoked when it looks for a mapping; and when it
looks for the token, the registration is active, the token's window contains the
server time or the device time, and the raw scan of its operation, if there is one,
was made at the same checkpoint. -/
def ResolvesWithinRules (t : Nat) (c : Call) (w : World Resp Exn Store) : Prop :=
  (∀ q ∈ c.resolves, ∀ m ∈ w.store.mappings.rows, m.offlineQrToken = q.offlineQrToken →
    m.status ≠ .CONFLICTED ∧ m.status ≠ .REVOKED) ∧
  ∀ q ∈ c.findsToken, ∀ scan ∈ parkedScan (w.own t),
    (∀ view ∈ scan.2, view.scan.checkpointId = some scan.1.checkpointId) ∧
    ∀ token ∈ w.store.qrTokens.rows, q.holds token = true →
      ∀ r ∈ w.store.registrations.rows, r.id = token.registrationId →
        r.status = .ACTIVE ∧
          (InWindow token w.store.clock ∨ InWindow token (scannedAtDevice scan))

instance (t : Nat) (c : Call) (w : World Resp Exn Store) :
    Decidable (ResolvesWithinRules t c w) :=
  inferInstanceAs (Decidable ((∀ q ∈ c.resolves, ∀ m ∈ w.store.mappings.rows,
      m.offlineQrToken = q.offlineQrToken → m.status ≠ .CONFLICTED ∧ m.status ≠ .REVOKED) ∧
    ∀ q ∈ c.findsToken, ∀ scan ∈ parkedScan (w.own t),
      (∀ view ∈ scan.2, view.scan.checkpointId = some scan.1.checkpointId) ∧
      ∀ token ∈ w.store.qrTokens.rows, q.holds token = true →
        ∀ r ∈ w.store.registrations.rows, r.id = token.registrationId →
          r.status = .ACTIVE ∧
            (InWindow token w.store.clock ∨ InWindow token (scannedAtDevice scan))))

namespace Admission

variable {rt : Runtime} {s s' : Store}

/-! ## What a decision has read, as moments of its operation -/

variable {σ : Surroundings} {permits : Nat → Call → World Resp Exn Store → Prop}
variable {D : Discipline (scanService rt σ) permits} {t : Nat} {u v w : World Resp Exn Store}

theorem checkpoint_of_decided {eventId : Id} {checkpointId : Option Id} {type : MovementType}
    {stored : QrTokenView} {reason : String}
    (hd : Decided D t u eventId checkpointId type stored reason w) (hreason : reason = "ALLOWED")
    {id : Id} (hid : truthy checkpointId = some id) :
    ∃ s ∈ moments t w, ∃ c ∈ s.checkpoints.rows,
      c.id = id ∧ ScansService.getCheckpointAccessDenial rt (some c) stored.attendeeType.code =
        none := by
  obtain ⟨c, hread, hdenial⟩ := hd.checkpoint hreason id hid
  obtain ⟨s, hs, ch, hm⟩ := moment_of_answered rfl hread
  have hfind : s.checkpoints.find? id = some c := by simpa [machine, query] using hm
  obtain ⟨hmem, hkey⟩ := Table.find?_eq_some_iff.mp hfind
  exact ⟨s, hs, c, hmem, hkey, hdenial⟩

theorem stored_of_accepted {stored : QrTokenView} (h : TokenAccepted D t u stored w) :
    ∃ s ∈ moments t w, Stored s stored := by
  rcases h.token with ⟨tokenId, hread⟩ | ⟨q, hread⟩
  · obtain ⟨s, hs, ch, hm⟩ := moment_of_answered rfl hread
    exact ⟨s, hs, stored_of_qrTokenByTokenId hm⟩
  · obtain ⟨s, hs, ch, hm⟩ := moment_of_answered rfl hread
    exact ⟨s, hs, (stored_of_qrTokenFirst hm).1⟩

theorem window_of_accepted {stored : QrTokenView} (h : TokenAccepted D t u stored w) :
    ∃ s ∈ moments t w, InWindow stored.token s.clock := by
  obtain ⟨now, hread, hfrom, huntil⟩ := h.window
  obtain ⟨s, hs, ch, hm⟩ := moment_of_answered rfl hread
  have hnow : s.clock = now := by simpa [machine, query] using hm
  subst hnow
  exact ⟨s, hs, hfrom, huntil⟩

/-- A mapping that was accepted is the only one of its credential. -/
theorem mapping_of_accepted {offlineQrToken : String}
    (h : MappingAccepted D t u offlineQrToken w) :
    ∃ s ∈ moments t w, ∀ mapping ∈ s.mappings.rows, mapping.offlineQrToken = offlineQrToken →
      mapping.status ≠ .CONFLICTED ∧ mapping.status ≠ .REVOKED := by
  obtain ⟨found, hread, -, hconflicted, hrevoked⟩ := h
  obtain ⟨s, hs, ch, hm⟩ := moment_of_answered rfl hread
  have hfind : s.mappings.rows.find? (fun m => m.offlineQrToken = offlineQrToken) = some found := by
    simpa [machine, query] using hm
  have htoken : found.offlineQrToken = offlineQrToken := by simpa using List.find?_some hfind
  refine ⟨s, hs, fun mapping hmem hkey => ?_⟩
  have hsame : mapping = found := by
    apply s.mappings.eq_of_clash hmem (List.mem_of_find?_eq_some hfind)
    simp [clash, hkey, htoken]
  rw [hsame]
  exact ⟨hconflicted, hrevoked⟩

/-- An online decision follows the rules. -/
theorem admissible_of_accepted {qrRaw : String} {eventId : Id} {type : MovementType}
    {stored : QrTokenView} {reason : String} {m : MovementLog}
    (ha : Accepted D t u qrRaw stored w)
    (hlook : lookedUp (w.own t) = offlineTokenOf rt qrRaw)
    (hd : Decided D t u eventId m.checkpointId type stored reason w) (hreason : reason = "ALLOWED")
    (hregistration : m.registrationId = stored.registration.id)
    (htoken : m.qrTokenId = some stored.token.id) :
    Admissible rt (moments t w) (lookedUp (w.own t)) m := by
  constructor
  · obtain ⟨s, hs, hstored⟩ := stored_of_accepted ha.toTokenAccepted
    have hwindow := window_of_accepted ha.toTokenAccepted
    exact ⟨s, hs, _, hstored.token, _, hstored.registration, _, hstored.attendeeType, htoken,
      hregistration, hstored.registrationId.symm, hstored.attendeeTypeId.symm, ha.tokenActive,
      ha.registrationActive, .inl hwindow, fun id hid => checkpoint_of_decided hd hreason hid⟩
  · intro offlineQrToken hcredential
    rw [hlook] at hcredential
    exact mapping_of_accepted (ha.mapping offlineQrToken hcredential)

/-! ## The programs -/

/-- The movements that admit are those that were admitted by the rules. -/
def discipline (rt : Runtime) : Discipline (scanService rt (anyScans rt)) ResolvesWithinRules where
  inv w := ∀ m ∈ w.store.movements.rows, m.result = .ALLOWED → AdmittedIn rt w.trace m
  rely _ _ := True
  rely_refl _ := trivial
  rely_trans _ _ := trivial
  call_rely _ _ _ := trivial
  env_inv hi h := fun m hm => hi m (h.movements ▸ hm)
  env_rely _ _ := trivial
  start_inv hi h := h.2 ▸ hi
  start_rely _ _ := trivial

/-- The token of a parked scan, found within the rules. -/
theorem token_of_resolved {x : OfflineScanOperation} {existing : Option RawScanView}
    {id : Id} {stored : QrTokenView}
    (hread : ReadScan (discipline rt) t u id x existing v)
    (hr : Resolved (discipline rt) t v x stored w) :
    ∃ s ∈ moments t w, Stored s stored ∧ stored.token.status = .ACTIVE ∧
      stored.registration.status = .ACTIVE ∧
        (InWindow stored.token s.clock ∨
          InWindow stored.token (scannedAtDevice (x, existing))) ∧
            ∀ view ∈ existing, view.scan.checkpointId = some x.checkpointId := by
  obtain ⟨mapping, registrationId, v₁, v₂, hmapping, -, hfound, hl⟩ := hr
  obtain ⟨s₁, s₂, hown⟩ := hread.own
  obtain ⟨w₁, ch₁, -, -, -, hown₁, -⟩ := permitted_read rfl hmapping
  obtain ⟨w₂, ch₂, hown₂, hp, hm, hlog, -⟩ := permitted_read rfl hfound
  have hparked : parkedScan (w₂.own t) = some (x, existing) := by
    rw [hown₂, hown₁, hown]
    rfl
  obtain ⟨hstored, hholds⟩ := stored_of_qrTokenFirst hm
  obtain ⟨hraw, htoken⟩ := hp.2 _ rfl _ hparked
  obtain ⟨hactive, hwindow⟩ := htoken _ hstored.token hholds _ hstored.registration
    hstored.registrationId
  refine ⟨w₂.store, moments_leads hl (by simp [moments, hlog]), hstored, ?_, hactive, hwindow, hraw⟩
  simp only [QrTokenWhere.holds, Option.all_some, Bool.and_eq_true, beq_iff_eq] at hholds
  exact hholds.2

/-- A parked scan that was resolved in a permitted run was resolved within the rules. -/
theorem admissible_of_resolved {x : OfflineScanOperation} {existing : Option RawScanView}
    {id : Id} {stored : QrTokenView} {reason : String} {m : MovementLog}
    (hread : ReadScan (discipline rt) t u id x existing v)
    (hr : Resolved (discipline rt) t v x stored w)
    (hlook : lookedUp (w.own t) = some x.offlineQrToken)
    (hd : Decided (discipline rt) t v x.eventId (some x.checkpointId) x.movementType stored reason w)
    (hreason : reason = "ALLOWED")
    (hregistration : m.registrationId = stored.registration.id)
    (htoken : m.qrTokenId = some stored.token.id)
    (hraw : ∀ view ∈ existing, m.checkpointId = view.scan.checkpointId)
    (hnew : existing = none → m.checkpointId = some x.checkpointId)
    (hdevice : m.occurredAt = scannedAtDevice (x, existing)) :
    Admissible rt (moments t w) (lookedUp (w.own t)) m := by
  obtain ⟨s, hs, hstored, hactive, hregActive, hwindow, hexisting⟩ := token_of_resolved hread hr
  have hcheckpoint : m.checkpointId = some x.checkpointId := by
    cases existing with
    | none => exact hnew rfl
    | some view => exact (hraw view rfl).trans (hexisting view rfl)
  constructor
  · refine ⟨s, hs, _, hstored.token, _, hstored.registration, _, hstored.attendeeType, htoken,
      hregistration, hstored.registrationId.symm, hstored.attendeeTypeId.symm, hactive,
      hregActive, ?_, ?_⟩
    · rw [hdevice]
      exact hwindow.imp_left fun h => ⟨s, hs, h⟩
    · intro id hid
      rw [hcheckpoint] at hid
      exact checkpoint_of_decided hd hreason hid
  · intro offlineQrToken hcredential
    rw [hlook] at hcredential
    cases hcredential
    obtain ⟨mapping, registrationId, v₁, v₂, hmapping, -, hfound, hl⟩ := hr
    obtain ⟨w₁, ch, -, hp, -, hlog, -⟩ := permitted_read rfl hmapping
    refine ⟨w₁.store, moments_leads (hfound.leads.trans hl) (by simp [moments, hlog]), ?_⟩
    exact fun m hm hkey => hp.1 _ rfl m hm hkey

/-! ## What each call admits -/

/-- A movement that admits is new only where the call has admitted it. -/
theorem mem_movements_of_effect {c : Call} {x : Except Exn (Resp c)} (h : Effect s c x s')
    {m : MovementLog} (hm : m ∈ s'.movements.rows) :
    m ∈ s.movements.rows ∨ (m.result = .ALLOWED → admission c x = some m) := by
  cases h with
  | settle _ hc | settleRaw _ hc =>
      rcases (Table.mem_create hc).mp hm with hm | rfl
      · exact .inl hm
      · exact .inr fun hallowed => by simp [admission, hallowed]
  | _ => exact .inl hm

theorem AdmittedIn.log {c : Call} {x : Except Exn (Resp c)} {m : MovementLog}
    (h : AdmittedIn rt w.trace m) : AdmittedIn rt (w.log t c x s).trace m := by
  obtain ⟨later, e, past, htrace, hrest⟩ := h
  exact ⟨⟨t, c, x, w.store⟩ :: later, e, past, by simp [World.log, htrace], hrest⟩

/-- A call keeps the invariant if it admits only by the rules. -/
theorem inv_log {c : Call} {x : Except Exn (Resp c)} (hi : (discipline rt).inv w)
    (heff : Effect w.store c x s')
    (hc : ∀ m, admission c x = some m →
      Admissible rt (moments t w) (lookedUp (w.own t)) m) :
    (discipline rt).inv (w.log t c x s') := by
  intro m hm hallowed
  rcases mem_movements_of_effect heff hm with hold | hnew
  · exact AdmittedIn.log (hi m hold hallowed)
  · exact ⟨[], _, w.trace, rfl, hnew hallowed, hc m (hnew hallowed)⟩

/-- The calls that admit nobody. -/
def AdmitsNobody (c : Call) : Prop := ∀ x, admission c x = none

theorem preserves : Preserves (discipline rt) AdmitsNobody := by
  intro c hc t w hi _ x s' heff
  refine inv_log hi heff fun m hm => ?_
  rw [hc x] at hm
  cases hm

theorem admitsNobody_of_formats {c : Call} (h : c.formats = true) : AdmitsNobody c := by
  intro x
  cases c <;> first | rfl | cases h

theorem admitsNobody_of_prepares {O : String → Id → MovementType → Prop} {c : Call}
    (h : c.Prepares O) : AdmitsNobody c := by
  cases h with
  | format h => exact admitsNobody_of_formats h
  | _ => exact fun _ => rfl

theorem admitsNobody_of_submits {O : String → Id → MovementType → Prop} {c : Call}
    (h : c.Submits O) : AdmitsNobody c := by
  cases h with
  | format h => exact admitsNobody_of_formats h
  | _ => exact fun _ => rfl

/-- The movement that `createProcessed` has admitted. -/
theorem created_of_admission {dto : CreateScanDto} {scannedAt : Option Time} {d : Decision}
    {x : Except Exn (Resp (.createProcessed dto scannedAt d))} {m : MovementLog}
    (heff : Effect s (.createProcessed dto scannedAt d) x s')
    (hm : admission (.createProcessed dto scannedAt d) x = some m) :
    d.result = .ALLOWED ∧ m.registrationId = d.registrationId ∧ m.qrTokenId = some d.qrTokenId ∧
      m.checkpointId = dto.checkpointId ∧ scannedAt = some m.occurredAt := by
  cases heff with
  | read hc => cases hc
  | failed => cases hm
  | settle hc hcreate =>
      have hraw := (Table.create_eq_some hc).1
      have hrow := (Table.create_eq_some hcreate).1
      simp only [admission, Option.ite_none_right_eq_some, Option.some.injEq] at hm
      obtain ⟨hallowed, rfl⟩ := hm
      rw [hrow, hraw] at hallowed ⊢
      exact ⟨hallowed, rfl, rfl, rfl, rfl⟩

/-- The movement that `updateProcessed` has admitted. -/
theorem updated_of_admission {scan : ScanEventRaw} {d : Decision}
    {x : Except Exn (Resp (.updateProcessed scan d))} {m : MovementLog}
    (heff : Effect s (.updateProcessed scan d) x s')
    (hm : admission (.updateProcessed scan d) x = some m) :
    d.result = .ALLOWED ∧ m.registrationId = d.registrationId ∧ m.qrTokenId = some d.qrTokenId ∧
      m.checkpointId = scan.checkpointId ∧ m.occurredAt = scan.scannedAtDevice := by
  cases heff with
  | read hc => cases hc
  | failed => cases hm
  | settleRaw hu hcreate =>
      have hrow := (Table.create_eq_some hcreate).1
      simp only [admission, Option.ite_none_right_eq_some, Option.some.injEq] at hm
      obtain ⟨hallowed, rfl⟩ := hm
      rw [hrow] at hallowed ⊢
      exact ⟨hallowed, rfl, rfl, rfl, rfl⟩

/-! ## What each operation keeps -/

theorem keeps_createProcessed {dto : CreateScanDto} {context : ValidQrContext} {reason : String}
    (ha : Accepted (discipline rt) t u dto.qrToken context.qr w)
    (hlook : lookedUp (w.own t) = offlineTokenOf rt dto.qrToken)
    (hd : Decided (discipline rt) t u dto.eventId dto.checkpointId dto.type context.qr reason w) :
    (discipline rt).Keeps t (.createProcessed dto (rt.parseDate dto.scannedAtDevice)
      (context.decide (ScansService.decisionResult reason) reason)) w := by
  intro w' hw' hi _ x s' h
  have heff := effect_of_outcome h
  refine inv_log hi heff fun m hm => ?_
  obtain ⟨hallowed, hregistration, htoken, hcheckpoint, -⟩ := created_of_admission heff hm
  rw [← hcheckpoint] at hd
  refine admissible_of_accepted (ha.stable (Since.leads hw')) ?_ (hd.stable (Since.leads hw'))
    (reason_of_allowed hallowed) hregistration htoken
  rw [hw'.own, hlook]

theorem keeps_updateProcessed {scan : ScanEventRaw} {context : ValidQrContext} {reason : String}
    (ha : Accepted (discipline rt) t u (scan.qrRaw.getD "") context.qr w)
    (hlook : lookedUp (w.own t) = offlineTokenOf rt (scan.qrRaw.getD ""))
    (hd : Decided (discipline rt) t u scan.eventId scan.checkpointId scan.type context.qr reason w) :
    (discipline rt).Keeps t (.updateProcessed scan
      (context.decide (ScansService.decisionResult reason) reason)) w := by
  intro w' hw' hi _ x s' h
  have heff := effect_of_outcome h
  refine inv_log hi heff fun m hm => ?_
  obtain ⟨hallowed, hregistration, htoken, hcheckpoint, -⟩ := updated_of_admission heff hm
  rw [← hcheckpoint] at hd
  refine admissible_of_accepted (ha.stable (Since.leads hw')) ?_ (hd.stable (Since.leads hw'))
    (reason_of_allowed hallowed) hregistration htoken
  rw [hw'.own, hlook]

/-- The transaction of a parked scan, whichever of the two it is. -/
theorem returns_writeSettlement {id : Id} {x : OfflineScanOperation}
    {existing : Option RawScanView} {context : ValidQrContext} {reason : String}
    (hread : ReadScan (discipline rt) t u id x existing v)
    (hr : Resolved (discipline rt) t v x context.qr w)
    (hlook : lookedUp (w.own t) = some x.offlineQrToken)
    (hd : Decided (discipline rt) t v x.eventId (some x.checkpointId) x.movementType context.qr
      reason w) :
    (discipline rt).Returns t (fun _ _ => True) (ScansService.writeSettlement rt x existing
      (context.decide (ScansService.decisionResult reason) reason)) w := by
  cases existing with
  | none =>
      refine returns_of_safe (returns_call ?_).safe
      intro w' hw' hi _ y s' h
      have heff := effect_of_outcome h
      refine inv_log hi heff fun m hm => ?_
      obtain ⟨hallowed, hregistration, htoken, hcheckpoint, hdevice⟩ :=
        created_of_admission heff hm
      refine admissible_of_resolved hread (hr.stable (Since.leads hw')) (by rw [hw'.own, hlook])
        (hd.stable (Since.leads hw')) (reason_of_allowed hallowed) hregistration htoken ?_ ?_ ?_
      · intro view hview
        cases hview
      · exact fun _ => hcheckpoint
      · exact (Option.some.inj hdevice).symm
  | some view =>
      refine returns_of_safe (returns_call ?_).safe
      intro w' hw' hi _ y s' h
      have heff := effect_of_outcome h
      refine inv_log hi heff fun m hm => ?_
      obtain ⟨hallowed, hregistration, htoken, hcheckpoint, hdevice⟩ :=
        updated_of_admission heff hm
      refine admissible_of_resolved hread (hr.stable (Since.leads hw')) (by rw [hw'.own, hlook])
        (hd.stable (Since.leads hw')) (reason_of_allowed hallowed) hregistration htoken ?_ ?_ ?_
      · intro view' hview'
        cases hview'
        exact hcheckpoint
      · intro h
        cases h
      · exact hdevice

theorem safe_processOfflineScanOperation {id : Id} (hi : (discipline rt).inv w) :
    (discipline rt).logic.Safe t (ScansService.processOfflineScanOperation rt id) w := by
  have hreads : Preserves (discipline rt) (·.reads = true) :=
    preserves.reads fun _ => admitsNobody_of_formats
  refine safe_processOfflineScan hreads hi (fun x existing w₁ hi₁ _ hscan => ?_)
    fun x view m w₁ _ _ _ => preserves.keeps fun _ => rfl
  exact safe_settleNew (F := fun _ _ _ => True) hreads hi₁
    (fun context reason w₂ _ _ hr hlook hd => returns_writeSettlement hscan hr hlook hd.decided)
    (fun _ _ _ _ _ => preserves.keeps fun _ => rfl) fun _ _ => preserves.keeps fun _ => rfl

/-- A program with an empty log of its own keeps the invariant. -/
theorem safe_run {p : Svc Unit} (hp : ScanRun rt p) (hi : (discipline rt).inv w)
    (hown : w.own t = []) : (discipline rt).logic.Safe t p w := by
  have hprep : Preserves (discipline rt) (Call.Prepares fun _ _ _ => True) :=
    fun c hc => preserves c (admitsNobody_of_prepares hc)
  have hsubmit : Preserves (discipline rt) (Call.Submits fun _ _ _ => True) :=
    fun c hc => preserves c (admitsNobody_of_submits hc)
  have hfresh : lookedUp (w.own t) = none := by
    rw [hown]
    rfl
  cases hp with
  | ingest dto =>
      refine safe_void hi (safe_ingest hprep hi fun w' hi' hlook' => ?_)
      refine safe_ingestNew hprep trivial hi' fun context reason w₁ ha hlook hd => ?_
      refine keeps_createProcessed ha ?_ hd.decided
      rw [hlook, hlook', hfresh, Option.or_none]
  | ingestFast dto =>
      exact hprep.safe (all_void (ScansService.ingestFast_prepares rt trivial))
  | processRawScan id =>
      refine safe_void hi (safe_processRawScan hprep hi fun scan w' hi' _ hlook' => ?_)
      refine safe_processPending hprep trivial hi' fun context reason w₁ _ ha hlook hd => ?_
      refine keeps_updateProcessed ha ?_ hd.decided
      rw [hlook, hlook', hfresh, Option.or_none]
  | ingestOfflineScan mappingFirst input =>
      exact safe_void hi (safe_ingestOfflineScan hsubmit
        (fun _ _ => safe_processOfflineScanOperation) mappingFirst trivial hi)
  | reconcileOfflineRegistration input =>
      exact safe_void hi (safe_reconcileOfflineRegistration hsubmit
        (fun _ _ => safe_processOfflineScanOperation) input hi)

end Admission

/-- In the runs in which parked scans resolve within the rules, every movement that
admits a registration was admitted by all of them. -/
theorem admitted_of_rules {rt : Runtime} {s : Store} (hs : EmptyScans s)
    {cfg : Config Resp Exn (World Resp Exn Store)}
    (hr : ((scanService rt (anyScans rt)).system.restrict ResolvesWithinRules).Reach
      (Service.init s) cfg) :
    ∀ m ∈ cfg.world.store.movements.rows, m.result = .ALLOWED →
      AdmittedIn rt cfg.world.trace m := by
  refine inv_of_reach (D := Admission.discipline rt) (fun t w p s' hown hi h => ?_) ?_ hr
  · obtain ⟨hp, rfl⟩ := h
    refine Admission.safe_run hp hi ?_
    rw [World.own, List.filter_eq_nil_iff]
    exact fun e he => by simpa using hown e he
  · intro m hm
    simp [hs.2.1] at hm

theorem admitted_late_registration :
    ∃ cfg : Config Resp Exn (World Resp Exn Store),
      ∃ m ∈ cfg.world.store.movements.rows, m.result = .ALLOWED ∧
        AdmittedIn sampleRuntime cfg.world.trace m := by
  obtain ⟨cfg, hr, hone⟩ := Service.exists_reach_of_perform ResolvesWithinRules lateRegistration
    (Service.init sampleStore) (fun s => s.movements.rows.any fun m => m.result = .ALLOWED)
    lateRegistration_legal (by decide +kernel)
  obtain ⟨m, hm, hallowed⟩ := List.any_eq_true.mp hone
  have hallowed : m.result = .ALLOWED := by simpa using hallowed
  exact ⟨cfg, m, hm, hallowed, admitted_of_rules ⟨rfl, rfl, rfl⟩ hr m hm hallowed⟩

namespace Admission

/-- The sample store after its registration was cancelled. -/
def cancelledStore : Store :=
  { sampleStore with registrations := .ofData [{
      publicId := "REG-1"
      eventId := "c0"
      attendeeTypeId := "c0"
      fullName := "Visitor"
      status := .CANCELLED }] }

end Admission

/-- A parked scan of a cancelled registration is settled as an admission. -/
theorem admitted_though_cancelled :
    ¬ ∀ (rt : Runtime) (s : Store) (cfg : Config Resp Exn (World Resp Exn Store)), EmptyScans s →
      (scanService rt (anyScans rt)).system.Reach (Service.init s) cfg →
        ∀ m ∈ cfg.world.store.movements.rows, m.result = .ALLOWED →
          AdmittedIn rt cfg.world.trace m := by
  intro h
  obtain ⟨cfg, hr, hbad⟩ := Service.exists_world_of_perform (fun _ _ _ => True) lateRegistration
    (Service.init Admission.cancelledStore)
    (fun w => (w.store.movements.rows.any fun m => m.result = .ALLOWED) &&
      w.trace.all fun e => e.before.registrations.rows.all fun r => r.status ≠ .ACTIVE)
    lateRegistration_legal (by decide +kernel)
  rw [System.restrict_true] at hr
  simp only [Bool.and_eq_true, List.any_eq_true, List.all_eq_true, decide_eq_true_eq] at hbad
  obtain ⟨⟨m, hm, hallowed⟩, hcancelled⟩ := hbad
  obtain ⟨later, e, past, htrace, -, hadmissible⟩ :=
    h sampleRuntime Admission.cancelledStore cfg ⟨rfl, rfl, rfl⟩ hr m hm hallowed
  obtain ⟨s, hs, q, -, r, hr, -, -, -, -, -, -, -, hactive, -⟩ := hadmissible.token
  obtain ⟨e', he', rfl⟩ := List.mem_map.mp hs
  refine hcancelled e' ?_ r hr hactive
  rw [htrace]
  exact List.mem_append_right _ (List.mem_cons_of_mem _ (List.mem_filter.mp he').1)

end CreativeBackend
