import CreativeBackend.Scans.Service

/-!
# What a decision has read

Between its first read and its transaction an operation may be interrupted by any
other. The rules here say what every operation has read when it settles a scan:
the event and its last entry, the checkpoint, and the token with its registration,
its validity and its mapping.
-/

namespace CreativeBackend

open Relational Interaction Prog Discipline

/-- One logged call of the scan service. -/
abbrev Entry := Interaction.Event Resp Exn Store

/-- The log of one thread. -/
def ownLog (t : Nat) (log : List Entry) : List Entry := log.filter fun e => e.thread = t

/-- The offline credential that a presented code stands for. -/
def offlineTokenOf (rt : Runtime) (qrRaw : String) : Option String :=
  let normalizedQr := trim qrRaw
  if normalizedQr = "" then none
  else if startsWith normalizedQr "O2." then some (trim normalizedQr)
  else
    match verifyServerQr rt normalizedQr with
    | .ok _ => none
    | .error _ =>
        match parseSignedOfflineQr rt normalizedQr with
        | .ok parsed => parsed.payload.string? "offlineQrToken"
        | .error _ => none

/-- The offline credential whose mapping a call looks up. -/
def Call.looksUp : Call → Option String
  | .mappingByToken offlineQrToken => some offlineQrToken
  | .mappingCanonical q => some q.offlineQrToken
  | _ => none

/-- The filter of the mapping lookup that resolves a parked scan. -/
def Call.resolves : Call → Option CanonicalWhere
  | .mappingCanonical q => some q
  | _ => none

theorem Call.looksUp_of_checks {c : Call} (h : c.checks = true) : c.looksUp = none := by
  cases c <;> first | rfl | cases h

/-- The credential that a thread looked up last, by its own log. -/
def lookedUp (log : List Entry) : Option String :=
  log.findSome? fun e => e.call.looksUp

theorem lookedUp_ownCalls {t : Nat} {u w : World Resp Exn Store}
    (h : OwnCalls t (·.checks = true) u w) : lookedUp (w.own t) = lookedUp (u.own t) := by
  obtain ⟨new, hn, hc⟩ := h
  have hnone : lookedUp new = none := by
    simp only [lookedUp, List.findSome?_eq_none_iff]
    exact fun e he => Call.looksUp_of_checks (hc e he)
  simp only [lookedUp] at hnone ⊢
  rw [hn, List.findSome?_append, hnone, Option.none_or]

variable {rt : Runtime} {σ : Surroundings}
variable {permits : Nat → Call → World Resp Exn Store → Prop}

/-- What was read behind the reason of a decision. -/
structure Decided (D : Discipline (scanService rt σ) permits) (t : Nat)
    (u : World Resp Exn Store) (eventId : Id) (checkpointId : Option Id) (type : MovementType)
    (stored : QrTokenView) (reason : String) (w : World Resp Exn Store) : Prop where
  event : ∃ event, D.Answered t u (.eventById eventId) (.ok (some event)) w ∧
    (reason = "ALLOWED" → event.allowReEntry = true ∨ type ≠ .ENTRY ∨
      D.Answered t u (.entryMovement event.id stored.registration.id) (.ok none) w)
  checkpoint : reason = "ALLOWED" → ∀ id, truthy checkpointId = some id →
    ∃ c, D.Answered t u (.checkpointById id) (.ok (some c)) w ∧
      ScansService.getCheckpointAccessDenial rt (some c) stored.attendeeType.code = none

/-- The reason to refuse another entry, by the movement that was read. -/
def reentryReason (event : Event) (type : MovementType) (entered : Option MovementLog) :
    Option String :=
  if event.allowReEntry = true ∨ type ≠ .ENTRY then none
  else entered.map fun _ => "ALREADY_ENTERED"

/-- The entry movement was read if the event and the type ask for it. -/
def EntryRead (D : Discipline (scanService rt σ) permits) (t : Nat) (u : World Resp Exn Store)
    (event : Event) (registrationId : Id) (type : MovementType) (entered : Option MovementLog)
    (w : World Resp Exn Store) : Prop :=
  event.allowReEntry = true ∨ type ≠ .ENTRY ∨
    D.Answered t u (.entryMovement event.id registrationId) (.ok entered) w

/-- The checkpoint was read if the scan names one. -/
def CheckpointRead (D : Discipline (scanService rt σ) permits) (t : Nat)
    (u : World Resp Exn Store) (checkpointId : Option Id) (checkpoint : Option Checkpoint)
    (w : World Resp Exn Store) : Prop :=
  match truthy checkpointId with
  | none => checkpoint = none
  | some id => ∃ c, checkpoint = some c ∧ D.Answered t u (.checkpointById id) (.ok (some c)) w

/-- The reason of a decision is the one of what was read for it. -/
def Reasoned (D : Discipline (scanService rt σ) permits) (t : Nat)
    (u : World Resp Exn Store) (eventId : Id) (checkpointId : Option Id) (type : MovementType)
    (stored : QrTokenView) (reason : String) (w : World Resp Exn Store) : Prop :=
  ∃ event checkpoint entered,
    D.Answered t u (.eventById eventId) (.ok (some event)) w ∧
      CheckpointRead D t u checkpointId checkpoint w ∧
        EntryRead D t u event stored.registration.id type entered w ∧
          reason = ScansService.decisionReason
            (ScansService.getCheckpointAccessDenial rt checkpoint stored.attendeeType.code)
            (reentryReason event type entered)

/-- What was read where a stored token was accepted. -/
structure TokenAccepted (D : Discipline (scanService rt σ) permits) (t : Nat)
    (u : World Resp Exn Store) (stored : QrTokenView) (w : World Resp Exn Store) : Prop where
  token : (∃ tokenId, D.Answered t u (.qrTokenByTokenId tokenId) (.ok (some stored)) w) ∨
    ∃ q, D.Answered t u (.qrTokenFirst q) (.ok (some stored)) w
  tokenActive : stored.token.status = .ACTIVE
  registrationActive : stored.registration.status = .ACTIVE
  window : ∃ now, D.Answered t u .now (.ok now) w ∧ stored.token.validFrom ≤ now ∧
    now ≤ stored.token.validUntil

/-- What was read where a mapping was accepted. -/
def MappingAccepted (D : Discipline (scanService rt σ) permits) (t : Nat)
    (u : World Resp Exn Store) (offlineQrToken : String) (w : World Resp Exn Store) : Prop :=
  ∃ m, D.Answered t u (.mappingByToken offlineQrToken) (.ok (some m)) w ∧
    m.status ≠ .PENDING ∧ m.status ≠ .CONFLICTED ∧ m.status ≠ .REVOKED

/-- What was read where a presented code was accepted. -/
structure Accepted (D : Discipline (scanService rt σ) permits) (t : Nat)
    (u : World Resp Exn Store) (qrRaw : String) (stored : QrTokenView)
    (w : World Resp Exn Store) : Prop extends TokenAccepted D t u stored w where
  mapping : ∀ offlineQrToken, offlineTokenOf rt qrRaw = some offlineQrToken →
    MappingAccepted D t u offlineQrToken w

/-- What was read where a parked scan was resolved, directly after `u`. -/
def Resolved (D : Discipline (scanService rt σ) permits) (t : Nat) (u : World Resp Exn Store)
    (x : OfflineScanOperation) (stored : QrTokenView) (w : World Resp Exn Store) : Prop :=
  ∃ m registrationId v v',
    D.Performed t u (.mappingCanonical (ScansService.canonicalWhere x)) (.ok (some m)) v ∧
      truthy m.registrationId = some registrationId ∧
      D.Performed t v (.qrTokenFirst
        { registrationId, id := m.canonicalQrTokenId, status := some .ACTIVE })
        (.ok (some stored)) v' ∧
      D.Leads v' w

/-- A parked scan and the raw scan of its operation were read, directly after `u`. -/
def ReadScan (D : Discipline (scanService rt σ) permits) (t : Nat)
    (u : World Resp Exn Store) (id : Id) (x : OfflineScanOperation)
    (existing : Option RawScanView) (w : World Resp Exn Store) : Prop :=
  ∃ v, D.Performed t u (.offlineScanById id) (.ok (some x)) v ∧
    D.Performed t v (.rawScanByOperation x.operationId) (.ok existing) w

variable {D : Discipline (scanService rt σ) permits} {t : Nat} {u v w w' : World Resp Exn Store}

theorem Decided.stable {eventId : Id} {checkpointId : Option Id} {type : MovementType}
    {stored : QrTokenView} {reason : String}
    (h : Decided D t u eventId checkpointId type stored reason w) (hl : D.Leads w w') :
    Decided D t u eventId checkpointId type stored reason w' := by
  obtain ⟨⟨event, he, hr⟩, hc⟩ := h
  constructor
  · refine ⟨event, he.stable hl, fun h => ?_⟩
    exact (hr h).imp_right fun h' => h'.imp_right fun h'' => h''.stable hl
  · intro h id hid
    obtain ⟨c, hcp, hd⟩ := hc h id hid
    exact ⟨c, hcp.stable hl, hd⟩

theorem EntryRead.stable {event : Event} {registrationId : Id} {type : MovementType}
    {entered : Option MovementLog} (h : EntryRead D t u event registrationId type entered w)
    (hl : D.Leads w w') : EntryRead D t u event registrationId type entered w' :=
  h.imp_right fun h' => h'.imp_right fun h'' => h''.stable hl

theorem EntryRead.since {event : Event} {registrationId : Id} {type : MovementType}
    {entered : Option MovementLog} (h : EntryRead D t v event registrationId type entered w)
    (hl : D.Leads u v) : EntryRead D t u event registrationId type entered w :=
  h.imp_right fun h' => h'.imp_right fun h'' => h''.since hl

theorem CheckpointRead.stable {checkpointId : Option Id} {checkpoint : Option Checkpoint}
    (h : CheckpointRead D t u checkpointId checkpoint w) (hl : D.Leads w w') :
    CheckpointRead D t u checkpointId checkpoint w' := by
  unfold CheckpointRead at h ⊢
  split at h
  · exact h
  · exact h.imp fun _ hc => ⟨hc.1, hc.2.stable hl⟩

theorem CheckpointRead.since {checkpointId : Option Id} {checkpoint : Option Checkpoint}
    (h : CheckpointRead D t v checkpointId checkpoint w) (hl : D.Leads u v) :
    CheckpointRead D t u checkpointId checkpoint w := by
  unfold CheckpointRead at h ⊢
  split at h
  · exact h
  · exact h.imp fun _ hc => ⟨hc.1, hc.2.since hl⟩

theorem Reasoned.stable {eventId : Id} {checkpointId : Option Id} {type : MovementType}
    {stored : QrTokenView} {reason : String}
    (h : Reasoned D t u eventId checkpointId type stored reason w) (hl : D.Leads w w') :
    Reasoned D t u eventId checkpointId type stored reason w' := by
  obtain ⟨event, checkpoint, entered, he, hc, hm, hreason⟩ := h
  exact ⟨event, checkpoint, entered, he.stable hl, hc.stable hl, hm.stable hl, hreason⟩

theorem TokenAccepted.stable {stored : QrTokenView} (h : TokenAccepted D t u stored w)
    (hl : D.Leads w w') : TokenAccepted D t u stored w' where
  token := h.token.imp (fun ⟨k, hk⟩ => ⟨k, hk.stable hl⟩) fun ⟨q, hq⟩ => ⟨q, hq.stable hl⟩
  tokenActive := h.tokenActive
  registrationActive := h.registrationActive
  window := h.window.imp fun _ hn => ⟨hn.1.stable hl, hn.2⟩

theorem TokenAccepted.since {stored : QrTokenView} (h : TokenAccepted D t v stored w)
    (hl : D.Leads u v) : TokenAccepted D t u stored w where
  token := h.token.imp (fun ⟨k, hk⟩ => ⟨k, hk.since hl⟩) fun ⟨q, hq⟩ => ⟨q, hq.since hl⟩
  tokenActive := h.tokenActive
  registrationActive := h.registrationActive
  window := h.window.imp fun _ hn => ⟨hn.1.since hl, hn.2⟩

theorem MappingAccepted.stable {offlineQrToken : String}
    (h : MappingAccepted D t u offlineQrToken w) (hl : D.Leads w w') :
    MappingAccepted D t u offlineQrToken w' :=
  h.imp fun _ hm => ⟨hm.1.stable hl, hm.2⟩

theorem Accepted.stable {qrRaw : String} {stored : QrTokenView}
    (h : Accepted D t u qrRaw stored w) (hl : D.Leads w w') : Accepted D t u qrRaw stored w' where
  toTokenAccepted := h.toTokenAccepted.stable hl
  mapping k hk := (h.mapping k hk).stable hl

theorem Accepted.since {qrRaw : String} {stored : QrTokenView}
    (h : Accepted D t v qrRaw stored w) (hl : D.Leads u v) : Accepted D t u qrRaw stored w where
  toTokenAccepted := h.toTokenAccepted.since hl
  mapping k hk := (h.mapping k hk).imp fun _ hm => ⟨hm.1.since hl, hm.2⟩

theorem Resolved.stable {x : OfflineScanOperation} {stored : QrTokenView}
    (h : Resolved D t u x stored w) (hl : D.Leads w w') : Resolved D t u x stored w' := by
  obtain ⟨m, registrationId, v, v', hm, hr, hq, hv⟩ := h
  exact ⟨m, registrationId, v, v', hm, hr, hq, hv.trans hl⟩

section ReadScan

variable {id : Id} {x : OfflineScanOperation} {existing : Option RawScanView}

theorem ReadScan.scan (h : ReadScan D t u id x existing w) :
    D.Answered t u (.offlineScanById id) (.ok (some x)) w := by
  obtain ⟨v, hx, hraw⟩ := h
  exact hx.answered.stable hraw.leads

theorem ReadScan.raw (h : ReadScan D t u id x existing w) :
    D.Answered t u (.rawScanByOperation x.operationId) (.ok existing) w := by
  obtain ⟨v, hx, hraw⟩ := h
  exact hraw.answered.since hx.leads

theorem ReadScan.own (h : ReadScan D t u id x existing w) :
    ∃ s s', w.own t = ⟨t, .rawScanByOperation x.operationId, .ok existing, s'⟩ ::
      ⟨t, .offlineScanById id, .ok (some x), s⟩ :: u.own t := by
  obtain ⟨v, hx, hraw⟩ := h
  obtain ⟨s, hown⟩ := hx.own
  obtain ⟨s', hown'⟩ := hraw.own
  exact ⟨s, s', by rw [hown', hown]⟩

end ReadScan

/-! ## What a token lookup finds -/

/-- A token with its relations, as they are stored. -/
structure Stored (s : Store) (view : QrTokenView) : Prop where
  token : view.token ∈ s.qrTokens.rows
  registration : view.registration ∈ s.registrations.rows
  registrationId : view.registration.id = view.token.registrationId
  attendeeType : view.attendeeType ∈ s.attendeeTypes.rows
  attendeeTypeId : view.attendeeType.id = view.registration.attendeeTypeId

theorem stored_of_tokenView {s : Store} {q : Option QrToken} {view : QrTokenView}
    (h : tokenView s q = .ok (some view)) (hq : ∀ a, q = some a → a ∈ s.qrTokens.rows) :
    Stored s view ∧ q = some view.token := by
  cases q with
  | none => cases h
  | some a =>
      simp only [tokenView, Store.qrTokenView] at h
      split at h
      · cases h
      · next r hr =>
          split at h
          · cases h
          · next ty hty =>
              cases h
              obtain ⟨hrmem, hrid⟩ := Table.find?_eq_some_iff.mp hr
              obtain ⟨htmem, htid⟩ := Table.find?_eq_some_iff.mp hty
              exact ⟨⟨hq a rfl, hrmem, hrid, htmem, htid⟩, rfl⟩

theorem stored_of_qrTokenFirst {s : Store} {ch : Choice} {q : QrTokenWhere} {view : QrTokenView}
    (h : machine rt ch (.qrTokenFirst q) s = (.ok (some view), s)) :
    Stored s view ∧ q.holds view.token = true := by
  have hview : tokenView s (ch.first (s.qrTokens.rows.filter q.holds)) = .ok (some view) :=
    congrArg Prod.fst h
  have hmem : ∀ a, ch.first (s.qrTokens.rows.filter q.holds) = some a →
      a ∈ s.qrTokens.rows.filter q.holds := fun a ha => Choice.first_mem ha
  obtain ⟨hstored, htoken⟩ := stored_of_tokenView hview fun a ha =>
    (List.mem_filter.mp (hmem a ha)).1
  exact ⟨hstored, (List.mem_filter.mp (hmem _ htoken)).2⟩

theorem stored_of_qrTokenByTokenId {s : Store} {ch : Choice} {tokenId : String} {view : QrTokenView}
    (h : machine rt ch (.qrTokenByTokenId tokenId) s = (.ok (some view), s)) : Stored s view := by
  have hview : tokenView s (s.qrTokens.rows.find? fun q => q.tokenId = tokenId) =
      .ok (some view) := congrArg Prod.fst h
  exact (stored_of_tokenView hview fun a ha => List.mem_of_find?_eq_some ha).1

/-! ## The moments of an operation -/

/-- The stores that a thread has read from. -/
def moments (t : Nat) (w : World Resp Exn Store) : List Store := (w.own t).map (·.before)

theorem moment_of_answered {c : Call} {a : Resp c} (hc : c.reads = true)
    (h : D.Answered t u c (.ok a) w) :
    ∃ s ∈ moments t w, ∃ ch, machine rt ch c s = (.ok a, s) := by
  obtain ⟨s, ch, hlog, -, hm⟩ := logged_read hc h
  exact ⟨s, List.mem_map.mpr ⟨_, World.mem_own.mpr ⟨hlog, rfl⟩, rfl⟩, ch, hm⟩

theorem moments_leads (hl : D.Leads u w) {s : Store} (hs : s ∈ moments t u) : s ∈ moments t w := by
  obtain ⟨new, hn⟩ := hl.own t
  simp only [moments, hn, List.map_append]
  exact List.mem_append_right _ hs

/-! ## What each function returns -/

section Returns

variable (hread : Preserves D (·.reads = true))

include hread

/-- A read returns its answer. -/
theorem returns_read {c : Call} (hc : c.reads = true) :
    D.Returns t (fun a w' => D.Answered t w c (.ok a) w') (call c) w :=
  returns_call (hread.keeps hc)

theorem returns_ensureEventCanBeModified {eventId : Id} (hi : D.inv w) :
    D.Returns t (fun event w' => D.Answered t w (.eventById eventId) (.ok (some event)) w')
      (ScansService.ensureEventCanBeModified eventId) w := by
  refine returns_bind hi (returns_read hread rfl) fun found w₁ hi₁ hl₁ h => ?_
  cases found with
  | none => exact returns_throw
  | some event =>
      dsimp only
      split
      · exact returns_throw
      · exact returns_ret fun w' hl => h.stable hl

theorem returns_ensureActiveCheckpoint {checkpointId : Option Id} {eventId : Id}
    (hi : D.inv w) :
    D.Returns t (fun checkpoint w' => CheckpointRead D t w checkpointId checkpoint w')
      (ScansService.ensureActiveCheckpoint checkpointId eventId) w := by
  unfold ScansService.ensureActiveCheckpoint CheckpointRead
  cases truthy checkpointId with
  | none => exact returns_ret fun _ _ => rfl
  | some id =>
      refine returns_bind hi (returns_read hread rfl) fun found w₁ hi₁ hl₁ h => ?_
      cases found with
      | none => exact returns_throw
      | some c =>
          dsimp only
          split
          · exact returns_throw
          · split
            · exact returns_throw
            · exact returns_ret fun w' hl => ⟨c, rfl, h.stable hl⟩

theorem returns_getReentryDenial {event : Event} {registrationId : Id} {type : MovementType}
    (hi : D.inv w) :
    D.Returns t (fun denial w' => ∃ entered, denial = reentryReason event type entered ∧
        EntryRead D t w event registrationId type entered w')
      (ScansService.getReentryDenial event registrationId type) w := by
  unfold ScansService.getReentryDenial reentryReason
  split
  · next hopen => exact returns_ret fun w' hl => ⟨none, rfl, hopen.imp_right .inl⟩
  · refine returns_bind hi (returns_read hread rfl) fun found w₁ hi₁ hl₁ h => ?_
    cases found with
    | some m => exact returns_ret fun w' hl => ⟨some m, rfl, .inr (.inr (h.stable hl))⟩
    | none => exact returns_ret fun w' hl => ⟨none, rfl, .inr (.inr (h.stable hl))⟩

omit hread in
theorem getCheckpointAccessDenial_cases (checkpoint : Option Checkpoint) (code : String) :
    ScansService.getCheckpointAccessDenial rt checkpoint code = none ∨
      ScansService.getCheckpointAccessDenial rt checkpoint code =
        some "ATTENDEE_TYPE_NOT_ALLOWED" := by
  unfold ScansService.getCheckpointAccessDenial
  split
  · dsimp only
    split
    · exact .inl rfl
    · exact .inr rfl
  · exact .inl rfl

omit hread in
theorem reason_of_allowed {reason : String}
    (h : ScansService.decisionResult reason = .ALLOWED) : reason = "ALLOWED" := by
  by_contra hne
  rw [ScansService.decisionResult, if_neg hne] at h
  cases h

omit hread in
/-- Only a decision without any denial is an admission. -/
theorem denials_of_allowed {event : Event} {checkpoint : Option Checkpoint} {code : String}
    {type : MovementType} {entered : Option MovementLog}
    (h : ScansService.decisionReason (ScansService.getCheckpointAccessDenial rt checkpoint code)
      (reentryReason event type entered) = "ALLOWED") :
    ScansService.getCheckpointAccessDenial rt checkpoint code = none ∧
      (event.allowReEntry = true ∨ type ≠ .ENTRY ∨ entered = none) := by
  rcases @getCheckpointAccessDenial_cases rt checkpoint code with haccess | haccess
  · refine ⟨haccess, ?_⟩
    by_cases hopen : event.allowReEntry = true ∨ type ≠ .ENTRY
    · exact hopen.imp_right .inl
    · cases entered with
      | none => exact .inr (.inr rfl)
      | some m =>
          rw [haccess, reentryReason, if_neg hopen] at h
          exact absurd h (by simp [ScansService.decisionReason])
  · rw [haccess] at h
    exact absurd h (by simp [ScansService.decisionReason])

omit hread in
/-- What was read behind an admission. -/
theorem Reasoned.decided {eventId : Id} {checkpointId : Option Id} {type : MovementType}
    {stored : QrTokenView} {reason : String}
    (h : Reasoned D t u eventId checkpointId type stored reason w) :
    Decided D t u eventId checkpointId type stored reason w := by
  obtain ⟨event, checkpoint, entered, he, hc, hm, hreason⟩ := h
  constructor
  · refine ⟨event, he, fun hallowed => ?_⟩
    rcases (denials_of_allowed (hreason.symm.trans hallowed)).2 with hopen | htype | hnone
    · exact .inl hopen
    · exact .inr (.inl htype)
    · exact hm.imp_right fun h' => h'.imp_right fun h'' => hnone ▸ h''
  · intro hallowed id hid
    simp only [CheckpointRead, hid] at hc
    obtain ⟨c, hcheckpoint, hread⟩ := hc
    have haccess := (denials_of_allowed (hreason.symm.trans hallowed)).1
    exact ⟨c, hread, by rw [← hcheckpoint]; exact haccess⟩

theorem returns_scanReason {event : Event} {checkpoint : Option Checkpoint}
    {stored : QrTokenView} {type : MovementType} (hi : D.inv w) :
    D.Returns t (fun reason w' => ∃ entered,
        EntryRead D t w event stored.registration.id type entered w' ∧
          reason = ScansService.decisionReason
            (ScansService.getCheckpointAccessDenial rt checkpoint stored.attendeeType.code)
            (reentryReason event type entered))
      (ScansService.scanReason rt event checkpoint stored type) w := by
  refine returns_bind hi (returns_getReentryDenial hread hi) fun denial w₁ hi₁ hl₁ h => ?_
  obtain ⟨entered, rfl, h⟩ := h
  exact returns_ret fun w' hl => ⟨entered, h.stable hl, rfl⟩

theorem returns_checkStoredQr {stored : QrTokenView} {payload accepted : Json} (hi : D.inv w)
    (hl : D.Leads u w)
    (h : (∃ tokenId, D.Answered t u (.qrTokenByTokenId tokenId) (.ok (some stored)) w) ∨
      ∃ q, D.Answered t u (.qrTokenFirst q) (.ok (some stored)) w) :
    D.Returns t (fun context w' => (∀ v, context = .valid v → TokenAccepted D t u v.qr w') ∧
        lookedUp (w'.own t) = lookedUp (w.own t))
      (ScansService.checkStoredQr stored payload accepted) w := by
  suffices hcheck : D.Returns t
      (fun context w' => ∀ v, context = .valid v → TokenAccepted D t u v.qr w')
      (ScansService.checkStoredQr stored payload accepted) w by
    have hown := returns_own (ScansService.checkStoredQr_checks stored payload accepted) hcheck
    exact hown.mono fun context w' h => ⟨h.1, lookedUp_ownCalls h.2⟩
  unfold ScansService.checkStoredQr
  split
  · exact returns_ret fun _ _ _ h => by cases h
  · next hrevoked =>
      refine returns_bind hi (returns_read hread rfl) fun now w₁ hi₁ hl₁ hnow => ?_
      split
      · exact returns_ret fun _ _ _ h => by cases h
      · next hwindow =>
          split
          · exact returns_ret fun _ _ _ h => by cases h
          · next hactive =>
              refine returns_ret fun w' hl' v hv => ?_
              cases hv
              simp only [ScansService.isOutsideWindow, Bool.or_eq_true, decide_eq_true_eq,
                not_or, not_lt] at hwindow
              have hw : D.Leads w w' := hl₁.trans hl'
              constructor
              · exact h.imp (fun ⟨k, hk⟩ => ⟨k, hk.stable hw⟩) fun ⟨q, hq⟩ => ⟨q, hq.stable hw⟩
              · cases hs : stored.token.status with
                | ACTIVE => rfl
                | REVOKED => exact absurd hs hrevoked
                | EXPIRED => exact absurd hs hwindow.1.1
              · exact not_not.mp hactive
              · exact ⟨now, (hnow.since hl).stable hl', hwindow.1.2, hwindow.2⟩

theorem returns_validateServerQrForScan {payload : Json} {eventId : Id} (hi : D.inv w) :
    D.Returns t (fun context w' => ∀ v, context = .valid v → TokenAccepted D t w v.qr w' ∧
        lookedUp (w'.own t) = lookedUp (w.own t))
      (ScansService.validateServerQrForScan payload eventId) w := by
  unfold ScansService.validateServerQrForScan
  dsimp only
  split
  · exact returns_ret fun _ _ _ h => by cases h
  · refine returns_bind hi (returns_performed (hread.keeps rfl)) fun found w₁ hi₁ hl₁ h => ?_
    cases found with
    | none => exact returns_ret fun _ _ _ h => by cases h
    | some stored =>
        dsimp only
        split
        · exact returns_ret fun _ _ _ h => by cases h
        · obtain ⟨s, hown⟩ := h.own
          refine (returns_checkStoredQr hread hi₁ hl₁ (.inl ⟨_, h.answered⟩)).mono
            fun context w' hc v hv => ⟨hc.1 v hv, ?_⟩
          rw [hc.2, hown]
          rfl

theorem returns_validateOfflineReferenceQrForScan {offlineQrToken : String} {eventId : Id}
    (hi : D.inv w) :
    D.Returns t (fun context w' => ∀ v, context = .valid v →
        TokenAccepted D t w v.qr w' ∧ MappingAccepted D t w (trim offlineQrToken) w' ∧
          lookedUp (w'.own t) = some (trim offlineQrToken))
      (ScansService.validateOfflineReferenceQrForScan offlineQrToken eventId) w := by
  refine returns_bind hi (returns_performed (hread.keeps rfl)) fun found w₁ hi₁ hl₁ hm => ?_
  cases found with
  | none => exact returns_ret fun _ _ _ h => by cases h
  | some m =>
      dsimp only
      split
      · exact returns_ret fun _ _ _ h => by cases h
      cases truthy m.registrationId with
      | none => exact returns_ret fun _ _ _ h => by cases h
      | some registrationId =>
          dsimp only
          split
          · exact returns_ret fun _ _ _ h => by cases h
          next hpending =>
          split
          · exact returns_ret fun _ _ _ h => by cases h
          next hconflicted =>
          split
          · exact returns_ret fun _ _ _ h => by cases h
          next hrevoked =>
          have hmapping : MappingAccepted D t w (trim offlineQrToken) w₁ :=
            ⟨m, hm.answered, hpending, hconflicted, hrevoked⟩
          refine returns_bind hi₁ (returns_performed (hread.keeps rfl))
            fun found w₂ hi₂ hl₂ hq => ?_
          cases found with
          | none => exact returns_ret fun _ _ _ h => by cases h
          | some stored =>
              dsimp only
              split
              · exact returns_ret fun _ _ _ h => by cases h
              · obtain ⟨s₁, hown₁⟩ := hm.own
                obtain ⟨s₂, hown₂⟩ := hq.own
                refine (returns_leads (returns_checkStoredQr hread hi₂ (hl₁.trans hl₂)
                  (.inr ⟨_, hq.answered.since hl₁⟩))).mono fun context w' h v hv => ?_
                refine ⟨h.1.1 v hv, (hmapping.stable hl₂).stable h.2, ?_⟩
                rw [h.1.2, hown₂, hown₁]
                rfl

theorem returns_verifySignedOfflineQr {signedOfflineQr : String} {expectedEventId : Option Id}
    (hi : D.inv w) :
    D.Returns t (fun verified _ => parseSignedOfflineQr rt signedOfflineQr = .ok verified.parsed ∧
        verified.parsed.payload.string? "offlineQrToken" = some verified.payload.offlineQrToken)
      (verifySignedOfflineQr rt signedOfflineQr expectedEventId) w := by
  refine returns_bind hi (returns_read hread rfl) fun now w₁ hi₁ hl₁ _ => ?_
  refine returns_bind hi₁ (returns_ofExcept (P := fun verified _ =>
    readOfflineQr rt signedOfflineQr expectedEventId now = .ok verified) fun _ _ h _ => h)
    fun verified w₂ hi₂ hl₂ h => ?_
  refine returns_bind hi₂ (returns_read hread rfl) fun issuer w₃ hi₃ hl₃ _ => ?_
  refine returns_bind hi₃ (returns_ofExcept (P := fun _ _ => True) fun _ _ _ _ => trivial)
    fun _ w₄ hi₄ hl₄ _ => ?_
  obtain ⟨hparsed, hpayload⟩ := readOfflineQr_ok rt h
  exact returns_ret fun _ _ => ⟨hparsed, (assertOfflineQrPayload_ok rt hpayload).1⟩

theorem returns_validateOfflineQrForScan {qrRaw : String} {eventId : Id} (hi : D.inv w) :
    D.Returns t (fun context w' => ∀ v, context = .valid v →
        TokenAccepted D t w v.qr w' ∧ ∃ parsed offlineQrToken,
          parseSignedOfflineQr rt qrRaw = .ok parsed ∧
            parsed.payload.string? "offlineQrToken" = some offlineQrToken ∧
              MappingAccepted D t w offlineQrToken w' ∧
                lookedUp (w'.own t) = some offlineQrToken)
      (ScansService.validateOfflineQrForScan rt qrRaw eventId) w := by
  refine returns_bind hi (returns_verifySignedOfflineQr hread hi) fun verified w₁ hi₁ hl₁ h => ?_
  refine returns_bind hi₁ (returns_performed (hread.keeps rfl)) fun found w₂ hi₂ hl₂ hm => ?_
  cases found with
  | none => exact returns_ret fun _ _ _ h => by cases h
  | some m =>
      dsimp only
      cases truthy m.registrationId with
      | none => exact returns_ret fun _ _ _ h => by cases h
      | some registrationId =>
          dsimp only
          split
          · exact returns_ret fun _ _ _ h => by cases h
          next hstatus =>
          simp only [not_or] at hstatus
          have hmapping : MappingAccepted D t w verified.payload.offlineQrToken w₂ :=
            ⟨m, hm.answered.since hl₁, hstatus⟩
          refine returns_bind hi₂ (returns_performed (hread.keeps rfl))
            fun found w₃ hi₃ hl₃ hq => ?_
          cases found with
          | none => exact returns_ret fun _ _ _ h => by cases h
          | some stored =>
              dsimp only
              split
              · exact returns_ret fun _ _ _ h => by cases h
              · have hl : D.Leads w w₃ := (hl₁.trans hl₂).trans hl₃
                obtain ⟨s₁, hown₁⟩ := hm.own
                obtain ⟨s₂, hown₂⟩ := hq.own
                refine (returns_leads (returns_checkStoredQr hread hi₃ hl
                  (.inr ⟨_, hq.answered.since (hl₁.trans hl₂)⟩))).mono fun context w' hc v hv => ?_
                refine ⟨hc.1.1 v hv, _, _, h.1, h.2, (hmapping.stable hl₃).stable hc.2, ?_⟩
                rw [hc.1.2, hown₂, hown₁]
                rfl

/-- A code that is accepted names a token that was read, and the mapping of an
offline code was read as well. -/
theorem returns_validateQrForScan {qrRaw : String} {eventId : Id} (hi : D.inv w) :
    D.Returns t (fun context w' => ∀ v, context = .valid v → Accepted D t w qrRaw v.qr w' ∧
        lookedUp (w'.own t) = (offlineTokenOf rt qrRaw).or (lookedUp (w.own t)))
      (ScansService.validateQrForScan rt qrRaw eventId) w := by
  unfold ScansService.validateQrForScan
  by_cases hempty : trim qrRaw = ""
  · simp only [hempty, if_true]
    exact returns_ret fun _ _ _ h => by cases h
  by_cases href : startsWith (trim qrRaw) "O2." = true
  · simp only [hempty, href, if_true, if_false]
    refine (returns_validateOfflineReferenceQrForScan hread hi).mono fun context w' h v hv => ?_
    obtain ⟨htoken, hmapping, hlook⟩ := h v hv
    have hkey : offlineTokenOf rt qrRaw = some (trim (trim qrRaw)) := by
      simp [offlineTokenOf, hempty, href]
    rw [hkey, hlook]
    refine ⟨⟨htoken, fun k hk => ?_⟩, rfl⟩
    exact Option.some.inj (hkey.symm.trans hk) ▸ hmapping
  · simp only [hempty, href, if_false]
    cases hserver : verifyServerQr rt (trim qrRaw) with
    | ok payload =>
        refine (returns_validateServerQrForScan hread hi).mono fun context w' h v hv => ?_
        have hkey : offlineTokenOf rt qrRaw = none := by
          simp [offlineTokenOf, hempty, href, hserver]
        rw [hkey, (h v hv).2]
        refine ⟨⟨(h v hv).1, fun k hk => ?_⟩, rfl⟩
        rw [hkey] at hk
        cases hk
    | error e =>
        refine returns_tryCatch hi ?_ fun _ _ _ _ => returns_ret fun _ _ _ h => by cases h
        refine (returns_validateOfflineQrForScan hread hi).mono fun context w' h v hv => ?_
        obtain ⟨htoken, parsed, k, hparsed, hk, hmapping, hlook⟩ := h v hv
        have hkey : offlineTokenOf rt qrRaw = some k := by
          simp [offlineTokenOf, hempty, href, hserver, hparsed, hk]
        rw [hkey, hlook]
        refine ⟨⟨htoken, fun k' hk' => ?_⟩, rfl⟩
        exact Option.some.inj (hkey.symm.trans hk') ▸ hmapping

theorem returns_getCanonicalContextForOfflineScan {x : OfflineScanOperation} (hi : D.inv w) :
    D.Returns t (fun context w' => ∀ v, context = some v → Resolved D t w x v.qr w' ∧
        lookedUp (w'.own t) = some x.offlineQrToken)
      (ScansService.getCanonicalContextForOfflineScan x) w := by
  refine returns_bind hi (returns_performed (hread.keeps rfl)) fun found w₁ hi₁ hl₁ hm => ?_
  cases found with
  | none => exact returns_ret fun _ _ _ h => by cases h
  | some m =>
      dsimp only
      cases hr : truthy m.registrationId with
      | none => exact returns_ret fun _ _ _ h => by cases h
      | some registrationId =>
          refine returns_bind hi₁ (returns_performed (hread.keeps rfl))
            fun found w₂ hi₂ hl₂ hq => ?_
          cases found with
          | none => exact returns_throw
          | some stored =>
              obtain ⟨s₁, hown₁⟩ := hm.own
              obtain ⟨s₂, hown₂⟩ := hq.own
              refine Logic.holds_ret fun w' hs _ context hcontext v hv => ?_
              cases hcontext
              cases hv
              refine ⟨⟨m, registrationId, w₁, w₂, hm, hr, hq, hs.leads⟩, ?_⟩
              rw [hs.own, hown₂, hown₁]
              rfl

/-- The reason of a decision, with everything read for it since `u`. -/
theorem returns_decided {eventId : Id} {event : Event} {checkpointId : Option Id}
    {checkpoint : Option Checkpoint} {stored : QrTokenView} {type : MovementType} (hi : D.inv w)
    (hl : D.Leads u w) (he : D.Answered t u (.eventById eventId) (.ok (some event)) w)
    (hc : CheckpointRead D t u checkpointId checkpoint w) :
    D.Returns t (fun reason w' => Reasoned D t u eventId checkpointId type stored reason w' ∧
        D.Leads w w' ∧ lookedUp (w'.own t) = lookedUp (w.own t))
      (ScansService.scanReason rt event checkpoint stored type) w := by
  have hchecks := ScansService.scanReason_checks rt event checkpoint stored type
  refine (returns_leads (returns_own hchecks (returns_scanReason hread hi))).mono
    fun reason w' h => ?_
  obtain ⟨⟨⟨entered, hm, hreason⟩, hown⟩, hl'⟩ := h
  refine ⟨⟨event, checkpoint, entered, he.stable hl', hc.stable hl', hm.since hl, hreason⟩, hl',
    lookedUp_ownCalls hown⟩

end Returns

/-! ## Settling operations -/

section Settle

variable {O : String → Id → MovementType → Prop}

theorem Preserves.reads {P : Call → Prop} (hD : Preserves D P)
    (hP : ∀ c, c.formats = true → P c) : Preserves D (·.reads = true) :=
  fun c hc => hD c (hP c (Call.formats_of_reads hc))

/-- Checks keep the invariant and look no credential up. -/
theorem returns_checks (hread : Preserves D (·.reads = true)) {α : Type} {p : Svc α}
    (hp : Checks p) : D.Returns t (fun _ w' => OwnCalls t (·.checks = true) w w') p w :=
  (returns_own hp (returns_of_safe (hread.safe hp.reads))).mono fun _ _ h => h.2

/-- The five reads that `ingest` and `processRawScan` begin with. -/
theorem safe_validated (hread : Preserves D (·.reads = true)) {eventId deviceId : Id}
    {staffSessionId checkpointId : Option Id} {qrRaw : String} {α : Type}
    {f : Event → Device → Option StaffSession → Option Checkpoint → QrContext → Svc α}
    (hi : D.inv w)
    (hf : ∀ event device staffSession checkpoint qrContext w', D.inv w' → D.Leads w w' →
      D.Answered t w (.eventById eventId) (.ok (some event)) w' →
      CheckpointRead D t w checkpointId checkpoint w' →
      (∀ v : ValidQrContext, qrContext = .valid v → Accepted D t w qrRaw v.qr w' ∧
        lookedUp (w'.own t) = (offlineTokenOf rt qrRaw).or (lookedUp (w.own t))) →
        D.logic.Safe t (f event device staffSession checkpoint qrContext) w') :
    D.logic.Safe t ((ScansService.ensureEventCanBeModified eventId).bind fun event =>
      (ScansService.ensureActiveDevice deviceId eventId).bind fun device =>
        (ScansService.ensureActiveStaffSession staffSessionId eventId).bind fun staffSession =>
          (ScansService.ensureActiveCheckpoint checkpointId eventId).bind fun checkpoint =>
            (ScansService.validateQrForScan rt qrRaw eventId).bind fun qrContext =>
              f event device staffSession checkpoint qrContext) w := by
  refine safe_bind_returns hi (returns_own (ScansService.ensureEventCanBeModified_checks _)
    (returns_ensureEventCanBeModified hread hi)) fun event w₁ hi₁ hl₁ he => ?_
  refine safe_bind_returns hi₁ (returns_checks hread (ScansService.ensureActiveDevice_checks _ _))
    fun device w₂ hi₂ hl₂ hd => ?_
  refine safe_bind_returns hi₂
    (returns_checks hread (ScansService.ensureActiveStaffSession_checks _ _))
    fun staffSession w₃ hi₃ hl₃ hs => ?_
  have hl : D.Leads w w₃ := (hl₁.trans hl₂).trans hl₃
  refine safe_bind_returns hi₃ (returns_own (ScansService.ensureActiveCheckpoint_checks _ _)
    (returns_ensureActiveCheckpoint hread hi₃)) fun checkpoint w₄ hi₄ hl₄ hc => ?_
  have hown : lookedUp (w₄.own t) = lookedUp (w.own t) :=
    lookedUp_ownCalls (((he.2.trans hd).trans hs).trans hc.2)
  refine safe_bind_returns hi₄ (returns_validateQrForScan hread hi₄)
    fun qrContext w₅ hi₅ hl₅ hq => ?_
  refine hf event device staffSession checkpoint qrContext w₅ hi₅ ((hl.trans hl₄).trans hl₅)
    (he.1.stable (((hl₂.trans hl₃).trans hl₄).trans hl₅)) ((hc.1.since hl).stable hl₅)
    fun v hv => ?_
  obtain ⟨haccepted, hlook⟩ := hq v hv
  rw [hown] at hlook
  exact ⟨haccepted.since (hl.trans hl₄), hlook⟩

section Online

variable (hprep : Preserves D (Call.Prepares O))

include hprep

/-- `ingest` keeps the invariant where its transaction does after what was read. -/
theorem safe_ingestNew {dto : CreateScanDto} (ho : O dto.operationId dto.eventId dto.type)
    (hi : D.inv w)
    (hcommit : ∀ (context : ValidQrContext) (reason : String) (w' : World Resp Exn Store),
      Accepted D t w dto.qrToken context.qr w' →
      lookedUp (w'.own t) = (offlineTokenOf rt dto.qrToken).or (lookedUp (w.own t)) →
      Reasoned D t w dto.eventId dto.checkpointId dto.type context.qr reason w' →
        D.Keeps t (.createProcessed dto (rt.parseDate dto.scannedAtDevice)
          (context.decide (ScansService.decisionResult reason) reason)) w') :
    D.logic.Safe t (ScansService.ingestNew rt dto) w := by
  have hread : Preserves D (·.reads = true) := hprep.reads fun _ => .format
  refine safe_validated hread hi
    fun event device staffSession checkpoint qrContext w₁ hi₁ hl₁ he hc hq => ?_
  cases qrContext with
  | valid context =>
      refine safe_bind_returns hi₁ (returns_decided hread hi₁ hl₁ he hc)
        fun reason w₂ hi₂ hl₂ hd => ?_
      obtain ⟨haccepted, hlook⟩ := hq context rfl
      refine safe_call_bind hi₂ (hcommit context reason w₂ (haccepted.stable hl₂)
        (hd.2.2.trans hlook) hd.1)
        fun committed w₃ hi₃ _ _ => ?_
      refine safe_call_bind hi₃ (hprep.keeps (.touch _ _)) fun _ w₄ hi₄ _ _ => ?_
      exact safe_bind hi₄ (hprep.safe (ScansService.formatScanResponse_formats rt _ _ _ _ _).prepares)
        fun _ _ _ _ _ _ _ => trivial
  | _ =>
      exact hprep.safe (ScansService.ingestDecision_prepares rt ho _ event device staffSession
        checkpoint fun _ h => by cases h)

/-- `ingest` deletes at most one raw scan before it decides. -/
theorem safe_ingest {dto : CreateScanDto} (hi : D.inv w)
    (hnew : ∀ w', D.inv w' → lookedUp (w'.own t) = lookedUp (w.own t) →
      D.logic.Safe t (ScansService.ingestNew rt dto) w') :
    D.logic.Safe t (ScansService.ingest rt dto) w := by
  refine safe_bind_returns hi (returns_performed (hprep.keeps (.format rfl)))
    fun found w₁ hi₁ _ hfound => ?_
  obtain ⟨s₁, hown₁⟩ := hfound.own
  have hlook₁ : lookedUp (w₁.own t) = lookedUp (w.own t) := by
    rw [hown₁]
    rfl
  cases found with
  | none => exact hnew w₁ hi₁ hlook₁
  | some existing =>
      dsimp only
      split
      · refine safe_bind_returns hi₁ (returns_performed (hprep.keeps (.remove _)))
          fun _ w₂ hi₂ _ hremoved => ?_
        obtain ⟨s₂, hown₂⟩ := hremoved.own
        refine hnew w₂ hi₂ ?_
        rw [hown₂]
        exact hlook₁
      · exact hprep.safe (ScansService.ingestDuplicate_formats rt existing).prepares

/-- `processRawScan` keeps the invariant where its transaction does after what was read. -/
theorem safe_processPending {scanEvent : ScanEventRaw}
    (ho : O scanEvent.operationId scanEvent.eventId scanEvent.type) (hi : D.inv w)
    (hcommit : ∀ (context : ValidQrContext) (reason : String) (w' : World Resp Exn Store),
      D.Leads w w' → Accepted D t w (scanEvent.qrRaw.getD "") context.qr w' →
      lookedUp (w'.own t) =
        (offlineTokenOf rt (scanEvent.qrRaw.getD "")).or (lookedUp (w.own t)) →
      Reasoned D t w scanEvent.eventId scanEvent.checkpointId scanEvent.type context.qr reason w' →
        D.Keeps t (.updateProcessed scanEvent
          (context.decide (ScansService.decisionResult reason) reason)) w') :
    D.logic.Safe t (ScansService.processPending rt scanEvent) w := by
  have hread : Preserves D (·.reads = true) := hprep.reads fun _ => .format
  refine safe_validated hread hi
    fun event device staffSession checkpoint qrContext w₁ hi₁ hl₁ he hc hq => ?_
  cases qrContext with
  | valid context =>
      refine safe_bind_returns hi₁ (returns_decided hread hi₁ hl₁ he hc)
        fun reason w₂ hi₂ hl₂ hd => ?_
      obtain ⟨haccepted, hlook⟩ := hq context rfl
      refine safe_call_bind hi₂ (hcommit context reason w₂ (hl₁.trans hl₂) (haccepted.stable hl₂)
        (hd.2.2.trans hlook) hd.1) fun committed w₃ hi₃ _ _ => ?_
      refine safe_call_bind hi₃ (hprep.keeps (.touch _ _)) fun _ w₄ hi₄ _ _ => ?_
      exact safe_bind hi₄ (hprep.safe (ScansService.formatScanResponse_formats rt _ _ _ _ _).prepares)
        fun _ _ _ _ _ _ _ => trivial
  | _ =>
      exact hprep.safe (ScansService.processDecision_prepares rt ho event device staffSession
        checkpoint fun _ h => by cases h)

/-- A worker decides the raw scan that it has read. -/
theorem safe_processRawScan {id : Id} (hi : D.inv w)
    (hpending : ∀ scanEvent w', D.inv w' →
      D.Answered t w (.rawScanById id) (.ok (some scanEvent)) w' →
      lookedUp (w'.own t) = lookedUp (w.own t) →
        D.logic.Safe t (ScansService.processPending rt scanEvent) w') :
    D.logic.Safe t (ScansService.processRawScan rt id) w := by
  refine safe_bind_returns hi (returns_performed (hprep.keeps (.format rfl)))
    fun found w₁ hi₁ _ hfound => ?_
  cases found with
  | none => exact fun _ _ _ => trivial
  | some scanEvent =>
      dsimp only
      split
      · exact fun _ _ _ => trivial
      · obtain ⟨s₁, hown⟩ := hfound.own
        have hlook : lookedUp (w₁.own t) = lookedUp (w.own t) := by
          rw [hown]
          rfl
        refine safe_tryCatch hi₁ (hpending scanEvent w₁ hi₁ hfound.answered hlook)
          fun e w₂ hi₂ _ => ?_
        exact hprep.safe (ScansService.failRawScan_prepares scanEvent e)

end Online

section Offline

variable (hread : Preserves D (·.reads = true))

include hread

/-- An offline settlement keeps the invariant where its writes do after what was read;
`F` is what the settling transaction returns. -/
theorem safe_settleNew {x : OfflineScanOperation} {existing : Option RawScanView}
    {F : ValidQrContext → RawScanView × MovementLog → World Resp Exn Store → Prop} (hi : D.inv w)
    (hwrite : ∀ (context : ValidQrContext) (reason : String) (w' : World Resp Exn Store),
      D.inv w' → D.Leads w w' → Resolved D t w x context.qr w' →
      lookedUp (w'.own t) = some x.offlineQrToken →
      Reasoned D t w x.eventId (some x.checkpointId) x.movementType context.qr reason w' →
        D.Returns t (F context) (ScansService.writeSettlement rt x existing
          (context.decide (ScansService.decisionResult reason) reason)) w')
    (hfinish : ∀ context written w', D.Leads w w' → F context written w' →
      D.Keeps t (.offlineScanUpdate x.id (ScansService.settledPatch written.1.scan.id written.2.id
        (some context.qr.registration.id))) w')
    (htouch : ∀ staffSessionId w', D.Keeps t (.touchActivity x.scannerDeviceId staffSessionId) w') :
    D.logic.Safe t (ScansService.settleNew rt x existing) w := by
  refine safe_bind_returns hi (returns_getCanonicalContextForOfflineScan hread hi)
    fun found w₀ hi₀ hl₀ hq => ?_
  cases found with
  | none => exact fun _ _ _ => trivial
  | some context =>
      refine safe_bind_returns hi₀ (returns_own (ScansService.ensureEventCanBeModified_checks _)
        (returns_ensureEventCanBeModified hread hi₀)) fun event w₁ hi₁ hl₁ he => ?_
      refine safe_bind_returns hi₁
        (returns_checks hread (ScansService.ensureActiveDevice_checks _ _))
        fun device w₂ hi₂ hl₂ hd => ?_
      refine safe_bind_returns hi₂
        (returns_checks hread (ScansService.ensureStaffSessionForOfflineReplay_checks _ _ _ _))
        fun staffSession w₃ hi₃ hl₃ hs => ?_
      have hl : D.Leads w w₃ := ((hl₀.trans hl₁).trans hl₂).trans hl₃
      refine safe_bind_returns hi₃ (returns_own (ScansService.ensureActiveCheckpoint_checks _ _)
        (returns_ensureActiveCheckpoint hread hi₃)) fun checkpoint w₄ hi₄ hl₄ hc => ?_
      obtain ⟨hres, hlook⟩ := hq context rfl
      have hown : lookedUp (w₄.own t) = lookedUp (w₀.own t) :=
        lookedUp_ownCalls (((he.2.trans hd).trans hs).trans hc.2)
      have hev : D.Answered t w (.eventById x.eventId) (.ok (some event)) w₄ :=
        (he.1.since hl₀).stable ((hl₂.trans hl₃).trans hl₄)
      refine safe_bind_returns hi₄
        (returns_decided hread hi₄ (hl.trans hl₄) hev (hc.1.since hl))
        fun reason w₅ hi₅ hl₅ hdec => ?_
      have hres₅ : Resolved D t w x context.qr w₅ :=
        hres.stable ((((hl₁.trans hl₂).trans hl₃).trans hl₄).trans hl₅)
      have hl' : D.Leads w w₅ := (hl.trans hl₄).trans hl₅
      refine safe_bind_returns hi₅ (hwrite context reason w₅ hi₅ hl' hres₅
        ((hdec.2.2.trans hown).trans hlook) hdec.1) fun written w₆ hi₆ hl₆ hw => ?_
      refine safe_call_bind hi₆ (hfinish context written w₆ (hl'.trans hl₆) hw)
        fun _ w₇ hi₇ _ _ => ?_
      exact safe_call_bind hi₇ (htouch _ _) fun _ _ _ _ _ _ _ _ => trivial

/-- `processOfflineScanOperation` keeps the invariant where it settles the scan that it
has read, and where it finishes a scan whose raw scan has a movement. -/
theorem safe_processOfflineScan {id : Id} (hi : D.inv w)
    (hsettle : ∀ x existing w', D.inv w' → D.Leads w w' → ReadScan D t w id x existing w' →
      D.logic.Safe t (ScansService.settleNew rt x existing) w')
    (hfinish : ∀ x (view : RawScanView) (m : MovementLog) w', D.Leads w w' →
      ReadScan D t w id x (some view) w' → view.movementLog = some m →
        D.Keeps t (.offlineScanUpdate x.id (ScansService.settledPatch view.scan.id m.id
          view.scan.registrationId)) w') :
    D.logic.Safe t (ScansService.processOfflineScanOperation rt id) w := by
  refine safe_bind_returns hi (returns_performed (hread.keeps rfl)) fun found w₁ hi₁ hl₁ hx => ?_
  cases found with
  | none => exact fun _ _ _ => trivial
  | some x =>
      dsimp only
      split
      · exact fun _ _ _ => trivial
      · refine safe_bind_returns hi₁ (returns_performed (hread.keeps rfl))
          fun existing w₂ hi₂ hl₂ hraw => ?_
        have hl : D.Leads w w₂ := hl₁.trans hl₂
        have hscan : ReadScan D t w id x existing w₂ := ⟨w₁, hx, hraw⟩
        cases existing with
        | none => exact hsettle x none w₂ hi₂ hl hscan
        | some view =>
            dsimp only
            cases hm : view.movementLog with
            | none => exact hsettle x (some view) w₂ hi₂ hl hscan
            | some m =>
                exact safe_call_bind hi₂ (hfinish x view m w₂ hl hscan hm)
                  fun _ _ _ _ _ _ _ _ => trivial

end Offline

end Settle

end CreativeBackend
