import CreativeBackend.Qr.Issue
import CreativeBackend.Sync.OfflineRegistration

/-!
# The printed badge after a registration

When an offline registration has returned, its printed badge works if the mapping of
its token points to the registration and to its active token, and both validators
accept the badge. Whether they do is decided by the state before the operation.
-/

namespace CreativeBackend

open Relational Interaction

namespace Badges

open SyncService ScansService QrService

/-- The foreign keys of the stored rows, and the token ids in their payloads. -/
structure Consistent (s : Store) : Prop where
  eventIds : ∀ e ∈ s.events.rows, e.id ≠ ""
  registrationIds : ∀ r ∈ s.registrations.rows, r.id ≠ ""
  tokenRegistration : ∀ q ∈ s.qrTokens.rows, ∃ r ∈ s.registrations.rows, r.id = q.registrationId
  tokenPayload : ∀ q ∈ s.qrTokens.rows, q.payload.tokenId = q.tokenId
  mappingRegistration : ∀ m ∈ s.mappings.rows, ∀ registrationId,
    m.registrationId = some registrationId → ∃ r ∈ s.registrations.rows, r.id = registrationId
  mappingToken : ∀ m ∈ s.mappings.rows, ∀ qrTokenId,
    m.canonicalQrTokenId = some qrTokenId → ∃ q ∈ s.qrTokens.rows, q.id = qrTokenId

/-- The badge's own validity has ended. -/
def Expired (rt : Runtime) (identity : OfflineIdentity) (now : Time) : Prop :=
  (rt.parseDate identity.verified.payload.validUntil).all (· < now) = true

/-- The mapping of the printed badge points to the registration and to its active token. -/
structure BadgeLinked (s : Store) (eventId : Id) (identity : OfflineIdentity)
    (registrationId : Id) : Prop where
  mapping : ∃ m ∈ s.mappings.rows, m.offlineQrToken = identity.offlineQrToken ∧
    m.status = .SYNCED ∧ m.registrationId = some registrationId ∧ ∃ q ∈ s.qrTokens.rows,
      m.canonicalQrTokenId = some q.id ∧ q.registrationId = registrationId ∧ q.status = .ACTIVE
  event : ∃ r ∈ s.registrations.rows, r.id = registrationId ∧ r.eventId = eventId

/-- The printed badge works at `now`: it is linked, and both forms of the badge resolve to
the registration. -/
structure BadgeWorks (rt : Runtime) (s : Store) (eventId : Id) (identity : OfflineIdentity)
    (registrationId : Id) (now : Time) : Prop
    extends BadgeLinked s eventId identity registrationId where
  reference : ∀ ch, ∃ context s', (validateOfflineReferenceQrForScan identity.offlineQrToken
      eventId).run (machine rt ch) { s with clock := now } = (.ok (.valid context), s') ∧
    context.qr.registration.id = registrationId ∧
      context.payload.string? "offlineQrToken" = some identity.offlineQrToken
  signed : ∀ ch, ∃ context s', (validateOfflineQrForScan rt identity.signedOfflineQr eventId).run
      (machine rt ch) { s with clock := now } = (.ok (.valid context), s') ∧
    context.qr.registration.id = registrationId

variable {rt : Runtime} {ch : Choice} {s s' : Store} {payload : List (String × Json)}
  {batch : SubmitSyncBatchDto} {identity : OfflineIdentity} {now : Time}

/-! ## The identity of the operation -/

/-- What the checks before the first lookup found. -/
structure Checked (rt : Runtime) (s : Store) (payload : List (String × Json))
    (batch : SubmitSyncBatchDto) (identity : OfflineIdentity) : Prop where
  read : readOfflineQr rt identity.signedOfflineQr (some batch.eventId) s.clock =
    .ok identity.verified
  issuer : checkIssuer rt identity.verified.parsed identity.verified.payload
    ((s.devices.find? identity.verified.payload.issuerDeviceId).map fun d =>
      (d, s.offlineKeys.rows.find? fun k => k.deviceId = identity.verified.payload.issuerDeviceId ∧
        k.version = identity.verified.payload.issuerKeyVersion)) = .ok ()
  token : getString payload "offlineQrToken" = .ok identity.offlineQrToken
  matching : assertOfflineRegistrationPayloadMatchesQr payload identity.verified.payload = .ok ()

theorem readIdentity_ok
    (h : (readIdentity rt payload batch).run (machine rt ch) s = (.ok identity, s')) :
    s' = s ∧ Checked rt s payload batch identity := by
  obtain ⟨signed, s₁, hsigned, h₁⟩ := Prog.run_bind_eq_ok _ h
  obtain ⟨-, rfl⟩ := Prog.run_ofExcept_eq_ok _ hsigned
  obtain ⟨verified, s₂, hverified, h₂⟩ := Prog.run_bind_eq_ok _ h₁
  obtain ⟨rfl, hread, hissuer⟩ := verifySignedOfflineQr_ok rt hverified
  split at h₂
  · simp at h₂
  · obtain ⟨operationId, s₃, hoperation, h₃⟩ := Prog.run_bind_eq_ok _ h₂
    obtain ⟨localId, s₄, hlocal, h₄⟩ := Prog.run_bind_eq_ok _ h₃
    obtain ⟨token, s₅, htoken, h₅⟩ := Prog.run_bind_eq_ok _ h₄
    obtain ⟨_, s₆, hmatching, h₆⟩ := Prog.run_bind_eq_ok _ h₅
    obtain ⟨-, rfl⟩ := Prog.run_ofExcept_eq_ok _ hoperation
    obtain ⟨-, rfl⟩ := Prog.run_ofExcept_eq_ok _ hlocal
    obtain ⟨htok, rfl⟩ := Prog.run_ofExcept_eq_ok _ htoken
    obtain ⟨hmatch, rfl⟩ := Prog.run_ofExcept_eq_ok _ hmatching
    cases h₆
    exact ⟨rfl, hread, hissuer, htok, hmatch⟩

theorem ok_of_comparison {qr : OfflineQrPayload}
    (h : assertOfflineRegistrationPayloadMatchesQr payload qr = .ok ()) (field : String)
    {expected : String}
    (hmem : (field, some expected) ∈ comparisons qr) (hne : expected ≠ "") :
    getString payload field = .ok expected := by
  have hcheck := checkAll_eq_ok_iff.mp h _ hmem
  have htruthy : truthy (some expected) = some expected := by simp [truthy, hne]
  simp only [htruthy] at hcheck
  cases hget : getString payload field with
  | error e =>
      rw [hget] at hcheck
      cases hcheck
  | ok value =>
      rw [hget] at hcheck
      by_cases heq : value = expected
      · rw [heq]
      · simp [bind, Except.bind, heq] at hcheck

namespace Checked

theorem asserted (h : Checked rt s payload batch identity) :
    assertOfflineQrPayload rt identity.verified.parsed.payload = .ok identity.verified.payload :=
  (readOfflineQr_ok rt h.read).2

/-- The badge names the token of the operation. -/
theorem offlineQrToken_eq (h : Checked rt s payload batch identity) :
    identity.verified.payload.offlineQrToken = identity.offlineQrToken := by
  have hne := ne_empty_of_nonBlank
    (nonBlank_of_assertOfflineQrPayload rt h.asserted "offlineQrToken" (by decide))
    (assertOfflineQrPayload_ok rt h.asserted).1
  have hget := ok_of_comparison h.matching "offlineQrToken" (by simp [comparisons]) hne
  exact Except.ok.inj (hget.symm.trans h.token)

theorem attendeeTypeId_eq (h : Checked rt s payload batch identity) :
    getString payload "attendeeTypeId" = .ok identity.verified.payload.attendeeTypeId := by
  have hne := ne_empty_of_nonBlank
    (nonBlank_of_assertOfflineQrPayload rt h.asserted "attendeeTypeId" (by decide))
    (attendeeType_of_assertOfflineQrPayload rt h.asserted)
  exact ok_of_comparison h.matching _ (by simp [comparisons]) hne

theorem eventId_eq (h : Checked rt s payload batch identity) (hne : batch.eventId ≠ "") :
    identity.verified.payload.eventId = batch.eventId := by
  have hread := h.read
  simp only [readOfflineQr] at hread
  split at hread
  · cases hread
  · split at hread
    · cases hread
    · split at hread
      · cases hread
      · next hevent =>
          split at hread
          · cases hread
          · have hv := congrArg VerifiedOfflineQr.payload (Except.ok.inj hread)
            simp only [truthy, hne, if_false, Option.any_some, decide_eq_true_eq, not_not] at hevent
            rw [← hv]
            exact hevent

/-- The badge read at another time. -/
theorem readAt (h : Checked rt s payload batch identity) (now : Time) :
    readOfflineQr rt identity.signedOfflineQr (some batch.eventId) now =
      if (rt.parseDate identity.verified.payload.validUntil).all (· < now) then
        .error (.badRequest "Offline QR expired")
      else .ok identity.verified := by
  have hread := h.read
  simp only [readOfflineQr] at hread ⊢
  split at hread
  · cases hread
  · next parsed hparsed =>
      split at hread
      · cases hread
      · next qr hqr =>
          split at hread
          · cases hread
          · next hevent =>
              split at hread
              · cases hread
              · have hv := Except.ok.inj hread
                rw [← hv]
                simp only [if_neg hevent]

end Checked

/-! ## The validators after the operation -/

/-- The mapping of the printed token, linked to a registration and its active token. -/
structure LinkedTo (s : Store) (eventId : Id) (identity : OfflineIdentity)
    (m : OfflineRegistrationMapping) (q : QrToken) (r : Registration) (a : AttendeeType) : Prop where
  mapping : m ∈ s.mappings.rows
  token : m.offlineQrToken = identity.offlineQrToken
  event : m.eventId = eventId
  synced : m.status = .SYNCED
  registrationId : m.registrationId = some r.id
  canonical : m.canonicalQrTokenId = some q.id
  stored : q ∈ s.qrTokens.rows
  tokenOf : q.registrationId = r.id
  active : q.status = .ACTIVE
  registration : s.registrations.find? r.id = some r
  nonempty : r.id ≠ ""
  attendeeType : s.attendeeTypes.find? r.attendeeTypeId = some a

variable {eventId : Id} {m : OfflineRegistrationMapping} {q : QrToken} {r : Registration}
  {a : AttendeeType}

theorem findMapping (hm : m ∈ s.mappings.rows) :
    (s.mappings.rows.find? fun m' => m'.offlineQrToken = m.offlineQrToken) = some m := by
  cases hfind : s.mappings.rows.find? fun m' => m'.offlineQrToken = m.offlineQrToken with
  | none =>
      have hne := List.find?_eq_none.mp hfind m hm
      simp at hne
  | some m' =>
      have htoken : m'.offlineQrToken = m.offlineQrToken := by simpa using List.find?_some hfind
      rw [s.mappings.eq_of_clash (List.mem_of_find?_eq_some hfind) hm (by simp [clash, htoken])]

/-- A registration has one token, so a query that it meets finds it. -/
theorem firstToken (ch : Choice) (hq : q ∈ s.qrTokens.rows) {v : QrTokenWhere} (hv : v.holds q = true) :
    ch.first (s.qrTokens.rows.filter v.holds) = some q := by
  cases hfirst : ch.first (s.qrTokens.rows.filter v.holds) with
  | none =>
      have hempty := Choice.first_eq_none.mp hfirst
      exact absurd (hempty ▸ List.mem_filter.mpr ⟨hq, hv⟩) (List.not_mem_nil)
  | some x =>
      obtain ⟨hx, hholds⟩ := List.mem_filter.mp (Choice.first_mem hfirst)
      simp only [QrTokenWhere.holds, Bool.and_eq_true, beq_iff_eq] at hv hholds
      rw [token_unique hx hq (hholds.1.1.trans hv.1.1.symm)]

/-- The last checks accept an active token in its window. -/
theorem checkStoredQr_run (rt : Runtime) (ch : Choice) (v : QrTokenView) (json accepted : Json)
    (hactive : v.token.status = .ACTIVE)
    (hwindow : v.token.validFrom ≤ s.clock ∧ s.clock ≤ v.token.validUntil)
    (hr : v.registration.status = .ACTIVE) :
    (checkStoredQr v json accepted).run (machine rt ch) s =
      (.ok (.valid { qr := v, payload := accepted }), s) := by
  have hinside : isOutsideWindow v.token s.clock = false := by
    obtain ⟨hfrom, huntil⟩ := hwindow
    simp [isOutsideWindow, hactive, hfrom, huntil]
  simp [checkStoredQr, hactive, Prog.run_bind, call, machine, query, hinside, hr]

namespace LinkedTo

theorem view (h : LinkedTo s eventId identity m q r a) :
    s.qrTokenView q = .ok ⟨q, r, a⟩ := by
  simp [Store.qrTokenView, h.tokenOf, h.registration, h.attendeeType]

theorem clock (h : LinkedTo s eventId identity m q r a) (now : Time) :
    LinkedTo { s with clock := now } eventId identity m q r a :=
  ⟨h.mapping, h.token, h.event, h.synced, h.registrationId, h.canonical, h.stored, h.tokenOf,
    h.active, h.registration, h.nonempty, h.attendeeType⟩

theorem linked (h : LinkedTo s eventId identity m q r a) (hr : r.eventId = eventId) :
    BadgeLinked s eventId identity r.id where
  mapping := ⟨m, h.mapping, h.token, h.synced, h.registrationId, q, h.stored, h.canonical,
    h.tokenOf, h.active⟩
  event := ⟨r, (Table.find?_eq_some_iff.mp h.registration).1, rfl, hr⟩

/-- The reference of a linked badge is accepted where the token is one of the event. -/
theorem reference_run (h : LinkedTo s eventId identity m q r a) (rt : Runtime) (ch : Choice)
    (htrim : trim identity.offlineQrToken = identity.offlineQrToken)
    (hwindow : q.validFrom ≤ s.clock ∧ s.clock ≤ q.validUntil) (hr : r.status = .ACTIVE) :
    (validateOfflineReferenceQrForScan identity.offlineQrToken eventId).run (machine rt ch) s =
      (.ok (if q.eventId = eventId then .valid {
          qr := ⟨q, r, a⟩
          payload := Json.spread (referencePayload identity.offlineQrToken)
            [("canonicalTokenId", .str q.tokenId), ("registrationId", .str q.registrationId)] }
        else deniedFor ⟨q, r, a⟩ (.obj (referencePayload identity.offlineQrToken))
          "EVENT_MISMATCH"), s) := by
  have hfind := findMapping h.mapping
  rw [h.token] at hfind
  have htruthy : truthy m.registrationId = some r.id := by
    rw [h.registrationId]
    simp [truthy, h.nonempty]
  have hholds : QrTokenWhere.holds
      { registrationId := r.id, id := truthy m.canonicalQrTokenId } q = true := by
    simp only [QrTokenWhere.holds, h.tokenOf, h.canonical, truthy]
    split <;> simp
  have hfirst := firstToken ch h.stored hholds
  have hcheck := checkStoredQr_run rt ch ⟨q, r, a⟩ (.obj (referencePayload identity.offlineQrToken))
    (Json.spread (referencePayload identity.offlineQrToken)
      [("canonicalTokenId", .str q.tokenId), ("registrationId", .str q.registrationId)])
    h.active hwindow hr
  simp only [validateOfflineReferenceQrForScan, htrim, Prog.bind_eq, Prog.run_bind, call,
    Prog.run_call, machine, query, hfind, h.event, htruthy, h.synced, ne_eq, not_true_eq_false,
    if_false, reduceCtorEq, hfirst, tokenView, h.view, Except.map]
  by_cases hevent : q.eventId = eventId
  · simp only [hevent, not_true_eq_false, if_false, if_true]
    exact hcheck
  · simp only [hevent, not_false_eq_true, if_true, if_false]
    rfl

/-- The signed form of a linked badge is accepted until it expires, where the token is one
of the event and the registration has the attendee type of the badge. -/
theorem signed_run (h : LinkedTo s eventId identity m q r a) (ch : Choice)
    (hread : readOfflineQr rt identity.signedOfflineQr (some eventId) s.clock =
      .ok identity.verified)
    (hissuer : checkIssuer rt identity.verified.parsed identity.verified.payload
      ((s.devices.find? identity.verified.payload.issuerDeviceId).map fun d =>
        (d, s.offlineKeys.rows.find? fun k =>
          k.deviceId = identity.verified.payload.issuerDeviceId ∧
            k.version = identity.verified.payload.issuerKeyVersion)) = .ok ())
    (htoken : identity.verified.payload.offlineQrToken = identity.offlineQrToken)
    (hevent : identity.verified.payload.eventId = eventId)
    (hwindow : q.validFrom ≤ s.clock ∧ s.clock ≤ q.validUntil) (hr : r.status = .ACTIVE) :
    (validateOfflineQrForScan rt identity.signedOfflineQr eventId).run (machine rt ch) s =
      (.ok (if q.eventId = eventId ∧ identity.verified.payload.attendeeTypeId = r.attendeeTypeId then
          .valid {
            qr := ⟨q, r, a⟩
            payload := Json.spread (payloadFields identity.verified.parsed.payload)
              [("inputType", .str "OFFLINE_SIGNED"), ("canonicalTokenId", .str q.tokenId)] }
        else deniedFor ⟨q, r, a⟩ identity.verified.parsed.payload "EVENT_MISMATCH"), s) := by
  have hfind := findMapping h.mapping
  rw [h.token] at hfind
  have htruthy : truthy m.registrationId = some r.id := by
    rw [h.registrationId]
    simp [truthy, h.nonempty]
  have hholds : QrTokenWhere.holds { registrationId := r.id, id := m.canonicalQrTokenId } q = true := by
    simp [QrTokenWhere.holds, h.tokenOf, h.canonical]
  have hfirst := firstToken ch h.stored hholds
  have hcheck := checkStoredQr_run rt ch ⟨q, r, a⟩ identity.verified.parsed.payload
    (Json.spread (payloadFields identity.verified.parsed.payload)
      [("inputType", .str "OFFLINE_SIGNED"), ("canonicalTokenId", .str q.tokenId)])
    h.active hwindow hr
  simp only [validateOfflineQrForScan, verifySignedOfflineQr, Prog.bind_eq, Prog.run_bind, call,
    Prog.run_call, machine, query, hread, Prog.run_ofExcept, hissuer, Prog.pure_eq, Prog.run_ret,
    htoken, hfind, htruthy, h.synced, reduceCtorEq, or_self, if_false, hfirst, tokenView, h.view,
    Except.map]
  by_cases haccepted : q.eventId = eventId ∧
      identity.verified.payload.attendeeTypeId = r.attendeeTypeId
  · obtain ⟨hq, htype⟩ := haccepted
    have hmatches : ¬ (q.eventId ≠ eventId ∨ identity.verified.payload.eventId ≠ eventId ∨
        identity.verified.payload.attendeeTypeId ≠ r.attendeeTypeId) := by
      simp [hq, hevent, htype]
    rw [if_neg hmatches, if_pos ⟨hq, htype⟩]
    exact hcheck
  · have hmismatches : q.eventId ≠ eventId ∨ identity.verified.payload.eventId ≠ eventId ∨
        identity.verified.payload.attendeeTypeId ≠ r.attendeeTypeId := by
      by_cases hq : q.eventId = eventId
      · exact .inr (.inr fun htype => haccepted ⟨hq, htype⟩)
      · exact .inl hq
    rw [if_pos hmismatches, if_neg haccepted]
    rfl

end LinkedTo

theorem checkStoredQr_valid {v : QrTokenView} {json accepted : Json} {context : ValidQrContext}
    (h : (checkStoredQr v json accepted).run (machine rt ch) s = (.ok (.valid context), s')) :
    context = { qr := v, payload := accepted } := by
  simp only [checkStoredQr] at h
  split at h
  · cases h
  · obtain ⟨now, s₁, -, h₁⟩ := Prog.run_bind_eq_ok _ h
    split at h₁
    · cases h₁
    · split at h₁
      · cases h₁
      · cases h₁
        rfl

/-- An accepted reference names the token without the blanks around it. -/
theorem reference_names {offlineQrToken : String} {context : ValidQrContext}
    (h : (validateOfflineReferenceQrForScan offlineQrToken eventId).run (machine rt ch) s =
      (.ok (.valid context), s')) :
    context.payload.string? "offlineQrToken" = some (trim offlineQrToken) := by
  obtain ⟨found, s₁, -, h₁⟩ := Prog.run_bind_eq_ok _ h
  cases found with
  | none => cases h₁
  | some m =>
      dsimp only at h₁
      split at h₁
      · cases h₁
      · split at h₁
        · cases h₁
        · split at h₁
          · cases h₁
          · split at h₁
            · cases h₁
            · split at h₁
              · cases h₁
              · obtain ⟨stored, s₂, -, h₂⟩ := Prog.run_bind_eq_ok _ h₁
                cases stored with
                | none => cases h₂
                | some stored =>
                    dsimp only at h₂
                    split at h₂
                    · cases h₂
                    · rw [checkStoredQr_valid h₂]
                      rfl

/-- What the run leaves decides whether the badge works. -/
theorem LinkedTo.works_iff (h : LinkedTo s' batch.eventId identity m q r a)
    (hc : Checked rt s payload batch identity) (hdevices : s'.devices = s.devices)
    (hkeys : s'.offlineKeys = s.offlineKeys) (hne : batch.eventId ≠ "")
    (hr : r.eventId = batch.eventId) (hwindow : q.validFrom ≤ now ∧ now ≤ q.validUntil)
    (hactive : r.status = .ACTIVE) :
    BadgeWorks rt s' batch.eventId identity r.id now ↔
      trim identity.offlineQrToken = identity.offlineQrToken ∧ ¬ Expired rt identity now ∧
        q.eventId = batch.eventId ∧
          identity.verified.payload.attendeeTypeId = r.attendeeTypeId := by
  have hl := h.clock now
  have hissuer := hc.issuer
  rw [← hdevices, ← hkeys] at hissuer
  have hread := hc.readAt now
  constructor
  · intro hworks
    obtain ⟨context, u, hrun, -, hnames⟩ := hworks.reference {}
    have htrim : trim identity.offlineQrToken = identity.offlineQrToken :=
      Option.some.inj ((reference_names hrun).symm.trans hnames)
    obtain ⟨signed, u', hsigned, -⟩ := hworks.signed {}
    have hexpired : ¬ Expired rt identity now := by
      intro hexpired
      rw [Expired] at hexpired
      rw [if_pos hexpired] at hread
      simp only [validateOfflineQrForScan, verifySignedOfflineQr, Prog.bind_eq, Prog.run_bind, call,
        Prog.run_call, machine, query, hread, Prog.run_ofExcept] at hsigned
      cases hsigned
    rw [Expired] at hexpired
    rw [if_neg hexpired] at hread
    rw [hl.signed_run _ hread hissuer hc.offlineQrToken_eq (hc.eventId_eq hne) hwindow hactive]
      at hsigned
    refine ⟨htrim, hexpired, ?_⟩
    by_contra hmismatch
    rw [if_neg hmismatch] at hsigned
    cases hsigned
  · rintro ⟨htrim, hexpired, haccepted⟩
    rw [Expired] at hexpired
    rw [if_neg hexpired] at hread
    refine ⟨h.linked hr, fun ch => ?_, fun ch => ?_⟩
    · have hrun := hl.reference_run rt ch htrim hwindow hactive
      rw [if_pos haccepted.1] at hrun
      exact ⟨_, _, hrun, rfl, rfl⟩
    · have hrun := hl.signed_run ch hread hissuer hc.offlineQrToken_eq (hc.eventId_eq hne)
        hwindow hactive
      rw [if_pos haccepted] at hrun
      exact ⟨_, _, hrun, rfl⟩

end Badges

end CreativeBackend
