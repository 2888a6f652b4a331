import CreativeBackend.Sync.Badges
import CreativeBackend.Sync.Persons

/-!
# The badge after each outcome of a registration

`runOfflineRegistration` answers a synced operation, recovers a registration, or creates
one. Each outcome links the mapping in its own way, so the state before the operation
decides whether the printed badge works after it.
-/

namespace CreativeBackend

open Relational Interaction

namespace Badges

open SyncService QrService

/-- The mapping of the printed token points to the registration. -/
structure Printed (s : Store) (identity : OfflineIdentity) (m : OfflineRegistrationMapping)
    (r : Registration) : Prop where
  mapping : m ∈ s.mappings.rows
  token : m.offlineQrToken = identity.offlineQrToken
  registrationId : m.registrationId = some r.id
  registration : r ∈ s.registrations.rows

/-- The mapping of the printed token points to a registration. -/
def IsLinked (s : Store) (identity : OfflineIdentity) : Prop := ∃ m r, Printed s identity m r

/-- The mapping of the operation. -/
def OfOperation (batch : SubmitSyncBatchDto) (identity : OfflineIdentity)
    (m : OfflineRegistrationMapping) : Prop :=
  m.issuerDeviceId = batch.deviceId ∧ m.eventId = batch.eventId ∧
    m.offlineRegistrationOperationId = identity.offlineRegistrationOperationId

/-- The registration that answers the operation: the linked one, or that with the external
id of the operation. -/
def Answers (s : Store) (payload : List (String × Json)) (batch : SubmitSyncBatchDto)
    (identity : OfflineIdentity) (r : Registration) : Prop :=
  (∃ m, Printed s identity m r) ∨ ¬ IsLinked s identity ∧ r ∈ s.registrations.rows ∧
    r.eventId = batch.eventId ∧ r.externalId = some (operationExternalId payload identity)

/-- The operation leaves the badge linked. -/
structure Linkable (s : Store) (batch : SubmitSyncBatchDto) (identity : OfflineIdentity) :
    Prop where
  /-- A linked mapping is complete. -/
  linked : ∀ m r, Printed s identity m r → m.status = .SYNCED ∧ r.eventId = batch.eventId ∧
    ∃ q ∈ s.qrTokens.rows, q.registrationId = r.id ∧ m.canonicalQrTokenId = some q.id
  /-- The mapping of the operation is that of the printed token. -/
  own : ¬ IsLinked s identity → ∀ m ∈ s.mappings.rows, OfOperation batch identity m →
    m.offlineQrToken = identity.offlineQrToken

/-- The badge of the operation can be scanned at `now`. -/
structure Scannable (rt : Runtime) (s : Store) (payload : List (String × Json))
    (batch : SubmitSyncBatchDto) (identity : OfflineIdentity) (now : Time) : Prop where
  trimmed : trim identity.offlineQrToken = identity.offlineQrToken
  current : ¬ Expired rt identity now
  /-- The registration has the attendee type of the badge. -/
  attendeeType : ∀ r, Answers s payload batch identity r →
    identity.verified.payload.attendeeTypeId = r.attendeeTypeId
  /-- An active token of the registration is one of the event. -/
  token : ∀ r, Answers s payload batch identity r → ∀ q ∈ s.qrTokens.rows,
    q.registrationId = r.id → q.status = .ACTIVE → q.eventId = batch.eventId

variable {rt : Runtime} {ch : Choice} {s s' : Store} {payload : List (String × Json)}
  {batch : SubmitSyncBatchDto} {identity : OfflineIdentity} {now : Time}
  {m : OfflineRegistrationMapping} {r : Registration}

namespace Consistent

/-- A mapping that points to a registration is linked. -/
theorem printed (h : Consistent s) (hm : m ∈ s.mappings.rows)
    (htoken : m.offlineQrToken = identity.offlineQrToken) {registrationId : Id}
    (hr : m.registrationId = some registrationId) : ∃ r, Printed s identity m r ∧
      r.id = registrationId := by
  obtain ⟨r, hmem, hid⟩ := h.mappingRegistration m hm registrationId hr
  exact ⟨r, ⟨hm, htoken, hid ▸ hr, hmem⟩, hid⟩

end Consistent

/-- One mapping has the printed token, so one registration is linked. -/
theorem Printed.unique {m' : OfflineRegistrationMapping} {r' : Registration}
    (h : Printed s identity m r) (h' : Printed s identity m' r') : m = m' ∧ r = r' := by
  have hm : m = m' := by
    apply s.mappings.eq_of_clash h.mapping h'.mapping
    simp [clash, h.token, h'.token]
  subst hm
  have hid : r.id = r'.id := Option.some.inj (h.registrationId.symm.trans h'.registrationId)
  exact ⟨rfl, s.registrations.eq_of_key h.registration h'.registration hid⟩

/-! ## The first lookup -/

/-- The rows that the first lookup asks for. -/
def existingWhere (batch : SubmitSyncBatchDto) (identity : OfflineIdentity) :
    ExistingMappingWhere where
  eventId := batch.eventId
  issuerDeviceId := batch.deviceId
  offlineRegistrationOperationId := identity.offlineRegistrationOperationId
  offlineRegistrationId := identity.offlineRegistrationId
  offlineQrToken := identity.offlineQrToken

theorem holds_of_ofOperation (h : OfOperation batch identity m) :
    (existingWhere batch identity).holds m = true := by
  obtain ⟨hdevice, hevent, hoperation⟩ := h
  simp [ExistingMappingWhere.holds, existingWhere, hdevice, hevent, hoperation]

/-- What the first lookup finds. -/
theorem findSynced_ok (hc : Consistent s) {found : Option (OfflineRegistrationMapping × Registration)}
    (h : (findSynced batch identity).run (machine rt ch) s = (.ok found, s')) :
    s' = s ∧ (∀ m r, found = some (m, r) →
        Printed s identity m r ∧ m.eventId = batch.eventId) ∧
      (found = none → ¬ IsLinked s identity ∨
        ∀ m ∈ s.mappings.rows, ¬ (existingWhere batch identity).holds m = true) := by
  obtain ⟨existing, s₁, hcall, hrest⟩ := Prog.run_bind_eq_ok _ h
  rw [call, Prog.run_call] at hcall
  cases hcall
  cases hfirst : ch.first (s.mappings.rows.filter (existingWhere batch identity).holds) with
  | none =>
      simp only [existingWhere] at hfirst
      simp only [hfirst] at hrest
      cases hrest
      have hempty := Choice.first_eq_none.mp hfirst
      refine ⟨rfl, fun m r hfound => (by cases hfound), fun _ => .inr fun m hm hholds => ?_⟩
      exact List.not_mem_nil (hempty ▸ List.mem_filter.mpr ⟨hm, hholds⟩)
  | some existing =>
      obtain ⟨hmem, hholds⟩ := List.mem_filter.mp (Choice.first_mem hfirst)
      have hevent : existing.eventId = batch.eventId := by
        simp only [ExistingMappingWhere.holds, existingWhere, Bool.and_eq_true, beq_iff_eq] at hholds
        exact hholds.1
      simp only [existingWhere] at hfirst
      simp only [hfirst] at hrest
      split at hrest
      · obtain ⟨_, s₂, -, hthrow⟩ := Prog.run_bind_eq_ok _ hrest
        cases hthrow
      · next hsame =>
          have htoken : existing.offlineQrToken = identity.offlineQrToken := by
            by_contra hne
            exact hsame (.inl hne)
          cases hlink : existing.registrationId with
          | none =>
              simp only [hlink, truthy] at hrest
              cases hrest
              refine ⟨rfl, fun m r hfound => (by cases hfound), fun _ => .inl ?_⟩
              rintro ⟨m, r, hprinted⟩
              have heq : m = existing := by
                apply s.mappings.eq_of_clash hprinted.mapping hmem
                simp [clash, hprinted.token, htoken]
              have hnone := heq ▸ hprinted.registrationId
              rw [hlink] at hnone
              cases hnone
          | some registrationId =>
              obtain ⟨r, hprinted, hid⟩ := hc.printed hmem htoken hlink
              have hne : registrationId ≠ "" := hid ▸ hc.registrationIds r hprinted.registration
              have hfind : s.registrations.find? registrationId = some r :=
                Table.find?_eq_some_iff.mpr ⟨hprinted.registration, hid⟩
              simp only [hlink, truthy, hne, if_false, Prog.bind_eq, Prog.run_bind, call,
                Prog.run_call, machine, query, hfind] at hrest
              cases hrest
              refine ⟨rfl, fun m' r' hfound => ?_, fun hfound => by cases hfound⟩
              cases hfound
              exact ⟨hprinted, hevent⟩

/-! ## The mapping of an operation -/

/-- The mapping that the operation found or opened. -/
structure Opened (s : Store) (batch : SubmitSyncBatchDto) (identity : OfflineIdentity)
    (m : OfflineRegistrationMapping) (t : Table OfflineRegistrationMapping) : Prop where
  stored : m ∈ t.rows
  event : m.eventId = batch.eventId
  /-- The mapping has the printed token where every mapping of the operation has. -/
  token : m.offlineQrToken = identity.offlineQrToken ↔ ∀ m₀ ∈ s.mappings.rows,
    OfOperation batch identity m₀ → m₀.offlineQrToken = identity.offlineQrToken
  /-- The other mappings were there before. -/
  others : ∀ m' ∈ t.rows, m'.id ≠ m.id → m' ∈ s.mappings.rows

theorem mappingUpsert_ok
    (h : machine rt ch (.mappingUpsert (mappingData batch identity)) s = (.ok m, s')) :
    ∃ t, s' = { s with mappings := t } ∧ Opened s batch identity m t ∧
      (m ∈ s.mappings.rows ∧ OfOperation batch identity m ∨ ¬ IsLinked s identity) := by
  rcases Store.upsertMapping_cases h with ⟨e, he, -⟩ | ⟨m', hfound, hm, rfl⟩ |
    ⟨row, t, hnone, hcreate, hm, rfl⟩
  · cases he
  · cases hm
    have hmem := List.mem_of_find?_eq_some hfound
    have hop : OfOperation batch identity m := by
      have hsame := List.find?_some hfound
      simp only [decide_eq_true_eq] at hsame
      exact hsame
    refine ⟨s'.mappings, rfl, ⟨hmem, hop.2.1, ?_, fun _ hm' _ => hm'⟩, .inl ⟨hmem, hop⟩⟩
    constructor
    · intro htoken m₀ hm₀ h₀
      have heq : m₀ = m := by
        apply Table.eq_of_clash _ hm₀ hmem
        simp [clash, h₀.1.trans hop.1.symm, h₀.2.1.trans hop.2.1.symm, h₀.2.2.trans hop.2.2.symm]
      exact heq ▸ htoken
    · intro hall
      exact hall m hmem hop
  · cases hm
    have hrow := (Table.create_eq_some hcreate).1
    have htoken : m.offlineQrToken = identity.offlineQrToken := by
      rw [hrow]
      rfl
    refine ⟨t, rfl, ⟨(Table.mem_create hcreate).mpr (.inr rfl), ?_, ?_, ?_⟩, .inr ?_⟩
    · rw [hrow]
      rfl
    · refine iff_of_true htoken fun m₀ hm₀ h₀ => ?_
      have hne := List.find?_eq_none.mp hnone m₀ hm₀
      simp only [decide_eq_true_eq] at hne
      exact absurd h₀ hne
    · intro m' hm' hid
      rcases (Table.mem_create hcreate).mp hm' with hold | rfl
      · exact hold
      · exact absurd rfl hid
    · rintro ⟨m₀, r, hprinted⟩
      apply Table.not_clash_of_create hcreate hprinted.mapping
      simp [clash, hprinted.token, htoken]

/-! ## The link -/

/-- What `linkMapping` leaves, where the registration is stored. -/
structure Linking (s : Store) (m : OfflineRegistrationMapping) (r : Registration) (s' : Store)
    (row : OfflineRegistrationMapping) (q : QrToken) : Prop where
  events : s'.events = s.events
  attendeeTypes : s'.attendeeTypes = s.attendeeTypes
  registrations : s'.registrations = s.registrations
  devices : s'.devices = s.devices
  offlineKeys : s'.offlineKeys = s.offlineKeys
  related : Related s r
  issued : ∃ qr, Issued s r qr s' q
  /-- The mapping with its registration and its canonical token. -/
  linked : m ∈ s.mappings.rows → row.eventId = m.eventId ∧ row.offlineQrToken = m.offlineQrToken
  synced : row.status = .SYNCED ∧ row.registrationId = some r.id ∧
    row.canonicalQrTokenId = some q.id
  mappings : ∀ m', m' ∈ s'.mappings.rows ↔ m' ∈ s.mappings.rows ∧ m'.id ≠ m.id ∨ m' = row

/-- The payload of every stored token names it. -/
def NamesTokens (s : Store) : Prop := ∀ q ∈ s.qrTokens.rows, q.payload.tokenId = q.tokenId

theorem issued_tokenId (hc : NamesTokens s) {qr : FormattedQr} {q : QrToken}
    (h : Issued s r qr s' q) : q.payload.tokenId = q.tokenId := by
  rcases h.fresh_payload with hold | ⟨-, hnew⟩
  · exact hc q hold
  · exact hnew

theorem linkMapping_ok (hc : NamesTokens s) (hr : s.registrations.find? r.id = some r)
    {clears : Bool} {out : FormattedQr × Option Id}
    (h : (linkMapping rt m r clears).run (machine rt ch) s = (.ok out, s')) :
    ∃ row q, Linking s m r s' row q := by
  obtain ⟨qr, s₁, hgenerate, hrest⟩ := Prog.run_bind_eq_ok _ h
  obtain ⟨hsame, r', q, hr', hrelated, hissued⟩ := generate_ok hgenerate
  cases Option.some.inj (hr.symm.trans hr')
  obtain ⟨stored, s₂, hstored, hupdate⟩ := Prog.run_bind_eq_ok _ hrest
  rw [call, Prog.run_call] at hstored
  have hfind : (s₁.qrTokens.rows.find? fun x => x.tokenId = qr.payload.tokenId) = some q := by
    cases hfound : s₁.qrTokens.rows.find? fun x => x.tokenId = qr.payload.tokenId with
    | none =>
        have hne := List.find?_eq_none.mp hfound q hissued.stored
        simp [hissued.payload, issued_tokenId hc hissued] at hne
    | some x =>
        have htoken : x.tokenId = qr.payload.tokenId := by simpa using List.find?_some hfound
        rw [hissued.payload, issued_tokenId hc hissued] at htoken
        rw [s₁.qrTokens.eq_of_clash (List.mem_of_find?_eq_some hfound) hissued.stored
          (by simp [clash, htoken])]
  have hcanonical : stored.map (·.token.id) = some q.id := by
    have hview := (tokenView_ok (congrArg Prod.fst hstored)).1
    rw [hfind] at hview
    cases stored with
    | none => cases hview
    | some view => exact congrArg (fun o => o.map QrToken.id) hview
  have hs₂ : s₂ = s₁ := (congrArg Prod.snd hstored).symm
  subst hs₂
  obtain ⟨_, s₃, hcall, hret⟩ := Prog.run_bind_eq_ok _ hupdate
  rw [call, Prog.run_call] at hcall
  rcases Store.updateMapping_cases hcall with ⟨e, he, -⟩ | ⟨row, t, hu, hrow, rfl⟩
  · cases he
  · cases hret
    obtain ⟨old, hold, hid, heq, -, -⟩ := Table.update_eq_done hu
    rw [hcanonical] at heq
    refine ⟨row, q, ⟨hsame.events, hsame.attendeeTypes, hsame.registrations, hsame.devices,
      hsame.offlineKeys, hrelated, ⟨qr, ?_⟩, ?_, ?_, fun m' => ?_⟩⟩
    · exact ⟨hissued.stored, hissued.registration, hissued.active, hissued.payload,
        hissued.fresh_payload, hissued.kept, hissued.new⟩
    · intro hm
      have hsame_row : old = m := by
        rw [← hsame.mappings] at hm
        exact s₂.mappings.eq_of_key hold hm hid
      subst hsame_row
      rw [heq]
      exact ⟨rfl, rfl⟩
    · rw [heq]
      exact ⟨rfl, rfl, rfl⟩
    · rw [Table.mem_update hu, hsame.mappings]
      rfl

/-- The link, remembered and followed by the job of the reconciliation. -/
theorem linkAndReconcile_ok (hc : NamesTokens s) (hr : s.registrations.find? r.id = some r)
    {status : OfflineRegistrationStatus} {locals locals' : LocalRegistrationMap}
    {output : OfflineRegistrationOutput}
    (h : (linkAndReconcile rt status identity batch locals m r).run (machine rt ch) s =
      (.ok ⟨.ok output, locals'⟩, s')) :
    output.registrationId = r.id ∧ ∃ row q, Linking s m r s' row q := by
  obtain ⟨out, s₁, hlink, hrest⟩ := Prog.run_bind_eq_ok _ h
  obtain ⟨row, q, hlinking⟩ := linkMapping_ok hc hr hlink
  simp only [attempt, enqueueOfflineReconciliation, Prog.tryCatch_eq, Prog.bind_eq, Prog.run_bind,
    Prog.run_tryCatch, call, Prog.run_call, machine] at hrest
  cases hrest
  exact ⟨rfl, row, q, hlinking.events, hlinking.attendeeTypes, hlinking.registrations,
    hlinking.devices, hlinking.offlineKeys, hlinking.related,
    hlinking.issued.imp fun _ hi => ⟨hi.stored, hi.registration, hi.active, hi.payload,
      hi.fresh_payload, hi.kept, hi.new⟩, hlinking.linked, hlinking.synced, hlinking.mappings⟩

/-! ## The outcomes -/

/-- An outcome for the registration `r` with the token `q`. -/
structure Outcome (s : Store) (payload : List (String × Json)) (batch : SubmitSyncBatchDto)
    (identity : OfflineIdentity) (r : Registration) (s' : Store) (q : QrToken) : Prop where
  devices : s'.devices = s.devices
  offlineKeys : s'.offlineKeys = s.offlineKeys
  registration : s'.registrations.find? r.id = some r
  stored : q ∈ s'.qrTokens.rows
  tokenOf : q.registrationId = r.id
  linkable : BadgeLinked s' batch.eventId identity r.id ↔ Linkable s batch identity
  linked : Linkable s batch identity → r.eventId = batch.eventId ∧ batch.eventId ≠ "" ∧
    ∃ m a, LinkedTo s' batch.eventId identity m q r a
  attendeeType : identity.verified.payload.attendeeTypeId = r.attendeeTypeId ↔
    ∀ r₀, Answers s payload batch identity r₀ →
      identity.verified.payload.attendeeTypeId = r₀.attendeeTypeId
  token : r.eventId = batch.eventId → (q.eventId = batch.eventId ↔
    ∀ r₀, Answers s payload batch identity r₀ → ∀ q₀ ∈ s.qrTokens.rows,
      q₀.registrationId = r₀.id → q₀.status = .ACTIVE → q₀.eventId = batch.eventId)

/-- A token is one of the event where an active one is kept only for the event. -/
theorem event_iff_of_issued {qr : FormattedQr} {q : QrToken} {eventId : Id}
    (h : Issued s r qr s' q) (hr : r.eventId = eventId) :
    q.eventId = eventId ↔ ∀ q₀ ∈ s.qrTokens.rows, q₀.registrationId = r.id →
      q₀.status = .ACTIVE → q₀.eventId = eventId := by
  constructor
  · intro hq q₀ hq₀ hreg hactive
    rw [← (h.kept q₀ hq₀ hreg).2 hactive]
    exact hq
  · intro hall
    rcases h.fresh_payload with hold | ⟨hevent, -⟩
    · exact hall q hold h.registration h.active
    · exact hevent.trans hr

/-- The event of a registration has an id. -/
theorem Consistent.eventId_ne (hc : Consistent s) (h : Related s r) : r.eventId ≠ "" := by
  obtain ⟨e, he⟩ := h.event
  obtain ⟨hmem, hid⟩ := Table.find?_eq_some_iff.mp he
  have heid : e.id = r.eventId := hid
  exact heid ▸ hc.eventIds e hmem

/-- The linked registration is the answer. -/
theorem Printed.answers_iff (hp : Printed s identity m r) {r₀ : Registration} :
    Answers s payload batch identity r₀ ↔ r₀ = r := by
  constructor
  · rintro (⟨m₀, h₀⟩ | ⟨hnone, -⟩)
    · exact (h₀.unique hp).2
    · exact absurd ⟨m, r, hp⟩ hnone
  · rintro rfl
    exact .inl ⟨m, hp⟩

/-- A badge that is linked after `generate` had a complete mapping before. -/
theorem linkable_of_linked (hc : Consistent s) (hp : Printed s identity m r) {qr : FormattedQr}
    {q : QrToken} (hsame : SameRows s s') (hissued : Issued s r qr s' q)
    (hb : BadgeLinked s' batch.eventId identity r.id) : Linkable s batch identity := by
  refine ⟨fun m₀ r₀ h₀ => ?_, fun hnone => absurd ⟨m, r, hp⟩ hnone⟩
  obtain ⟨m', hm', htoken, hstatus, -, q', hq', hcanonical, hreg, -⟩ := hb.mapping
  obtain ⟨r', hr', hid, hevent⟩ := hb.event
  rw [hsame.mappings] at hm'
  rw [hsame.registrations] at hr'
  obtain ⟨rfl, rfl⟩ := h₀.unique hp
  have hm : m' = m₀ := by
    apply s.mappings.eq_of_clash hm' hp.mapping
    simp [clash, htoken, hp.token]
  subst hm
  have hr : r' = r₀ := s.registrations.eq_of_key hr' hp.registration hid
  have hq : q' = q := token_unique hq' hissued.stored (hreg.trans hissued.registration.symm)
  obtain ⟨q₁, hq₁, hid₁⟩ := hc.mappingToken m' hm' q'.id hcanonical
  refine ⟨hstatus, hr ▸ hevent, ?_⟩
  by_cases hany : ∃ q₀ ∈ s.qrTokens.rows, q₀.registrationId = r₀.id
  · obtain ⟨q₀, hq₀, hreg₀⟩ := hany
    exact ⟨q₀, hq₀, hreg₀, by rw [hcanonical, hq, (hissued.kept q₀ hq₀ hreg₀).1]⟩
  · refine absurd ?_ (hissued.new (fun q₀ hq₀ hreg₀ => hany ⟨q₀, hq₀, hreg₀⟩) q₁ hq₁)
    rw [hid₁, hq]

/-- The mapping of a complete badge, after `generate`. -/
theorem linkedTo_of_linkable (hc : Consistent s) (hp : Printed s identity m r) {qr : FormattedQr}
    {q : QrToken} (hsame : SameRows s s') (hrelated : Related s r) (hissued : Issued s r qr s' q)
    (hm : m.eventId = batch.eventId) (hl : Linkable s batch identity) :
    ∃ a, LinkedTo s' batch.eventId identity m q r a := by
  obtain ⟨hstatus, -, q₀, hq₀, hreg, hcanonical⟩ := hl.linked m r hp
  obtain ⟨a, ha⟩ := hrelated.attendeeType
  refine ⟨a, ?_, hp.token, hm, hstatus, hp.registrationId, ?_, hissued.stored, hissued.registration,
    hissued.active, ?_, hc.registrationIds r hp.registration, ?_⟩
  · rw [hsame.mappings]
    exact hp.mapping
  · rw [hcanonical, (hissued.kept q₀ hq₀ hreg).1]
  · rw [hsame.registrations]
    exact Table.find?_eq_some_iff.mpr ⟨hp.registration, rfl⟩
  · rw [hsame.attendeeTypes]
    exact ha

/-- The answer to an operation whose registration is linked. -/
theorem answerSynced_ok (hc : Consistent s) (hp : Printed s identity m r)
    (hm : m.eventId = batch.eventId) {locals locals' : LocalRegistrationMap}
    {output : OfflineRegistrationOutput}
    (h : (answerSynced rt locals identity m r).run (machine rt ch) s =
      (.ok ⟨.ok output, locals'⟩, s')) :
    output.registrationId = r.id ∧ ∃ q, Outcome s payload batch identity r s' q := by
  have hrun : ∃ qr, (generate rt r.id).run (machine rt ch) s = (.ok qr, s') ∧
      output.registrationId = r.id := by
    simp only [answerSynced, attempt, Prog.tryCatch_eq, Prog.bind_eq, Prog.run_tryCatch,
      Prog.run_bind] at h
    cases hgenerate : (generate rt r.id).run (machine rt ch) s with
    | mk result s₁ =>
        rw [hgenerate] at h
        cases result with
        | error e => cases h
        | ok qr =>
            cases h
            exact ⟨qr, rfl, rfl⟩
  obtain ⟨qr, hgenerate, hid⟩ := hrun
  obtain ⟨hsame, r', q, hr', hrelated, hissued⟩ := generate_ok hgenerate
  have hr : s.registrations.find? r.id = some r :=
    Table.find?_eq_some_iff.mpr ⟨hp.registration, rfl⟩
  cases Option.some.inj (hr.symm.trans hr')
  have hlinked : Linkable s batch identity → ∃ a, LinkedTo s' batch.eventId identity m q r a :=
    linkedTo_of_linkable hc hp hsame hrelated hissued hm
  have hevent : Linkable s batch identity → r.eventId = batch.eventId :=
    fun hl => (hl.linked m r hp).2.1
  refine ⟨hid, q, hsame.devices, hsame.offlineKeys, hsame.registrations ▸ hr, hissued.stored,
    hissued.registration, ⟨linkable_of_linked hc hp hsame hissued, fun hl => ?_⟩, fun hl => ?_,
    ?_, fun he => ?_⟩
  · obtain ⟨a, ha⟩ := hlinked hl
    exact ha.linked (hevent hl)
  · obtain ⟨a, ha⟩ := hlinked hl
    exact ⟨hevent hl, hevent hl ▸ hc.eventId_ne hrelated, m, a, ha⟩
  · simp only [hp.answers_iff, forall_eq]
  · simp only [hp.answers_iff, forall_eq]
    exact event_iff_of_issued hissued he

/-- The registration answers the operation, or nothing did and it was created for it. -/
def Recovered (s : Store) (payload : List (String × Json)) (batch : SubmitSyncBatchDto)
    (identity : OfflineIdentity) (r : Registration) : Prop :=
  (∀ r₀, Answers s payload batch identity r₀ ↔ r₀ = r) ∨
    (∀ r₀, ¬ Answers s payload batch identity r₀) ∧
      identity.verified.payload.attendeeTypeId = r.attendeeTypeId ∧
        ∀ q₀ ∈ s.qrTokens.rows, q₀.registrationId ≠ r.id

/-- The outcome of a link that follows the upsert of the mapping. -/
theorem outcome_of_linking (hc : Consistent s) (hnone : ¬ IsLinked s identity)
    {t : Table OfflineRegistrationMapping} (ho : Opened s batch identity m t) {s₁ : Store}
    {row : OfflineRegistrationMapping} {q : QrToken} (hlink : Linking s₁ m r s' row q)
    (hmappings : s₁.mappings = t) (hqr : s₁.qrTokens = s.qrTokens) (hevents : s₁.events = s.events)
    (hdevices : s₁.devices = s.devices) (hkeys : s₁.offlineKeys = s.offlineKeys)
    (hr : s₁.registrations.find? r.id = some r) (hne : r.id ≠ "") (hevent : r.eventId = batch.eventId)
    (hrecovered : Recovered s payload batch identity r) :
    Outcome s payload batch identity r s' q := by
  obtain ⟨qr, hissued⟩ := hlink.issued
  obtain ⟨hroweq, hrowtoken⟩ := hlink.linked (hmappings ▸ ho.stored)
  obtain ⟨hstatus, hrow, hcanonical⟩ := hlink.synced
  obtain ⟨e, he⟩ := hlink.related.event
  obtain ⟨a, ha⟩ := hlink.related.attendeeType
  have hregistration : s'.registrations.find? r.id = some r := hlink.registrations ▸ hr
  have hlinked : Linkable s batch identity → LinkedTo s' batch.eventId identity row q r a :=
    fun hl => ⟨(hlink.mappings row).mpr (.inr rfl),
      hrowtoken.trans (ho.token.mpr (hl.own hnone)), hroweq.trans ho.event, hstatus, hrow, hcanonical,
      hissued.stored, hissued.registration, hissued.active, hregistration, hne,
      hlink.attendeeTypes ▸ ha⟩
  have hevent_ne : batch.eventId ≠ "" := by
    rw [hevents] at he
    obtain ⟨hmem, hid⟩ := Table.find?_eq_some_iff.mp he
    have heid : e.id = batch.eventId := hid.trans hevent
    exact heid ▸ hc.eventIds e hmem
  refine ⟨hlink.devices.trans hdevices, hlink.offlineKeys.trans hkeys, hregistration,
    hissued.stored, hissued.registration, ⟨fun hb => ?_, fun hl => (hlinked hl).linked hevent⟩,
    fun hl => ⟨hevent, hevent_ne, row, a, hlinked hl⟩, ?_, fun _ => ?_⟩
  · refine ⟨fun m₀ r₀ h₀ => absurd ⟨m₀, r₀, h₀⟩ hnone, fun _ => ho.token.mp ?_⟩
    obtain ⟨m', hm', htoken, -, hreg, -⟩ := hb.mapping
    rcases (hlink.mappings m').mp hm' with ⟨hold, hid⟩ | rfl
    · obtain ⟨r₀, hprinted, -⟩ := hc.printed (ho.others m' (hmappings ▸ hold) hid) htoken hreg
      exact absurd ⟨m', r₀, hprinted⟩ hnone
    · exact hrowtoken.symm.trans htoken
  · rcases hrecovered with hiff | ⟨hno, htype, -⟩
    · simp only [hiff, forall_eq]
    · exact iff_of_true htype fun r₀ h₀ => absurd h₀ (hno r₀)
  · have hiff := event_iff_of_issued hissued hevent
    rw [hqr] at hiff
    rw [hiff]
    rcases hrecovered with hanswers | ⟨hno, -, hfresh⟩
    · simp only [hanswers, forall_eq]
    · exact iff_of_true (fun q₀ hq₀ hreg => absurd hreg (hfresh q₀ hq₀))
        fun r₀ h₀ => absurd h₀ (hno r₀)

/-- The registration with the external id of the operation is unique. -/
theorem answers_iff_of_externalId (hnone : ¬ IsLinked s identity) (hr : r ∈ s.registrations.rows)
    (hevent : r.eventId = batch.eventId)
    (hexternal : r.externalId = some (operationExternalId payload identity)) {r₀ : Registration} :
    Answers s payload batch identity r₀ ↔ r₀ = r := by
  constructor
  · rintro (⟨m₀, h₀⟩ | ⟨-, hmem, hevent₀, hexternal₀⟩)
    · exact absurd ⟨m₀, r₀, h₀⟩ hnone
    · apply s.registrations.eq_of_clash hmem hr
      simp [clash, sameKey, hevent, hevent₀, hexternal, hexternal₀]
  · rintro rfl
    exact .inr ⟨hnone, hr, hevent, hexternal⟩

theorem registrationDto_ok {dto : CreateRegistrationDto} (h : registrationDto payload batch = .ok dto) :
    dto.eventId = batch.eventId ∧ getString payload "attendeeTypeId" = .ok dto.attendeeTypeId := by
  simp only [registrationDto, bind, Except.bind] at h
  split at h
  · cases h
  · next attendeeTypeId htype =>
      split at h
      · cases h
      · split at h
        · cases h
        · cases h
          exact ⟨rfl, htype⟩

/-- A registration that is created for the operation. -/
theorem createRegistration_ok {row : Registration}
    (h : (createRegistration rt payload batch m).run (machine rt ch) s = (.ok row, s')) :
    RegistrationsService.OnlyRegisters s s' ∧ row.id = fresh s.registrations.serial ∧
      row.eventId = batch.eventId ∧ getString payload "attendeeTypeId" = .ok row.attendeeTypeId ∧
        row ∈ s'.registrations.rows := by
  simp only [createRegistration, Prog.tryCatch_eq] at h
  rw [Prog.run_tryCatch] at h
  split at h
  · next row' s₁ hbody =>
      cases h
      obtain ⟨dto, s₂, hdto, hcreate⟩ := Prog.run_bind_eq_ok _ hbody
      obtain ⟨hread, rfl⟩ := Prog.run_ofExcept_eq_ok _ hdto
      obtain ⟨registration, s₃, hnormal, hnormalized⟩ := Prog.run_bind_eq_ok _ hcreate
      obtain ⟨hcolumns, rfl⟩ := Prog.run_ofExcept_eq_ok _ hnormal
      obtain ⟨honly, hcreated⟩ := RegistrationsService.createNormalized_ok hnormalized
      obtain ⟨hevent, htype⟩ := RegistrationsService.normalizeCreateDto_ok hcolumns
      obtain ⟨hdtoevent, hdtotype⟩ := registrationDto_ok hread
      refine ⟨honly, hcreated.key, ?_, ?_, (hcreated.rows _).mpr (.inr rfl)⟩
      · rw [hcreated.event, hevent, hdtoevent]
      · rw [hcreated.attendeeType, htype, hdtotype]
  · next e s₁ hbody =>
      obtain ⟨_, s₂, -, hthrow⟩ := Prog.run_bind_eq_ok _ h
      cases hthrow

/-- The outcome for an operation whose registration is not linked. -/
theorem registerOffline_ok (hc : Consistent s) (hk : Checked rt s payload batch identity)
    (hfound : ¬ IsLinked s identity ∨
      ∀ m ∈ s.mappings.rows, ¬ (existingWhere batch identity).holds m = true)
    {locals locals' : LocalRegistrationMap} {output : OfflineRegistrationOutput}
    (h : (registerOffline rt payload batch locals identity).run (machine rt ch) s =
      (.ok ⟨.ok output, locals'⟩, s')) :
    ∃ r q, output.registrationId = r.id ∧ Outcome s payload batch identity r s' q := by
  obtain ⟨m, s₁, hupsert, hrest⟩ := Prog.run_bind_eq_ok _ h
  rw [call, Prog.run_call] at hupsert
  obtain ⟨t, rfl, hopened, hown⟩ := mappingUpsert_ok hupsert
  have hnone : ¬ IsLinked s identity := by
    rcases hown with ⟨hmem, hop⟩ | hnone
    · rcases hfound with hnone | hno
      · exact hnone
      · exact absurd (holds_of_ofOperation hop) (hno m hmem)
    · exact hnone
  obtain ⟨found, s₂, hfirst, hrest⟩ := Prog.run_bind_eq_ok _ hrest
  rw [call, Prog.run_call] at hfirst
  cases hfirst
  cases hlookup : ch.first (s.registrations.rows.filter (RegistrationWhere.holds {
      eventId := batch.eventId, externalId := some (operationExternalId payload identity) })) with
  | some r =>
      simp only [hlookup] at hrest
      obtain ⟨hmem, hholds⟩ := List.mem_filter.mp (Choice.first_mem hlookup)
      simp only [RegistrationWhere.holds, sameKey, Option.isSome_none, Option.isSome_some,
        Bool.false_and, Bool.true_and, Bool.false_or, Bool.and_eq_true, beq_iff_eq] at hholds
      have hr : ({ s with mappings := t } : Store).registrations.find? r.id = some r :=
        Table.find?_eq_some_iff.mpr ⟨hmem, rfl⟩
      have hnames : NamesTokens { s with mappings := t } := hc.tokenPayload
      obtain ⟨hid, row, q, hlink⟩ := linkAndReconcile_ok hnames hr hrest
      have hrecovered : Recovered s payload batch identity r :=
        .inl fun r₀ => answers_iff_of_externalId hnone hmem hholds.1 hholds.2.symm
      exact ⟨r, q, hid, outcome_of_linking hc hnone hopened hlink rfl rfl rfl rfl rfl hr
        (hc.registrationIds r hmem) hholds.1 hrecovered⟩
  | none =>
      simp only [hlookup] at hrest
      have hempty := Choice.first_eq_none.mp hlookup
      obtain ⟨r, s₂, hcreate, hrest⟩ := Prog.run_bind_eq_ok _ hrest
      obtain ⟨honly, hkey, hevent, htype, hmem⟩ := createRegistration_ok hcreate
      have hr : s₂.registrations.find? r.id = some r := Table.find?_eq_some_iff.mpr ⟨hmem, rfl⟩
      have hnames : NamesTokens s₂ := by
        intro q hq
        rw [honly.qrTokens] at hq
        exact hc.tokenPayload q hq
      obtain ⟨hid, row, q, hlink⟩ := linkAndReconcile_ok hnames hr hrest
      refine ⟨r, q, hid, outcome_of_linking hc hnone hopened hlink honly.mappings honly.qrTokens
        honly.events honly.devices honly.offlineKeys hr ?_ hevent (.inr ⟨fun r₀ h₀ => ?_, ?_, ?_⟩)⟩
      · rw [hkey]
        simp [fresh]
      · rcases h₀ with ⟨m₀, h₀⟩ | ⟨-, hmem₀, hevent₀, hexternal₀⟩
        · exact hnone ⟨m₀, r₀, h₀⟩
        · apply List.not_mem_nil (a := r₀)
          rw [← hempty]
          apply List.mem_filter.mpr
          simp [RegistrationWhere.holds, sameKey, hmem₀, hevent₀, hexternal₀]
      · exact Except.ok.inj (hk.attendeeTypeId_eq.symm.trans htype)
      · intro q₀ hq₀ hreg
        obtain ⟨r₀, hr₀, hid₀⟩ := hc.tokenRegistration q₀ hq₀
        apply s.registrations.key_ne_fresh hr₀ (Nat.le_refl _)
        exact (hid₀.trans hreg).trans hkey

/-- Every normal return has an outcome. -/
theorem runOfflineRegistration_ok (hc : Consistent s)
    (hi : (readIdentity rt payload batch).run (machine rt ch) s = (.ok identity, s))
    {locals locals' : LocalRegistrationMap} {output : OfflineRegistrationOutput}
    (h : (runOfflineRegistration rt payload batch locals).run (machine rt ch) s =
      (.ok ⟨.ok output, locals'⟩, s')) :
    ∃ r q, output.registrationId = r.id ∧ Outcome s payload batch identity r s' q := by
  obtain ⟨-, hk⟩ := readIdentity_ok hi
  simp only [runOfflineRegistration, attemptFrom, Prog.tryCatch_eq, Prog.bind_eq] at h
  rw [Prog.run_tryCatch, Prog.run_bind_ok _ hi] at h
  split at h
  · next a s₁ hbody =>
      cases h
      obtain ⟨found, s₁, hfind, hrest⟩ := Prog.run_bind_eq_ok _ hbody
      obtain ⟨rfl, hsome, hnone⟩ := findSynced_ok hc hfind
      cases found with
      | some found =>
          obtain ⟨hp, hm⟩ := hsome found.1 found.2 rfl
          obtain ⟨hid, q, ho⟩ := answerSynced_ok hc hp hm hrest
          exact ⟨found.2, q, hid, ho⟩
      | none => exact registerOffline_ok hc hk (hnone rfl) hrest
  · cases h

/-- The offline registration of the sample card, on its own. -/
def sampleRun (s : Store) : Except Exn (Attempt OfflineRegistrationOutput) × Store :=
  (runOfflineRegistration sampleRuntime (Persons.sampleRegistration []).payload
    (sampleBatch "batch-1" []) []).run (machine sampleRuntime {}) s

/-- The checks of the sample card. -/
def sampleIdentity (s : Store) : Except Exn OfflineIdentity :=
  ((readIdentity sampleRuntime (Persons.sampleRegistration []).payload
    (sampleBatch "batch-1" [])).run (machine sampleRuntime {}) s).1

/-- The sample card was refused once, with another payload, after its registration. -/
def refusedStore : Store :=
  { sampleStore with
    mappings := .ofData [{ sampleMapping "O2.card" "reg-1" with
      offlineRegistrationId := "local-1"
      payloadHash := "{:,:,:,:,:,:,:,:,:,:}"
      status := .CONFLICTED }] }

theorem sampleIdentity_run {s : Store} {identity : OfflineIdentity}
    (h : sampleIdentity s = .ok identity) :
    (readIdentity sampleRuntime (Persons.sampleRegistration []).payload
      (sampleBatch "batch-1" [])).run (machine sampleRuntime {}) s = (.ok identity, s) := by
  have hrun : (readIdentity sampleRuntime (Persons.sampleRegistration []).payload
      (sampleBatch "batch-1" [])).run (machine sampleRuntime {}) s = (.ok identity, _) :=
    Prod.ext h rfl
  have hsame := (readIdentity_ok hrun).1
  rw [hrun, hsame]

/-- The references of the rows of a small store. -/
theorem consistent_of_all {s : Store}
    (h : ((s.events.rows.all fun e => e.id ≠ "") && (s.registrations.rows.all fun r => r.id ≠ "") &&
      (s.qrTokens.rows.all fun q => q.payload.tokenId = q.tokenId &&
        s.registrations.rows.any fun r => r.id = q.registrationId) &&
      (s.mappings.rows.all fun m =>
        (m.registrationId.all fun k => s.registrations.rows.any fun r => r.id = k) &&
          m.canonicalQrTokenId.all fun k => s.qrTokens.rows.any fun q => q.id = k)) = true) :
    Consistent s := by
  simp only [Bool.and_eq_true, List.all_eq_true, List.any_eq_true, decide_eq_true_eq,
    Option.all_eq_true] at h
  obtain ⟨⟨⟨hevents, hregistrations⟩, hqr⟩, hmappings⟩ := h
  exact ⟨hevents, hregistrations, fun q hq => (hqr q hq).2, fun q hq => (hqr q hq).1,
    fun m hm => (hmappings m hm).1, fun m hm => (hmappings m hm).2⟩

end Badges

end CreativeBackend
