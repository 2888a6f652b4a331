import CreativeBackend.Qr.JsonPrinter
import CreativeBackend.Qr.OfflineParsing
import CreativeBackend.Sync.BadgeOutcomes

/-!
# Payload conflicts

An offline registration and an offline scan are stored with the hash of the payload that their
badge carried. What is submitted again under the same identity conflicts if and only if its badge
carries another value.
-/

namespace CreativeBackend

open Relational Interaction SyncService ScansService Badges

/-- `JSON.parse` gives no object two properties of one name. -/
def ParsesWellFormed (rt : Runtime) : Prop :=
  ∀ text j, rt.jsonParse text = some j → j.WellFormed

variable {rt : Runtime} {ch : Choice} {s : Store}

/-! ## Payloads that were read -/

/-- Normalising keeps a payload well formed. -/
theorem wellFormed_normalize {raw payload : Json} (hraw : raw.WellFormed)
    (h : normalizeOfflineQrPayload rt raw = .ok payload) : payload.WellFormed := by
  rcases OfflineParsing.normalize_ok_iff.mp h with ⟨fields, rfl, rfl⟩ | ⟨b, rfl, rfl⟩
  · exact hraw
  · rw [OfflineParsing.CompactBadge.object, Json.wellFormed_obj]
    refine ⟨by simp, ?_⟩
    simp [Json.WellFormed]

/-- A payload that was read is well formed, and its hash is stored beside it. -/
theorem wellFormed_parsed (hparse : ParsesWellFormed rt) {signedOfflineQr : String}
    {parsed : ParsedOfflineQr} (h : parseSignedOfflineQr rt signedOfflineQr = .ok parsed) :
    parsed.payload.WellFormed ∧ parsed.payloadHash = hashPayload rt parsed.payload := by
  unfold parseSignedOfflineQr at h
  split at h
  · cases h
  · split at h
    · cases h
    · next raw hraw =>
        split at h
        · cases h
        · next payload hnormal =>
            cases h
            exact ⟨wellFormed_normalize (hparse _ _ hraw) hnormal, rfl⟩

/-! ## Offline registrations -/

/-- The mapping was opened for a badge with the payload. -/
structure OpenedFor (rt : Runtime) (m : OfflineRegistrationMapping) (payload : Json) : Prop where
  hash : m.payloadHash = hashPayload rt payload
  token : payload.string? "offlineQrToken" = some m.offlineQrToken

/-- `OFFLINE_REGISTRATION_CONFLICT`. -/
def registrationConflict : Exn := .conflict "OFFLINE_REGISTRATION_CONFLICT"

theorem string?_of_value_eq {a b : Json} (h : a.value = b.value) (k : String) :
    a.string? k = b.string? k := by
  rw [← Json.string?_value, ← Json.string?_value, h]

variable (rt ch) in
theorem run_conflictedPatch {m : OfflineRegistrationMapping} (hm : m ∈ s.mappings.rows) :
    ∃ row s', (call (.mappingUpdate m.id conflictedPatch)).run (machine rt ch) s =
      (.ok row, s') := by
  obtain ⟨t, hupdate⟩ := Table.exists_update (f := Store.applyMappingPatch s.clock conflictedPatch)
    hm fun b _ => ⟨rfl, rfl⟩
  have hanswer : s.updateMapping m.id conflictedPatch =
      (.ok (withKey (key m) (Store.applyMappingPatch s.clock conflictedPatch m)),
        { s with mappings := t }) := by
    have hrefs : (Store.refersOpt s.registrations conflictedPatch.registrationId &&
        Store.refersOpt s.qrTokens conflictedPatch.canonicalQrTokenId) = true := rfl
    have hsame : s.mappings.update m.id (Store.applyMappingPatch s.clock conflictedPatch) = _ :=
      hupdate
    rw [Store.updateMapping, if_pos hrefs, hsame]
  exact ⟨_, _, (Prog.run_call _ _ s).trans hanswer⟩

/-- What is compared with the mapping differs if and only if the payloads do. -/
theorem compared_ne_iff (hp : PrintsScalars rt.jsonStringify)
    (hsha : Function.Injective rt.sha256Hex) (hparse : ParsesWellFormed rt)
    {payload : List (String × Json)} {batch : SubmitSyncBatchDto} {identity : OfflineIdentity}
    (hchecked : Checked rt s payload batch identity) {m : OfflineRegistrationMapping} {opened : Json}
    (hopened : opened.WellFormed) (hm : OpenedFor rt m opened) :
    (m.offlineQrToken ≠ identity.offlineQrToken ∨
        m.payloadHash ≠ identity.verified.parsed.payloadHash) ↔
      opened.value ≠ identity.verified.parsed.payload.value := by
  obtain ⟨hparsed, hasserted⟩ := readOfflineQr_ok rt hchecked.read
  obtain ⟨hwf, hhash⟩ := wellFormed_parsed hparse hparsed
  have htoken : identity.verified.parsed.payload.string? "offlineQrToken" =
      some identity.offlineQrToken := by
    rw [(assertOfflineQrPayload_ok rt hasserted).1, hchecked.offlineQrToken_eq]
  rw [hm.hash, hhash, Ne, Ne, Ne, hashPayload_eq_iff hp hsha hopened hwf]
  constructor
  · rintro (hne | hne) hvalue
    · have hsame := string?_of_value_eq hvalue "offlineQrToken"
      rw [hm.token, htoken] at hsame
      exact hne (Option.some.inj hsame)
    · exact hne hvalue
  · exact .inr

/-- The lookup of an offline registration conflicts with the mapping it finds if and only if the
badge carries another payload than the one the mapping was opened for. -/
theorem findSynced_conflict_iff (hp : PrintsScalars rt.jsonStringify)
    (hsha : Function.Injective rt.sha256Hex) (hparse : ParsesWellFormed rt)
    {payload : List (String × Json)} {batch : SubmitSyncBatchDto} {identity : OfflineIdentity}
    (hchecked : Checked rt s payload batch identity) {m : OfflineRegistrationMapping}
    (hfound : ch.first (s.mappings.rows.filter (existingWhere batch identity).holds) = some m)
    {opened : Json} (hopened : opened.WellFormed) (hm : OpenedFor rt m opened) :
    ((findSynced batch identity).run (machine rt ch) s).1 = .error registrationConflict ↔
      opened.value ≠ identity.verified.parsed.payload.value := by
  have hmem : m ∈ s.mappings.rows := (List.mem_filter.mp (Choice.first_mem hfound)).1
  have hread : (call (.mappingExisting (existingWhere batch identity))).run (machine rt ch) s =
      (.ok (some m), s) := by
    rw [← hfound]
    rfl
  have hcompared := compared_ne_iff hp hsha hparse hchecked hopened hm
  have hstart : (findSynced batch identity).run (machine rt ch) s = _ := Prog.run_bind_ok _ hread _
  rw [hstart, ← hcompared]
  by_cases hne : m.offlineQrToken ≠ identity.offlineQrToken ∨
      m.payloadHash ≠ identity.verified.parsed.payloadHash
  · simp only [hne, if_true, iff_true]
    obtain ⟨row, s', hwrite⟩ := run_conflictedPatch rt ch hmem
    rw [Prog.bind_eq, Prog.run_bind_ok _ hwrite]
    rfl
  · simp only [hne, if_false, iff_false]
    cases hlink : truthy m.registrationId with
    | none =>
        intro hcontra
        cases hcontra
    | some registrationId =>
        have hregistration : (call (.registrationById registrationId)).run (machine rt ch) s =
            (.ok (s.registrations.find? registrationId), s) := rfl
        dsimp only
        rw [Prog.bind_eq, Prog.run_bind_ok _ hregistration]
        cases s.registrations.find? registrationId <;>
        · intro hcontra
          cases hcontra

/-! ## Offline scans -/

/-- The reply that a scan was submitted with another payload. -/
def OfflineScanReply.isConflict : OfflineScanReply → Bool
  | .conflict _ => true
  | _ => false

theorem processOfflineScanOperation_gives (id : Id) :
    (processOfflineScanOperation rt id).Gives (·.isConflict = false) := by
  have hsettle : ∀ x existing,
      (settleNew rt x existing).Gives (·.isConflict = false) := by
    intro x existing
    refine Prog.gives_bind fun context => ?_
    cases context with
    | none => rfl
    | some context =>
        refine Prog.gives_bind fun event => Prog.gives_bind fun _ => Prog.gives_bind fun session => ?_
        refine Prog.gives_bind fun checkpoint => Prog.gives_bind fun reason => ?_
        refine Prog.gives_bind fun written => ?_
        exact Prog.gives_bind fun updated => Prog.gives_bind fun _ => rfl
  refine Prog.gives_bind fun found => ?_
  cases found with
  | none => trivial
  | some x =>
      dsimp only
      split
      · rfl
      · refine Prog.gives_bind fun existing => ?_
        cases existing with
        | none => exact hsettle x none
        | some existing =>
            dsimp only
            split
            · exact hsettle x (some existing)
            · exact Prog.gives_bind fun _ => rfl

theorem ingestOfflineExisting_gives {input : OfflineScanInput} {verified : VerifiedOfflineQr}
    {existing : OfflineScanOperation}
    (h : ¬ (truthy existing.qrPayloadHash).any (· ≠ verified.parsed.payloadHash) = true)
    (registrationId : Option Id) :
    (ingestOfflineExisting rt input verified existing registrationId).Gives
      (·.isConflict = false) := by
  simp only [ingestOfflineExisting, if_neg h]
  cases registrationId with
  | none =>
      dsimp only
      split <;> rfl
  | some registrationId =>
      dsimp only
      split
      · exact Prog.gives_bind fun _ => processOfflineScanOperation_gives existing.id
      · rfl

variable (rt ch) in
theorem run_conflictPatch {x : OfflineScanOperation} (hx : x ∈ s.offlineScans.rows) :
    ∃ row s', (call (.offlineScanUpdate x.id conflictPatch)).run (machine rt ch) s =
      (.ok row, s') := by
  obtain ⟨t, hupdate⟩ := Table.exists_update (f := Store.applyOfflinePatch s.clock conflictPatch)
    hx fun b _ => ⟨rfl, rfl⟩
  have hanswer : s.updateOfflineScan x.id conflictPatch =
      (.ok (withKey (key x) (Store.applyOfflinePatch s.clock conflictPatch x)),
        { s with offlineScans := t }) := by
    have hrefs : (Store.refersOpt s.registrations (conflictPatch.registrationId.getD none) &&
        Store.refersOpt s.movements conflictPatch.movementId &&
        Store.refersOpt s.rawScans conflictPatch.scanEventRawId &&
        Store.refersOpt s.staffSessions (conflictPatch.staffSessionId.getD none)) = true := rfl
    have hsame : s.offlineScans.update x.id (Store.applyOfflinePatch s.clock conflictPatch) = _ :=
      hupdate
    rw [Store.updateOfflineScan, if_pos hrefs, hsame]
  exact ⟨_, _, (Prog.run_call _ _ s).trans hanswer⟩

/-- A scan that is stored already conflicts if and only if its badge carries another payload than
the one whose hash is stored. -/
theorem ingestOfflineExisting_conflict_iff (hp : PrintsScalars rt.jsonStringify)
    (hsha : Function.Injective rt.sha256Hex) (hdigest : ∀ text, rt.sha256Hex text ≠ "")
    (hparse : ParsesWellFormed rt) {input : OfflineScanInput} {verified : VerifiedOfflineQr}
    (hverified : parseSignedOfflineQr rt input.signedOfflineQr = .ok verified.parsed)
    {existing : OfflineScanOperation} (hmem : existing ∈ s.offlineScans.rows) {stored : Json}
    (hstored : stored.WellFormed) (hhash : existing.qrPayloadHash = some (hashPayload rt stored))
    (registrationId : Option Id) :
    (∃ reply, ((ingestOfflineExisting rt input verified existing registrationId).run
        (machine rt ch) s).1 = .ok reply ∧ reply.isConflict = true) ↔
      stored.value ≠ verified.parsed.payload.value := by
  obtain ⟨hwf, hparsed⟩ := wellFormed_parsed hparse hverified
  have hcompared : (truthy existing.qrPayloadHash).any (· ≠ verified.parsed.payloadHash) = true ↔
      stored.value ≠ verified.parsed.payload.value := by
    have hne : hashPayload rt stored ≠ "" := hdigest _
    rw [hhash, hparsed, truthy, if_neg hne, Option.any_some, decide_eq_true_eq, Ne, Ne,
      hashPayload_eq_iff hp hsha hstored hwf]
  rw [← hcompared]
  by_cases hdiffers : (truthy existing.qrPayloadHash).any (· ≠ verified.parsed.payloadHash) = true
  · obtain ⟨row, s', hwrite⟩ := run_conflictPatch rt ch hmem
    simp only [ingestOfflineExisting, if_pos hdiffers]
    rw [Prog.bind_eq, Prog.run_bind_ok _ hwrite]
    exact iff_of_true ⟨_, rfl, rfl⟩ hdiffers
  · refine iff_of_false ?_ hdiffers
    rintro ⟨reply, hreply, hconflict⟩
    have hno : reply.isConflict = false :=
      (ingestOfflineExisting_gives hdiffers registrationId).of_run _ (Prod.ext hreply rfl)
    rw [hno] at hconflict
    cases hconflict

/-! ## Both comparisons -/

/-- The mapping that an offline registration writes is opened for the payload of its badge. -/
theorem openedFor_mappingData (hparse : ParsesWellFormed rt) {payload : List (String × Json)}
    {batch : SubmitSyncBatchDto} {identity : OfflineIdentity}
    (hchecked : Checked rt s payload batch identity) :
    OpenedFor rt (mappingData batch identity) identity.verified.parsed.payload where
  hash := (wellFormed_parsed hparse (readOfflineQr_ok rt hchecked.read).1).2
  token := by
    obtain ⟨-, hasserted⟩ := readOfflineQr_ok rt hchecked.read
    rw [(assertOfflineQrPayload_ok rt hasserted).1, hchecked.offlineQrToken_eq]
    rfl

variable (rt) in
/-- Two payloads are hashed alike if and only if they are one value. A badge of an offline
registration conflicts with the mapping that is found for it if and only if the mapping was opened
for another value, and the badge of a stored offline scan conflicts if and only if the scan was
stored with another value. -/
theorem payload_hash_identifies (hp : PrintsScalars rt.jsonStringify)
    (hsha : Function.Injective rt.sha256Hex) (hdigest : ∀ text, rt.sha256Hex text ≠ "")
    (hparse : ParsesWellFormed rt) :
    (∀ a b : Json, a.WellFormed → b.WellFormed →
      (stableStringify rt a = stableStringify rt b ↔ a.value = b.value)) ∧
    (∀ (ch : Choice) (s : Store) (payload : List (String × Json)) (batch : SubmitSyncBatchDto)
        (identity : OfflineIdentity),
      (readIdentity rt payload batch).run (machine rt ch) s = (.ok identity, s) →
      OpenedFor rt (mappingData batch identity) identity.verified.parsed.payload ∧
      ∀ (m : OfflineRegistrationMapping) (opened : Json),
        ch.first (s.mappings.rows.filter (existingWhere batch identity).holds) = some m →
        opened.WellFormed → OpenedFor rt m opened →
        (((findSynced batch identity).run (machine rt ch) s).1 = .error registrationConflict ↔
          opened.value ≠ identity.verified.parsed.payload.value)) ∧
    ∀ (ch : Choice) (s : Store) (input : OfflineScanInput) (verified : VerifiedOfflineQr),
      (verifySignedOfflineQr rt input.signedOfflineQr (some input.eventId)).run (machine rt ch) s =
        (.ok verified, s) →
      (∀ token registrationId, (offlineScanData rt input token verified registrationId).qrPayloadHash =
        some (hashPayload rt verified.parsed.payload)) ∧
      ∀ existing ∈ s.offlineScans.rows, ∀ (stored : Json) (registrationId : Option Id),
        stored.WellFormed → existing.qrPayloadHash = some (hashPayload rt stored) →
        ((∃ reply, ((ingestOfflineExisting rt input verified existing registrationId).run
            (machine rt ch) s).1 = .ok reply ∧ reply.isConflict = true) ↔
          stored.value ≠ verified.parsed.payload.value) := by
  refine ⟨fun a b ha hb => stableStringify_eq_iff hp ha hb, ?_, ?_⟩
  · intro ch s payload batch identity hidentity
    have hchecked := (readIdentity_ok hidentity).2
    refine ⟨openedFor_mappingData hparse hchecked, ?_⟩
    intro m opened hfound hopened hm
    exact findSynced_conflict_iff hp hsha hparse hchecked hfound hopened hm
  · intro ch s input verified hverified
    obtain ⟨-, hread, -⟩ := verifySignedOfflineQr_ok rt hverified
    have hparsed := (readOfflineQr_ok rt hread).1
    constructor
    · intro token registrationId
      exact congrArg some (wellFormed_parsed hparse hparsed).2
    · intro existing hmem stored registrationId hstored hhash
      exact ingestOfflineExisting_conflict_iff hp hsha hdigest hparse hparsed hmem hstored hhash
        registrationId

/-- The small deployment with a digest that keeps its text. -/
def printingRuntime : Runtime :=
  { sampleRuntime with jsonStringify := JsonPrinter.print, sha256Hex := fun s => "sha256:" ++ s }

/-- A payload of the token of the sample card, without its other properties. -/
def bareCard : Json := .obj [("offlineQrToken", .str "O2.card")]

/-- A mapping and a scan that were stored for the bare card. -/
def bareStore : Store :=
  { sampleStore with
    mappings := .ofData [{ sampleMapping "O2.card" "reg-1" with
      offlineRegistrationId := "local-1"
      payloadHash := hashPayload printingRuntime bareCard }]
    offlineScans := .ofData [{
      operationId := "op-1"
      eventId := "c0"
      scannerDeviceId := "c0"
      checkpointId := "c0"
      offlineQrToken := "O2.card"
      scannedAtDevice := 5
      movementType := .ENTRY
      qrPayloadHash := some (hashPayload printingRuntime bareCard)
      status := .PENDING_LINK }] }

/-- The checks of the sample card as a registration and as a scan. -/
def bareIdentity : Except Exn OfflineIdentity :=
  ((readIdentity printingRuntime (Persons.sampleRegistration []).payload
    (sampleBatch "batch-1" [])).run (machine printingRuntime {}) bareStore).1

def bareVerified : Except Exn VerifiedOfflineQr :=
  ((verifySignedOfflineQr printingRuntime "card.-" (some "c0")).run (machine printingRuntime {})
    bareStore).1

/-- The mapping that the first lookup finds. -/
def bareFound (identity : OfflineIdentity) : Option OfflineRegistrationMapping :=
  ({} : Choice).first (bareStore.mappings.rows.filter
    (existingWhere (sampleBatch "batch-1" []) identity).holds)

theorem sha256Hex_injective : Function.Injective printingRuntime.sha256Hex := by
  intro a b h
  have htext : "sha256:".toList ++ a.toList = "sha256:".toList ++ b.toList := by
    simpa [printingRuntime] using congrArg String.toList h
  exact String.toList_injective (List.append_cancel_left htext)

theorem sha256Hex_ne (text : String) : printingRuntime.sha256Hex text ≠ "" := by
  intro h
  have htext := congrArg String.toList h
  simp [printingRuntime] at htext

theorem parsesWellFormed_printingRuntime : ParsesWellFormed printingRuntime := by
  intro text j h
  have hcard : (if text = "card" then some sampleCard else none) = some j := h
  split at hcard
  · obtain rfl := Option.some.inj hcard
    rw [sampleCard, Json.wellFormed_obj]
    refine ⟨by decide, ?_⟩
    simp [Json.WellFormed]
  · cases hcard

theorem wellFormed_bareCard : bareCard.WellFormed := by
  rw [bareCard, Json.wellFormed_obj]
  refine ⟨by decide, ?_⟩
  simp [Json.WellFormed]

/-- The bare card is another value than a payload with a type. -/
theorem bareCard_ne {payload : Json} (h : payload.string? "type" = some "OFFLINE_REGISTRATION") :
    bareCard.value ≠ payload.value := by
  intro hvalue
  rw [← string?_of_value_eq hvalue] at h
  exact absurd h (by decide)

/-- The whole sample card conflicts with what was stored for the bare one. -/
theorem bare_card_conflicts :
    ∃ identity verified, ∃ existing ∈ bareStore.offlineScans.rows,
      ((findSynced (sampleBatch "batch-1" []) identity).run (machine printingRuntime {})
        bareStore).1 = .error registrationConflict ∧
      ∃ reply, ((ingestOfflineExisting printingRuntime (sampleOfflineScan "op-1") verified existing
        none).run (machine printingRuntime {}) bareStore).1 = .ok reply ∧
          reply.isConflict = true := by
  obtain ⟨-, hmappings, hscans⟩ := payload_hash_identifies printingRuntime
    JsonPrinter.printsScalars sha256Hex_injective sha256Hex_ne parsesWellFormed_printingRuntime
  obtain ⟨identity, hidentity, hchecks⟩ := exists_ok (x := bareIdentity)
    (p := fun i => i.verified.parsed.payload.string? "type" = some "OFFLINE_REGISTRATION" &&
      (bareFound i).isSome)
    (by decide +kernel)
  obtain ⟨verified, hverified, htype'⟩ := exists_ok (x := bareVerified)
    (p := fun v => v.parsed.payload.string? "type" = some "OFFLINE_REGISTRATION")
    (by decide +kernel)
  simp only [Bool.and_eq_true, decide_eq_true_eq] at hchecks htype'
  obtain ⟨htype, hfound⟩ := hchecks
  obtain ⟨m, hfound⟩ := Option.isSome_iff_exists.mp hfound
  have hmem := (List.mem_filter.mp (Choice.first_mem hfound)).1
  obtain rfl := List.mem_singleton.mp hmem
  have hread : (readIdentity printingRuntime (Persons.sampleRegistration []).payload
      (sampleBatch "batch-1" [])).run (machine printingRuntime {}) bareStore = (.ok identity, _) :=
    Prod.ext hidentity rfl
  have hverify : (verifySignedOfflineQr printingRuntime "card.-" (some "c0")).run
      (machine printingRuntime {}) bareStore = (.ok verified, _) := Prod.ext hverified rfl
  have hstill := (readIdentity_ok hread).1
  have hstill' := (verifySignedOfflineQr_ok printingRuntime hverify).1
  rw [hstill] at hread
  rw [hstill'] at hverify
  obtain ⟨-, hmapping⟩ := hmappings {} bareStore _ _ identity hread
  obtain ⟨-, hscan⟩ := hscans {} bareStore (sampleOfflineScan "op-1") verified hverify
  refine ⟨identity, verified, _, List.mem_cons_self, ?_, ?_⟩
  · exact (hmapping _ bareCard hfound wellFormed_bareCard ⟨rfl, rfl⟩).mpr (bareCard_ne htype)
  · exact (hscan _ List.mem_cons_self bareCard none wellFormed_bareCard rfl).mpr
      (bareCard_ne htype')

end CreativeBackend
