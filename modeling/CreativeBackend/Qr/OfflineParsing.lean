import CreativeBackend.Qr.KeyHistory

/-!
# Reading an offline code

What `OfflineQrService.verifySignedOfflineQr` answers to an arbitrary text: the two forms
of a payload that it reads, and where it answers with something other than a payload or a
`BadRequestException`.

## Implementation notes

`clientMachine` is the store behind the client, which rejects a filter on a column of type
`Int` that the column cannot hold. The column of a key's version is the only one that a
caller's number is compared with.
-/

namespace CreativeBackend

open Interaction

namespace OfflineParsing

/-- The numbers of a column of type `Int`. -/
def fitsInt (n : Int) : Bool := -2147483648 ≤ n ∧ n ≤ 2147483647

/-- The store behind the client. -/
def clientMachine (rt : Runtime) (ch : Choice) : Machine Resp Exn Store
  | .deviceWithKey id version, s =>
      if fitsInt version then machine rt ch (.deviceWithKey id version) s
      else (.error (.prisma .validation), s)
  | c, s => machine rt ch c s

/-! ## What a payload has to be -/

/-- The object form of a payload that can be checked against its issuer. -/
structure WellFormed (rt : Runtime) (payload : Json) : Prop where
  version : payload.integer? "v" = some 1 ∨ payload.integer? "v" = some 2
  type : payload.string? "type" = some "OFFLINE_REGISTRATION"
  keyVersion : ∃ n, payload.integer? "issuerKeyVersion" = some n
  fields : ∀ field ∈ requiredOfflineFields, nonBlank payload field = true
  issuedAt : ∃ t, (payload.string? "issuedAt").bind rt.parseDate = some t

/-- The array of version 2, with what is required of its items. -/
structure CompactBadge where
  eventId : String
  issuerDeviceId : String
  issuerKeyVersion : Int
  offlineRegistrationOperationId : String
  offlineQrToken : String
  attendeeTypeId : String
  issuedAtSeconds : Int
  validUntilSeconds : Int
  identified : ∀ text ∈ [eventId, issuerDeviceId, offlineRegistrationOperationId,
    offlineQrToken, attendeeTypeId], trim text ≠ ""
  positive : 1 ≤ issuerKeyVersion
  issued : 0 < issuedAtSeconds
  ordered : issuedAtSeconds < validUntilSeconds
  dates : isValidSeconds issuedAtSeconds = true ∧ isValidSeconds validUntilSeconds = true

namespace CompactBadge

/-- The items in the order of the array. -/
def items (b : CompactBadge) : List Json :=
  [.num (.ofInt 2), .str b.eventId, .str b.issuerDeviceId, .num (.ofInt b.issuerKeyVersion),
    .str b.offlineRegistrationOperationId, .str b.offlineQrToken, .str b.attendeeTypeId,
    .num (.ofInt b.issuedAtSeconds), .num (.ofInt b.validUntilSeconds)]

/-- The items under the names that the checks give them. -/
def named (b : CompactBadge) : Json :=
  .obj [("v", .num (.ofInt 2)), ("eventId", .str b.eventId),
    ("issuerDeviceId", .str b.issuerDeviceId),
    ("issuerKeyVersion", .num (.ofInt b.issuerKeyVersion)),
    ("offlineRegistrationOperationId", .str b.offlineRegistrationOperationId),
    ("offlineQrToken", .str b.offlineQrToken), ("attendeeTypeId", .str b.attendeeTypeId),
    ("issuedAt", .num (.ofInt b.issuedAtSeconds)),
    ("validUntil", .num (.ofInt b.validUntilSeconds))]

/-- The object that the array stands for. -/
def object (rt : Runtime) (b : CompactBadge) : Json :=
  .obj [("v", .num (.ofInt 2)), ("type", .str "OFFLINE_REGISTRATION"), ("eventId", .str b.eventId),
    ("issuerDeviceId", .str b.issuerDeviceId),
    ("issuerKeyVersion", .num (.ofInt b.issuerKeyVersion)),
    ("offlineRegistrationOperationId", .str b.offlineRegistrationOperationId),
    ("offlineQrToken", .str b.offlineQrToken), ("attendeeTypeId", .str b.attendeeTypeId),
    ("issuedAt", .str (rt.toISOString (b.issuedAtSeconds * 1000))),
    ("validUntil", .str (rt.toISOString (b.validUntilSeconds * 1000)))]

end CompactBadge

/-- The payload that a text carries, in its object form. -/
def Carries (rt : Runtime) (text : String) (payload : Json) : Prop :=
  ∃ encodedPayload signature raw, splitSigned text = some (encodedPayload, signature) ∧
    rt.jsonParse (rt.decodeBase64Url encodedPayload) = some raw ∧
    ((∃ fields, raw = .obj fields ∧ payload = raw) ∨
      ∃ b : CompactBadge, raw = .arr b.items ∧ payload = b.object rt)

/-- The text carries a well-formed payload for the expected event that has not expired. -/
structure Presents (rt : Runtime) (now : Time) (text : String) (expectedEventId : Option Id)
    (payload : Json) : Prop where
  carried : Carries rt text payload
  wellFormed : WellFormed rt payload
  event : ∀ eventId, truthy expectedEventId = some eventId →
    payload.string? "eventId" = some eventId
  valid : ∃ until_, (payload.string? "validUntil").bind rt.parseDate = some until_ ∧ now ≤ until_

/-! ## Normalisation -/

variable {rt : Runtime}

theorem eq_ofInt_of_den {q : Rat} (h : q.den = 1) : q = .ofInt q.num := by
  obtain ⟨num, den, hden, hreduced⟩ := q
  subst h
  rfl

theorem integer?_eq_some {j : Json} {field : String} {n : Int} :
    j.integer? field = some n ↔ j.field? field = some (.num (.ofInt n)) := by
  unfold Json.integer?
  cases hfield : j.field? field with
  | none => simp
  | some value =>
      cases value with
      | num q =>
          constructor
          · intro h
            dsimp only at h
            split at h
            · next hden =>
                cases h
                rw [← eq_ofInt_of_den hden]
            · cases h
          · intro h
            obtain rfl : q = .ofInt n := Json.num.inj (Option.some.inj h)
            rfl
      | _ => simp

theorem nonBlank_eq_true {j : Json} {field : String} :
    nonBlank j field = true ↔ ∃ text, j.field? field = some (.str text) ∧ trim text ≠ "" := by
  unfold nonBlank Json.string?
  cases hfield : j.field? field with
  | none => simp
  | some value => cases value <;> simp

/-- What passes a check. -/
theorem ok_of_ite {α : Type} {c : Prop} [Decidable c] {e : Exn} {x : Except Exn α} {a : α}
    (h : (if c then .error e else x) = .ok a) : ¬ c ∧ x = .ok a := by
  split at h
  · cases h
  · next hc => exact ⟨hc, h⟩

theorem compact_of_normalize {items : List Json} {payload : Json}
    (h : normalizeOfflineQrPayload rt (.arr items) = .ok payload) :
    ∃ b : CompactBadge, items = b.items ∧ payload = b.object rt := by
  simp only [normalizeOfflineQrPayload] at h
  split at h
  · next version eventId deviceId keyItem operationId token typeId issuedItem untilItem =>
      obtain ⟨hv, h₁⟩ := ok_of_ite h
      obtain ⟨hids, h₂⟩ := ok_of_ite h₁
      split at h₂
      · cases h₂
      · next keyVersion hkey =>
          obtain ⟨hpos, h₃⟩ := ok_of_ite h₂
          split at h₃
          · next issued until_ hissued huntil =>
              obtain ⟨horder, h₄⟩ := ok_of_ite h₃
              split at h₄
              · next hdates =>
                  rw [ne_eq, not_not, integer?_eq_some] at hv
                  rw [integer?_eq_some] at hkey hissued huntil
                  rw [Bool.not_eq_false, List.all_eq_true] at hids
                  have hid := fun field hfield => nonBlank_eq_true.mp (hids field hfield)
                  obtain ⟨a₁, ha₁, hn₁⟩ := hid "eventId" (by simp)
                  obtain ⟨a₂, ha₂, hn₂⟩ := hid "issuerDeviceId" (by simp)
                  obtain ⟨a₃, ha₃, hn₃⟩ := hid "offlineRegistrationOperationId" (by simp)
                  obtain ⟨a₄, ha₄, hn₄⟩ := hid "offlineQrToken" (by simp)
                  obtain ⟨a₅, ha₅, hn₅⟩ := hid "attendeeTypeId" (by simp)
                  cases (show some version = _ from hv)
                  cases (show some keyItem = _ from hkey)
                  cases (show some issuedItem = _ from hissued)
                  cases (show some untilItem = _ from huntil)
                  cases (show some eventId = _ from ha₁)
                  cases (show some deviceId = _ from ha₂)
                  cases (show some operationId = _ from ha₃)
                  cases (show some token = _ from ha₄)
                  cases (show some typeId = _ from ha₅)
                  rw [not_or, not_le, not_le] at horder
                  rw [Bool.and_eq_true] at hdates
                  refine ⟨⟨a₁, a₂, keyVersion, a₃, a₄, a₅, issued, until_, ?_, ?_, horder.1,
                    horder.2, hdates⟩, rfl, (Except.ok.inj h₄).symm⟩
                  · simp [hn₁, hn₂, hn₃, hn₄, hn₅]
                  · exact not_lt.mp hpos
              · cases h₄
          · cases h₃
  · cases h

/-- The array form passes exactly where it is a compact badge, as the badge's object. -/
theorem normalize_arr_iff {items : List Json} {payload : Json} :
    normalizeOfflineQrPayload rt (.arr items) = .ok payload ↔
      ∃ b : CompactBadge, items = b.items ∧ payload = b.object rt := by
  constructor
  · exact compact_of_normalize
  · rintro ⟨b, rfl, rfl⟩
    have hids : (["eventId", "issuerDeviceId", "offlineRegistrationOperationId", "offlineQrToken",
        "attendeeTypeId"].all (nonBlank b.named)) = true := by
      have h := b.identified
      simp only [List.mem_cons, List.not_mem_nil, or_false, forall_eq_or_imp, forall_eq] at h
      simp [nonBlank_eq_true, CompactBadge.named, Json.field?, List.lookup_cons, h]
    have horder : ¬ (b.issuedAtSeconds ≤ 0 ∨ b.validUntilSeconds ≤ b.issuedAtSeconds) := by
      rw [not_or, not_le, not_le]
      exact ⟨b.issued, b.ordered⟩
    unfold normalizeOfflineQrPayload CompactBadge.items
    dsimp only
    refine (if_neg (not_not.mpr (integer?_eq_some.mpr rfl))).trans ?_
    refine (if_neg (Bool.not_eq_false _ ▸ hids)).trans ?_
    refine (if_neg (not_lt.mpr b.positive)).trans ?_
    refine (if_neg horder).trans ?_
    exact if_pos (Bool.and_eq_true_iff.mpr b.dates)

/-! ## The checks -/

/-- The fields that the checks hand on. -/
def checkedFields (payload : Json) (issuerKeyVersion : Int) : OfflineQrPayload :=
  let get := fun field => (payload.string? field).getD ""
  { eventId := get "eventId"
    issuerDeviceId := get "issuerDeviceId"
    issuerKeyVersion
    offlineRegistrationOperationId := get "offlineRegistrationOperationId"
    offlineRegistrationId := payload.string? "offlineRegistrationId"
    offlineQrToken := get "offlineQrToken"
    attendeeTypeId := get "attendeeTypeId"
    issuedAt := get "issuedAt"
    validUntil := get "validUntil" }

/-- A text field that is not blank, as the checks read it. -/
theorem WellFormed.get {payload : Json} (h : WellFormed rt payload) {field : String}
    (hfield : field ∈ requiredOfflineFields) :
    payload.string? field = some ((payload.string? field).getD "") :=
  string?_of_nonBlank (h.fields field hfield)

theorem assertOfflineQrPayload_eq_ok {payload : Json} {p : OfflineQrPayload} :
    assertOfflineQrPayload rt payload = .ok p ↔ WellFormed rt payload ∧
      ∃ n, payload.integer? "issuerKeyVersion" = some n ∧ p = checkedFields payload n := by
  constructor
  · intro h
    obtain ⟨issuedAt, hissued⟩ := issuedAt_of_assertOfflineQrPayload rt h
    have hfields := nonBlank_of_assertOfflineQrPayload rt h
    simp only [assertOfflineQrPayload] at h
    obtain ⟨hv, h₁⟩ := ok_of_ite h
    rw [not_or, not_not, Classical.not_and_iff_not_or_not, not_not, not_not] at hv
    split at h₁
    · cases h₁
    · next n hn =>
        split at h₁
        · cases h₁
        · obtain ⟨-, h₂⟩ := ok_of_ite h₁
          cases h₂
          refine ⟨⟨hv.1, hv.2, ⟨n, hn⟩, hfields, issuedAt, ?_⟩, n, hn, rfl⟩
          rw [string?_of_nonBlank (hfields "issuedAt" (by decide))]
          exact hissued
  · rintro ⟨h, n, hn, rfl⟩
    obtain ⟨issuedAt, hissued⟩ := h.issuedAt
    have hblank : requiredOfflineFields.find? (fun field => !nonBlank payload field) = none :=
      List.find?_eq_none.mpr fun field hfield => by simp [h.fields field hfield]
    have hversion : ¬ ((payload.integer? "v" ≠ some 1 ∧ payload.integer? "v" ≠ some 2) ∨
        payload.string? "type" ≠ some "OFFLINE_REGISTRATION") := by
      have hv := h.version
      have htype := h.type
      tauto
    rw [h.get (by decide), Option.bind_some] at hissued
    simp only [assertOfflineQrPayload, if_neg hversion, hn, hblank, hissued]
    rfl

/-! ## What is read -/

variable {text : String} {expected : Option Id} {now : Time} {payload : Json}

theorem normalize_ok_iff {raw : Json} : normalizeOfflineQrPayload rt raw = .ok payload ↔
    (∃ fields, raw = .obj fields ∧ payload = raw) ∨
      ∃ b : CompactBadge, raw = .arr b.items ∧ payload = b.object rt := by
  cases raw with
  | arr items => simp [normalize_arr_iff]
  | obj fields =>
      rw [show normalizeOfflineQrPayload rt (.obj fields) = .ok (.obj fields) from rfl]
      simp [eq_comm]
  | _ => simp [normalizeOfflineQrPayload]

theorem carries_iff : Carries rt text payload ↔
    ∃ parsed, parseSignedOfflineQr rt text = .ok parsed ∧ parsed.payload = payload := by
  constructor
  · rintro ⟨encodedPayload, signature, raw, hsplit, hparse, hform⟩
    simp only [parseSignedOfflineQr, hsplit, hparse, normalize_ok_iff.mpr hform]
    exact ⟨_, rfl, rfl⟩
  · rintro ⟨parsed, h, rfl⟩
    unfold parseSignedOfflineQr at h
    split at h
    · cases h
    · next encodedPayload signature hsplit =>
        split at h
        · cases h
        · next raw hraw =>
            split at h
            · cases h
            · next payload hpayload =>
                cases h
                exact ⟨encodedPayload, signature, raw, hsplit, hraw, normalize_ok_iff.mp hpayload⟩

/-- A payload that was read is what the text presents. -/
theorem presents_of_read {verified : VerifiedOfflineQr}
    (h : readOfflineQr rt text expected now = .ok verified) :
    Presents rt now text expected verified.parsed.payload := by
  obtain ⟨hparsed, hpayload⟩ := readOfflineQr_ok rt h
  obtain ⟨hformed, n, -, hfields⟩ := assertOfflineQrPayload_eq_ok.mp hpayload
  simp only [readOfflineQr, hparsed, hpayload] at h
  obtain ⟨hevent, h₁⟩ := ok_of_ite h
  obtain ⟨hvalid, -⟩ := ok_of_ite h₁
  rw [hfields] at hevent hvalid
  refine ⟨carries_iff.mpr ⟨_, hparsed, rfl⟩, hformed, fun eventId he => ?_, ?_⟩
  · rw [hformed.get (by decide)]
    by_contra hne
    refine hevent ?_
    rw [he]
    exact decide_eq_true fun hsame => hne (congrArg some hsame)
  · rw [hformed.get (by decide)]
    cases hdate : rt.parseDate ((verified.parsed.payload.string? "validUntil").getD "") with
    | none => simp [checkedFields, hdate] at hvalid
    | some until_ => exact ⟨until_, hdate, by simpa [checkedFields, hdate] using hvalid⟩

/-- What the text presents is read. -/
theorem exists_read (h : Presents rt now text expected payload) {n : Int}
    (hn : payload.integer? "issuerKeyVersion" = some n) :
    ∃ verified, readOfflineQr rt text expected now = .ok verified ∧
      verified.payload.issuerKeyVersion = n := by
  obtain ⟨parsed, hparsed, rfl⟩ := carries_iff.mp h.carried
  have hpayload : assertOfflineQrPayload rt parsed.payload = .ok (checkedFields parsed.payload n) :=
    assertOfflineQrPayload_eq_ok.mpr ⟨h.wellFormed, n, hn, rfl⟩
  obtain ⟨until_, huntil, hle⟩ := h.valid
  rw [h.wellFormed.get (by decide), Option.bind_some] at huntil
  have hevent : ¬ ((truthy expected).any
      ((checkedFields parsed.payload n).eventId ≠ ·)) = true := by
    cases he : truthy expected with
    | none => simp
    | some eventId =>
        have hsame := h.event eventId he
        rw [h.wellFormed.get (by decide)] at hsame
        simp [checkedFields, Option.some.inj hsame]
  have hvalid : ¬ ((rt.parseDate (checkedFields parsed.payload n).validUntil).all (· < now)) =
      true := by
    change ¬ ((rt.parseDate ((parsed.payload.string? "validUntil").getD "")).all (· < now)) = true
    rw [huntil]
    simpa using hle
  refine ⟨⟨parsed, checkedFields parsed.payload n⟩, ?_, rfl⟩
  simp only [readOfflineQr, hparsed, hpayload, if_neg hevent, if_neg hvalid]

/-! ## Refusals -/

/-- Every error is a `BadRequestException`. -/
def Refuses {α : Type} (x : Except Exn α) : Prop := ∀ e, x = .error e → ∃ m, e = .badRequest m

theorem refuses_ok {α : Type} (a : α) : Refuses (.ok a) := by
  intro e h
  cases h

theorem refuses_badRequest {α : Type} (m : String) :
    Refuses (.error (.badRequest m) : Except Exn α) := by
  intro e h
  cases h
  exact ⟨m, rfl⟩

theorem refuses_normalize (raw : Json) : Refuses (normalizeOfflineQrPayload rt raw) := by
  simp only [normalizeOfflineQrPayload]
  repeat' split
  all_goals first | exact refuses_ok _ | exact refuses_badRequest _

theorem refuses_parse (text : String) : Refuses (parseSignedOfflineQr rt text) := by
  unfold parseSignedOfflineQr
  split
  · exact refuses_badRequest _
  · split
    · exact refuses_badRequest _
    · next raw _ =>
        split
        · next e he =>
            intro e' h
            exact refuses_normalize raw e' (he.trans (congrArg _ (Except.error.inj h)))
        · exact refuses_ok _

theorem refuses_assert (payload : Json) : Refuses (assertOfflineQrPayload rt payload) := by
  simp only [assertOfflineQrPayload]
  repeat' split
  all_goals first | exact refuses_ok _ | exact refuses_badRequest _

theorem refuses_read : Refuses (readOfflineQr rt text expected now) := by
  intro e h
  simp only [readOfflineQr] at h
  split at h
  · next e' hparse => exact refuses_parse text e (hparse.trans (congrArg _ (Except.error.inj h)))
  · split at h
    · next e' hassert =>
        exact refuses_assert _ e (hassert.trans (congrArg _ (Except.error.inj h)))
    · split at h
      · exact refuses_badRequest _ e h
      · split at h
        · exact refuses_badRequest _ e h
        · cases h

theorem refuses_window (key : DeviceOfflineKey) (issuedAt : Option Time) :
    Refuses (assertKeyUsableForPayload key issuedAt) := by
  unfold assertKeyUsableForPayload
  repeat' split
  all_goals first | exact refuses_ok _ | exact refuses_badRequest _

theorem refuses_checkIssuer (parsed : ParsedOfflineQr) (payload : OfflineQrPayload)
    (found : Option (Device × Option DeviceOfflineKey)) :
    Refuses (checkIssuer rt parsed payload found) := by
  intro e h
  unfold checkIssuer at h
  split at h
  · exact refuses_badRequest _ e h
  · split at h
    · exact refuses_badRequest _ e h
    · split at h
      · exact refuses_badRequest _ e h
      · next key =>
          split at h
          · next e' hwindow =>
              exact refuses_window key _ e (hwindow.trans (congrArg _ (Except.error.inj h)))
          · split at h
            · exact refuses_badRequest _ e h
            · split at h
              · cases h
              · exact refuses_badRequest _ e h

/-! ## Verification behind the client -/

variable {ch : Choice} {s : Store}

/-- What `verifySignedOfflineQr` answers. -/
def outcome (rt : Runtime) (ch : Choice) (s : Store) (text : String) (expected : Option Id) :
    Except Exn VerifiedOfflineQr :=
  ((verifySignedOfflineQr rt text expected).run (clientMachine rt ch) s).1

theorem outcome_of_error {e : Exn} (h : readOfflineQr rt text expected s.clock = .error e) :
    outcome rt ch s text expected = .error e := by
  unfold outcome verifySignedOfflineQr
  simp only [Prog.bind_eq, Prog.run_bind, call, Prog.run_call, clientMachine, machine, query, h,
    Prog.run_ofExcept]

/-- A key version that the column cannot hold ends in the client's error. -/
theorem outcome_of_wide {verified : VerifiedOfflineQr}
    (h : readOfflineQr rt text expected s.clock = .ok verified)
    (hwide : fitsInt verified.payload.issuerKeyVersion = false) :
    outcome rt ch s text expected = .error (.prisma .validation) := by
  unfold outcome verifySignedOfflineQr
  simp only [Prog.bind_eq, Prog.run_bind, call, Prog.run_call, clientMachine, machine, query, h,
    Prog.run_ofExcept, hwide, Bool.false_eq_true, if_false]

/-- Any other is looked up, and checked against what is found. -/
theorem outcome_of_fits (ch : Choice) {verified : VerifiedOfflineQr}
    (h : readOfflineQr rt text expected s.clock = .ok verified)
    (hfits : fitsInt verified.payload.issuerKeyVersion = true) :
    ∃ found, outcome rt ch s text expected =
      (checkIssuer rt verified.parsed verified.payload found).map fun _ => verified := by
  refine ⟨(s.devices.find? verified.payload.issuerDeviceId).map fun d =>
    (d, s.offlineKeys.rows.find? fun k => k.deviceId = verified.payload.issuerDeviceId ∧
      k.version = verified.payload.issuerKeyVersion), ?_⟩
  unfold outcome verifySignedOfflineQr
  simp only [Prog.bind_eq, Prog.run_bind, call, Prog.run_call, clientMachine, machine, query, h,
    Prog.run_ofExcept, hfits, if_true]
  generalize checkIssuer rt verified.parsed verified.payload _ = checked
  cases checked <;> rfl

/-- A payload is returned as it was read. -/
theorem read_of_outcome {verified : VerifiedOfflineQr}
    (h : outcome rt ch s text expected = .ok verified) :
    readOfflineQr rt text expected s.clock = .ok verified := by
  cases hread : readOfflineQr rt text expected s.clock with
  | error e =>
      rw [outcome_of_error hread] at h
      cases h
  | ok read =>
      cases hfits : fitsInt read.payload.issuerKeyVersion with
      | false =>
          rw [outcome_of_wide hread hfits] at h
          cases h
      | true =>
          obtain ⟨found, hfound⟩ := outcome_of_fits ch hread hfits
          rw [hfound] at h
          cases hcheck : checkIssuer rt read.parsed read.payload found with
          | error e =>
              rw [hcheck] at h
              cases h
          | ok _ =>
              rw [hcheck] at h
              exact h

/-- An offline code is read as it should be: the answer is a payload or a
`BadRequestException`, a payload that is returned is well formed, and an array passes exactly
where it is a compact badge. -/
structure ReadExactly (rt : Runtime) (ch : Choice) (s : Store) (text : String)
    (expected : Option Id) : Prop where
  total : Refuses (outcome rt ch s text expected)
  returned : ∀ verified, outcome rt ch s text expected = .ok verified →
    WellFormed rt verified.parsed.payload ∧
      ∃ until_, (verified.parsed.payload.string? "validUntil").bind rt.parseDate = some until_
  compact : ∀ items, (∃ payload, normalizeOfflineQrPayload rt (.arr items) = .ok payload) ↔
    ∃ b : CompactBadge, items = b.items

/-- A compact badge that names the smallest key version beyond the column. -/
def wideBadge : CompactBadge where
  eventId := "c0"
  issuerDeviceId := "c0"
  issuerKeyVersion := 2147483648
  offlineRegistrationOperationId := "reg-1"
  offlineQrToken := "O2.card"
  attendeeTypeId := "c0"
  issuedAtSeconds := 5
  validUntilSeconds := 30
  identified := by decide +kernel
  positive := by decide
  issued := by decide
  ordered := by decide
  dates := by decide

def wideRuntime : Runtime :=
  { KeyHistory.keyRuntime with
    jsonParse := fun text => if text = "wide" then some (.arr wideBadge.items) else none
    toISOString := fun time => if time = 5000 then "issued" else "until" }

end OfflineParsing

end CreativeBackend
