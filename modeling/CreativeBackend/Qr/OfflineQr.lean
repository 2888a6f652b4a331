import CreativeBackend.Interaction.Sequential
import CreativeBackend.Store.Calls
import CreativeBackend.Qr.Signing

/-!
# Signed offline QR codes

`OfflineQrService.verifySignedOfflineQr`: a badge printed offline carries a
payload signed by its issuer device, as an object (version 1) or as an array
(version 2). Both are normalised to one object, checked, and verified against
the issuer's registered key.
-/

namespace CreativeBackend

open Interaction

variable (rt : Runtime)

/-- The checked fields of an offline QR payload. -/
structure OfflineQrPayload where
  eventId : Id
  issuerDeviceId : Id
  issuerKeyVersion : Int
  offlineRegistrationOperationId : String
  offlineRegistrationId : Option String
  offlineQrToken : String
  attendeeTypeId : Id
  issuedAt : String
  validUntil : String

/-- A parsed token: `payload` is the normalised object, as it is stored. -/
structure ParsedOfflineQr where
  signedOfflineQr : String
  encodedPayload : String
  signature : String
  payload : Json
  payloadHash : String

/-- A verified token: the parsed parts and the checked fields. -/
structure VerifiedOfflineQr where
  parsed : ParsedOfflineQr
  payload : OfflineQrPayload

mutual

/-- `stableStringify`: the keys of every object are sorted. -/
def stableStringify : Json → String
  | .arr items => "[" ++ String.intercalate "," (stableItems items) ++ "]"
  | .obj fields =>
      let printed := (stableFields fields).insertionSort fun a b => a.1 ≤ b.1
      "\x7b" ++ String.intercalate "," (printed.map fun f =>
        rt.jsonStringify (.str f.1) ++ ":" ++ f.2) ++ "\x7d"
  | value => rt.jsonStringify value

def stableItems : List Json → List String
  | [] => []
  | item :: items => stableStringify item :: stableItems items

def stableFields : List (String × Json) → List (String × String)
  | [] => []
  | (k, value) :: fields => (k, stableStringify value) :: stableFields fields

end

def hashPayload (payload : Json) : String := rt.sha256Hex (stableStringify rt payload)

/-- A date that `new Date(seconds * 1000)` can hold. -/
def isValidSeconds (seconds : Int) : Bool := seconds * 1000 ≤ 8640000000000000

/-- The object form of a payload; the array of version 2 becomes an object. -/
def normalizeOfflineQrPayload : Json → Except Exn Json
  | .arr items =>
      match items with
      | [version, eventId, issuerDeviceId, issuerKeyVersion, operationId, offlineQrToken,
          attendeeTypeId, issuedAtSeconds, validUntilSeconds] =>
          let fields := Json.obj [("v", version), ("eventId", eventId),
            ("issuerDeviceId", issuerDeviceId), ("issuerKeyVersion", issuerKeyVersion),
            ("offlineRegistrationOperationId", operationId), ("offlineQrToken", offlineQrToken),
            ("attendeeTypeId", attendeeTypeId), ("issuedAt", issuedAtSeconds),
            ("validUntil", validUntilSeconds)]
          if fields.integer? "v" ≠ some 2 then
            .error (.badRequest "Unsupported compact offline QR payload version")
          else if (["eventId", "issuerDeviceId", "offlineRegistrationOperationId",
              "offlineQrToken", "attendeeTypeId"].all (nonBlank fields)) = false then
            .error (.badRequest "Compact offline QR contains invalid identifiers")
          else
            match fields.integer? "issuerKeyVersion" with
            | none => .error (.badRequest "Compact offline QR key version is invalid")
            | some keyVersion =>
                if keyVersion < 1 then
                  .error (.badRequest "Compact offline QR key version is invalid")
                else
                  match fields.integer? "issuedAt", fields.integer? "validUntil" with
                  | some issued, some until_ =>
                      if issued ≤ 0 ∨ until_ ≤ issued then
                        .error (.badRequest "Compact offline QR timestamps are invalid")
                      else if isValidSeconds issued && isValidSeconds until_ then
                        .ok (.obj [("v", version), ("type", .str "OFFLINE_REGISTRATION"),
                          ("eventId", eventId), ("issuerDeviceId", issuerDeviceId),
                          ("issuerKeyVersion", issuerKeyVersion),
                          ("offlineRegistrationOperationId", operationId),
                          ("offlineQrToken", offlineQrToken),
                          ("attendeeTypeId", attendeeTypeId),
                          ("issuedAt", .str (rt.toISOString (issued * 1000))),
                          ("validUntil", .str (rt.toISOString (until_ * 1000)))])
                      else .error (.badRequest "Compact offline QR dates are invalid")
                  | _, _ => .error (.badRequest "Compact offline QR timestamps are invalid")
      | _ => .error (.badRequest "Invalid compact offline QR payload length")
  | .obj fields => .ok (.obj fields)
  | _ => .error (.badRequest "Invalid offline QR payload structure")

def parseSignedOfflineQr (signedOfflineQr : String) : Except Exn ParsedOfflineQr :=
  match splitSigned signedOfflineQr with
  | none => .error (.badRequest "Invalid offline QR token format")
  | some (encodedPayload, signature) =>
      match rt.jsonParse (rt.decodeBase64Url encodedPayload) with
      | none => .error (.badRequest "Invalid offline QR payload encoding")
      | some rawPayload =>
          match normalizeOfflineQrPayload rt rawPayload with
          | .error e => .error e
          | .ok payload =>
              .ok { signedOfflineQr, encodedPayload, signature, payload,
                    payloadHash := hashPayload rt payload }

/-- The string fields that `assertOfflineQrPayload` requires, in its order. -/
def requiredOfflineFields : List String :=
  ["type", "eventId", "issuerDeviceId", "offlineRegistrationOperationId", "offlineQrToken",
    "attendeeTypeId", "issuedAt", "validUntil"]

def assertOfflineQrPayload (payload : Json) : Except Exn OfflineQrPayload :=
  if (payload.integer? "v" ≠ some 1 ∧ payload.integer? "v" ≠ some 2) ∨
      payload.string? "type" ≠ some "OFFLINE_REGISTRATION" then
    .error (.badRequest "Unsupported offline QR payload version")
  else
    match payload.integer? "issuerKeyVersion" with
    | none => .error (.badRequest "Offline QR key version is required")
    | some issuerKeyVersion =>
        match requiredOfflineFields.find? fun field => !nonBlank payload field with
        | some field => .error (.badRequest ("Offline QR " ++ field ++ " is required"))
        | none =>
            let get := fun field => (payload.string? field).getD ""
            if (rt.parseDate (get "issuedAt")).isNone then
              .error (.badRequest "Offline QR issuedAt is invalid")
            else .ok {
              eventId := get "eventId"
              issuerDeviceId := get "issuerDeviceId"
              issuerKeyVersion
              offlineRegistrationOperationId := get "offlineRegistrationOperationId"
              offlineRegistrationId := payload.string? "offlineRegistrationId"
              offlineQrToken := get "offlineQrToken"
              attendeeTypeId := get "attendeeTypeId"
              issuedAt := get "issuedAt"
              validUntil := get "validUntil" }

/-- The issue time against the key's validity; `none` compares as an invalid date, false. -/
def assertKeyUsableForPayload (key : DeviceOfflineKey) (issuedAt : Option Time) :
    Except Exn Unit :=
  if issuedAt.any (· < key.validFrom) then
    .error (.badRequest "Offline QR predates issuer key validity")
  else if key.validUntil.any (fun u => issuedAt.any (u < ·)) then
    .error (.badRequest "Offline QR was issued after key rotation")
  else if key.status = .REVOKED ∧
      (key.revokedAt.all fun r => issuedAt.any (r ≤ ·)) = true then
    .error (.badRequest "Offline QR issuer key is revoked")
  else .ok ()

/-- The checks of a token against its issuer. -/
def checkIssuer (parsed : ParsedOfflineQr) (payload : OfflineQrPayload) :
    Option (Device × Option DeviceOfflineKey) → Except Exn Unit
  | none => .error (.badRequest "Offline QR issuer is not trusted")
  | some (issuer, key?) =>
      if issuer.eventId ≠ payload.eventId then
        .error (.badRequest "Offline QR issuer is not trusted")
      else
        match key? with
        | none => .error (.badRequest "Offline QR issuer key not found")
        | some key =>
            match assertKeyUsableForPayload key (rt.parseDate payload.issuedAt) with
            | .error e => .error e
            | .ok () =>
                if rt.isEd25519PublicKey key.publicKey = false then
                  .error (.badRequest "Invalid Ed25519 public key")
                else if rt.verifyEd25519 key.publicKey parsed.encodedPayload parsed.signature then
                  .ok ()
                else .error (.badRequest "Invalid offline QR signature")

/-- A token that passes was issued in the window of a key that verifies it. -/
theorem checkIssuer_ok {parsed : ParsedOfflineQr} {payload : OfflineQrPayload}
    {found : Option (Device × Option DeviceOfflineKey)}
    (h : checkIssuer rt parsed payload found = .ok ()) : ∃ issuer k, found = some (issuer, some k) ∧
      assertKeyUsableForPayload k (rt.parseDate payload.issuedAt) = .ok () ∧
        rt.verifyEd25519 k.publicKey parsed.encodedPayload parsed.signature = true := by
  unfold checkIssuer at h
  split at h
  · cases h
  · next issuer key? =>
      split at h
      · cases h
      · split at h
        · cases h
        · next k =>
            split at h
            · cases h
            · next hwindow =>
                split at h
                · cases h
                · split at h
                  · next hverified => exact ⟨issuer, k, rfl, hwindow, hverified⟩
                  · cases h

/-- The payload is read, names the expected event and has not expired at `now`. -/
def readOfflineQr (signedOfflineQr : String) (expectedEventId : Option Id) (now : Time) :
    Except Exn VerifiedOfflineQr :=
  match parseSignedOfflineQr rt signedOfflineQr with
  | .error e => .error e
  | .ok parsed =>
      match assertOfflineQrPayload rt parsed.payload with
      | .error e => .error e
      | .ok payload =>
          if (truthy expectedEventId).any (payload.eventId ≠ ·) then
            .error (.badRequest "Offline QR event mismatch")
          else if (rt.parseDate payload.validUntil).all (· < now) then
            .error (.badRequest "Offline QR expired")
          else .ok ⟨parsed, payload⟩

theorem string?_of_nonBlank {payload : Json} {field : String} (h : nonBlank payload field = true) :
    payload.string? field = some ((payload.string? field).getD "") := by
  unfold nonBlank at h
  split at h
  · next value hv => rw [hv]; rfl
  · cases h

/-- The checked fields are those of the payload. -/
theorem assertOfflineQrPayload_ok {payload : Json} {p : OfflineQrPayload}
    (h : assertOfflineQrPayload rt payload = .ok p) :
    payload.string? "offlineQrToken" = some p.offlineQrToken ∧
      payload.string? "eventId" = some p.eventId := by
  simp only [assertOfflineQrPayload] at h
  split at h
  · cases h
  · split at h
    · cases h
    · split at h
      · cases h
      · next hfields =>
          have hblank : ∀ field ∈ requiredOfflineFields, nonBlank payload field = true := by
            simpa using List.find?_eq_none.mp hfields
          split at h
          · cases h
          · cases h
            constructor
            · exact string?_of_nonBlank (hblank _ (by decide))
            · exact string?_of_nonBlank (hblank _ (by decide))

/-- The issue time of a payload that was read is a date. -/
theorem issuedAt_of_assertOfflineQrPayload {payload : Json} {p : OfflineQrPayload}
    (h : assertOfflineQrPayload rt payload = .ok p) :
    ∃ issuedAt, rt.parseDate p.issuedAt = some issuedAt := by
  simp only [assertOfflineQrPayload] at h
  split at h
  · cases h
  · split at h
    · cases h
    · split at h
      · cases h
      · split at h
        · cases h
        · next hdate =>
            cases h
            exact Option.ne_none_iff_exists'.mp (by simpa using hdate)

/-- The required fields of a payload that was read are not blank. -/
theorem nonBlank_of_assertOfflineQrPayload {payload : Json} {p : OfflineQrPayload}
    (h : assertOfflineQrPayload rt payload = .ok p) (field : String)
    (hfield : field ∈ requiredOfflineFields) : nonBlank payload field = true := by
  simp only [assertOfflineQrPayload] at h
  split at h
  · cases h
  · split at h
    · cases h
    · split at h
      · cases h
      · next hfields => simpa using List.find?_eq_none.mp hfields field hfield

theorem attendeeType_of_assertOfflineQrPayload {payload : Json} {p : OfflineQrPayload}
    (h : assertOfflineQrPayload rt payload = .ok p) :
    payload.string? "attendeeTypeId" = some p.attendeeTypeId := by
  have hblank := nonBlank_of_assertOfflineQrPayload rt h "attendeeTypeId" (by decide)
  simp only [assertOfflineQrPayload] at h
  split at h
  · cases h
  · split at h
    · cases h
    · split at h
      · cases h
      · split at h
        · cases h
        · cases h
          exact string?_of_nonBlank hblank

/-- The text of a field that is not blank is not empty. -/
theorem ne_empty_of_nonBlank {payload : Json} {field value : String}
    (h : nonBlank payload field = true) (hv : payload.string? field = some value) : value ≠ "" := by
  rintro rfl
  have htrim : trim "" = "" := by
    unfold trim
    rfl
  simp [nonBlank, hv, htrim] at h

/-- What a payload that was read says. -/
theorem readOfflineQr_ok {signedOfflineQr : String} {expectedEventId : Option Id} {now : Time}
    {verified : VerifiedOfflineQr}
    (h : readOfflineQr rt signedOfflineQr expectedEventId now = .ok verified) :
    parseSignedOfflineQr rt signedOfflineQr = .ok verified.parsed ∧
      assertOfflineQrPayload rt verified.parsed.payload = .ok verified.payload := by
  simp only [readOfflineQr] at h
  split at h
  · cases h
  · next parsed hparsed =>
      split at h
      · cases h
      · next payload hpayload =>
          split at h
          · cases h
          · split at h
            · cases h
            · cases h
              exact ⟨hparsed, hpayload⟩

def verifySignedOfflineQr (signedOfflineQr : String) (expectedEventId : Option Id) :
    Svc VerifiedOfflineQr := do
  let now ← call .now
  let verified ← Prog.ofExcept (readOfflineQr rt signedOfflineQr expectedEventId now)
  let issuer ← call (.deviceWithKey verified.payload.issuerDeviceId
    verified.payload.issuerKeyVersion)
  Prog.ofExcept (checkIssuer rt verified.parsed verified.payload issuer)
  return verified

/-- What an accepted token was checked against. -/
theorem verifySignedOfflineQr_ok {ch : Choice} {s s' : Store} {signedOfflineQr : String}
    {eventId : Option Id} {verified : VerifiedOfflineQr}
    (h : (verifySignedOfflineQr rt signedOfflineQr eventId).run (machine rt ch) s =
      (.ok verified, s')) :
    s' = s ∧ readOfflineQr rt signedOfflineQr eventId s.clock = .ok verified ∧
      checkIssuer rt verified.parsed verified.payload
        ((s.devices.find? verified.payload.issuerDeviceId).map fun d =>
          (d, s.offlineKeys.rows.find? fun k => k.deviceId = verified.payload.issuerDeviceId ∧
            k.version = verified.payload.issuerKeyVersion)) = .ok () := by
  obtain ⟨now, s₁, hnow, h₁⟩ := Prog.run_bind_eq_ok _ h
  cases hnow
  obtain ⟨read, s₂, hread, h₂⟩ := Prog.run_bind_eq_ok _ h₁
  obtain ⟨hok, rfl⟩ := Prog.run_ofExcept_eq_ok _ hread
  obtain ⟨issuer, s₃, hissuer, h₃⟩ := Prog.run_bind_eq_ok _ h₂
  cases hissuer
  obtain ⟨_, s₄, hcheck, h₄⟩ := Prog.run_bind_eq_ok _ h₃
  obtain ⟨hchecked, rfl⟩ := Prog.run_ofExcept_eq_ok _ hcheck
  cases h₄
  exact ⟨rfl, hok, hchecked⟩

def tokensEqual (left right : String) : Bool := left == right

end CreativeBackend
