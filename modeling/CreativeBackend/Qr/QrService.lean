import CreativeBackend.Store.Calls
import CreativeBackend.Qr.Signing

/-!
# The QR service

`QrService`: a registration has at most one QR token row. `generate` returns an
active token, refreshes a revoked or expired row with a new token id, or creates
the row; `revoke` revokes it; `validate` checks a token that was presented.
-/

namespace CreativeBackend

open Interaction

variable (rt : Runtime)

/-- What `formatQrToken` returns. -/
structure FormattedQr where
  qrToken : String
  compactQrToken : String
  signedQrToken : String
  payload : QrPayload
  validFrom : Time
  validUntil : Time
  status : QrTokenStatus
  revokedAt : Option Time
  generatedAt : Time

namespace QrService

def formatQrToken (q : QrToken) : Except Exn FormattedQr :=
  (createCompactQrToken rt q.tokenId).map fun compactQrToken =>
    { qrToken := compactQrToken
      compactQrToken
      signedQrToken := createSignedQrToken rt q.payload
      payload := q.payload
      validFrom := q.validFrom
      validUntil := q.validUntil
      status := q.status
      revokedAt := q.revokedAt
      generatedAt := q.generatedAt }

def findRegistrationWithRelations (registrationId : Id) : Svc RegistrationView := do
  match ← call (.registrationWithRelations registrationId) with
  | none => throw (.notFound "Registration not found")
  | some registration => return registration

/-- The attempts left of the loop of `generateTokenId`. -/
def tryTokenIds : Nat → Svc String
  | 0 => throw (.badRequest "Could not generate unique QR token ID")
  | attempts + 1 => do
      let hex ← call .random
      let tokenId := "QRT_" ++ hex
      match ← call (.qrTokenByTokenId tokenId) with
      | none => return tokenId
      | some _ => tryTokenIds attempts

def generateTokenId : Svc String := tryTokenIds 5

/-- The active token of a registration, when another request has won the race. -/
def findActive (registrationId : Id) (otherwise : Exn) : Svc QrToken := do
  match ← call (.qrTokenFirst { registrationId, status := some .ACTIVE }) with
  | some view => return view.token
  | none => throw otherwise

def createOrRefreshQrToken (data : QrTokenData) : Option QrToken → Svc QrToken
  | some existing => do
      let count ← call (.qrTokenRefresh existing data)
      if count = 1 then
        match ← call (.qrTokenByRegistration data.registrationId) with
        | some refreshed => return refreshed
        | none => throw (.notFound "QR token was not found after refresh")
      else findActive data.registrationId (.badRequest "Could not refresh QR token")
  | none =>
      tryCatch (call (.qrTokenCreate data)) fun error =>
        if error = .prisma .uniqueConstraint then findActive data.registrationId error
        else throw error

/-- The payload of a fresh token. -/
def freshPayload (registration : RegistrationView) (tokenId issuedAt nonce : String)
    (validFrom validUntil : Time) : QrPayload where
  tokenId
  eventId := registration.registration.eventId
  registrationId := registration.registration.id
  registrationPublicId := registration.registration.publicId
  attendeeTypeId := registration.registration.attendeeTypeId
  attendeeTypeCode := registration.attendeeType.code
  issuedAt
  validFrom := rt.toISOString validFrom
  validUntil := rt.toISOString validUntil
  nonce

/-- The second half of `generate`: draw a new token id and store the token. -/
def issue (registration : RegistrationView) (existing : Option QrToken) : Svc FormattedQr := do
  let validFrom := registration.event.qrValidFrom.getD registration.event.startsAt
  let validUntil := registration.event.qrValidUntil.getD registration.event.endsAt
  let tokenId ← generateTokenId
  let now ← call .now
  let nonce ← call .random
  let payload := freshPayload rt registration tokenId (rt.toISOString now) nonce validFrom
    validUntil
  let qrToken := createSignedQrToken rt payload
  let stored ← createOrRefreshQrToken {
    registrationId := registration.registration.id
    eventId := registration.registration.eventId
    tokenId
    payload
    signature := (splitDots qrToken).getD 1 ""
    validFrom
    validUntil } existing
  Prog.ofExcept (formatQrToken rt stored)

def generate (registrationId : Id) : Svc FormattedQr := do
  let registration ← findRegistrationWithRelations registrationId
  if registration.event.status = .ARCHIVED then
    throw (.badRequest "Archived events cannot be modified")
  else
    let existing ← call (.qrTokenByRegistration registrationId)
    match existing with
    | some q =>
        if q.status = .ACTIVE then Prog.ofExcept (formatQrToken rt q)
        else issue rt registration (some q)
    | none => issue rt registration none

def findByRegistration (registrationId : Id) : Svc FormattedQr := do
  let _ ← findRegistrationWithRelations registrationId
  match ← call (.qrTokenByRegistration registrationId) with
  | none => throw (.notFound "QR token not found")
  | some q => Prog.ofExcept (formatQrToken rt q)

def revoke (registrationId : Id) : Svc FormattedQr := do
  let registration ← findRegistrationWithRelations registrationId
  if registration.event.status = .ARCHIVED then
    throw (.badRequest "Archived events cannot be modified")
  else
    match ← call (.qrTokenByRegistration registrationId) with
    | none => throw (.notFound "QR token not found")
    | some _ =>
        let revoked ← call (.qrTokenRevoke registrationId)
        Prog.ofExcept (formatQrToken rt revoked)

/-- What `validate` returns. -/
structure Validation where
  valid : Bool
  reason : String
  registration : Option Registration := none
  attendeeType : Option AttendeeType := none
  payload : Option Json := none

/-- `isFullPayload`. -/
def isFullPayload (payload : Json) : Bool :=
  (payload.field? "eventId").isSome && (payload.field? "registrationId").isSome

/-- A stored token at `now`, presented with a full payload for another row. -/
def mismatches (payload : Json) (stored : QrTokenView) : Bool :=
  isFullPayload payload && (payload.string? "eventId" ≠ some stored.token.eventId ||
    payload.string? "registrationId" ≠ some stored.token.registrationId ||
    payload.string? "registrationPublicId" ≠ some stored.registration.publicId)

def validate (qrToken : String) : Svc Validation := do
  match verifyServerQr rt qrToken with
  | .error _ => return { valid := false, reason := "INVALID_SIGNATURE" }
  | .ok payload =>
      match ← call (.qrTokenByTokenId ((payload.string? "tokenId").getD "")) with
      | none => return { valid := false, reason := "TOKEN_NOT_FOUND", payload := some payload }
      | some stored =>
          if mismatches payload stored then
            return { valid := false, reason := "EVENT_MISMATCH", payload := some payload }
          else if stored.token.status = .REVOKED then
            return { valid := false, reason := "TOKEN_REVOKED", payload := some payload }
          else
            let now ← call .now
            if stored.token.status = .EXPIRED ∨ now < stored.token.validFrom ∨
                stored.token.validUntil < now then
              return { valid := false, reason := "TOKEN_EXPIRED", payload := some payload }
            else if stored.registration.status ≠ .ACTIVE then
              return { valid := false, reason := "REGISTRATION_INACTIVE", payload := some payload }
            else
              return { valid := true, reason := "VALID", registration := stored.registration,
                       attendeeType := stored.attendeeType, payload := some payload }

end QrService

end CreativeBackend
