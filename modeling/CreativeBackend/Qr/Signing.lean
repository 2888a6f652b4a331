import CreativeBackend.Store.Schema

/-!
# Signed QR tokens

The formats of `qr-signing.util.ts`: the full signed token
`<payload>.<signature>`, the compact token `Q2.<tokenId>.<signature>`, and the
legacy compact token, a signed payload with only a token id.
-/

namespace CreativeBackend

variable (rt : Runtime)

def COMPACT_QR_PREFIX : String := "Q2"

def COMPACT_QR_SIGNATURE_BYTES : Nat := 16

/-- The fields that a full signed payload must carry. -/
def requiredQrFields : List String :=
  ["tokenId", "eventId", "registrationId", "registrationPublicId", "attendeeTypeId",
    "attendeeTypeCode", "issuedAt", "validFrom", "validUntil", "nonce"]

/-- The payload as the object that `JSON.stringify` prints. -/
def QrPayload.toJson (p : QrPayload) : Json :=
  .obj [("tokenId", .str p.tokenId), ("eventId", .str p.eventId),
    ("registrationId", .str p.registrationId),
    ("registrationPublicId", .str p.registrationPublicId),
    ("attendeeTypeId", .str p.attendeeTypeId), ("attendeeTypeCode", .str p.attendeeTypeCode),
    ("issuedAt", .str p.issuedAt), ("validFrom", .str p.validFrom),
    ("validUntil", .str p.validUntil), ("nonce", .str p.nonce)]

def signCompactTokenId (tokenId : String) : String :=
  rt.base64url ((rt.hmacSha256 rt.qrSigningSecret (COMPACT_QR_PREFIX ++ "." ++ tokenId)).take
    COMPACT_QR_SIGNATURE_BYTES)

def signEncodedPayload (encodedPayload : String) : String :=
  rt.base64url (rt.hmacSha256 rt.qrSigningSecret encodedPayload)

def createSignedQrToken (payload : QrPayload) : String :=
  let encodedPayload := rt.encodeBase64Url (rt.jsonStringify payload.toJson)
  encodedPayload ++ "." ++ signEncodedPayload rt encodedPayload

def createCompactQrToken (tokenId : String) : Except Exn String :=
  let normalizedTokenId := trim tokenId
  if normalizedTokenId = "" then .error (.error "QR token ID is required")
  else .ok (COMPACT_QR_PREFIX ++ "." ++ normalizedTokenId ++ "." ++
    signCompactTokenId rt normalizedTokenId)

/-- Two non-empty pieces and no third one: `<payload>.<signature>`. -/
def splitSigned (qrToken : String) : Option (String × String) :=
  match splitDots qrToken with
  | [encodedPayload, signature] =>
      if encodedPayload = "" ∨ signature = "" then none else some (encodedPayload, signature)
  | _ => none

/-- The object that a signed payload encodes. -/
def decodePayload (encodedPayload : String) : Option Json :=
  match rt.jsonParse (rt.decodeBase64Url encodedPayload) with
  | some (.obj fields) => some (.obj fields)
  | _ => none

/-- A string property that is not blank. -/
def nonBlank (payload : Json) (field : String) : Bool :=
  match payload.string? field with
  | some value => trim value ≠ ""
  | none => false

def verifySignedQrToken (qrToken : String) : Except Exn Json :=
  match splitSigned (trim qrToken) with
  | none => .error (.error "Invalid signed QR token format")
  | some (encodedPayload, signature) =>
      if signature ≠ signEncodedPayload rt encodedPayload then
        .error (.error "Invalid QR token signature")
      else
        match decodePayload rt encodedPayload with
        | none => .error (.error "Invalid signed QR token payload")
        | some payload =>
            if requiredQrFields.all (nonBlank payload) then .ok payload
            else .error (.error "Invalid signed QR token payload")

def verifyCompactQrTokenV2 (qrToken : String) : Except Exn Json :=
  match splitDots qrToken with
  | [pre, tokenId, signature] =>
      if pre ≠ COMPACT_QR_PREFIX ∨ tokenId = "" ∨ signature = "" then
        .error (.error "Invalid compact QR token format")
      else if tokenId.length > 128 ∨ isTokenText tokenId = false then
        .error (.error "Invalid compact QR token ID")
      else if isTokenText signature = false then
        .error (.error "Invalid compact QR token signature")
      else if signature ≠ signCompactTokenId rt tokenId then
        .error (.error "Invalid compact QR token signature")
      else .ok (.obj [("tokenId", .str tokenId)])
  | _ => .error (.error "Invalid compact QR token format")

def verifyLegacyCompactQrToken (qrToken : String) : Except Exn Json :=
  match splitSigned qrToken with
  | none => .error (.error "Invalid compact QR token format")
  | some (encodedPayload, signature) =>
      if signature ≠ signEncodedPayload rt encodedPayload then
        .error (.error "Invalid compact QR token signature")
      else
        match decodePayload rt encodedPayload with
        | none => .error (.error "Invalid compact QR token payload")
        | some payload =>
            match payload.string? "tokenId" with
            | some tokenId =>
                if trim tokenId = "" then .error (.error "Invalid compact QR token payload")
                else .ok (.obj [("tokenId", .str (trim tokenId))])
            | none => .error (.error "Invalid compact QR token payload")

def verifyCompactQrToken (qrToken : String) : Except Exn Json :=
  let normalizedToken := trim qrToken
  if startsWith normalizedToken (COMPACT_QR_PREFIX ++ ".") then
    verifyCompactQrTokenV2 rt normalizedToken
  else verifyLegacyCompactQrToken rt normalizedToken

/-- The payload of a full signed or compact token, in the order both services try them. -/
def verifyServerQr (qrToken : String) : Except Exn Json :=
  match verifySignedQrToken rt qrToken with
  | .ok payload => .ok payload
  | .error _ => verifyCompactQrToken rt qrToken

end CreativeBackend
