import CreativeBackend.Runtime.Text
import CreativeBackend.Scans.Validation

/-!
# The formats of a credential

A full signed token, a compact token and an offline reference are texts of pieces between
dots. What was created is read back, with white space around it, and no text is read in two
formats.

## Implementation notes

HMAC, base64url and JSON are ideal: they are asked for nothing but what `IdealPrimitives` says.
-/

namespace CreativeBackend

open Interaction

/-- What the formats rely on. -/
structure IdealPrimitives (rt : Runtime) (p : QrPayload) : Prop where
  digest_ne_nil : ∀ data, rt.hmacSha256 rt.qrSigningSecret data ≠ []
  base64url_text : ∀ bytes, bytes ≠ [] → isTokenText (rt.base64url bytes) = true
  encoded_text : ∀ value, value ≠ "" → isTokenText (rt.encodeBase64Url value) = true
  decode_encode : rt.decodeBase64Url (rt.encodeBase64Url (rt.jsonStringify p.toJson)) =
    rt.jsonStringify p.toJson
  parse_stringify : rt.jsonParse (rt.jsonStringify p.toJson) = some p.toJson
  parse_empty : rt.jsonParse "" = none
  decode_O2 : rt.decodeBase64Url "O2" = ";"
  parse_semicolon : rt.jsonParse ";" = none

/-- The dispatch of a scan reads the token id from the text, with white space around it. -/
def Resolves (rt : Runtime) (text tokenId : String) : Prop :=
  ∀ before after : String, (∀ c ∈ before.toList, isTrimmed c = true) →
    (∀ c ∈ after.toList, isTrimmed c = true) → ∀ eventId, ∃ payload,
      payload.string? "tokenId" = some tokenId ∧
        ScansService.validateQrForScan rt (before ++ text ++ after) eventId =
          ScansService.validateServerQrForScan payload eventId

namespace Codec

variable (rt : Runtime) {p : QrPayload} {t : String}

/-! ## Signatures -/

variable {rt} in
theorem signEncodedPayload_text (h : IdealPrimitives rt p) (encodedPayload : String) :
    isTokenText (signEncodedPayload rt encodedPayload) = true :=
  h.base64url_text _ (h.digest_ne_nil encodedPayload)

variable {rt} in
theorem signCompactTokenId_text (h : IdealPrimitives rt p) (tokenId : String) :
    isTokenText (signCompactTokenId rt tokenId) = true := by
  apply h.base64url_text
  intro hnil
  have hdigest := h.digest_ne_nil (COMPACT_QR_PREFIX ++ "." ++ tokenId)
  rcases List.take_eq_nil_iff.mp hnil with hzero | hempty
  · exact absurd hzero (by decide)
  · exact hdigest hempty

variable {rt} in
/-- The encoded payload is not empty, as it is read back. -/
theorem encodedPayload_text (h : IdealPrimitives rt p) :
    isTokenText (rt.encodeBase64Url (rt.jsonStringify p.toJson)) = true := by
  apply h.encoded_text
  intro hempty
  have hparse := h.parse_stringify
  rw [hempty, h.parse_empty] at hparse
  cases hparse

variable {rt} in
theorem encodedPayload_ne_O2 (h : IdealPrimitives rt p) :
    rt.encodeBase64Url (rt.jsonStringify p.toJson) ≠ "O2" := by
  intro heq
  have hdecode := h.decode_encode
  rw [heq, h.decode_O2] at hdecode
  have hparse := h.parse_stringify
  rw [← hdecode, h.parse_semicolon] at hparse
  cases hparse

/-! ## Pieces -/

theorem splitSigned_append {encodedPayload signature : String}
    (he : isTokenText encodedPayload = true) (hs : isTokenText signature = true) :
    splitSigned (encodedPayload ++ "." ++ signature) = some (encodedPayload, signature) := by
  have hsplit : splitDots (encodedPayload ++ "." ++ signature) = [encodedPayload, signature] := by
    rw [splitDots_append (dot_not_mem_of_isTokenText he),
      splitDots_of_not_mem (dot_not_mem_of_isTokenText hs)]
  simp [splitSigned, hsplit, ne_empty_of_isTokenText he, ne_empty_of_isTokenText hs]

/-- Reading two pieces back. -/
theorem splitSigned_eq_some {text encodedPayload signature : String}
    (h : splitSigned text = some (encodedPayload, signature)) :
    text = encodedPayload ++ "." ++ signature ∧ '.' ∉ encodedPayload.toList := by
  unfold splitSigned at h
  split at h
  · next e s hsplit =>
      split at h
      · cases h
      · cases h
        obtain ⟨hdot, ⟨hnil, -⟩ | ⟨rest, htext, hrest⟩⟩ := splitDots_cons_eq hsplit
        · cases hnil
        · obtain ⟨-, ⟨-, rfl⟩ | ⟨_, _, hmore⟩⟩ := splitDots_cons_eq hrest
          · exact ⟨htext, hdot⟩
          · exact absurd hmore (by simp [splitDots, splitChars_ne_nil])
  · cases h

/-- A text of three pieces is not a signed payload. -/
theorem splitSigned_three {a b c : String} (ha : '.' ∉ a.toList) (hb : '.' ∉ b.toList) :
    splitSigned (a ++ "." ++ b ++ "." ++ c) = none := by
  have hassoc : a ++ "." ++ b ++ "." ++ c = a ++ "." ++ (b ++ "." ++ c) := by
    simp [String.append_assoc]
  unfold splitSigned
  rw [hassoc, splitDots_append ha, splitDots_append hb]
  have hne : splitDots c ≠ [] := by simp [splitDots, splitChars_ne_nil]
  cases hc : splitDots c with
  | nil => exact absurd hc hne
  | cons d ds => rfl

/-- A text starts with a piece and a dot if it is its first piece. -/
theorem startsWith_piece {piece first : String} (hp : '.' ∉ piece.toList)
    (hf : '.' ∉ first.toList) (rest : String) :
    startsWith (first ++ "." ++ rest) (piece ++ ".") = true ↔ first = piece := by
  have hiff : startsWith (first ++ "." ++ rest) (piece ++ ".") = true ↔
      ∃ t, first.toList ++ '.' :: rest.toList = piece.toList ++ '.' :: t := by
    unfold startsWith
    rw [List.isPrefixOf_iff_prefix]
    constructor
    · rintro ⟨t, ht⟩
      refine ⟨t, ?_⟩
      simpa [String.toList_append] using ht.symm
    · rintro ⟨t, ht⟩
      refine ⟨t, ?_⟩
      simpa [String.toList_append] using ht.symm
  rw [hiff]
  constructor
  · rintro ⟨t, ht⟩
    have hsplit : splitChars (first.toList ++ '.' :: rest.toList) =
        splitChars (piece.toList ++ '.' :: t) := congrArg splitChars ht
    rw [splitChars_append hf, splitChars_append hp] at hsplit
    exact String.toList_inj.mp (List.cons.inj hsplit).1
  · rintro rfl
    exact ⟨rest.toList, rfl⟩

/-! ## Full signed tokens -/

variable {rt} in
theorem createSignedQrToken_eq : createSignedQrToken rt p =
    rt.encodeBase64Url (rt.jsonStringify p.toJson) ++ "." ++
      signEncodedPayload rt (rt.encodeBase64Url (rt.jsonStringify p.toJson)) := rfl

/-- The characters of a text of two pieces. -/
theorem isTrimmed_append {a b : String} (ha : ∀ c ∈ a.toList, isTrimmed c = false)
    (hb : ∀ c ∈ b.toList, isTrimmed c = false) :
    ∀ c ∈ (a ++ "." ++ b).toList, isTrimmed c = false := by
  intro c hc
  have hcases : c ∈ a.toList ∨ c = '.' ∨ c ∈ b.toList := by
    simpa [String.toList_append, or_assoc] using hc
  rcases hcases with hmem | rfl | hmem
  · exact ha c hmem
  · decide
  · exact hb c hmem

variable {rt} in
theorem isTrimmed_signed (h : IdealPrimitives rt p) :
    ∀ c ∈ (createSignedQrToken rt p).toList, isTrimmed c = false :=
  isTrimmed_append (isTrimmed_of_isTokenText (encodedPayload_text h))
    (isTrimmed_of_isTokenText (signEncodedPayload_text h _))

variable {rt} in
/-- A full signed token is read back. -/
theorem verifySignedQrToken_create (h : IdealPrimitives rt p)
    (hp : requiredQrFields.all (nonBlank p.toJson) = true) :
    verifySignedQrToken rt (createSignedQrToken rt p) = .ok p.toJson := by
  have hsplit : splitSigned (createSignedQrToken rt p) =
      some (rt.encodeBase64Url (rt.jsonStringify p.toJson),
        signEncodedPayload rt (rt.encodeBase64Url (rt.jsonStringify p.toJson))) :=
    splitSigned_append (encodedPayload_text h) (signEncodedPayload_text h _)
  have hdecode : decodePayload rt (rt.encodeBase64Url (rt.jsonStringify p.toJson)) =
      some p.toJson := by
    unfold decodePayload
    rw [h.decode_encode, h.parse_stringify]
    rfl
  simp [verifySignedQrToken, trim_eq_self (isTrimmed_signed h), hsplit, hdecode, hp]

variable {rt} in
/-- A full signed token is not taken for an offline reference. -/
theorem not_startsWith_signed (h : IdealPrimitives rt p) :
    startsWith (createSignedQrToken rt p) "O2." = false := by
  have hO2 : '.' ∉ ("O2" : String).toList := by decide
  apply Bool.eq_false_iff.mpr
  intro hstarts
  rw [createSignedQrToken_eq] at hstarts
  exact encodedPayload_ne_O2 h
    ((startsWith_piece hO2 (dot_not_mem_of_isTokenText (encodedPayload_text h)) _).mp hstarts)

/-! ## Compact tokens -/

variable {rt} in
/-- The text of a compact token. -/
theorem createCompactQrToken_text (ht : isTokenText t = true) :
    createCompactQrToken rt t =
      .ok (COMPACT_QR_PREFIX ++ "." ++ t ++ "." ++ signCompactTokenId rt t) := by
  have htrim : trim t = t := trim_eq_self (isTrimmed_of_isTokenText ht)
  simp [createCompactQrToken, htrim, ne_empty_of_isTokenText ht]

variable {rt} in
theorem isTrimmed_compact (h : IdealPrimitives rt p) (ht : isTokenText t = true) :
    ∀ c ∈ (COMPACT_QR_PREFIX ++ "." ++ t ++ "." ++ signCompactTokenId rt t).toList,
      isTrimmed c = false :=
  isTrimmed_append
    (isTrimmed_append (forall_mem_of_all (by decide)) (isTrimmed_of_isTokenText ht))
    (isTrimmed_of_isTokenText (signCompactTokenId_text h t))

theorem splitDots_compact {a b c : String} (ha : '.' ∉ a.toList) (hb : '.' ∉ b.toList)
    (hc : '.' ∉ c.toList) : splitDots (a ++ "." ++ b ++ "." ++ c) = [a, b, c] := by
  have hassoc : a ++ "." ++ b ++ "." ++ c = a ++ "." ++ (b ++ "." ++ c) := by
    simp [String.append_assoc]
  rw [hassoc, splitDots_append ha, splitDots_append hb, splitDots_of_not_mem hc]

/-- A text starts with its first piece and a dot, and with no other piece and a dot. -/
theorem startsWith_three {piece a : String} (hp : '.' ∉ piece.toList) (ha : '.' ∉ a.toList)
    (b c : String) :
    startsWith (a ++ "." ++ b ++ "." ++ c) (piece ++ ".") = true ↔ a = piece := by
  have hassoc : a ++ "." ++ b ++ "." ++ c = a ++ "." ++ (b ++ "." ++ c) := by
    simp [String.append_assoc]
  rw [hassoc]
  exact startsWith_piece hp ha _

variable {rt} in
/-- A compact token is read back. -/
theorem verifyCompactQrToken_create (h : IdealPrimitives rt p) (ht : isTokenText t = true)
    (hlen : t.length ≤ 128) :
    verifyCompactQrToken rt (COMPACT_QR_PREFIX ++ "." ++ t ++ "." ++ signCompactTokenId rt t) =
      .ok (.obj [("tokenId", .str t)]) := by
  have hQ2 : '.' ∉ COMPACT_QR_PREFIX.toList := by decide
  have hstarts := (startsWith_three hQ2 hQ2 t (signCompactTokenId rt t)).mpr rfl
  have hsplit := splitDots_compact hQ2 (dot_not_mem_of_isTokenText ht)
    (dot_not_mem_of_isTokenText (signCompactTokenId_text h t))
  have hlong : ¬ 128 < t.length := Nat.not_lt.mpr hlen
  simp only [verifyCompactQrToken, trim_eq_self (isTrimmed_compact h ht), hstarts, if_true,
    verifyCompactQrTokenV2, hsplit]
  simp [hlong, ht, ne_empty_of_isTokenText ht, signCompactTokenId_text h t,
    ne_empty_of_isTokenText (signCompactTokenId_text h t)]

variable {rt} in
/-- A compact token is no full signed token. -/
theorem verifySignedQrToken_compact (h : IdealPrimitives rt p) (ht : isTokenText t = true) :
    verifySignedQrToken rt (COMPACT_QR_PREFIX ++ "." ++ t ++ "." ++ signCompactTokenId rt t) =
      .error (.error "Invalid signed QR token format") := by
  have hthree : splitSigned (COMPACT_QR_PREFIX ++ "." ++ t ++ "." ++ signCompactTokenId rt t) =
      none := splitSigned_three (by decide) (dot_not_mem_of_isTokenText ht)
  simp only [verifySignedQrToken, trim_eq_self (isTrimmed_compact h ht), hthree]

/-- A compact token is accepted only as it was created. -/
theorem eq_create_of_verifyCompactQrToken {text : String} {payload : Json}
    (hstarts : startsWith (trim text) "Q2." = true)
    (h : verifyCompactQrToken rt text = .ok payload) :
    ∃ tokenId, payload = .obj [("tokenId", .str tokenId)] ∧
      createCompactQrToken rt tokenId = .ok (trim text) := by
  have hstem : COMPACT_QR_PREFIX ++ "." = "Q2." := by decide
  simp only [verifyCompactQrToken, hstem, hstarts, if_true] at h
  unfold verifyCompactQrTokenV2 at h
  split at h
  · next pre tokenId signature hsplit =>
      split at h
      · cases h
      · next hpieces =>
          split at h
          · cases h
          · next hid =>
              split at h
              · cases h
              · split at h
                · cases h
                · next hsignature =>
                    cases h
                    have hpre : pre = COMPACT_QR_PREFIX := by
                      simpa using fun hne => hpieces (.inl hne)
                    have htext : isTokenText tokenId = true := by
                      simpa using fun hbad => hid (.inr hbad)
                    have hsign : signature = signCompactTokenId rt tokenId := by
                      simpa using hsignature
                    refine ⟨tokenId, rfl, ?_⟩
                    rw [createCompactQrToken_text htext, ← hpre, ← hsign]
                    -- The three pieces make up the text.
                    obtain ⟨-, ⟨hnil, -⟩ | ⟨rest, htrim, hrest⟩⟩ := splitDots_cons_eq hsplit
                    · cases hnil
                    · obtain ⟨-, ⟨hnil, -⟩ | ⟨last, hmore, hlast⟩⟩ := splitDots_cons_eq hrest
                      · cases hnil
                      · obtain ⟨-, ⟨-, rfl⟩ | ⟨_, _, hend⟩⟩ := splitDots_cons_eq hlast
                        · rw [htrim, hmore]
                          simp [String.append_assoc]
                        · exact absurd hend (by simp [splitDots, splitChars_ne_nil])
  · cases h

/-! ## Offline references -/

/-- The first piece of a signed text that starts as an offline reference is `O2`, which encodes
no payload. -/
theorem decodePayload_of_reference {text encodedPayload signature : String}
    (hdecode : rt.decodeBase64Url "O2" = ";") (hparse : rt.jsonParse ";" = none)
    (hstarts : startsWith text "O2." = true)
    (hsplit : splitSigned text = some (encodedPayload, signature)) :
    decodePayload rt encodedPayload = none := by
  obtain ⟨htext, hdot⟩ := splitSigned_eq_some hsplit
  have hO2 : '.' ∉ ("O2" : String).toList := by decide
  rw [htext] at hstarts
  have hpiece : encodedPayload = "O2" := (startsWith_piece hO2 hdot signature).mp hstarts
  unfold decodePayload
  rw [hpiece, hdecode, hparse]

variable {rt} in
theorem verifySignedQrToken_reference (h : IdealPrimitives rt p) {text : String}
    (hstarts : startsWith (trim text) "O2." = true) (payload : Json) :
    verifySignedQrToken rt text ≠ .ok payload := by
  unfold verifySignedQrToken
  intro hok
  split at hok
  · cases hok
  · next hsplit =>
      rw [decodePayload_of_reference rt h.decode_O2 h.parse_semicolon hstarts hsplit] at hok
      split at hok <;> cases hok

/-- A text has one first piece. -/
theorem startsWith_exclusive {text : String} (ho : startsWith text "O2." = true) :
    startsWith text "Q2." = false := by
  apply Bool.eq_false_iff.mpr
  intro hq
  unfold startsWith at ho hq
  obtain ⟨t, ht⟩ := List.isPrefixOf_iff_prefix.mp ho
  obtain ⟨u, hu⟩ := List.isPrefixOf_iff_prefix.mp hq
  rw [← ht] at hu
  have hhead := congrArg List.head? hu
  revert hhead
  simp

variable {rt} in
theorem verifyCompactQrToken_reference (h : IdealPrimitives rt p) {text : String}
    (hstarts : startsWith (trim text) "O2." = true) (payload : Json) :
    verifyCompactQrToken rt text ≠ .ok payload := by
  have hstem : COMPACT_QR_PREFIX ++ "." = "Q2." := by decide
  simp only [verifyCompactQrToken, hstem, startsWith_exclusive hstarts, Bool.false_eq_true,
    if_false]
  unfold verifyLegacyCompactQrToken
  intro hok
  split at hok
  · cases hok
  · next hsplit =>
      rw [decodePayload_of_reference rt h.decode_O2 h.parse_semicolon hstarts hsplit] at hok
      split at hok <;> cases hok

/-! ## The result -/

variable {rt} in
/-- The dispatch reads what the two verifiers read. -/
theorem resolves_of_verifyServerQr {text tokenId : String} {payload : Json}
    (htext : ∀ c ∈ text.toList, isTrimmed c = false) (hne : text ≠ "")
    (hstarts : startsWith text "O2." = false) (hverified : verifyServerQr rt text = .ok payload)
    (hid : payload.string? "tokenId" = some tokenId) : Resolves rt text tokenId := by
  intro before after hbefore hafter eventId
  refine ⟨payload, hid, ?_⟩
  unfold ScansService.validateQrForScan
  simp only [trim_surrounded hbefore htext hafter, hne, if_false, hstarts, Bool.false_eq_true,
    hverified]

theorem append_dot_ne_empty (a b : String) : a ++ "." ++ b ≠ "" := by
  intro hempty
  have hlist := congrArg String.toList hempty
  simp [String.toList_append] at hlist

/-- What is created is read back and resolved, an offline reference is neither a full signed nor
a compact token, and a compact token is accepted only as it was created. -/
theorem credential_codec (rt : Runtime) (p : QrPayload) (t : String) (h : IdealPrimitives rt p)
    (hp : requiredQrFields.all (nonBlank p.toJson) = true) (ht : isTokenText t = true)
    (hlen : t.length ≤ 128) :
    (verifySignedQrToken rt (createSignedQrToken rt p) = .ok p.toJson ∧
      Resolves rt (createSignedQrToken rt p) p.tokenId) ∧
    (∃ compact, createCompactQrToken rt t = .ok compact ∧
      verifyCompactQrToken rt compact = .ok (.obj [("tokenId", .str t)]) ∧
      Resolves rt compact t) ∧
    (∀ text, startsWith (trim text) "O2." = true → ∀ payload,
      verifySignedQrToken rt text ≠ .ok payload ∧ verifyCompactQrToken rt text ≠ .ok payload) ∧
    ∀ text payload, startsWith (trim text) "Q2." = true →
      verifyCompactQrToken rt text = .ok payload → ∃ tokenId,
        payload = .obj [("tokenId", .str tokenId)] ∧
          createCompactQrToken rt tokenId = .ok (trim text) := by
  have hsigned := verifySignedQrToken_create h hp
  have hcompact := verifyCompactQrToken_create h ht hlen
  refine ⟨⟨hsigned, ?_⟩, ⟨_, createCompactQrToken_text ht, hcompact, ?_⟩, ?_, ?_⟩
  · have hserver : verifyServerQr rt (createSignedQrToken rt p) = .ok p.toJson := by
      simp only [verifyServerQr, hsigned]
    exact resolves_of_verifyServerQr (isTrimmed_signed h) (append_dot_ne_empty _ _)
      (not_startsWith_signed h) hserver rfl
  · have hserver : verifyServerQr rt (COMPACT_QR_PREFIX ++ "." ++ t ++ "." ++
        signCompactTokenId rt t) = .ok (.obj [("tokenId", .str t)]) := by
      simp only [verifyServerQr, verifySignedQrToken_compact h ht, hcompact]
    have hO2 : startsWith (COMPACT_QR_PREFIX ++ "." ++ t ++ "." ++ signCompactTokenId rt t) "O2." =
        false := by
      have hiff := startsWith_three (show '.' ∉ ("O2" : String).toList by decide)
        (show '.' ∉ COMPACT_QR_PREFIX.toList by decide) t (signCompactTokenId rt t)
      exact Bool.eq_false_iff.mpr fun hstarts => absurd (hiff.mp hstarts) (by decide)
    exact resolves_of_verifyServerQr (isTrimmed_compact h ht) (append_dot_ne_empty _ _) hO2
      hserver rfl
  · intro text hstarts payload
    constructor
    · exact verifySignedQrToken_reference h hstarts payload
    · exact verifyCompactQrToken_reference h hstarts payload
  · exact fun text payload hstarts hok => eq_create_of_verifyCompactQrToken rt hstarts hok

/-! ## A credential -/

section Credential

/-- A digit of base64url. -/
def base64UrlDigit (n : Nat) : Char :=
  "ABCDEFGHIJKLMNOPQRSTUVWXYZabcdefghijklmnopqrstuvwxyz0123456789-_".toList.getD (n % 64) 'A'

/-- The digits of bytes, three bytes to four digits, without padding. -/
def base64UrlDigits : List UInt8 → List Char
  | [] => []
  | [a] => [base64UrlDigit (a.toNat / 4), base64UrlDigit (a.toNat * 16)]
  | [a, b] => [base64UrlDigit (a.toNat / 4), base64UrlDigit (a.toNat * 16 + b.toNat / 16),
      base64UrlDigit (b.toNat * 4)]
  | a :: b :: c :: rest => base64UrlDigit (a.toNat / 4) ::
      base64UrlDigit (a.toNat * 16 + b.toNat / 16) ::
      base64UrlDigit (b.toNat * 4 + c.toNat / 64) :: base64UrlDigit c.toNat ::
      base64UrlDigits rest

theorem base64UrlDigit_text (n : Nat) : (base64UrlDigit n).isAlphanum = true ∨
    base64UrlDigit n = '_' ∨ base64UrlDigit n = '-' := by
  have hall : ∀ i < 64, (base64UrlDigit i).isAlphanum = true ∨ base64UrlDigit i = '_' ∨
      base64UrlDigit i = '-' := by
    decide +kernel
  have hmod : base64UrlDigit n = base64UrlDigit (n % 64) := by
    simp [base64UrlDigit]
  rw [hmod]
  exact hall _ (Nat.mod_lt n (by omega))

theorem base64UrlDigits_text (bytes : List UInt8) : ∀ c ∈ base64UrlDigits bytes,
    c.isAlphanum = true ∨ c = '_' ∨ c = '-' := by
  induction bytes using base64UrlDigits.induct with
  | case1 => simp [base64UrlDigits]
  | case2 a => simp [base64UrlDigits, base64UrlDigit_text]
  | case3 a b => simp [base64UrlDigits, base64UrlDigit_text]
  | case4 a b c rest ih =>
      simp only [base64UrlDigits, List.forall_mem_cons, base64UrlDigit_text, true_and]
      exact ih

theorem isTokenText_base64UrlDigits {bytes : List UInt8} (h : bytes ≠ []) :
    isTokenText (String.ofList (base64UrlDigits bytes)) = true := by
  have hne : base64UrlDigits bytes ≠ [] := by
    cases bytes using base64UrlDigits.fun_cases with
    | case1 => exact absurd rfl h
    | case2 a => simp [base64UrlDigits]
    | case3 a b => simp [base64UrlDigits]
    | case4 a b c rest => simp [base64UrlDigits]
  have hall := base64UrlDigits_text bytes
  simpa [isTokenText, hne, or_assoc] using hall

def credential : QrPayload where
  tokenId := "QRT_0011223344556677"
  eventId := "event-1"
  registrationId := "registration-secret"
  registrationPublicId := "REG_001"
  attendeeTypeId := "attendee-1"
  attendeeTypeCode := "VIP"
  issuedAt := "2026-08-02T09:00:00.000Z"
  validFrom := "2026-08-02T08:00:00.000Z"
  validUntil := "2026-08-02T20:00:00.000Z"
  nonce := "nonce-value"

def credentialText : String :=
  "\x7b\"tokenId\":\"QRT_0011223344556677\",\"eventId\":\"event-1\"," ++
  "\"registrationId\":\"registration-secret\",\"registrationPublicId\":\"REG_001\"," ++
  "\"attendeeTypeId\":\"attendee-1\",\"attendeeTypeCode\":\"VIP\"," ++
  "\"issuedAt\":\"2026-08-02T09:00:00.000Z\",\"validFrom\":\"2026-08-02T08:00:00.000Z\"," ++
  "\"validUntil\":\"2026-08-02T20:00:00.000Z\",\"nonce\":\"nonce-value\"\x7d"

def encodeText (value : String) : String :=
  String.ofList (base64UrlDigits (value.toList.map Char.toUInt8))

/-- Node's functions on the credential and the secret. -/
def credentialRuntime : Runtime where
  qrSigningSecret := "test-secret"
  scanProcessingEnabled := true
  registrationPipelineEnabled := false
  publicBaseUrl := "http://localhost:3000"
  hmacSha256 _ data :=
    if data = encodeText credentialText then
      [114, 16, 57, 180, 76, 244, 205, 10, 41, 47, 214, 125, 15, 171, 181, 176,
        5, 177, 38, 34, 38, 185, 70, 245, 234, 239, 186, 86, 164, 27, 76, 136]
    else
      [31, 73, 87, 53, 192, 196, 65, 187, 207, 80, 100, 222, 34, 115, 139, 238,
        59, 90, 162, 248, 75, 83, 12, 27, 77, 237, 221, 59, 144, 237, 195, 246]
  sha256Hex s := s
  base64url bytes := String.ofList (base64UrlDigits bytes)
  encodeBase64Url := encodeText
  decodeBase64Url text :=
    if text = "O2" then ";" else if text = encodeText credentialText then credentialText else ""
  jsonStringify _ := credentialText
  jsonParse text := if text = credentialText then some credential.toJson else none
  numberToString _ := ""
  isEd25519PublicKey _ := true
  verifyEd25519 _ _ _ := true
  parseDate _ := none
  toISOString _ := ""
  random n := Nat.repr n

theorem idealPrimitives_credential : IdealPrimitives credentialRuntime credential where
  digest_ne_nil data := by
    simp only [credentialRuntime]
    split <;> simp
  base64url_text _ h := isTokenText_base64UrlDigits h
  encoded_text value h := by
    apply isTokenText_base64UrlDigits
    intro hnil
    have hempty : value.toList = [] := List.map_eq_nil_iff.mp hnil
    exact h (String.toList_eq_nil_iff.mp hempty)
  decode_encode := by
    have hO2 : encodeText credentialText ≠ "O2" := by decide +kernel
    simp only [credentialRuntime, hO2, if_false, if_true]
  parse_stringify := by
    simp only [credentialRuntime, if_true]
  parse_empty := by decide +kernel
  decode_O2 := rfl
  parse_semicolon := by decide +kernel

/-- The compact token of the credential is resolved to it. -/
theorem credential_codec_resolves :
    Resolves credentialRuntime "Q2.QRT_0011223344556677.H0lXNcDEQbvPUGTeInOL7g"
      "QRT_0011223344556677" := by
  obtain ⟨-, ⟨compact, hcreate, -, hresolves⟩, -, -⟩ :=
    credential_codec credentialRuntime credential "QRT_0011223344556677" idealPrimitives_credential
      (by decide +kernel) (by decide +kernel) (by decide +kernel)
  have htext : (createCompactQrToken credentialRuntime "QRT_0011223344556677").toOption =
      some "Q2.QRT_0011223344556677.H0lXNcDEQbvPUGTeInOL7g" := by
    decide +kernel
  rw [hcreate] at htext
  rw [← Option.some.inj htext]
  exact hresolves

end Credential

end Codec

end CreativeBackend
