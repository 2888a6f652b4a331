import CreativeBackend.Runtime.Text
import CreativeBackend.Qr.Issue
import CreativeBackend.Scans.Service

/-!
# The two validators of a server token

`QrService.validate` and `ScansService.validateQrForScan` decide on the same stored token, each
with its own checks. They find the same first check that fails.
-/

namespace CreativeBackend

open Relational Interaction ScansService

/-- The first check of a stored token that fails. -/
def storedDenial (now : Time) (stored : QrTokenView) : Option String :=
  if stored.token.status = .REVOKED then some "TOKEN_REVOKED"
  else if isOutsideWindow stored.token now then some "TOKEN_EXPIRED"
  else if stored.registration.status ≠ .ACTIVE then some "REGISTRATION_INACTIVE"
  else none

/-- What a validator decides. -/
structure Verdict where
  valid : Bool
  reason : String
  registrationId : Option Id
  deriving DecidableEq

def denied (reason : String) : Verdict where
  valid := false
  reason
  registrationId := none

def accepted (stored : QrTokenView) : Verdict where
  valid := true
  reason := "VALID"
  registrationId := some stored.registration.id

/-- The verdict on a stored token that the presented token is for. -/
def storedVerdict (now : Time) (stored : QrTokenView) : Verdict :=
  match storedDenial now stored with
  | some reason => denied reason
  | none => accepted stored

def QrService.Validation.verdict (v : QrService.Validation) : Verdict where
  valid := v.valid
  reason := v.reason
  registrationId := v.registration.map (·.id)

/-- The verdict of a scan; a pending code has none. -/
def QrContext.verdict : QrContext → Option Verdict
  | .valid context => some (accepted context.qr)
  | .invalid reason _ _ _ => some (denied reason)
  | .pendingOfflineReference _ _ _ => none
  | .pendingOffline _ => none

namespace Agreement

variable (rt : Runtime)

/-- The text names the stored token. -/
def names (text : String) (q : QrToken) : Bool :=
  (verifyServerQr rt text).toOption.any fun payload => payload.string? "tokenId" = some q.tokenId

/-- The text is a full signed token that was issued for the registration. -/
def issuedFor (text : String) (r : Registration) : Bool :=
  (verifySignedQrToken rt text).toOption.any fun payload =>
    payload.string? "registrationId" = some r.id

/-- The text is a full signed token with the public id of the registration. -/
def carriesPublicId (text : String) (r : Registration) : Bool :=
  (verifySignedQrToken rt text).toOption.any fun payload =>
    payload.string? "registrationPublicId" = some r.publicId

variable {rt} {s : Store} {ch : Choice} {text tokenId : String} {eventId : Id} {payload : Json}
  {stored : QrTokenView}

/-! ## Payloads -/

theorem fields_of_verifySignedQrToken (h : verifySignedQrToken rt text = .ok payload) :
    ∀ field ∈ requiredQrFields, nonBlank payload field = true := by
  unfold verifySignedQrToken at h
  split at h
  · cases h
  · split at h
    · cases h
    · split at h
      · cases h
      · split at h
        · next hfields =>
            cases h
            exact List.all_eq_true.mp hfields
        · cases h

theorem tokenId_of_verifyCompactQrToken (h : verifyCompactQrToken rt text = .ok payload) :
    ∃ tokenId, tokenId ≠ "" ∧ payload = .obj [("tokenId", .str tokenId)] := by
  simp only [verifyCompactQrToken] at h
  split at h
  · unfold verifyCompactQrTokenV2 at h
    split at h
    · next tokenId _ _ =>
        split at h
        · cases h
        · next hpieces =>
            have hne : tokenId ≠ "" := fun heq => hpieces (.inr (.inl heq))
            split at h
            · cases h
            · split at h
              · cases h
              · split at h
                · cases h
                · cases h
                  exact ⟨tokenId, hne, rfl⟩
    · cases h
  · unfold verifyLegacyCompactQrToken at h
    split at h
    · cases h
    · split at h
      · cases h
      · split at h
        · cases h
        · split at h
          · split at h
            · cases h
            · next tokenId _ hne =>
                cases h
                exact ⟨trim tokenId, hne, rfl⟩
          · cases h

/-- A payload that was read is full, or it is the token id. -/
theorem verifyServerQr_cases (h : verifyServerQr rt text = .ok payload) :
    verifySignedQrToken rt text = .ok payload ∨
      ∃ tokenId, tokenId ≠ "" ∧ payload = .obj [("tokenId", .str tokenId)] := by
  unfold verifyServerQr at h
  split at h
  · next hsigned => exact .inl (hsigned.trans h)
  · exact .inr (tokenId_of_verifyCompactQrToken h)

/-- A payload that was read has a token id. -/
theorem tokenId_of_verifyServerQr (h : verifyServerQr rt text = .ok payload) :
    ∃ tokenId, payload.string? "tokenId" = some tokenId ∧ tokenId ≠ "" := by
  rcases verifyServerQr_cases h with hsigned | ⟨tokenId, hne, rfl⟩
  · have hblank := fields_of_verifySignedQrToken hsigned "tokenId" (by decide)
    have hstring := string?_of_nonBlank hblank
    exact ⟨_, hstring, ne_empty_of_nonBlank hblank hstring⟩
  · exact ⟨tokenId, rfl, hne⟩

theorem verifyServerQr_trim : verifyServerQr rt (trim text) = verifyServerQr rt text := by
  simp only [verifyServerQr, verifySignedQrToken, verifyCompactQrToken, trim_trim]

/-- Nothing is read from a blank text. -/
theorem verifyServerQr_blank (h : trim text = "") (payload : Json) :
    verifyServerQr rt text ≠ .ok payload := by
  have hsplit : splitSigned "" = none := by decide
  have hstarts : startsWith "" (COMPACT_QR_PREFIX ++ ".") = false := by
    unfold startsWith
    decide
  simp [verifyServerQr, verifySignedQrToken, verifyCompactQrToken, verifyLegacyCompactQrToken, h,
    hsplit, hstarts]

/-! ## The checks of the stored token -/

theorem checkStoredQr_run {kept : Json} :
    (checkStoredQr stored payload kept).run (machine rt ch) s =
      (.ok (match storedDenial s.clock stored with
        | some reason => deniedFor stored payload reason
        | none => .valid { qr := stored, payload := kept }), s) := by
  unfold checkStoredQr storedDenial
  split
  · rfl
  · have hnow : (call Call.now : Svc Time).run (machine rt ch) s = (.ok s.clock, s) := rfl
    refine (Prog.run_bind_ok _ hnow _).trans ?_
    split
    · rfl
    · split <;> rfl

/-- The checks of the stored token give its verdict. -/
theorem verdict_of_checks {now : Time} {kept : Json} :
    (match storedDenial now stored with
      | some reason => deniedFor stored payload reason
      | none => QrContext.valid { qr := stored, payload := kept }).verdict =
      some (storedVerdict now stored) := by
  unfold storedVerdict
  split
  · rfl
  · rfl

/-! ## The runs -/

/-- The stored token that a payload names. -/
def lookup (s : Store) (payload : Json) : Except Exn (Option QrTokenView) :=
  tokenView s (s.qrTokens.rows.find? fun q => q.tokenId = (payload.string? "tokenId").getD "")

theorem lookup_run (rt : Runtime) (ch : Choice) (s : Store) (payload : Json) :
    (call (.qrTokenByTokenId ((payload.string? "tokenId").getD "")) :
      Svc (Option QrTokenView)).run (machine rt ch) s = (lookup s payload, s) := by
  rw [call, Prog.run_call]
  unfold machine
  rfl

/-- The scan is for another event or registration than the presented token. -/
def scanMismatches (payload : Json) (eventId : Id) (stored : QrTokenView) : Bool :=
  stored.token.eventId ≠ eventId ∨ (payload.string? "eventId").any (· ≠ eventId) ∨
    (payload.string? "registrationId").any (· ≠ stored.token.registrationId)

/-- The verdict on what a payload names. -/
def foundVerdict (now : Time) (mismatches : QrTokenView → Bool) : Option QrTokenView → Verdict
  | none => denied "TOKEN_NOT_FOUND"
  | some stored =>
      if mismatches stored then denied "EVENT_MISMATCH" else storedVerdict now stored

theorem scan_run (ch : Choice) (s : Store) (hne : (payload.string? "tokenId").getD "" ≠ "") :
    ((validateServerQrForScan payload eventId).run (machine rt ch) s).1.map QrContext.verdict =
      (lookup s payload).map fun found =>
        some (foundVerdict s.clock (scanMismatches payload eventId) found) := by
  have hcall := lookup_run rt ch s payload
  simp only [validateServerQrForScan, hne, if_false]
  cases hfound : lookup s payload with
  | error e =>
      rw [hfound] at hcall
      exact congrArg (fun r => r.1.map QrContext.verdict) (Prog.run_bind_error _ hcall _)
  | ok found =>
      rw [hfound] at hcall
      refine (congrArg (fun r => r.1.map QrContext.verdict) (Prog.run_bind_ok _ hcall _)).trans ?_
      cases found with
      | none => rfl
      | some stored =>
          have hverdict : (Except.ok (some stored) : Except Exn (Option QrTokenView)).map
              (fun found => some (foundVerdict s.clock (scanMismatches payload eventId) found)) =
              .ok (some (if scanMismatches payload eventId stored then denied "EVENT_MISMATCH"
                else storedVerdict s.clock stored)) := rfl
          rw [hverdict]
          simp only [scanMismatches, decide_eq_true_eq]
          by_cases hmismatch : stored.token.eventId ≠ eventId ∨
              (payload.string? "eventId").any (· ≠ eventId) ∨
              (payload.string? "registrationId").any (· ≠ stored.token.registrationId)
          · rw [if_pos hmismatch, if_pos hmismatch]
            rfl
          · rw [if_neg hmismatch, if_neg hmismatch, checkStoredQr_run]
            exact congrArg Except.ok verdict_of_checks

theorem isOutsideWindow_iff {token : QrToken} {now : Time} : isOutsideWindow token now = true ↔
    token.status = .EXPIRED ∨ now < token.validFrom ∨ token.validUntil < now := by
  simp [isOutsideWindow, or_assoc]

theorem validate_run (ch : Choice) (s : Store) (h : verifyServerQr rt text = .ok payload) :
    ((QrService.validate rt text).run (machine rt ch) s).1.map QrService.Validation.verdict =
      (lookup s payload).map (foundVerdict s.clock (QrService.mismatches payload)) := by
  have hcall := lookup_run rt ch s payload
  simp only [QrService.validate, h]
  cases hfound : lookup s payload with
  | error e =>
      rw [hfound] at hcall
      exact congrArg (fun r => r.1.map QrService.Validation.verdict)
        (Prog.run_bind_error _ hcall _)
  | ok found =>
      rw [hfound] at hcall
      refine (congrArg (fun r => r.1.map QrService.Validation.verdict)
        (Prog.run_bind_ok _ hcall _)).trans ?_
      cases found with
      | none => rfl
      | some stored =>
          have hverdict : (Except.ok (some stored) : Except Exn (Option QrTokenView)).map
              (foundVerdict s.clock (QrService.mismatches payload)) =
              .ok (if QrService.mismatches payload stored then denied "EVENT_MISMATCH"
                else storedVerdict s.clock stored) := rfl
          rw [hverdict]
          by_cases hmismatch : QrService.mismatches payload stored = true
          · rw [if_pos hmismatch]
            simp only [if_pos hmismatch]
            rfl
          · rw [if_neg hmismatch]
            simp only [if_neg hmismatch]
            have hnow : (call Call.now : Svc Time).run (machine rt ch) s = (.ok s.clock, s) := rfl
            unfold storedVerdict storedDenial
            by_cases hrevoked : stored.token.status = .REVOKED
            · rw [if_pos hrevoked]
              simp only [if_pos hrevoked]
              rfl
            · rw [if_neg hrevoked]
              simp only [if_neg hrevoked]
              refine (congrArg (fun r => r.1.map QrService.Validation.verdict)
                (Prog.run_bind_ok _ hnow _)).trans ?_
              simp only [isOutsideWindow_iff]
              split
              · rfl
              · split <;> rfl

/-! ## The result -/

theorem field?_of_string? {field value : String} (h : payload.string? field = some value) :
    payload.field? field = some (.str value) := by
  unfold Json.string? at h
  split at h
  · next hfield =>
      cases h
      exact hfield
  · cases h

/-- The two comparisons with the stored token come to the same. -/
theorem mismatches_eq (hread : verifyServerQr rt text = .ok payload)
    (hevent : stored.token.eventId = eventId)
    (hregistration : stored.registration.id = stored.token.registrationId)
    (hpublic : issuedFor rt text stored.registration = true →
      carriesPublicId rt text stored.registration = true) :
    QrService.mismatches payload stored = scanMismatches payload eventId stored := by
  rcases verifyServerQr_cases hread with hsigned | ⟨tokenId, -, rfl⟩
  · have hfields := fields_of_verifySignedQrToken hsigned
    have he := string?_of_nonBlank (hfields "eventId" (by decide))
    have hr := string?_of_nonBlank (hfields "registrationId" (by decide))
    have hp := string?_of_nonBlank (hfields "registrationPublicId" (by decide))
    generalize (payload.string? "eventId").getD "" = e at he
    generalize (payload.string? "registrationId").getD "" = r at hr
    generalize (payload.string? "registrationPublicId").getD "" = publicId at hp
    have hfull : QrService.isFullPayload payload = true := by
      simp [QrService.isFullPayload, field?_of_string? he, field?_of_string? hr]
    have hsame : r = stored.token.registrationId → publicId = stored.registration.publicId := by
      rintro rfl
      have hissued : issuedFor rt text stored.registration = true := by
        simp [issuedFor, hsigned, Except.toOption, hr, hregistration]
      simpa [carriesPublicId, hsigned, Except.toOption, hp] using hpublic hissued
    simp only [QrService.mismatches, scanMismatches, hfull, he, hr, hp, hevent, Bool.true_and,
      Option.any_some, ne_eq, Option.some.injEq, not_true_eq_false, false_or]
    rw [Bool.eq_iff_iff]
    simp only [Bool.or_eq_true, decide_eq_true_eq]
    constructor
    · rintro ((hne | hne) | hne)
      · exact .inl hne
      · exact .inr hne
      · exact .inr fun heq => hne (hsame heq)
    · rintro (hne | hne)
      · exact .inl (.inl hne)
      · exact .inl (.inr hne)
  · have he : (Json.obj [("tokenId", .str tokenId)]).string? "eventId" = none := rfl
    have hr : (Json.obj [("tokenId", .str tokenId)]).string? "registrationId" = none := rfl
    have hfull : QrService.isFullPayload (.obj [("tokenId", .str tokenId)]) = false := rfl
    simp [QrService.mismatches, scanMismatches, hfull, he, hr, hevent]

/-- A token view belongs to the token that the payload names. -/
theorem lookup_some (h : lookup s payload = .ok (some stored)) :
    stored.token ∈ s.qrTokens.rows ∧
      stored.token.tokenId = (payload.string? "tokenId").getD "" ∧
      stored.registration ∈ s.registrations.rows ∧
      stored.registration.id = stored.token.registrationId := by
  obtain ⟨hfound, hview⟩ := QrService.tokenView_ok h
  have hfind : s.qrTokens.rows.find? (fun q => q.tokenId = (payload.string? "tokenId").getD "") =
      some stored.token := hfound.symm
  obtain ⟨hmem, hkey⟩ := Table.find?_eq_some_iff.mp (hview stored rfl)
  refine ⟨List.mem_of_find?_eq_some hfind, ?_, hmem, hkey⟩
  simpa using List.find?_some hfind

/-- The gate refuses a text that neither validator of it reads. -/
theorem scan_unreadable {e : Exn} (hread : verifyServerQr rt text = .error e)
    (hreference : startsWith (trim text) "O2." = false)
    (hoffline : ((verifySignedOfflineQr rt (trim text) (some eventId)).run
      (machine rt ch) s).1.toOption.isNone = true) :
    ((validateQrForScan rt text eventId).run (machine rt ch) s).1.map QrContext.verdict =
      .ok (some (denied "INVALID_SIGNATURE")) := by
  unfold validateQrForScan
  simp only [hreference, Bool.false_eq_true, if_false, verifyServerQr_trim, hread]
  split
  · rfl
  · cases hrun : (verifySignedOfflineQr rt (trim text) (some eventId)).run (machine rt ch) s with
    | mk r s' =>
        rw [hrun] at hoffline
        cases r with
        | ok verified => cases hoffline
        | error e' =>
            have hthrows : (validateOfflineQrForScan rt (trim text) eventId).run (machine rt ch) s =
                (.error e', s') := Prog.run_bind_error _ hrun _
            change (((validateOfflineQrForScan rt (trim text) eventId).tryCatch fun _ =>
              .ret (unreadable none)).run (machine rt ch) s).1.map QrContext.verdict = _
            rw [Prog.run_tryCatch, hthrows]
            rfl

/-- The two validators decide alike. They return where the tokens have their registrations. -/
theorem validators_agree (rt : Runtime) (s : Store) (ch ch' : Choice) (text : String)
    (eventId : Id) (hreference : startsWith (trim text) "O2." = false)
    (hoffline : ((verifySignedOfflineQr rt (trim text) (some eventId)).run
      (machine rt ch') s).1.toOption.isNone = true)
    (hevent : ∀ q ∈ s.qrTokens.rows, names rt text q = true → q.eventId = eventId)
    (hpublic : ∀ r ∈ s.registrations.rows, issuedFor rt text r = true →
      carriesPublicId rt text r = true) :
    ((QrService.validate rt text).run (machine rt ch) s).1.map
        (fun v => some (QrService.Validation.verdict v)) =
      ((validateQrForScan rt text eventId).run (machine rt ch') s).1.map QrContext.verdict ∧
    ((∀ q ∈ s.qrTokens.rows, (s.qrTokenView q).toOption.isSome = true) →
      ((QrService.validate rt text).run (machine rt ch) s).1.toOption.isSome = true) := by
  cases hread : verifyServerQr rt text with
  | error e =>
      rw [scan_unreadable hread hreference hoffline]
      simp only [QrService.validate, hread]
      exact ⟨rfl, fun _ => rfl⟩
  | ok payload =>
      have hblank : trim text ≠ "" := fun hblank => verifyServerQr_blank hblank payload hread
      obtain ⟨tokenId, hid, hne⟩ := tokenId_of_verifyServerQr hread
      have hnonempty : (payload.string? "tokenId").getD "" ≠ "" := by
        rw [hid]
        exact hne
      have hscan : validateQrForScan rt text eventId = validateServerQrForScan payload eventId := by
        unfold validateQrForScan
        simp only [hblank, if_false, hreference, Bool.false_eq_true, verifyServerQr_trim, hread]
      have hvalidate := validate_run ch s hread
      constructor
      · rw [hscan, scan_run ch' s hnonempty]
        have hsome : ∀ x : Except Exn QrService.Validation,
            x.map (fun v => some (QrService.Validation.verdict v)) =
              (x.map QrService.Validation.verdict).map some := by
          intro x
          cases x <;> rfl
        rw [hsome, hvalidate]
        cases hfound : lookup s payload with
        | error e => rfl
        | ok found =>
            cases found with
            | none => rfl
            | some stored =>
                obtain ⟨hmem, htoken, hregistered, hkey⟩ := lookup_some hfound
                have hnamed : names rt text stored.token = true := by
                  rw [hid] at htoken
                  simp only [names, hread, Except.toOption, Option.any_some, hid, htoken]
                  simp
                have heq := mismatches_eq hread (hevent _ hmem hnamed) hkey
                  (hpublic _ hregistered)
                simp only [Except.map, foundVerdict, heq]
      · intro hviews
        have hreturns : (lookup s payload).toOption.isSome = true := by
          unfold lookup
          cases hq : s.qrTokens.rows.find? fun q =>
              q.tokenId = (payload.string? "tokenId").getD "" with
          | none => rfl
          | some q =>
              have hview := hviews q (List.mem_of_find?_eq_some hq)
              simp only [tokenView]
              cases hq' : s.qrTokenView q with
              | error e => rw [hq'] at hview; cases hview
              | ok view => rfl
        cases hrun : ((QrService.validate rt text).run (machine rt ch) s).1 with
        | ok v => rfl
        | error e =>
            rw [hrun] at hvalidate
            cases hfound : lookup s payload with
            | error e' => rw [hfound] at hreturns; cases hreturns
            | ok found => rw [hfound] at hvalidate; cases hvalidate

/-- On the compact token of the sample both give the registration. -/
theorem validators_agree_compact :
    ((QrService.validate sampleRuntime " Q2.T.s").run (machine sampleRuntime {}) sampleStore).1.map
        (fun v => some (QrService.Validation.verdict v)) =
      ((validateQrForScan sampleRuntime " Q2.T.s" "c0").run (machine sampleRuntime {})
        sampleStore).1.map QrContext.verdict ∧
    ((QrService.validate sampleRuntime " Q2.T.s").run (machine sampleRuntime {})
      sampleStore).1.toOption.any (fun v => v.verdict = ⟨true, "VALID", some "c0"⟩) = true := by
  have hagree := validators_agree sampleRuntime sampleStore {} {} " Q2.T.s" "c0" (by decide +kernel)
    (by decide +kernel) (by decide +kernel) (by decide +kernel)
  exact ⟨hagree.1, by decide +kernel⟩

end Agreement

end CreativeBackend
