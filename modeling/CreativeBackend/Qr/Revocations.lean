import CreativeBackend.Qr.WindowRuns

/-!
# Codes of revoked registrations

Once the token of a registration is revoked, `validate` accepts no code for the registration until
its token is generated again: it accepts active tokens alone, and only `generate` writes one.
-/

namespace CreativeBackend

open Relational Interaction

namespace Revocations

open Prog QrService QrWindows

variable {rt : Runtime} {ch : Choice} {s s' : Store} {registrationId : Id}

/-- No token of the registration is active. -/
def NoneActive (registrationId : Id) (s : Store) : Prop :=
  ∀ q ∈ s.qrTokens.rows, q.registrationId = registrationId → q.status ≠ .ACTIVE

/-! ## Accepted codes -/

/-- A code is accepted for an active token of the registration that is shown. -/
theorem active_of_validate {qrToken : String} {v : Validation}
    (h : (validate rt qrToken).run (machine rt ch) s = (.ok v, s')) (hvalid : v.valid = true) :
    ∃ q ∈ s.qrTokens.rows, q.status = .ACTIVE ∧
      ∃ r, v.registration = some r ∧ s.registrations.find? q.registrationId = some r := by
  unfold validate at h
  split at h
  · cases h
    cases hvalid
  · obtain ⟨found, s₁, hfound, h⟩ := run_bind_eq_ok _ h
    rw [call, run_call] at hfound
    obtain ⟨hview, rfl⟩ := Prod.mk.inj hfound
    cases found with
    | none =>
        cases h
        cases hvalid
    | some stored =>
        obtain ⟨htoken, hregistration⟩ := tokenView_ok hview
        dsimp only at h
        split at h
        · cases h
          cases hvalid
        split at h
        · cases h
          cases hvalid
        · next hrevoked =>
            obtain ⟨now, s₂, -, h⟩ := run_bind_eq_ok _ h
            split at h
            · cases h
              cases hvalid
            · next hwindow =>
                split at h
                · cases h
                  cases hvalid
                · cases h
                  refine ⟨stored.token, List.mem_of_find?_eq_some htoken.symm, ?_, _, rfl,
                    hregistration stored rfl⟩
                  cases hstatus : stored.token.status with
                  | ACTIVE => rfl
                  | REVOKED => exact absurd hstatus hrevoked
                  | EXPIRED => exact absurd (.inl hstatus) hwindow

/-! ## Runs -/

/-- The stores after a revocation of a registration, while no token is generated for it. Others may
delete tokens and change every other table. -/
inductive RevokedRun (rt : Runtime) (registrationId : Id) : Store → Prop
  | start {s s' : Store} {qr : FormattedQr} (ch : Choice)
      (h : (revoke rt registrationId).run (machine rt ch) s = (.ok qr, s')) :
      RevokedRun rt registrationId s'
  | generate {s : Store} (ch : Choice) {id : Id} (hid : id ≠ registrationId)
      (hr : RevokedRun rt registrationId s) :
      RevokedRun rt registrationId ((QrService.generate rt id).run (machine rt ch) s).2
  | revoke {s : Store} (ch : Choice) (id : Id) (hr : RevokedRun rt registrationId s) :
      RevokedRun rt registrationId ((QrService.revoke rt id).run (machine rt ch) s).2
  | other {s s' : Store} (hr : RevokedRun rt registrationId s)
      (h : ∀ q ∈ s'.qrTokens.rows, q ∈ s.qrTokens.rows) : RevokedRun rt registrationId s'

theorem noneActive_of_revoke {qr : FormattedQr}
    (h : (revoke rt registrationId).run (machine rt ch) s = (.ok qr, s')) :
    NoneActive registrationId s' := by
  obtain ⟨v, s₁, -, h⟩ := run_bind_eq_ok _ h
  split at h
  · cases h
  · obtain ⟨found, s₂, -, h⟩ := run_bind_eq_ok _ h
    cases found with
    | none => cases h
    | some existing =>
        obtain ⟨row, s₃, hrevoke, h⟩ := run_bind_eq_ok _ h
        obtain ⟨-, rfl⟩ := run_ofExcept_eq_ok _ h
        rw [call, run_call] at hrevoke
        rcases Store.revokeQrToken_cases hrevoke with ⟨e, he, -⟩ | ⟨x, row, t, hof, hu, -, rfl⟩
        · cases he
        · intro q hq hreg
          rcases (Table.mem_update hu).mp hq with ⟨hold, hne⟩ | rfl
          · -- A registration has one token.
            have hsame : some x = some q := hof.symm.trans (qrTokenOf_of_mem hold hreg)
            exact absurd (congrArg QrToken.id (Option.some.inj hsame)).symm hne
          · obtain ⟨old, -, -, hrow, -, -⟩ := Table.update_eq_done hu
            rw [hrow]
            exact fun hactive => by cases hactive

theorem noneActive_of_run (hr : RevokedRun rt registrationId s) : NoneActive registrationId s := by
  induction hr with
  | start ch h => exact noneActive_of_revoke h
  | @generate s ch id hid hr ih =>
      intro q hq hreg
      rcases generate_issues rt ch s id with hsame | ⟨r, e, hr, -, hissues⟩
      · exact ih q (hsame ▸ hq) hreg
      · rcases hissues q hq with hold | ⟨d, hfresh, hissued⟩
        · exact ih q hold hreg
        · have hid' : r.id = id := (Table.find?_eq_some_iff.mp hr).2
          rw [hissued.registration, hfresh.registration, hid'] at hreg
          exact absurd hreg hid
  | @revoke s ch id hr ih =>
      intro q hq hreg
      rcases Revokes.mem (revoke_revokes rt ch s id) hq with hold | ⟨q₀, -, rfl⟩
      · exact ih q hold hreg
      · exact fun hactive => by cases hactive
  | other hr h ih => exact fun q hq => ih q (h q hq)

/-- `validate` accepts no text as a code of the registration. -/
def Refuses (rt : Runtime) (registrationId : Id) (s : Store) : Prop :=
  ∀ ch qrToken v s', (validate rt qrToken).run (machine rt ch) s = (.ok v, s') → v.valid = true →
    ∃ r, v.registration = some r ∧ r.id ≠ registrationId

/-- After a revocation, no code is accepted for the registration until a token is generated for it
again. -/
theorem refuses_of_revoked {rt : Runtime} {registrationId : Id} {s : Store}
    (hr : RevokedRun rt registrationId s) : Refuses rt registrationId s := by
  intro ch qrToken v s' h hvalid
  obtain ⟨q, hq, hactive, r, hshown, hfind⟩ := active_of_validate h hvalid
  refine ⟨r, hshown, fun hid => noneActive_of_run hr q hq ?_ hactive⟩
  rw [← hid]
  exact (Table.find?_eq_some_iff.mp hfind).2.symm

/-- A code that was generated and revoked. -/
theorem refuses_extended : ∃ s, s.qrTokens.rows ≠ [] ∧ Refuses extendedRuntime "c0" s := by
  have hok : ((revoke extendedRuntime "c0").run (machine extendedRuntime {})
      ((generate extendedRuntime "c0").run (machine extendedRuntime {}) extendedStore).2).1.isOk =
        true := by
    decide +kernel
  obtain ⟨qr, hqr⟩ := Tickets.exists_of_isOk hok
  refine ⟨_, ?_, refuses_of_revoked (.start {} hqr)⟩
  decide +kernel

end Revocations

end CreativeBackend
