import CreativeBackend.Interaction.OwnLog
import CreativeBackend.Relational.Alone
import CreativeBackend.Accounts.Services

/-!
# What the account services do to refresh tokens

No call deletes a token, gives it another user or takes a revocation back. A refresh exchanges the
token that it has read as not revoked, for a token of the same user; a login stores a token of the
user that it has verified.
-/

namespace CreativeBackend.Accounts

open Relational Interaction

abbrev AuthEvent := Interaction.Event AuthResp Exn AuthStore

abbrev AuthWorld := World AuthResp Exn AuthStore

abbrev AuthPool := Interaction.Config AuthResp Exn AuthWorld

/-- The token is revoked. -/
def RefreshToken.Revoked (r : RefreshToken) : Prop := r.revokedAt ≠ none

instance (r : RefreshToken) : Decidable r.Revoked := inferInstanceAs (Decidable (_ ≠ _))

/-- A later state of a token. -/
structure RefreshToken.Stays (a b : RefreshToken) : Prop where
  user : a.userId = b.userId
  hash : a.tokenHash = b.tokenHash
  revoked : a.Revoked → b.Revoked

theorem RefreshToken.Stays.refl (a : RefreshToken) : a.Stays a := ⟨rfl, rfl, fun h => h⟩

theorem RefreshToken.Stays.trans (a b c : RefreshToken) (h : a.Stays b) (h' : b.Stays c) :
    a.Stays c where
  user := h.user.trans h'.user
  hash := h.hash.trans h'.hash
  revoked ha := h'.revoked (h.revoked ha)

namespace AuthStore

variable {s s' : AuthStore} {now : Time}

/-! ## Statements -/

theorem commit_cases {α : Type} {x : Except Exn (α × AuthStore)} {r : Except Exn α}
    (h : s.commit x = (r, s')) :
    (s' = s ∧ ∃ e, r = .error e) ∨ ∃ a, r = .ok a ∧ x = .ok (a, s') := by
  rcases x with e | ⟨a, s₁⟩
  · cases h
    exact .inl ⟨rfl, e, rfl⟩
  · cases h
    exact .inr ⟨a, rfl, rfl⟩

/-- The tokens stay. -/
abbrev KeepsTokens (s s' : AuthStore) : Prop := s.tokens.Persists RefreshToken.Stays s'.tokens

theorem KeepsTokens.refl (s : AuthStore) : s.KeepsTokens s := Table.Persists.refl .refl _

theorem KeepsTokens.of_eq (h : s'.tokens = s.tokens) : s.KeepsTokens s' := by
  rw [KeepsTokens, h]
  exact .refl .refl _

theorem KeepsTokens.trans {s'' : AuthStore} (h : s.KeepsTokens s') (h' : s'.KeepsTokens s'') :
    s.KeepsTokens s'' :=
  Table.Persists.trans .trans h h'

theorem stays_revoke (where_ : RefreshToken → Bool) (now : Time) (r : RefreshToken) :
    r.Stays (revoke where_ now r) := by
  unfold revoke
  split
  · exact ⟨rfl, rfl, fun _ h => by cases h⟩
  · exact .refl r

theorem keepsTokens_revokeMany (where_ : RefreshToken → Bool) :
    s.KeepsTokens (s.revokeMany where_ now) :=
  .mapRows _ (revoke_id where_ now) (clash_of_revoke where_ now) (stays_revoke where_ now)

/-- `updateMany` leaves no token that it is about without a revocation. -/
theorem revoked_of_revokeMany {where_ : RefreshToken → Bool} {a b : RefreshToken}
    (ha : a ∈ s.tokens.rows) (hw : where_ a = true)
    (hb : b ∈ (s.revokeMany where_ now).tokens.rows) (hid : b.id = a.id) : b.Revoked := by
  obtain ⟨a', ha', rfl⟩ := List.mem_map.mp hb
  obtain rfl : a' = a := s.tokens.eq_of_key ha' ha ((revoke_id where_ now a').symm.trans hid)
  unfold revoke
  split
  · exact fun h => by cases h
  · next hnot => exact fun hnone => hnot ⟨hnone, hw⟩

theorem revokeToken_eq_ok {id : Id} {row : RefreshToken}
    (h : s.revokeToken id now = .ok (row, s')) : ∃ t,
      s.tokens.update id (fun r => { r with revokedAt := some now }) = .done row t ∧
        s' = { s with tokens := t } := by
  unfold revokeToken at h
  split at h
  · cases h
  · cases h
  · next row' t hu =>
      cases h
      exact ⟨t, hu, rfl⟩

theorem keepsTokens_revokeToken {id : Id} {row : RefreshToken}
    (h : s.revokeToken id now = .ok (row, s')) : s.KeepsTokens s' := by
  obtain ⟨t, hu, rfl⟩ := revokeToken_eq_ok h
  exact .update hu .refl fun a => ⟨rfl, rfl, fun _ h => by cases h⟩

/-- The key of a token that is in the store and revoked. -/
def HasRevoked (s : AuthStore) (id : Id) : Prop := ∃ r ∈ s.tokens.rows, r.id = id ∧ r.Revoked

theorem hasRevoked_revokeToken {id : Id} {row : RefreshToken}
    (h : s.revokeToken id now = .ok (row, s')) : s'.HasRevoked id := by
  obtain ⟨t, hu, rfl⟩ := revokeToken_eq_ok h
  obtain ⟨a, -, hak, hrow, -, -⟩ := Table.update_eq_done hu
  refine ⟨row, (Table.mem_update hu).mpr (.inr rfl), ?_, ?_⟩
  · rw [hrow]
    rfl
  · rw [hrow]
    exact fun h => by cases h

theorem HasRevoked.kept {id : Id} (h : s.HasRevoked id) (hk : s.KeepsTokens s') :
    s'.HasRevoked id := by
  obtain ⟨r, hr, hid, hrevoked⟩ := h
  obtain ⟨r', hr', hid', hstays⟩ := hk r hr
  exact ⟨r', hr', hid'.trans hid, hstays.revoked hrevoked⟩

/-- A revoked token is not found as one that is not. -/
theorem HasRevoked.revoked {r : RefreshToken} (h : s.HasRevoked r.id) (hr : r ∈ s.tokens.rows) :
    r.Revoked := by
  obtain ⟨r', hr', hid, hrevoked⟩ := h
  rwa [← s.tokens.eq_of_key hr' hr hid]

/-- The row is new in the later store. -/
structure Minted (d : NewToken) (row : RefreshToken) (s s' : AuthStore) : Prop where
  mem : row ∈ s'.tokens.rows
  user : row.userId = d.userId
  fresh : ∀ a ∈ s.tokens.rows, a.id ≠ row.id
  unused : ∀ a ∈ s.tokens.rows, a.tokenHash ≠ d.tokenHash

theorem createToken_eq_ok {d : NewToken} {row : RefreshToken}
    (h : s.createToken d = .ok (row, s')) : s.KeepsTokens s' ∧ Minted d row s s' := by
  unfold createToken at h
  split at h
  · split at h
    · cases h
    · next row' t hcreate =>
        cases h
        obtain ⟨hrow, -, -⟩ := Table.create_eq_some hcreate
        refine ⟨.create .refl hcreate, (Table.mem_create hcreate).mpr (.inr rfl), ?_, ?_, ?_⟩
        · rw [hrow]
          rfl
        · intro a ha
          rw [hrow]
          exact s.tokens.key_ne_fresh ha (Nat.le_refl _)
        · intro a ha heq
          have hclash := Table.not_clash_of_create hcreate ha
          rw [hrow] at hclash
          exact hclash (beq_iff_eq.mpr heq)
  · cases h

theorem exchange_eq_ok {id : Id} {d : NewToken} {row : RefreshToken}
    (h : s.exchange id now d = .ok (row, s')) :
    s.KeepsTokens s' ∧ Minted d row s s' ∧ s'.HasRevoked id := by
  obtain ⟨⟨old, s₁⟩, hrevoke, hcreate⟩ := Except.exists_of_bind_eq_ok h
  have hkept : s.KeepsTokens s₁ := keepsTokens_revokeToken hrevoke
  obtain ⟨hkept', hminted⟩ := createToken_eq_ok hcreate
  refine ⟨hkept.trans hkept', ⟨hminted.mem, hminted.user, fun a ha => ?_, fun a ha => ?_⟩,
    (hasRevoked_revokeToken hrevoke).kept hkept'⟩
  · obtain ⟨b, hb, hid, -⟩ := hkept a ha
    exact fun heq => hminted.fresh b hb (hid.trans heq)
  · obtain ⟨b, hb, -, hstays⟩ := hkept a ha
    exact fun heq => hminted.unused b hb (hstays.hash.symm.trans heq)

theorem updateUser_tokens {id : Id} {f : User → User} {user : User}
    (h : s.updateUser id f = .ok (user, s')) : s'.tokens = s.tokens := by
  unfold updateUser at h
  split at h
  · cases h
  · cases h
  · cases h
    rfl

theorem updateActive_eq_ok {id : Id} {isActive : Bool} {client : Client}
    (h : s.updateActive id isActive = .ok (client, s')) :
    s'.tokens = s.tokens ∧ s'.users = s.users := by
  unfold updateActive at h
  split at h
  · cases h
  · cases h
  · cases h
    exact ⟨rfl, rfl⟩

/-- Every token of the user is revoked, as the earlier store has them. -/
def CutOff (userId : Id) (s s' : AuthStore) : Prop :=
  ∀ a ∈ s.tokens.rows, a.userId = userId → s'.HasRevoked a.id

theorem CutOff.kept {s'' : AuthStore} {userId : Id} (h : CutOff userId s s')
    (hk : s'.KeepsTokens s'') : CutOff userId s s'' :=
  fun a ha hu => (h a ha hu).kept hk

theorem cutOff_revokeMany {where_ : RefreshToken → Bool} {userId : Id}
    (hw : ∀ a ∈ s.tokens.rows, a.userId = userId → where_ a = true) :
    CutOff userId s (s.revokeMany where_ now) := by
  intro a ha hu
  have hkept : s.KeepsTokens (s.revokeMany where_ now) := keepsTokens_revokeMany where_
  obtain ⟨b, hb, hid, -⟩ := hkept a ha
  exact ⟨b, hb, hid, revoked_of_revokeMany ha (hw a ha hu) hb hid⟩

theorem setActive_eq_ok {id : Id} {isActive : Bool} {client : Client}
    (h : s.setActive id isActive = .ok (client, s')) : s.KeepsTokens s' ∧
      (isActive = false → ∀ userId, s.ofClient id userId = true → CutOff userId s s') := by
  obtain ⟨⟨client', s₁⟩, hupdate, h⟩ := Except.exists_of_bind_eq_ok h
  obtain ⟨htokens, husers⟩ := updateActive_eq_ok hupdate
  cases isActive with
  | true =>
      cases h
      exact ⟨.of_eq htokens, fun h => by cases h⟩
  | false =>
      cases h
      have hkept : s.KeepsTokens s₁ := .of_eq htokens
      refine ⟨hkept.trans (keepsTokens_revokeMany _), fun _ userId hof a ha hu => ?_⟩
      have hcut : CutOff userId s₁ (s₁.revokeMany (fun r => s₁.ofClient id r.userId) s₁.clock) := by
        apply cutOff_revokeMany
        intro b _ hb
        rw [hb, ofClient, husers]
        exact hof
      exact hcut a (htokens ▸ ha) hu

theorem resetPassword_eq_ok {userId : Id} {passwordHash : String} {user : User}
    (h : s.resetPassword userId passwordHash now = .ok (user, s')) :
    s.KeepsTokens s' ∧ CutOff userId s s' := by
  obtain ⟨⟨user', s₁⟩, hupdate, h⟩ := Except.exists_of_bind_eq_ok h
  cases h
  have htokens := updateUser_tokens hupdate
  have hkept : s.KeepsTokens s₁ := .of_eq htokens
  refine ⟨hkept.trans (keepsTokens_revokeMany _), fun a ha hu => ?_⟩
  exact cutOff_revokeMany (fun b _ hb => by simpa using hb) a (htokens ▸ ha) hu

end AuthStore

open AuthStore

/-! ## Calls -/

variable {cfg : AuthConfig} {s s' : AuthStore}

theorem keepsTokens_of_machine {ch : AuthChoice} {c : AuthCall} {x : Except Exn (AuthResp c)}
    (h : authMachine ch c s = (x, s')) : s.KeepsTokens s' := by
  have hread : ∀ {a : AuthResp c}, authQuery s a = (x, s') → s.KeepsTokens s' := by
    intro a heq
    cases heq
    exact .refl s
  cases c with
  | userLoggedIn id now =>
      rcases commit_cases h with ⟨rfl, -⟩ | ⟨user, -, hdone⟩
      · exact .refl s'
      · exact .of_eq (updateUser_tokens hdone)
  | tokenCreate d =>
      rcases commit_cases h with ⟨rfl, -⟩ | ⟨row, -, hdone⟩
      · exact .refl s'
      · exact (createToken_eq_ok hdone).1
  | tokenRevoke id now =>
      rcases commit_cases h with ⟨rfl, -⟩ | ⟨row, -, hdone⟩
      · exact .refl s'
      · exact keepsTokens_revokeToken hdone
  | exchange id now d =>
      rcases commit_cases h with ⟨rfl, -⟩ | ⟨row, -, hdone⟩
      · exact .refl s'
      · exact (exchange_eq_ok hdone).1
  | setActive id isActive =>
      rcases commit_cases h with ⟨rfl, -⟩ | ⟨client, -, hdone⟩
      · exact .refl s'
      · exact (setActive_eq_ok hdone).1
  | clientDeactivate id =>
      rcases commit_cases h with ⟨rfl, -⟩ | ⟨client, -, hdone⟩
      · exact .refl s'
      · exact .of_eq (updateActive_eq_ok hdone).1
  | resetPassword userId passwordHash now =>
      rcases commit_cases h with ⟨rfl, -⟩ | ⟨user, -, hdone⟩
      · exact .refl s'
      · exact (resetPassword_eq_ok hdone).1
  | _ => exact hread h

/-- No call deletes a token, or takes a revocation back. -/
theorem keepsTokens_of_outcome {c : AuthCall} {x : Except Exn (AuthResp c)}
    (h : (authService cfg).Outcome c s x s') : s.KeepsTokens s' := by
  rcases h with ⟨ch, h⟩ | ⟨-, rfl, -⟩
  · exact keepsTokens_of_machine h
  · exact .refl s'

/-- A call that succeeds is answered by the machine. -/
theorem step_of_ok {c : AuthCall} {a : AuthResp c}
    (h : (authService cfg).Outcome c s (.ok a) s') : ∃ ch, authMachine ch c s = (.ok a, s') := by
  rcases h with h | ⟨-, -, e, he⟩
  · exact h
  · cases he

theorem ok_of_commit {α : Type} {x : Except Exn (α × AuthStore)} {a : α}
    (h : s.commit x = (.ok a, s')) : x = .ok (a, s') := by
  rcases commit_cases h with ⟨-, e, he⟩ | ⟨b, hb, hx⟩
  · cases he
  · cases hb
    exact hx

end CreativeBackend.Accounts
