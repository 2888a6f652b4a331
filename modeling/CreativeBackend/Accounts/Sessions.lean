import CreativeBackend.Accounts.SingleUse
import CreativeBackend.Runtime.JsonText
import CreativeBackend.Scans.Service

/-!
# The refresh tokens of sessions

A refresh token is signed from the account and the second in which it is issued. Two tokens of one
account that are issued within one second are the same, and the second one cannot be stored. Where
no account is issued two tokens within one second, every login and every refresh that is not refused
succeeds, and no token is issued twice.
-/

namespace CreativeBackend.Accounts

open Relational Interaction AuthStore AuthService

/-! ## The system -/

/-- Logins and refreshes at any times over one store. -/
def sessionService (cfg : AuthConfig) : Service AuthResp Exn AuthStore where
  Choice := AuthChoice
  machine := authMachine
  faulty _ := False
  env s s' := ∃ clock, s.clock ≤ clock ∧ s' = { s with clock }
  starts s p s' := s' = s ∧
    ((∃ identifier password, p = (AuthService.login cfg identifier password).void) ∨
      ∃ refreshToken, p = (refresh cfg refreshToken).void)

/-- The hash of the refresh token that a login or a refresh has stored, and then returns. -/
def issued? : AuthEvent → Option String
  | ⟨_, .tokenCreate d, .ok _, _⟩ => some d.tokenHash
  | ⟨_, .exchange _ _ d, .ok _, _⟩ => some d.tokenHash
  | _ => none

/-- A call fails only with an `UnauthorizedException`, and the tokens that were issued differ. -/
structure DistinctSessions (c : AuthPool) : Prop where
  succeeds : ∀ (t : Nat) (e : Exn), c.pool[t]? = some (.throw e) →
    e = .error "Invalid credentials" ∨ e = .error "Invalid refresh token"
  distinct : (c.world.trace.filterMap issued?).Nodup

/-- The tokens of different accounts or of different seconds have different hashes. -/
def SignsApart (cfg : AuthConfig) : Prop :=
  ∀ p q t u,
    cfg.hashRefreshToken (cfg.signRefresh p t) = cfg.hashRefreshToken (cfg.signRefresh q u) →
      p = q ∧ t / 1000 = u / 1000

/-! ## Signatures -/

def UserRecord.payload (r : UserRecord) : JwtPayload where
  sub := r.user.id
  role := r.user.role
  clientId := r.user.clientId

/-- The account that a call found. -/
def account? : AuthEvent → Option UserRecord
  | ⟨_, .userByEmailOrPhone _, .ok found, _⟩ => found
  | ⟨_, .userById _, .ok found, _⟩ => found
  | _ => none

/-- The account for which `issueTokens` reads the clock next. -/
def signing : List AuthEvent → Option JwtPayload
  | ⟨_, .userLoggedIn _ _, .ok _, _⟩ :: log => (log.findSome? account?).map UserRecord.payload
  | ⟨_, .userById _, .ok (some r), _⟩ :: _ => some r.payload
  | _ => none

def clock? : AuthEvent → Option Time
  | ⟨_, .now, .ok now, _⟩ => some now
  | _ => none

/-- The account and the time that `issueTokens` signs, in its reading of the clock. -/
def signature? (e : AuthEvent) (log : List AuthEvent) : Option (JwtPayload × Time) :=
  (clock? e).bind fun now => (signing log).map fun p => (p, now)

/-- The signatures along the log of a thread. -/
def ownSignatures : List AuthEvent → List (JwtPayload × Time)
  | [] => []
  | e :: log => (signature? e log).toList ++ ownSignatures log

/-- The signatures of all threads. -/
def signatures : List AuthEvent → List (Nat × JwtPayload × Time)
  | [] => []
  | e :: trace =>
      ((signature? e (trace.filter fun f => f.thread = e.thread)).map fun s =>
        (e.thread, s)).toList ++ signatures trace

def AuthCall.isNow : AuthCall → Bool
  | .now => true
  | _ => false

/-- Where a token is signed, none was signed for the account in this second. -/
def signedAlone (t : Nat) (c : AuthCall) (w : AuthWorld) : Prop :=
  c.isNow = true → ∀ p ∈ signing (w.own t), ∀ s ∈ signatures w.trace, s.2.1 = p →
    s.2.2 / 1000 ≠ w.store.clock / 1000

instance (t : Nat) (c : AuthCall) (w : AuthWorld) : Decidable (signedAlone t c w) :=
  inferInstanceAs (Decidable (c.isNow = true → ∀ p ∈ signing (w.own t),
    ∀ s ∈ signatures w.trace, s.2.1 = p → s.2.2 / 1000 ≠ w.store.clock / 1000))

theorem mem_signatures_of_own {t : Nat} {s : JwtPayload × Time} (trace : List AuthEvent)
    (h : s ∈ ownSignatures (trace.filter fun e => e.thread = t)) : (t, s) ∈ signatures trace := by
  induction trace with
  | nil => cases h
  | cons e trace ih =>
      rw [signatures]
      by_cases ht : e.thread = t
      · rw [List.filter_cons_of_pos (by simpa using ht), ownSignatures] at h
        rcases List.mem_append.mp h with hnew | hold
        · refine List.mem_append_left _ ?_
          rw [ht, Option.mem_toList, Option.map_eq_some_iff]
          exact ⟨s, Option.mem_toList.mp hnew, rfl⟩
        · exact List.mem_append_right _ (ih hold)
      · rw [List.filter_cons_of_neg (by simpa using ht)] at h
        exact List.mem_append_right _ (ih h)

/-! ## The rule of the programs -/

variable {cfg : AuthConfig}

/-- A program knows its account when it writes, has signed what it stores, and stores once. -/
structure StoreRule (cfg : AuthConfig) (log : List AuthEvent) (d : NewToken) : Prop where
  account : ∃ e ∈ log, ∃ r, account? e = some r ∧ r.user.id = d.userId
  signed : ∃ s ∈ ownSignatures log, d.tokenHash = cfg.hashRefreshToken (cfg.signRefresh s.1 s.2)
  once : ∀ e ∈ log, issued? e = none

def sessionRule (cfg : AuthConfig) (log : List AuthEvent) : AuthCall → Prop
  | .userLoggedIn id _ => ∃ e ∈ log, ∃ r, account? e = some r ∧ r.user.id = id
  | .tokenCreate d => StoreRule cfg log d
  | .exchange id _ d => StoreRule cfg log d ∧ ∃ e ∈ log, ∃ r, fetched? e = some r ∧ r.id = id
  | .now => True
  | .userByEmailOrPhone _ => True
  | .userById _ => True
  | .tokenByHash _ => True
  | _ => False

/-- A program ends with a refusal, or returns. -/
def Refused {α : Type} (x : Except Exn α) : Prop :=
  ∀ e, x = .error e → e = .error "Invalid credentials" ∨ e = .error "Invalid refresh token"

/-- Calls are answered. -/
def sessionAnswers (_ : List AuthEvent) (c : AuthCall) (x : Except Exn (AuthResp c))
    (_ : AuthStore) : Prop := ∃ a, x = .ok a

theorem along_answered {α : Type} {t : Nat} {Q : List AuthEvent → Except Exn α → Prop}
    {c : AuthCall} {f : AuthResp c → AuthSvc α} {log : List AuthEvent} (hc : sessionRule cfg log c)
    (h : ∀ a s, (f a).Along (sessionRule cfg) sessionAnswers t Q (⟨t, c, .ok a, s⟩ :: log)) :
    ((authCall c).bind f).Along (sessionRule cfg) sessionAnswers t Q log := by
  refine Prog.along_call_bind hc (fun a s _ => h a s) ?_
  rintro e s ⟨a, ha⟩
  cases ha

variable {t : Nat}

theorem refused_credentials {α : Type} :
    Refused (.error (.error "Invalid credentials") : Except Exn α) := by
  intro e h
  cases h
  exact .inl rfl

theorem refused_refresh {α : Type} :
    Refused (.error (.error "Invalid refresh token") : Except Exn α) := by
  intro e h
  cases h
  exact .inr rfl

theorem refused_ok {α : Type} {a : α} : Refused (.ok a : Except Exn α) := fun e h => by cases h

/-- What a session program keeps at its end. -/
abbrev AlongSession {α : Type} (cfg : AuthConfig) (t : Nat) (p : AuthSvc α)
    (log : List AuthEvent) : Prop :=
  p.Along (sessionRule cfg) sessionAnswers t (fun _ x => Refused x) log

/-- The tokens are signed for the time that the clock shows. -/
theorem along_issueTokens {α : Type} {Q : List AuthEvent → Except Exn α → Prop} {user : AuthUser}
    {f : String × String → AuthSvc α} {log : List AuthEvent}
    (h : ∀ now s, (f (cfg.signAccess ⟨user.id, user.role, user.clientId⟩ now,
      cfg.signRefresh ⟨user.id, user.role, user.clientId⟩ now)).Along (sessionRule cfg)
        sessionAnswers t Q (⟨t, .now, .ok now, s⟩ :: log)) :
    ((issueTokens cfg user).bind f).Along (sessionRule cfg) sessionAnswers t Q log := by
  rw [issueTokens, Prog.bind_eq, Prog.bind_assoc]
  exact along_answered (c := .now) trivial h

theorem along_expiry {α : Type} {Q : List AuthEvent → Except Exn α → Prop}
    {f : Time → AuthSvc α} {log : List AuthEvent}
    (h : ∀ expiresAt now s, (f expiresAt).Along (sessionRule cfg)
      sessionAnswers t Q (⟨t, .now, .ok now, s⟩ :: log)) :
    ((getRefreshTokenExpiresAt cfg).bind f).Along (sessionRule cfg) sessionAnswers t Q log := by
  rw [getRefreshTokenExpiresAt, Prog.bind_eq, Prog.bind_assoc]
  exact along_answered (c := .now) trivial fun now s => h _ now s

/-- A validated login has found its account. -/
theorem along_validated (identifier password : String) :
    (validateUserByEmailOrPhone cfg identifier password).Along (sessionRule cfg) sessionAnswers t
      (fun log x => Refused x ∧ ∀ user, x = .ok user → ∃ r s, user = r.authUser ∧
        log = [⟨t, .userByEmailOrPhone identifier, .ok (some r), s⟩]) [] := by
  apply along_answered (c := .userByEmailOrPhone identifier) trivial
  intro found s
  cases found with
  | none => exact ⟨refused_credentials, fun user h => by cases h⟩
  | some r =>
      dsimp only
      split
      · exact ⟨refused_credentials, fun user h => by cases h⟩
      · split
        · exact ⟨refused_credentials, fun user h => by cases h⟩
        · refine ⟨refused_ok, fun user h => ?_⟩
          cases h
          exact ⟨r, s, rfl, rfl⟩

theorem along_login_session (identifier password : String) :
    AlongSession cfg t (AuthService.login cfg identifier password) [] := by
  refine Prog.along_bind (along_validated identifier password) (fun log user hvalid => ?_)
    fun log e hrefused => fun e' h => hrefused.1 e' (by cases h; rfl)
  obtain ⟨r, s, rfl, rfl⟩ := hvalid.2 user rfl
  apply along_answered (c := .now) trivial
  intro now s₁
  apply along_answered (c := .userLoggedIn r.authUser.id now)
  · exact ⟨_, List.mem_cons_of_mem _ List.mem_cons_self, r, rfl, rfl⟩
  intro user s₂
  apply along_issueTokens
  intro signedAt s₃
  dsimp only
  rw [storeRefreshToken, Prog.bind_eq, Prog.bind_eq, Prog.bind_assoc]
  apply along_expiry
  intro expiresAt now' s₄
  refine along_answered (c := .tokenCreate _) ?_ fun row s₅ => refused_ok
  refine ⟨⟨⟨t, .userByEmailOrPhone identifier, .ok (some r), s⟩, by simp, r, rfl, rfl⟩,
    ⟨(r.payload, signedAt), ?_, rfl⟩, ?_⟩
  · exact List.mem_append_right _ (List.mem_append_left _ (Option.mem_toList.mpr rfl))
  · simp [issued?]

theorem along_refresh_session (refreshToken : String) :
    AlongSession cfg t (refresh cfg refreshToken) [] := by
  rw [AlongSession, refresh, verifyRefreshToken, Prog.bind_eq, Prog.bind_eq, Prog.bind_assoc]
  apply along_answered (c := .now) trivial
  intro now s
  cases hverify : cfg.verifyRefresh refreshToken now with
  | none => exact refused_refresh
  | some payload =>
      apply along_answered (c := .tokenByHash (cfg.hashRefreshToken refreshToken)) trivial
      intro found s₁
      apply along_answered (c := .now) trivial
      intro now' s₂
      cases found with
      | none => exact refused_refresh
      | some stored =>
          dsimp only
          split
          · exact refused_refresh
          · apply along_answered (c := .userById payload.sub) trivial
            intro account s₃
            cases account with
            | none => exact refused_refresh
            | some r =>
                dsimp only
                split
                · exact refused_refresh
                · apply along_issueTokens
                  intro signedAt s₄
                  apply along_expiry
                  intro expiresAt now'' s₅
                  refine along_answered (c := .exchange stored.id now' _) ?_ fun row s₆ =>
                    refused_ok
                  refine ⟨⟨⟨⟨t, .userById payload.sub, .ok (some r), s₃⟩, by simp, r, rfl, rfl⟩,
                    ⟨(r.payload, signedAt), ?_, rfl⟩, ?_⟩, ?_⟩
                  · exact List.mem_append_right _
                      (List.mem_append_left _ (Option.mem_toList.mpr rfl))
                  · simp [issued?]
                  · refine ⟨⟨t, .tokenByHash (cfg.hashRefreshToken refreshToken),
                      .ok (some stored), s₁⟩, ?_, stored, rfl, rfl⟩
                    simp

/-! ## Statements -/

section Statements

variable {s s' : AuthStore}

/-- Every hash was there before, or is the new one. -/
def HashesGrow (s s' : AuthStore) (new : Option String) : Prop :=
  ∀ a ∈ s'.tokens.rows, (∃ b ∈ s.tokens.rows, b.tokenHash = a.tokenHash) ∨ new = some a.tokenHash

theorem HashesGrow.of_eq (h : s'.tokens = s.tokens) (new : Option String) :
    HashesGrow s s' new := by
  intro a ha
  rw [h] at ha
  exact .inl ⟨a, ha, rfl⟩

/-- A new token of a user is stored if its hash is new. -/
theorem exists_createToken {d : NewToken} (huser : Store.refers s.users d.userId = true)
    (hnew : ∀ a ∈ s.tokens.rows, a.tokenHash ≠ d.tokenHash) :
    ∃ row s', s.createToken d = .ok (row, s') ∧ s'.users = s.users ∧
      HashesGrow s s' (some d.tokenHash) := by
  have hfree : ∀ b ∈ s.tokens.rows,
      clash (withKey (KeySupply.fresh s.tokens.serial) d.row) b = false ∧
        clash b (withKey (KeySupply.fresh s.tokens.serial) d.row) = false := by
    intro b hb
    exact ⟨beq_eq_false_iff_ne.mpr (hnew b hb).symm, beq_eq_false_iff_ne.mpr (hnew b hb)⟩
  obtain ⟨tokens, hcreate⟩ := Table.exists_create hfree
  refine ⟨withKey (KeySupply.fresh s.tokens.serial) d.row, { s with tokens }, ?_, rfl,
    fun a ha => ?_⟩
  · rw [createToken, if_pos huser, hcreate]
  · rcases (Table.mem_create hcreate).mp ha with hold | rfl
    · exact .inl ⟨a, hold, rfl⟩
    · exact .inr rfl

/-- A stored token can be revoked. -/
theorem exists_revokeToken {r : RefreshToken} (hr : r ∈ s.tokens.rows) (now : Time) :
    ∃ row s', s.revokeToken r.id now = .ok (row, s') ∧ s'.users = s.users ∧
      HashesGrow s s' none := by
  obtain ⟨tokens, hupdate⟩ : ∃ tokens, s.tokens.update r.id
      (fun r => { r with revokedAt := some now }) =
        .done { r with revokedAt := some now } tokens :=
    Table.exists_update hr fun b _ => ⟨rfl, rfl⟩
  refine ⟨{ r with revokedAt := some now }, { s with tokens }, by rw [revokeToken, hupdate], rfl,
    fun a ha => ?_⟩
  rcases (Table.mem_update hupdate).mp ha with ⟨hold, -⟩ | rfl
  · exact .inl ⟨a, hold, rfl⟩
  · exact .inl ⟨r, hr, rfl⟩

theorem exists_exchange {r : RefreshToken} (hr : r ∈ s.tokens.rows) (now : Time) {d : NewToken}
    (huser : Store.refers s.users d.userId = true)
    (hnew : ∀ a ∈ s.tokens.rows, a.tokenHash ≠ d.tokenHash) :
    ∃ row s', s.exchange r.id now d = .ok (row, s') ∧ s'.users = s.users ∧
      HashesGrow s s' (some d.tokenHash) := by
  obtain ⟨old, s₁, hrevoke, husers, hgrow⟩ := exists_revokeToken hr now
  have hnew' : ∀ a ∈ s₁.tokens.rows, a.tokenHash ≠ d.tokenHash := by
    intro a ha
    rcases hgrow a ha with ⟨b, hb, hhash⟩ | hnone
    · exact hhash ▸ hnew b hb
    · cases hnone
  obtain ⟨row, s', hcreate, husers', hgrow'⟩ := exists_createToken (husers ▸ huser) hnew'
  refine ⟨row, s', ?_, husers'.trans husers, fun a ha => ?_⟩
  · rw [exchange, hrevoke]
    exact hcreate
  · rcases hgrow' a ha with ⟨b, hb, hhash⟩ | hsome
    · rcases hgrow b hb with ⟨c, hc, hhash'⟩ | hnone
      · exact .inl ⟨c, hc, hhash'.trans hhash⟩
      · cases hnone
    · exact .inr hsome

/-- A stored user can be updated outside its unique columns. -/
theorem exists_userLoggedIn {user : User} (hu : user ∈ s.users.rows) (now : Time) :
    ∃ row s', s.updateUser user.id (fun u => { u with lastLoginAt := some now }) = .ok (row, s') ∧
      s'.tokens = s.tokens ∧ s.users.Keeps s'.users := by
  obtain ⟨users, hupdate⟩ : ∃ users, s.users.update user.id
      (fun u => { u with lastLoginAt := some now }) =
        .done { user with lastLoginAt := some now } users :=
    Table.exists_update hu fun b _ => ⟨rfl, rfl⟩
  exact ⟨{ user with lastLoginAt := some now }, { s with users }, by rw [updateUser, hupdate], rfl,
    Table.Keeps.update hupdate⟩

theorem refers_iff {id : Id} : Store.refers s.users id = true ↔ ∃ u ∈ s.users.rows, u.id = id := by
  rw [Store.refers, Option.isSome_iff_exists]
  exact exists_congr fun u => Table.find?_eq_some_iff

theorem refers_of_keeps {id : Id} (h : Store.refers s.users id = true)
    (hk : s.users.Keeps s'.users) : Store.refers s'.users id = true := by
  obtain ⟨u, hu, rfl⟩ := refers_iff.mp h
  obtain ⟨u', hu', hid⟩ := hk u hu
  exact refers_iff.mpr ⟨u', hu', hid⟩

end Statements

/-! ## Runs -/

variable {w : AuthWorld}

/-- Every stored token was issued, every issued token was signed, and the accounts and tokens that
were read are still there. -/
structure Sessions (cfg : AuthConfig) (w : AuthWorld) : Prop where
  stored : ∀ r ∈ w.store.tokens.rows, ∃ e ∈ w.trace, issued? e = some r.tokenHash
  signed : ∀ e ∈ w.trace, ∀ h, issued? e = some h → ∃ s ∈ signatures w.trace,
    s.1 = e.thread ∧ h = cfg.hashRefreshToken (cfg.signRefresh s.2.1 s.2.2)
  apart : (signatures w.trace).Pairwise fun a b => a.2.1 = b.2.1 → a.2.2 / 1000 ≠ b.2.2 / 1000
  distinct : (w.trace.filterMap issued?).Nodup
  accounts : ∀ e ∈ w.trace, ∀ r, account? e = some r →
    Store.refers w.store.users r.user.id = true
  fetched : ∀ e ∈ w.trace, ∀ r, fetched? e = some r → ∃ a ∈ w.store.tokens.rows, a.id = r.id

theorem Sessions.init {s : AuthStore} (h : s.tokens.rows = []) : Sessions cfg ⟨s, []⟩ where
  stored r hr := by
    rw [h] at hr
    cases hr
  signed e he := by cases he
  apart := .nil
  distinct := .nil
  accounts e he := by cases he
  fetched e he := by cases he

/-- Two threads that sign for one account do so in different seconds. -/
theorem Sessions.signed_apart (h : Sessions cfg w) {a b : Nat × JwtPayload × Time}
    (ha : a ∈ signatures w.trace) (hb : b ∈ signatures w.trace) (hne : a.1 ≠ b.1)
    (hsame : a.2.1 = b.2.1) : a.2.2 / 1000 ≠ b.2.2 / 1000 := by
  have hsym : Std.Symm fun a b : Nat × JwtPayload × Time =>
      a.2.1 = b.2.1 → a.2.2 / 1000 ≠ b.2.2 / 1000 := ⟨fun a b h hsame => (h hsame.symm).symm⟩
  exact h.apart.forall ha hb (fun heq => hne (congrArg (·.1) heq)) hsame

/-- A token that is about to be stored was not issued before. -/
theorem Sessions.fresh (h : Sessions cfg w) (hapart : SignsApart cfg) {d : NewToken}
    (hrule : StoreRule cfg (w.own t) d) : ∀ e ∈ w.trace, issued? e ≠ some d.tokenHash := by
  intro e he hissued
  obtain ⟨own, hown, hhash⟩ := hrule.signed
  obtain ⟨other, hother, hthread, hhash'⟩ := h.signed e he _ hissued
  have hne : other.1 ≠ t := by
    rw [hthread]
    intro heq
    have hnone := hrule.once e (World.mem_own.mpr ⟨he, heq⟩)
    rw [hnone] at hissued
    cases hissued
  obtain ⟨hsame, hsecond⟩ := hapart _ _ _ _ (hhash'.symm.trans hhash)
  exact h.signed_apart hother (mem_signatures_of_own w.trace hown) hne hsame hsecond

theorem Sessions.fresh_hash (h : Sessions cfg w) (hapart : SignsApart cfg) {d : NewToken}
    (hrule : StoreRule cfg (w.own t) d) :
    ∀ a ∈ w.store.tokens.rows, a.tokenHash ≠ d.tokenHash := by
  intro a ha heq
  obtain ⟨e, he, hissued⟩ := h.stored a ha
  rw [heq] at hissued
  exact h.fresh hapart hrule e he hissued

/-- What a call keeps: the event that it logs fits the store after it. -/
theorem Sessions.log (h : Sessions cfg w) (hapart : SignsApart cfg) {c : AuthCall}
    {x : Except Exn (AuthResp c)} {s' : AuthStore} (husers : w.store.users.Keeps s'.users)
    (htokens : w.store.KeepsTokens s')
    (hgrow : HashesGrow w.store s' (issued? ⟨t, c, x, w.store⟩))
    (hissued : ∀ hash, issued? ⟨t, c, x, w.store⟩ = some hash →
      ∃ d, hash = d.tokenHash ∧ StoreRule cfg (w.own t) d)
    (hsigned : ∀ s, signature? ⟨t, c, x, w.store⟩ (w.own t) = some s →
      ∀ s' ∈ signatures w.trace, s.1 = s'.2.1 → s.2 / 1000 ≠ s'.2.2 / 1000)
    (haccount : ∀ r, account? ⟨t, c, x, w.store⟩ = some r →
      Store.refers w.store.users r.user.id = true)
    (hfetched : ∀ r, fetched? ⟨t, c, x, w.store⟩ = some r → r ∈ w.store.tokens.rows) :
    Sessions cfg (w.log t c x s') := by
  have hkeeps : ∀ a ∈ w.store.tokens.rows, ∃ b ∈ s'.tokens.rows, b.id = a.id := by
    intro a ha
    obtain ⟨b, hb, hid, -⟩ := htokens a ha
    exact ⟨b, hb, hid⟩
  have hsubset : ∀ s ∈ signatures w.trace, s ∈ signatures (w.log t c x s').trace := fun s hs =>
    List.mem_append_right _ hs
  refine ⟨fun r hr => ?_, fun e he hash hhash => ?_, ?_, ?_, fun e he r hr => ?_,
    fun e he r hr => ?_⟩
  · rcases hgrow r hr with ⟨b, hb, hhash⟩ | hnew
    · obtain ⟨e, he, hold⟩ := h.stored b hb
      exact ⟨e, List.mem_cons_of_mem _ he, by rw [hold, hhash]⟩
    · exact ⟨_, List.mem_cons_self, hnew⟩
  · rcases List.mem_cons.mp he with rfl | he
    · obtain ⟨d, rfl, hrule⟩ := hissued hash hhash
      obtain ⟨own, hown, hsame⟩ := hrule.signed
      exact ⟨(t, own), hsubset _ (mem_signatures_of_own w.trace hown), rfl, hsame⟩
    · obtain ⟨s, hs, hthread, hsame⟩ := h.signed e he hash hhash
      exact ⟨s, hsubset s hs, hthread, hsame⟩
  · refine List.pairwise_append.mpr ⟨?_, h.apart, fun a ha b hb => ?_⟩
    · cases signature? ⟨t, c, x, w.store⟩ (w.trace.filter fun f => f.thread = t) with
      | none => exact .nil
      | some s => exact List.pairwise_singleton _ _
    · rw [Option.mem_toList, Option.map_eq_some_iff] at ha
      obtain ⟨s, hs, rfl⟩ := ha
      exact hsigned s hs b hb
  · change ((⟨t, c, x, w.store⟩ :: w.trace).filterMap issued?).Nodup
    cases hnew : issued? ⟨t, c, x, w.store⟩ with
    | none =>
        rw [List.filterMap_cons_none hnew]
        exact h.distinct
    | some hash =>
        rw [List.filterMap_cons_some hnew, List.nodup_cons]
        refine ⟨fun hmem => ?_, h.distinct⟩
        obtain ⟨d, rfl, hrule⟩ := hissued hash hnew
        obtain ⟨e, he, hold⟩ := List.mem_filterMap.mp hmem
        exact h.fresh hapart hrule e he hold
  · rcases List.mem_cons.mp he with rfl | he
    · exact refers_of_keeps (haccount r hr) husers
    · exact refers_of_keeps (h.accounts e he r hr) husers
  · rcases List.mem_cons.mp he with rfl | he
    · exact hkeeps r (hfetched r hr)
    · obtain ⟨a, ha, hid⟩ := h.fetched e he r hr
      obtain ⟨b, hb, hid'⟩ := hkeeps a ha
      exact ⟨b, hb, hid'.trans hid⟩

/-- A call that only reads. -/
theorem Sessions.read (h : Sessions cfg w) (hapart : SignsApart cfg) {c : AuthCall}
    {a : AuthResp c} (hissued : issued? ⟨t, c, .ok a, w.store⟩ = none)
    (hsigned : ∀ s, signature? ⟨t, c, .ok a, w.store⟩ (w.own t) = some s →
      ∀ s' ∈ signatures w.trace, s.1 = s'.2.1 → s.2 / 1000 ≠ s'.2.2 / 1000)
    (haccount : ∀ r, account? ⟨t, c, .ok a, w.store⟩ = some r →
      Store.refers w.store.users r.user.id = true)
    (hfetched : ∀ r, fetched? ⟨t, c, .ok a, w.store⟩ = some r → r ∈ w.store.tokens.rows) :
    Sessions cfg (w.log t c (.ok a) w.store) := by
  refine h.log hapart (Table.Keeps.refl _) (.refl _) (.of_eq rfl _) (fun hash hhash => ?_) hsigned
    haccount hfetched
  rw [hissued] at hhash
  cases hhash

/-- A call that stores a token. -/
theorem Sessions.store (h : Sessions cfg w) (hapart : SignsApart cfg) {c : AuthCall}
    {row : AuthResp c} {s' : AuthStore} {d : NewToken} (hrule : StoreRule cfg (w.own t) d)
    (husers : s'.users = w.store.users) (htokens : w.store.KeepsTokens s')
    (hgrow : HashesGrow w.store s' (some d.tokenHash))
    (hissued : issued? ⟨t, c, .ok row, w.store⟩ = some d.tokenHash)
    (hclock : clock? ⟨t, c, .ok row, w.store⟩ = none)
    (haccount : account? ⟨t, c, .ok row, w.store⟩ = none)
    (hfetched : fetched? ⟨t, c, .ok row, w.store⟩ = none) :
    Sessions cfg (w.log t c (.ok row) s') := by
  refine h.log hapart ?_ htokens (by rwa [hissued]) (fun hash hhash => ?_) (fun s hs => ?_)
    (fun r hr => ?_) (fun r hr => ?_)
  · rw [husers]
    exact Table.Keeps.refl _
  · rw [hissued] at hhash
    exact ⟨d, (Option.some.inj hhash).symm, hrule⟩
  · rw [signature?, hclock] at hs
    cases hs
  · rw [haccount] at hr
    cases hr
  · rw [hfetched] at hr
    cases hr

/-- A call that follows the rule succeeds, and keeps the sessions. -/
theorem Sessions.call (h : Sessions cfg w) (hapart : SignsApart cfg) {c : AuthCall}
    (hp : signedAlone t c w) (hrule : sessionRule cfg (w.own t) c) {ch : AuthChoice}
    {x : Except Exn (AuthResp c)} {s' : AuthStore} (hm : authMachine ch c w.store = (x, s')) :
    (∃ a, x = .ok a) ∧ Sessions cfg (w.log t c x s') := by
  have hrefers : ∀ {d : NewToken}, StoreRule cfg (w.own t) d →
      Store.refers w.store.users d.userId = true := by
    intro d hd
    obtain ⟨e, he, r, hr, hid⟩ := hd.account
    exact hid ▸ h.accounts e (World.mem_own.mp he).1 r hr
  cases c with
  | now =>
      cases hm
      refine ⟨⟨_, rfl⟩, h.read hapart rfl (fun s hs a ha hsame => ?_) (fun r hr => by cases hr)
        fun r hr => by cases hr⟩
      obtain ⟨p, hsigning, rfl⟩ := Option.map_eq_some_iff.mp hs
      exact (hp rfl p hsigning a ha hsame.symm).symm
  | userByEmailOrPhone identifier =>
      cases hm
      refine ⟨⟨_, rfl⟩, h.read hapart rfl (fun s hs => by cases hs) (fun r hr => ?_)
        fun r hr => by cases hr⟩
      obtain ⟨user, huser, rfl⟩ := Option.map_eq_some_iff.mp hr
      exact refers_iff.mpr ⟨user, (List.mem_filter.mp (Choice.first_mem huser)).1, rfl⟩
  | userById id =>
      cases hm
      refine ⟨⟨_, rfl⟩, h.read hapart rfl (fun s hs => by cases hs) (fun r hr => ?_)
        fun r hr => by cases hr⟩
      obtain ⟨user, huser, rfl⟩ := Option.map_eq_some_iff.mp hr
      exact refers_iff.mpr ⟨user, (Table.find?_eq_some_iff.mp huser).1, rfl⟩
  | tokenByHash tokenHash =>
      cases hm
      refine ⟨⟨_, rfl⟩, h.read hapart rfl (fun s hs => by cases hs) (fun r hr => by cases hr)
        fun r hr => ?_⟩
      exact List.mem_of_find?_eq_some hr
  | userLoggedIn id now =>
      obtain ⟨e, he, r, hr, rfl⟩ := hrule
      obtain ⟨user, huser, hid⟩ := refers_iff.mp (h.accounts e (World.mem_own.mp he).1 r hr)
      obtain ⟨row, s₁, hdone, htokens, hkeeps⟩ := exists_userLoggedIn huser now
      have hstep : authMachine ch (.userLoggedIn r.user.id now) w.store = (.ok row, s₁) := by
        rw [authMachine, ← hid, hdone, commit]
      cases hstep.symm.trans hm
      exact ⟨⟨row, rfl⟩, h.log hapart hkeeps (.of_eq htokens) (.of_eq htokens _)
        (fun hash hhash => by cases hhash) (fun s hs => by cases hs) (fun r hr => by cases hr)
        fun r hr => by cases hr⟩
  | tokenCreate d =>
      obtain ⟨row, s₁, hdone, husers, hgrow⟩ :=
        exists_createToken (hrefers hrule) (h.fresh_hash hapart hrule)
      have hstep : authMachine ch (.tokenCreate d) w.store = (.ok row, s₁) := by
        rw [authMachine, hdone, commit]
      cases hstep.symm.trans hm
      exact ⟨⟨row, rfl⟩, h.store hapart hrule husers (createToken_eq_ok hdone).1 hgrow rfl rfl rfl
        rfl⟩
  | exchange id now d =>
      obtain ⟨hstore, e, he, r, hr, rfl⟩ := hrule
      obtain ⟨a, ha, hid⟩ := h.fetched e (World.mem_own.mp he).1 r hr
      obtain ⟨row, s₁, hdone, husers, hgrow⟩ :=
        exists_exchange ha now (hrefers hstore) (h.fresh_hash hapart hstore)
      have hstep : authMachine ch (.exchange r.id now d) w.store = (.ok row, s₁) := by
        rw [authMachine, ← hid, hdone, commit]
      cases hstep.symm.trans hm
      exact ⟨⟨row, rfl⟩, h.store hapart hstore husers (exchange_eq_ok hdone).1 hgrow rfl rfl rfl
        rfl⟩
  | _ => exact hrule.elim

/-- Every program follows its rule, and the sessions are kept. -/
def sessionGuard (hapart : SignsApart cfg) : Guard (sessionService cfg) signedAlone where
  inv := Sessions cfg
  rule := sessionRule cfg
  answers := sessionAnswers
  answered hi hp hrule ho := by
    obtain ⟨ch, hm⟩ | ⟨hfault, -⟩ := ho
    · exact (hi.call hapart hp hrule hm).1
    · exact hfault.elim
  call_inv hi hp hrule ho := by
    obtain ⟨ch, hm⟩ | ⟨hfault, -⟩ := ho
    · exact (hi.call hapart hp hrule hm).2
    · exact hfault.elim
  env_inv hi henv := by
    obtain ⟨clock, -, rfl⟩ := henv
    exact ⟨hi.stored, hi.signed, hi.apart, hi.distinct, hi.accounts, hi.fetched⟩
  start_inv hi hstart := by
    obtain ⟨rfl, -⟩ := hstart
    exact hi

theorem along_void_session {α : Type} {p : AuthSvc α} {log : List AuthEvent}
    (h : AlongSession cfg t p log) : AlongSession cfg t p.void log := by
  refine Prog.along_bind h (fun _ _ _ => refused_ok) fun log e hrefused e' he => ?_
  cases he
  exact hrefused e rfl

/-- In a run in which no account is issued two tokens within one second, every login and every
refresh that is not refused succeeds, and the tokens that were issued differ. -/
theorem distinct_sessions_of_reach (hapart : SignsApart cfg) {s₀ : AuthStore}
    (hempty : s₀.tokens.rows = []) {c : AuthPool}
    (hr : ((sessionService cfg).system.restrict signedAlone).Reach (Service.init s₀) c) :
    DistinctSessions c := by
  have hstart : ∀ {t : Nat} {s : AuthStore} {p : AuthSvc Unit} {s' : AuthStore},
      (sessionService cfg).starts s p s' → AlongSession cfg t p [] := by
    rintro t s p s' ⟨-, ⟨identifier, password, rfl⟩ | ⟨refreshToken, rfl⟩⟩
    · exact along_void_session (along_login_session identifier password)
    · exact along_void_session (along_refresh_session refreshToken)
  have hending := Guard.ending_of_reach (G := sessionGuard hapart) hstart (.init hempty) hr
  exact ⟨fun t e ht => hending.ended (x := .error e) ht e rfl, hending.1.distinct⟩

/-! ## Two logins -/

def roleText : UserRole → String
  | .SUPER_ADMIN => "SUPER_ADMIN"
  | .CLIENT_VIEWER => "CLIENT_VIEWER"
  | .STAFF => "STAFF"

def clientJson : Option Id → Json
  | none => .null
  | some clientId => .str clientId

/-- The claims of a token as a JSON text; `iat` is the second in which it is issued. -/
def claimsText (p : JwtPayload) (now : Time) : String :=
  JsonText.stringify sampleRuntime (.obj [("sub", .str p.sub), ("role", .str (roleText p.role)),
    ("clientId", clientJson p.clientId),
    ("iat", .str (String.ofList (JsonText.integerText (now / 1000))))])

/-- Tokens that show their claims. -/
def claimsAuth : AuthConfig :=
  { sampleAuth with
    signAccess := fun p now => "access." ++ claimsText p now
    signRefresh := fun p now => "refresh." ++ claimsText p now
    verifyRefresh := fun _ _ => none }

theorem roleText_injective : ∀ a b : UserRole, roleText a = roleText b → a = b := by
  intro a b h
  cases a <;> cases b <;> first | rfl | exact absurd h (by decide)

theorem claimsText_injective {p q : JwtPayload} {t u : Time} (h : claimsText p t = claimsText q u) :
    p = q ∧ t / 1000 = u / 1000 := by
  have hread : ∀ (p : JwtPayload) (now : Time), JsonText.parse id (claimsText p now) =
      some (.obj [("sub", .str p.sub), ("role", .str (roleText p.role)),
        ("clientId", clientJson p.clientId),
        ("iat", .str (String.ofList (JsonText.integerText (now / 1000))))]) := by
    intro p now
    have hstring : ∀ s, JsonText.Plain (.str s) := fun s => ⟨rfl, fun q hq => by cases hq⟩
    have hclient : JsonText.Plain (clientJson p.clientId) := by
      cases p.clientId with
      | none => exact ⟨rfl, fun q hq => by cases hq⟩
      | some clientId => exact hstring clientId
    apply JsonText.parse_stringify
    · exact List.cons_ne_nil _ _
    · simp
    · simp [hstring, hclient]
  have hsame := (hread p t).symm.trans ((congrArg (JsonText.parse id) h).trans (hread q u))
  simp only [Option.some.injEq, Json.obj.injEq, List.cons.injEq, Prod.mk.injEq, Json.str.injEq,
    true_and, and_true] at hsame
  obtain ⟨hsub, hrole, hclient, hissued⟩ := hsame
  obtain ⟨sub, role, clientId⟩ := p
  obtain ⟨sub', role', clientId'⟩ := q
  obtain rfl : role = role' := roleText_injective role role' hrole
  have hclient' : clientId = clientId' := by
    cases clientId with
    | none =>
        cases clientId' with
        | none => rfl
        | some b => cases hclient
    | some a =>
        cases clientId' with
        | none => cases hclient
        | some b => exact congrArg some (Json.str.inj hclient)
  have hsecond : t / 1000 = u / 1000 :=
    JsonText.integerText_injective (String.ofList_injective hissued)
  exact ⟨by rw [show sub = sub' from hsub, hclient'], hsecond⟩

theorem signsApart_claims : SignsApart claimsAuth := by
  intro p q t u h
  apply claimsText_injective
  have htoken : "refresh." ++ claimsText p t = "refresh." ++ claimsText q u :=
    (String.append_right_inj "sha256:").mp h
  exact (String.append_right_inj "refresh.").mp htoken

/-- The viewer before the first login. -/
def newViewerStore : AuthStore := { viewerStore with tokens := .empty }

def sessionLogin : AuthSvc Unit :=
  (AuthService.login claimsAuth "viewer@example.com" "secret").void

/-- Two logins, and the time between them. -/
def twoLogins (pause : Time) : List (sessionService claimsAuth).Action :=
  List.replicate 2 (.start sessionLogin (fun _ => true) fun s => s) ++
    List.replicate 6 (.step 0 {}) ++
    [.change (fun _ => decide (0 ≤ pause)) fun s => { s with clock := s.clock + pause }] ++
    List.replicate 6 (.step 1 {})

theorem legal_twoLogins (pause : Time) : Service.Legal (twoLogins pause) := by
  have hstart : ∀ s : AuthStore, (sessionService claimsAuth).starts s sessionLogin s := fun s =>
    ⟨rfl, .inl ⟨"viewer@example.com", "secret", rfl⟩⟩
  intro a ha
  simp only [twoLogins, List.mem_append, List.mem_singleton, List.mem_replicate] at ha
  rcases ha with ((⟨-, rfl⟩ | ⟨-, rfl⟩) | rfl) | ⟨-, rfl⟩
  · exact fun s _ => hstart s
  · trivial
  · exact fun s hpause => ⟨_, Int.le_add_of_nonneg_right (by simpa using hpause), rfl⟩
  · trivial

def throwsUnique : AuthSvc Unit → Bool
  | .throw e => e = .prisma .uniqueConstraint
  | _ => false

/-- A second lies between the logins. -/
theorem logins_apart : ∃ c : AuthPool,
    ((sessionService claimsAuth).system.restrict signedAlone).Reach
      (Service.init newViewerStore) c ∧ c.pool.all returned = true ∧ DistinctSessions c := by
  obtain ⟨c, hr, hdone⟩ := Service.exists_config_of_perform signedAlone (twoLogins 1000)
    (Service.init newViewerStore) (fun c => c.pool.all returned) (legal_twoLogins 1000)
    (by decide +kernel)
  exact ⟨c, hr, hdone, distinct_sessions_of_reach signsApart_claims rfl hr⟩

/-- The second login of a second cannot store its token. -/
theorem logins_clash : ¬ ∀ (s₀ : AuthStore) (c : AuthPool), s₀.tokens.rows = [] →
    (sessionService claimsAuth).system.Reach (Service.init s₀) c → DistinctSessions c := by
  intro hclaim
  obtain ⟨c, hr, hthrown⟩ := Service.exists_config_of_perform (fun _ _ _ => True) (twoLogins 0)
    (Service.init newViewerStore) (fun c => (c.pool[1]?).any throwsUnique) (legal_twoLogins 0)
    (by decide +kernel)
  rw [System.restrict_true] at hr
  obtain ⟨p, hp, hthrows⟩ := (Option.any_eq_true _ _).mp hthrown
  have hsucceeds := (hclaim newViewerStore c rfl hr).succeeds 1 (.prisma .uniqueConstraint)
  cases p with
  | ret a => cases hthrows
  | ask c k => cases hthrows
  | throw e =>
      obtain rfl : e = .prisma .uniqueConstraint := by simpa [throwsUnique] using hthrows
      rcases hsucceeds hp with h | h <;> cases h

end CreativeBackend.Accounts
