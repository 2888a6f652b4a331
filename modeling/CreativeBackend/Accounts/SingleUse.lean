import CreativeBackend.Accounts.TokenRuns
import Mathlib.Data.List.Pairwise

/-!
# Refresh tokens are used once

A refresh reads that its token is not revoked, and revokes it in a later transaction that does not
look again. A token that no other refresh exchanges in between is exchanged once. A refresh that
starts after the token was exchanged, or logged out, is rejected in any case.
-/

namespace CreativeBackend.Accounts

open Relational Interaction AuthStore AuthService

variable {cfg : AuthConfig}

/-! ## What is claimed -/

/-- The thread has run the program, from its start in one configuration to its return in another. -/
def Ran {α : Type} (σ : System AuthResp Exn AuthWorld) (p : AuthSvc α) (t : Nat) (c c' : AuthPool) :
    Prop :=
  c.pool[t]? = some p.void ∧ σ.Reach c c' ∧ c'.pool[t]? = some (.ret ())

/-- The token is in the store. -/
def Stored (cfg : AuthConfig) (refreshToken : String) (s : AuthStore) : Prop :=
  ∃ r ∈ s.tokens.rows, r.tokenHash = cfg.hashRefreshToken refreshToken

/-- The token is in the store and revoked. -/
def Spent (cfg : AuthConfig) (refreshToken : String) (s : AuthStore) : Prop :=
  ∃ r ∈ s.tokens.rows, r.tokenHash = cfg.hashRefreshToken refreshToken ∧ r.Revoked

/-- One refresh at most has exchanged the token, and a refresh that starts after the token was
exchanged, or logged out, does not succeed. -/
structure UsedOnce (cfg : AuthConfig) (σ : System AuthResp Exn AuthWorld) (refreshToken : String)
    (c : AuthPool) : Prop where
  once : ∀ {t u : Nat} {c₁ c₂ : AuthPool}, Ran σ (refresh cfg refreshToken) t c₁ c →
    Ran σ (refresh cfg refreshToken) u c₂ c → t = u
  rejected : ∀ {t u : Nat} {c₁ c' : AuthPool}, (Ran σ (refresh cfg refreshToken) t c₁ c ∨
      Ran σ (logout cfg refreshToken) t c₁ c ∧ Stored cfg refreshToken c₁.world.store) →
    c.pool[u]? = some (refresh cfg refreshToken).void → σ.Reach c c' →
      c'.pool[u]? ≠ some (.ret ())

/-! ## One exchange after another -/

/-- The thread has fetched the token, and it was not revoked. -/
def fetchedBy (t : Nat) (id : Id) (e : AuthEvent) : Bool :=
  e.thread = t && (fetched? e).any fun r => r.id = id && r.revokedAt = none

/-- Since the thread has fetched the token, nobody has exchanged it; or else the new token is
already in the store, and the exchange fails. -/
def exchangedAlone (t : Nat) : AuthCall → AuthWorld → Prop
  | .exchange id _ d, w =>
      (∀ e ∈ sinceLatest (fetchedBy t id) w.trace, ∀ x ∈ exchanged? e, x.1 ≠ id) ∨
        ∃ r ∈ w.store.tokens.rows, r.tokenHash = d.tokenHash
  | _, _ => True

/-- After a token was exchanged, it is not exchanged again, and is fetched as revoked. -/
def Apart (e f : AuthEvent) : Prop :=
  ∀ id row, exchanged? f = some (id, row) → (∀ row', exchanged? e ≠ some (id, row')) ∧
    ∀ r, fetched? e = some r → r.id = id → r.Revoked

/-- The exchanges of a run, and what they have left. -/
structure Exchanges (w : AuthWorld) : Prop where
  revoked : ∀ e ∈ w.trace, ∀ id row, exchanged? e = some (id, row) → w.store.HasRevoked id
  apart : w.trace.Pairwise Apart

theorem fetched?_of_exchanged {e : AuthEvent} {x : Id × RefreshToken}
    (h : exchanged? e = some x) : fetched? e = none := by
  obtain ⟨t, c, y, s⟩ := e
  cases c with
  | exchange id now d => rfl
  | _ => cases h

theorem Exchanges.log {w : AuthWorld} (h : Exchanges w) {t : Nat} {c : AuthCall}
    {x : Except Exn (AuthResp c)} {s' : AuthStore} (hp : exchangedAlone t c w)
    (ho : (authService cfg).Outcome c w.store x s') : Exchanges (w.log t c x s') := by
  constructor
  · intro e he id row hex
    rcases List.mem_cons.mp he with rfl | hold
    · obtain ⟨now, d, -, -, hrevoked⟩ := exchange_of_outcome ho hex
      exact hrevoked
    · exact (h.revoked e hold id row hex).kept (keepsTokens_of_outcome ho)
  · refine List.pairwise_cons.mpr ⟨fun f hf id row hexf => ⟨fun row' hex => ?_, ?_⟩, h.apart⟩
    · obtain ⟨now, d, rfl, hminted, -⟩ := exchange_of_outcome ho hex
      rcases hp with halone | ⟨r, hr, hhash⟩
      · -- The fetch of the thread comes after the other exchange, and saw the token revoked.
        obtain ⟨post, pre, htrace⟩ := List.append_of_mem hf
        have hapart := h.apart
        rw [htrace, List.pairwise_append] at hapart
        by_cases hsince : ∀ y ∈ post, fetchedBy t id y = false
        · have hstop : fetchedBy t id f = false := by
            simp [fetchedBy, fetched?_of_exchanged hexf]
          exact halone f (mem_sinceLatest htrace hstop hsince) (id, row) hexf rfl
        · push Not at hsince
          obtain ⟨y, hy, hfetched⟩ := hsince
          simp only [ne_eq, Bool.not_eq_false, fetchedBy, Bool.and_eq_true, decide_eq_true_eq,
            Option.any_eq_true] at hfetched
          obtain ⟨-, r, hr, hid, hnone⟩ := hfetched
          exact (hapart.2.2 y hy f List.mem_cons_self id row hexf).2 r hr hid hnone
      · exact hminted.unused r hr hhash
    · intro r hr hid
      have hrevoked := h.revoked f hf id row hexf
      rw [← hid] at hrevoked
      exact hrevoked.revoked (mem_of_fetched ho hr)

theorem exchanges_of_reach {s₀ : AuthStore} {c : AuthPool}
    (hr : ((authService cfg).system.restrict exchangedAlone).Reach (Service.init s₀) c) :
    Exchanges c.world := by
  refine Service.world_inv_of_reach (fun hi hp ho => hi.log hp ho) ?_ ?_ ?_ hr
  · intro w s' hi henv
    refine ⟨fun e he id row hex => ?_, hi.apart⟩
    exact (hi.revoked e he id row hex).kept (.of_eq henv)
  · rintro w p s' hi ⟨rfl, -⟩
    exact hi
  · exact ⟨(fun e he => by cases he), .nil⟩

/-! ## One refresh -/

section Refresh

variable {permits : Nat → AuthCall → AuthWorld → Prop} {t : Nat} {w w' : AuthWorld}

/-- What every call keeps of the tokens. -/
def tokenDiscipline (cfg : AuthConfig) (permits : Nat → AuthCall → AuthWorld → Prop) :
    Discipline (authService cfg) permits where
  inv _ := True
  rely := KeepsTokens
  rely_refl := .refl
  rely_trans h h' := h.trans h'
  call_rely _ _ ho := keepsTokens_of_outcome ho
  env_inv _ _ := trivial
  env_rely _ henv := .of_eq henv
  start_inv _ _ := trivial
  start_rely _ hs := .of_eq (by rw [hs.1])

theorem tokenDiscipline_keeps (c : AuthCall) (w : AuthWorld) :
    (tokenDiscipline cfg permits).Keeps t c w := fun _ _ _ _ _ _ _ => trivial

theorem Stored.kept {refreshToken : String} {s s' : AuthStore} (h : Stored cfg refreshToken s)
    (hk : s.KeepsTokens s') : Stored cfg refreshToken s' := by
  obtain ⟨r, hr, hhash⟩ := h
  obtain ⟨r', hr', -, hstays⟩ := hk r hr
  exact ⟨r', hr', hstays.hash.symm.trans hhash⟩

theorem Spent.kept {refreshToken : String} {s s' : AuthStore} (h : Spent cfg refreshToken s)
    (hk : s.KeepsTokens s') : Spent cfg refreshToken s' := by
  obtain ⟨r, hr, hhash, hrevoked⟩ := h
  obtain ⟨r', hr', -, hstays⟩ := hk r hr
  exact ⟨r', hr', hstays.hash.symm.trans hhash, hstays.revoked hrevoked⟩

/-- A token is found by its hash. -/
theorem find_of_stored {refreshToken : String} {s : AuthStore} {r : RefreshToken}
    (hr : r ∈ s.tokens.rows) (hhash : r.tokenHash = cfg.hashRefreshToken refreshToken) :
    s.tokens.rows.find? (fun r => r.tokenHash = cfg.hashRefreshToken refreshToken) = some r := by
  cases hfind : s.tokens.rows.find? fun r => r.tokenHash = cfg.hashRefreshToken refreshToken with
  | none => exact absurd (List.find?_eq_none.mp hfind r hr) (by simpa using hhash)
  | some r' =>
      have hhash' : r'.tokenHash = cfg.hashRefreshToken refreshToken := by
        simpa using List.find?_some hfind
      have hsame := s.tokens.eq_of_clash (List.mem_of_find?_eq_some hfind) hr
        (beq_iff_eq.mpr (hhash'.trans hhash.symm))
      rw [hsame]

/-- What a fetch was answered. -/
theorem fetched_of_answered {refreshToken : String} {found : Option RefreshToken}
    (h : (tokenDiscipline cfg permits).Answered t w
      (.tokenByHash (cfg.hashRefreshToken refreshToken)) (.ok found) w') :
    ∃ s, w.store.KeepsTokens s ∧ s.KeepsTokens w'.store ∧ found = s.tokens.rows.find? fun r =>
      r.tokenHash = cfg.hashRefreshToken refreshToken := by
  obtain ⟨w₀, s₀, hbefore, -, -, ho, hafter⟩ := h
  obtain ⟨ch, hstep⟩ := step_of_ok ho
  obtain ⟨hfound, hsame⟩ := Prod.mk.inj hstep
  refine ⟨w₀.store, hbefore.1, ?_, (Except.ok.inj hfound).symm⟩
  rw [hsame]
  exact hafter.1

/-- The thread has exchanged the token. -/
def Exchanged (cfg : AuthConfig) (refreshToken : String) (t : Nat) (w : AuthWorld) : Prop :=
  ∃ e ∈ w.trace, e.thread = t ∧ ∃ id row, exchanged? e = some (id, row) ∧
    ∃ r ∈ w.store.tokens.rows, r.id = id ∧ r.tokenHash = cfg.hashRefreshToken refreshToken ∧
      r.Revoked

theorem Exchanged.later {refreshToken : String} (h : Exchanged cfg refreshToken t w)
    (hl : (tokenDiscipline cfg permits).Leads w w') : Exchanged cfg refreshToken t w' := by
  obtain ⟨e, he, ht, id, row, hex, r, hr, hid, hhash, hrevoked⟩ := h
  obtain ⟨hkept, new, htrace⟩ := hl
  obtain ⟨r', hr', hid', hstays⟩ := hkept r hr
  refine ⟨e, ?_, ht, id, row, hex, r', hr', hid'.trans hid, hstays.hash.symm.trans hhash,
    hstays.revoked hrevoked⟩
  rw [htrace]
  exact List.mem_append_right new he

/-- An exchange that succeeds exchanges the token that it names. -/
theorem exchanged_of_answered {refreshToken : String} {id : Id} {now : Time} {d : NewToken}
    {row : RefreshToken}
    (h : (tokenDiscipline cfg permits).Answered t w (.exchange id now d) (.ok row) w')
    (hstored : ∃ r ∈ w.store.tokens.rows, r.id = id ∧
      r.tokenHash = cfg.hashRefreshToken refreshToken) : Exchanged cfg refreshToken t w' := by
  obtain ⟨w₀, s₀, hbefore, -, -, ho, hafter⟩ := h
  obtain ⟨r, hr, hid, hhash⟩ := hstored
  obtain ⟨r₀, hr₀, hid₀, hstays₀⟩ := hbefore.1 r hr
  obtain ⟨r₁, hr₁, hid₁, hstays₁⟩ := keepsTokens_of_outcome ho r₀ hr₀
  have hex : exchanged? ⟨t, .exchange id now d, .ok row, w₀.store⟩ = some (id, row) := rfl
  obtain ⟨now', d', -, -, hspent⟩ := exchange_of_outcome ho hex
  have hkey : r₁.id = id := hid₁.trans (hid₀.trans hid)
  refine Exchanged.later ⟨_, List.mem_cons_self, rfl, id, row, hex, r₁, hr₁, hkey, ?_, ?_⟩ hafter
  · rw [← hstays₁.hash, ← hstays₀.hash, hhash]
  · rw [← hkey] at hspent
    exact hspent.revoked hr₁

theorem returns_now (w : AuthWorld) {α : Type} (f : Time → α) :
    (tokenDiscipline cfg permits).Returns t (fun _ _ => True)
      ((authCall .now).bind fun now => (.ret (f now) : AuthSvc α)) w :=
  Discipline.returns_bind trivial
    (Discipline.returns_of_safe (Discipline.returns_call (tokenDiscipline_keeps _ _)).safe)
    fun _ _ _ _ _ => Discipline.returns_ret fun _ _ => trivial

/-- A refresh of a stored token that succeeds has exchanged the token. -/
theorem returns_rotate {refreshToken : String} {stored : RefreshToken} {payload : JwtPayload}
    {now : Time} (hstored : ∃ r ∈ w.store.tokens.rows, r.id = stored.id ∧
      r.tokenHash = cfg.hashRefreshToken refreshToken) :
    (tokenDiscipline cfg permits).Returns t (fun _ w => Exchanged cfg refreshToken t w)
      (rotate cfg stored payload now) w := by
  refine Discipline.returns_bind trivial (Discipline.returns_call (tokenDiscipline_keeps _ _))
    fun found w₁ _ h₁ _ => ?_
  cases found with
  | none => exact Discipline.returns_throw
  | some r =>
      dsimp only
      split
      · exact Discipline.returns_throw
      · refine Discipline.returns_bind trivial (returns_now w₁ _) fun issued w₂ _ h₂ _ => ?_
        refine Discipline.returns_bind trivial (returns_now w₂ _) fun expiresAt w₃ _ h₃ _ => ?_
        refine Discipline.returns_bind trivial
          (Discipline.returns_call (tokenDiscipline_keeps _ _)) fun row w₄ _ _ h₄ => ?_
        refine Discipline.returns_ret fun w₅ h₅ => (exchanged_of_answered h₄ ?_).later h₅
        obtain ⟨r, hr, hid, hhash⟩ := hstored
        obtain ⟨r', hr', hid', hstays⟩ := ((h₁.trans h₂).trans h₃).1 r hr
        exact ⟨r', hr', hid'.trans hid, hstays.hash.symm.trans hhash⟩

theorem returns_verify (refreshToken : String) (w : AuthWorld) :
    (tokenDiscipline cfg permits).Returns t (fun _ _ => True)
      (verifyRefreshToken cfg refreshToken) w := by
  refine Discipline.returns_bind trivial
    (Discipline.returns_call (tokenDiscipline_keeps _ _)) fun now w₁ _ _ _ => ?_
  split
  · exact Discipline.returns_throw
  · exact Discipline.returns_ret fun _ _ => trivial

/-- A refresh that succeeds has exchanged its token. -/
theorem returns_refresh (refreshToken : String) (w : AuthWorld) :
    (tokenDiscipline cfg permits).Returns t (fun _ w => Exchanged cfg refreshToken t w)
      (refresh cfg refreshToken) w := by
  refine Discipline.returns_bind trivial (returns_verify refreshToken w)
    fun payload w₁ _ _ _ => ?_
  refine Discipline.returns_bind trivial (Discipline.returns_call (tokenDiscipline_keeps _ _))
    fun found w₂ _ _ h₂ => ?_
  refine Discipline.returns_bind trivial (Discipline.returns_call (tokenDiscipline_keeps _ _))
    fun now w₃ _ h₃ _ => ?_
  obtain ⟨s, -, hs, rfl⟩ := fetched_of_answered h₂
  split
  · exact Discipline.returns_throw
  · next stored hfind =>
      split
      · exact Discipline.returns_throw
      · apply returns_rotate
        obtain ⟨r, hr, hid, hstays⟩ := (hs.trans h₃.1) stored (List.mem_of_find?_eq_some hfind)
        refine ⟨r, hr, hid, ?_⟩
        rw [← hstays.hash]
        simpa using List.find?_some hfind

/-- A refresh of a token that is spent does not succeed. -/
theorem refresh_of_spent {refreshToken : String} (h : Spent cfg refreshToken w.store) :
    (tokenDiscipline cfg permits).Returns t (fun _ _ => False) (refresh cfg refreshToken) w := by
  refine Discipline.returns_bind trivial (returns_verify refreshToken w)
    fun payload w₁ _ h₁ _ => ?_
  refine Discipline.returns_bind trivial (Discipline.returns_call (tokenDiscipline_keeps _ _))
    fun found w₂ _ _ h₂ => ?_
  refine Discipline.returns_bind trivial (Discipline.returns_call (tokenDiscipline_keeps _ _))
    fun now w₃ _ _ _ => ?_
  obtain ⟨s, hs, -, rfl⟩ := fetched_of_answered h₂
  obtain ⟨r, hr, hhash, hrevoked⟩ := h.kept (h₁.1.trans hs)
  rw [find_of_stored hr hhash]
  dsimp only
  rw [if_pos]
  · exact Discipline.returns_throw
  · simp only [usable, Bool.and_eq_false_iff, decide_eq_false_iff_not]
    exact .inl (.inl hrevoked)

/-- A logout of a token that is stored leaves it spent. -/
theorem returns_logout {refreshToken : String} (h : Stored cfg refreshToken w.store) :
    (tokenDiscipline cfg permits).Returns t (fun _ w => Spent cfg refreshToken w.store)
      (logout cfg refreshToken) w := by
  refine Discipline.returns_bind trivial (Discipline.returns_call (tokenDiscipline_keeps _ _))
    fun found w₁ _ _ h₁ => ?_
  obtain ⟨s, hs, hlater, rfl⟩ := fetched_of_answered h₁
  obtain ⟨r, hr, hhash⟩ := h.kept hs
  rw [find_of_stored hr hhash]
  dsimp only
  split
  · next hrevoked =>
      refine Discipline.returns_ret fun w₂ h₂ => ?_
      exact Spent.kept ⟨r, hr, hhash, hrevoked⟩ (hlater.trans h₂.1)
  · refine Discipline.returns_bind trivial (Discipline.returns_call (tokenDiscipline_keeps _ _))
      fun now w₂ _ h₂ _ => ?_
    refine Discipline.returns_bind trivial (Discipline.returns_call (tokenDiscipline_keeps _ _))
      fun row w₃ _ _ h₃ => ?_
    refine Discipline.returns_ret fun w₄ h₄ => ?_
    obtain ⟨w₀, s₀, hbefore, -, -, ho, hafter⟩ := h₃
    obtain ⟨ch, hstep⟩ := step_of_ok ho
    have hspent : s₀.HasRevoked r.id := hasRevoked_revokeToken (ok_of_commit hstep)
    have hkept : s.KeepsTokens s₀ :=
      ((hlater.trans h₂.1).trans hbefore.1).trans (keepsTokens_of_outcome ho)
    obtain ⟨r', hr', hid, hstays⟩ := hkept r hr
    have hrevoked : r'.Revoked := by
      change s₀.HasRevoked (key r) at hspent
      rw [← hid] at hspent
      exact hspent.revoked hr'
    refine Spent.kept ⟨r', hr', hstays.hash.symm.trans hhash, hrevoked⟩ ?_
    exact KeepsTokens.trans hafter.1 h₄.1

/-! ## Runs -/

/-- A program that has returned has brought the world to its postcondition. -/
theorem of_ran {α : Type} {p : AuthSvc α} {c c' : AuthPool} {P : AuthWorld → Prop}
    (hp : (tokenDiscipline cfg permits).Returns t (fun _ w => P w) p c.world)
    (h : Ran ((authService cfg).system.restrict permits) p t c c') : P c'.world := by
  obtain ⟨ht, hr, hdone⟩ := h
  have hvoid : (tokenDiscipline cfg permits).logic.Holds t
      (fun x w => x = .ok () → P w) p.void c.world :=
    Logic.holds_void hp (fun a _ h _ => h a rfl) fun e _ _ h => by cases h
  obtain ⟨p', ht', hholds⟩ := hvoid.reach ht (fun _ _ => trivial) hr
  obtain rfl : p' = .ret () := Option.some.inj (ht'.symm.trans hdone)
  exact hholds c'.world ((tokenDiscipline cfg permits).logic.rely_refl t _) trivial rfl

/-- What `refresh` and `logout` leave. -/
theorem spent_of_ran {refreshToken : String} {c c' : AuthPool}
    (h : Ran ((authService cfg).system.restrict permits) (refresh cfg refreshToken) t c c' ∨
      Ran ((authService cfg).system.restrict permits) (logout cfg refreshToken) t c c' ∧
        Stored cfg refreshToken c.world.store) : Spent cfg refreshToken c'.world.store := by
  rcases h with hran | ⟨hran, hstored⟩
  · obtain ⟨e, -, -, id, row, -, r, hr, -, hhash, hrevoked⟩ :=
      of_ran (returns_refresh refreshToken c.world) hran
    exact ⟨r, hr, hhash, hrevoked⟩
  · exact of_ran (P := fun w => Spent cfg refreshToken w.store) (returns_logout hstored) hran

end Refresh

/-- In a run in which no other refresh exchanges a token between the read and the transaction of a
refresh, every token is used once. -/
theorem used_once_of_reach {s₀ : AuthStore} {c : AuthPool}
    (hr : ((authService cfg).system.restrict exchangedAlone).Reach (Service.init s₀) c)
    (refreshToken : String) :
    UsedOnce cfg ((authService cfg).system.restrict exchangedAlone) refreshToken c := by
  constructor
  · intro t u c₁ c₂ ht hu
    obtain ⟨e, he, rfl, id, row, hex, r, hrow, hid, hhash, -⟩ :=
      of_ran (returns_refresh refreshToken c₁.world) ht
    obtain ⟨f, hf, rfl, id', row', hex', r', hrow', hid', hhash', -⟩ :=
      of_ran (returns_refresh refreshToken c₂.world) hu
    have hsame : r = r' := by
      apply c.world.store.tokens.eq_of_clash hrow hrow'
      exact beq_iff_eq.mpr (hhash.trans hhash'.symm)
    obtain rfl : id = id' := by rw [← hid, ← hid', hsame]
    by_contra hne
    have hne' : e ≠ f := fun h => hne (congrArg (·.thread) h)
    have hapart := (exchanges_of_reach hr).apart
    have hsym : Std.Symm fun e f => Apart e f ∨ Apart f e := ⟨fun _ _ h => h.symm⟩
    have hboth : c.world.trace.Pairwise fun e f => Apart e f ∨ Apart f e := hapart.imp .inl
    rcases hboth.forall he hf hne' with h | h
    · exact (h id row' hex').1 row hex
    · exact (h id row hex).1 row' hex'
  · intro t u c₁ c' hspent hu hr' hdone
    exact of_ran (refresh_of_spent (spent_of_ran hspent)) ⟨hu, hr', hdone⟩

/-! ## Two refreshes -/

def samplePayload : JwtPayload where
  sub := "c0"
  role := .CLIENT_VIEWER
  clientId := some "c0"

def sampleSign (kind : String) (payload : JwtPayload) (now : Time) : String :=
  kind ++ ":" ++ payload.sub ++ ":" ++ Nat.repr (now / 1000).toNat

/-- Tokens of the first seconds. -/
def sampleAuth : AuthConfig where
  signAccess := sampleSign "access"
  signRefresh := sampleSign "refresh"
  verifyRefresh token _ :=
    if (List.range 10).any fun n => token = sampleSign "refresh" samplePayload (n * 1000) then
      some samplePayload
    else none
  hashRefreshToken token := "sha256:" ++ token
  comparePassword password hash := hash = "bcrypt:" ++ password
  addDays days t := t + days * 86400000

/-- The token that the viewer was given. -/
def firstToken : String := sampleSign "refresh" samplePayload 0

/-- A client with its viewer, who has logged in. -/
def viewerStore : AuthStore where
  users := .ofData [{
    role := .CLIENT_VIEWER
    clientId := some "c0"
    email := some "viewer@example.com"
    passwordHash := "bcrypt:secret" }]
  clients := .ofData [{ name := "Client", primaryUserId := some "c0" }]
  tokens := .ofData [{
    userId := "c0"
    tokenHash := sampleAuth.hashRefreshToken firstToken
    expiresAt := 604800000 }]

/-- A second before each turn. -/
def passSecond : (authService sampleAuth).Action :=
  .change (fun _ => true) fun s => { s with clock := s.clock + 1000 }

/-- Operations that are started together, and the steps that each takes in turn. -/
def turns (ops : List AuthOp) (steps : List (Nat × Nat)) : List (authService sampleAuth).Action :=
  (ops.map fun op => .start (op.program sampleAuth) (fun _ => true) fun s => s) ++
    steps.flatMap fun (t, n) => passSecond :: List.replicate n (.step t {})

theorem legal_turns (ops : List AuthOp) (steps : List (Nat × Nat)) :
    Service.Legal (turns ops steps) := by
  unfold turns
  rw [Service.legal_append]
  constructor
  · intro a ha
    obtain ⟨op, -, rfl⟩ := List.mem_map.mp ha
    exact fun _ _ => ⟨rfl, op, rfl⟩
  · intro a ha
    obtain ⟨⟨t, n⟩, -, hmem⟩ := List.mem_flatMap.mp ha
    rcases List.mem_cons.mp hmem with rfl | hstep
    · exact fun _ _ => rfl
    · rw [List.eq_of_mem_replicate hstep]
      trivial

def returned : AuthSvc Unit → Bool
  | .ret _ => true
  | _ => false

theorem ret_of_returned {c : AuthPool} {t : Nat} (h : (c.pool[t]?).any returned = true) :
    c.pool[t]? = some (.ret ()) := by
  obtain ⟨p, hp, hret⟩ := (Option.any_eq_true _ _).mp h
  cases p with
  | ret a => exact hp
  | throw e => cases hret
  | ask c k => cases hret

instance (t : Nat) (c : AuthCall) (w : AuthWorld) : Decidable (exchangedAlone t c w) := by
  cases c with
  | exchange id now d =>
      exact inferInstanceAs (Decidable ((∀ e ∈ sinceLatest (fetchedBy t id) w.trace, _) ∨ _))
  | _ => exact inferInstanceAs (Decidable True)

/-- A refresh that is done before another begins. -/
theorem refresh_then_rejected : ∃ c : AuthPool,
    ((authService sampleAuth).system.restrict exchangedAlone).Reach (Service.init viewerStore) c ∧
      (c.pool[0]?).any returned = true ∧ (c.pool[1]?).any returned = false ∧
        UsedOnce sampleAuth ((authService sampleAuth).system.restrict exchangedAlone) firstToken c := by
  obtain ⟨c, hr, hpool⟩ := Service.exists_config_of_perform exchangedAlone
    (turns [.refresh firstToken, .refresh firstToken] [(0, 7), (1, 3)]) (Service.init viewerStore)
    (fun c => (c.pool[0]?).any returned && !(c.pool[1]?).any returned) (legal_turns _ _)
    (by decide +kernel)
  simp only [Bool.and_eq_true, Bool.not_eq_true'] at hpool
  exact ⟨c, hr, hpool.1, hpool.2, used_once_of_reach hr firstToken⟩

/-- Two refreshes of the token that have just started. -/
def twoRefreshes : AuthPool where
  world := ⟨viewerStore, []⟩
  pool := [(refresh sampleAuth firstToken).void, (refresh sampleAuth firstToken).void]

/-- Both read the token before either revokes it, and both succeed. -/
theorem token_used_twice : ¬ ∀ (s₀ : AuthStore) (c : AuthPool) (refreshToken : String),
    (authService sampleAuth).system.Reach (Service.init s₀) c →
      UsedOnce sampleAuth (authService sampleAuth).system refreshToken c := by
  intro hclaim
  have hstarted : (authService sampleAuth).system.Reach (Service.init viewerStore) twoRefreshes := by
    rw [← System.restrict_true (authService sampleAuth).system]
    exact Service.reach_of_perform
      (legal_turns [.refresh firstToken, .refresh firstToken] []) rfl
  obtain ⟨c, hr, hpool⟩ := Service.exists_config_of_perform (fun _ _ _ => True)
    (turns [] [(0, 3), (1, 3), (0, 4), (1, 4)]) twoRefreshes
    (fun c => (c.pool[0]?).any returned && (c.pool[1]?).any returned) (legal_turns _ _)
    (by decide +kernel)
  rw [System.restrict_true] at hr
  rw [Bool.and_eq_true] at hpool
  have hused := hclaim viewerStore c firstToken (hstarted.trans hr)
  have hfirst : Ran (authService sampleAuth).system (refresh sampleAuth firstToken) 0 twoRefreshes c :=
    ⟨rfl, hr, ret_of_returned hpool.1⟩
  have hsecond : Ran (authService sampleAuth).system (refresh sampleAuth firstToken) 1 twoRefreshes c :=
    ⟨rfl, hr, ret_of_returned hpool.2⟩
  cases hused.once hfirst hsecond

end CreativeBackend.Accounts
