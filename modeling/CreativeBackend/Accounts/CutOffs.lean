import CreativeBackend.Accounts.SingleUse

/-!
# Cut-offs

A cut-off revokes the tokens that a user has. It lasts if it revokes them at all, and if no login or
refresh that passed its checks before stores a token after: then no token that goes back to a login
before the cut-off is exchanged after it, whatever is done to the client or the user later.
-/

namespace CreativeBackend.Accounts

open Relational Interaction AuthStore

variable {cfg : AuthConfig} {s₀ : AuthStore}

/-! ## What is claimed -/

/-- The call completes a cut-off of the user: a deactivation of its client, also one that finds the
client inactive, or a password reset. -/
def cutsOff (userId : Id) : AuthEvent → Bool
  | ⟨_, .setActive id false, .ok _, s⟩ => s.ofClient id userId
  | ⟨_, .lifecycleClient id false, .ok (some client), s⟩ =>
      !client.isActive && s.ofClient id userId
  | ⟨_, .clientDeactivate id, .ok _, s⟩ => s.ofClient id userId
  | ⟨_, .resetPassword id _ _, .ok _, _⟩ => id = userId
  | _ => false

/-- The thread has looked the user up to verify the credentials. -/
def verifiedBy (t : Nat) (userId : Id) (e : AuthEvent) : Bool :=
  e.thread = t && (candidate? e).any (·.id = userId)

/-- The tokens of the user whose chain of exchanges starts at a login that verified the credentials
`before`, or at a token from before the run. -/
def chained (s₀ : AuthStore) (userId : Id) (before : List AuthEvent) : List AuthEvent → List Id
  | [] => (s₀.tokens.rows.filter fun r => r.userId = userId).map (·.id)
  | e :: log =>
      let older := chained s₀ userId before log
      match stored? e, exchanged? e with
      | some row, _ =>
          if row.userId = userId ∧ before.any (verifiedBy e.thread userId) = true then row.id :: older
          else older
      | none, some (id, row) => if id ∈ older then row.id :: older else older
      | none, none => older

/-! ## Lasting cut-offs -/

/-- No cut-off of the user came after an entry in `start`. -/
def UncutSince (userId : Id) (start : AuthEvent → Bool) (log : List AuthEvent) : Prop :=
  log.Pairwise fun c e => cutsOff userId c = true → start e = false

/-- The users of the client have no token that is not revoked. -/
def NothingToRevoke (s : AuthStore) (clientId : Id) : Prop :=
  ∀ r ∈ s.tokens.rows, s.ofClient clientId r.userId = true → r.Revoked

/-- A cut-off that revokes nothing has nothing to revoke, and no token is stored by a login or a
refresh whose checks a cut-off of the user came after, unless the token is there already and the
call fails. -/
def cutsForGood (t : Nat) : AuthCall → AuthWorld → Prop
  | .lifecycleClient id false, w =>
      (∃ client ∈ w.store.clients.find? id, client.isActive = false) → NothingToRevoke w.store id
  | .clientDeactivate id, w => NothingToRevoke w.store id
  | .tokenCreate d, w => UncutSince d.userId (verifiedBy t d.userId) w.trace ∨
      ∃ r ∈ w.store.tokens.rows, r.tokenHash = d.tokenHash
  | .exchange id _ d, w => UncutSince d.userId (fetchedBy t id) w.trace ∨
      ∃ r ∈ w.store.tokens.rows, r.tokenHash = d.tokenHash
  | _, _ => True

theorem UncutSince.of_split {userId : Id} {start : AuthEvent → Bool} {log post pre : List AuthEvent}
    {c e : AuthEvent} (h : UncutSince userId start log) (hlog : log = post ++ c :: pre)
    (hc : cutsOff userId c = true) (he : e ∈ pre) : start e = false := by
  subst hlog
  exact (List.pairwise_cons.mp (List.pairwise_append.mp h).2.1).1 e he hc

/-- A cut-off stores no token and fetches none. -/
theorem cutsOff_silent {userId : Id} {c : AuthEvent} (hc : cutsOff userId c = true) :
    stored? c = none ∧ exchanged? c = none ∧ fetched? c = none := by
  obtain ⟨t, call, x, s⟩ := c
  cases call with
  | tokenCreate d => cases hc
  | exchange id now d => cases hc
  | tokenByHash h => cases hc
  | _ => exact ⟨rfl, rfl, rfl⟩

/-- A cut-off leaves no token of the user that is not revoked. -/
theorem cutOff_of_outcome {t : Nat} {c : AuthCall} {x : Except Exn (AuthResp c)} {w : AuthWorld}
    {s' : AuthStore} (hp : cutsForGood t c w) (ho : (authService cfg).Outcome c w.store x s')
    {userId : Id} (hc : cutsOff userId ⟨t, c, x, w.store⟩ = true) : CutOff userId w.store s' := by
  have hnothing : ∀ id, NothingToRevoke w.store id → w.store.ofClient id userId = true →
      CutOff userId w.store s' := by
    intro id hnone hof a ha hu
    have hrevoked : w.store.HasRevoked a.id := ⟨a, ha, rfl, hnone a ha (by rwa [hu])⟩
    exact hrevoked.kept (keepsTokens_of_outcome ho)
  cases x with
  | error e => cases c <;> first | cases hc | (rename_i b; cases b <;> cases hc)
  | ok a =>
      obtain ⟨ch, hstep⟩ := step_of_ok ho
      cases c with
      | setActive id isActive =>
          cases isActive with
          | true => cases hc
          | false => exact (setActive_eq_ok (ok_of_commit hstep)).2 rfl userId hc
      | lifecycleClient id isActive =>
          cases isActive with
          | true => cases a <;> cases hc
          | false =>
              cases a with
              | none => cases hc
              | some client =>
                  simp only [cutsOff, Bool.and_eq_true, Bool.not_eq_true'] at hc
                  have hfind : w.store.clients.find? id = some client :=
                    Except.ok.inj (congrArg Prod.fst hstep)
                  exact hnothing id (hp ⟨client, hfind, hc.1⟩) hc.2
      | clientDeactivate id => exact hnothing id hp hc
      | resetPassword id passwordHash now =>
          obtain rfl : id = userId := by simpa [cutsOff] using hc
          exact (resetPassword_eq_ok (ok_of_commit hstep)).2
      | _ => cases hc

/-! ## What a run keeps -/

/-- The token is in the store, for the user. -/
def HasToken (s : AuthStore) (userId id : Id) : Prop :=
  ∃ r ∈ s.tokens.rows, r.id = id ∧ r.userId = userId

theorem HasToken.kept {s s' : AuthStore} {userId id : Id} (h : HasToken s userId id)
    (hk : s.KeepsTokens s') : HasToken s' userId id := by
  obtain ⟨r, hr, hid, hu⟩ := h
  obtain ⟨r', hr', hid', hstays⟩ := hk r hr
  exact ⟨r', hr', hid'.trans hid, hstays.user ▸ hu⟩

/-- A token has one user. -/
theorem HasToken.user {s : AuthStore} {userId : Id} {r : RefreshToken}
    (h : HasToken s userId r.id) (hr : r ∈ s.tokens.rows) : r.userId = userId := by
  obtain ⟨r', hr', hid, hu⟩ := h
  rwa [← s.tokens.eq_of_key hr' hr hid]

/-- What has followed a cut-off: the tokens of the user are revoked, all that go back to a login
before it were there, and none of these was fetched as usable, or exchanged, since. -/
structure Lasts (s₀ : AuthStore) (userId : Id) (post : List AuthEvent) (cut : AuthEvent)
    (pre : List AuthEvent) (w : AuthWorld) : Prop where
  kept : cut.before.KeepsTokens w.store
  revoked : CutOff userId cut.before w.store
  old : ∀ id ∈ chained s₀ userId pre w.trace, HasToken cut.before userId id
  fetched : ∀ e ∈ post, ∀ r, fetched? e = some r → ¬ r.Revoked → ¬ HasToken cut.before userId r.id
  exchanged : ∀ e ∈ post, ∀ id row, exchanged? e = some (id, row) → ¬ HasToken cut.before userId id

/-- What holds of every world of a run. -/
structure Chains (s₀ : AuthStore) (w : AuthWorld) : Prop where
  fetched : ∀ e ∈ w.trace, ∀ r, fetched? e = some r →
    ∃ r' ∈ w.store.tokens.rows, r'.id = r.id ∧ r'.userId = r.userId
  chained : ∀ userId before, ∀ id ∈ chained s₀ userId before w.trace, HasToken w.store userId id
  lasts : ∀ post cut pre, w.trace = post ++ cut :: pre → ∀ userId, cutsOff userId cut = true →
    Lasts s₀ userId post cut pre w

/-- The ids that one more call adds to a chain. -/
theorem mem_chained_cons {userId id : Id} {before log : List AuthEvent} {e : AuthEvent}
    (h : id ∈ chained s₀ userId before (e :: log)) :
    id ∈ chained s₀ userId before log ∨
      (∃ row, stored? e = some row ∧ id = row.id ∧ row.userId = userId ∧
        before.any (verifiedBy e.thread userId) = true) ∨
      ∃ old row, exchanged? e = some (old, row) ∧ id = row.id ∧
        old ∈ chained s₀ userId before log := by
  simp only [chained] at h
  split at h
  · next _ row hstored =>
      split at h
      · next hboth =>
          rcases List.mem_cons.mp h with rfl | hold
          · exact .inr (.inl ⟨row, hstored, rfl, hboth.1, hboth.2⟩)
          · exact .inl hold
      · exact .inl h
  · next old row _ hex =>
      split at h
      · next hold =>
          rcases List.mem_cons.mp h with rfl | holder
          · exact .inr (.inr ⟨old, row, hex, rfl, hold⟩)
          · exact .inl holder
      · exact .inl h
  · exact .inl h

theorem Chains.init (s₀ : AuthStore) : Chains s₀ ⟨s₀, []⟩ where
  fetched e he := by cases he
  chained userId before id hid := by
    obtain ⟨r, hr, rfl⟩ := List.mem_map.mp hid
    obtain ⟨hmem, hu⟩ := List.mem_filter.mp hr
    exact ⟨r, hmem, rfl, by simpa using hu⟩
  lasts post cut pre h := by simp at h

section Step

variable {t : Nat} {c : AuthCall} {w : AuthWorld} {x : Except Exn (AuthResp c)} {s' : AuthStore}
  {userId id : Id} {post pre : List AuthEvent} {cut : AuthEvent}

/-- An exchange is of a token of the same user, which its thread has fetched as usable. -/
theorem Chains.exchange (h : Chains s₀ w) (hrule : authRule (w.own t) c)
    {row : RefreshToken} (hex : exchanged? ⟨t, c, x, w.store⟩ = some (id, row))
    (ho : (authService cfg).Outcome c w.store x s') :
    ∃ now d g r, c = .exchange id now d ∧ Minted d row w.store s' ∧ g ∈ w.trace ∧
      fetched? g = some r ∧ fetchedBy t id g = true ∧ r.id = id ∧ ¬ r.Revoked ∧
        HasToken w.store d.userId id := by
  obtain ⟨now, d, rfl, hminted, -⟩ := exchange_of_outcome ho hex
  obtain ⟨r, ⟨g, hg, hfetched⟩, hid, huser, hrevoked⟩ := hrule
  obtain ⟨hmem, hthread⟩ := World.mem_own.mp hg
  obtain ⟨r', hr', hid', huser'⟩ := h.fetched g hmem r hfetched
  refine ⟨now, d, g, r, rfl, hminted, hmem, hfetched, ?_, hid, hrevoked, r', hr', hid'.trans hid,
    huser'.trans huser⟩
  have hnone : r.revokedAt = none := not_not.mp hrevoked
  simp [fetchedBy, hthread, hfetched, hid, hnone]

/-- A token that was there at a cut-off is not exchanged after it. -/
theorem Lasts.not_exchanged (hw : Chains s₀ w) (h : Lasts s₀ userId post cut pre w)
    (htrace : w.trace = post ++ cut :: pre) (hcut : cutsOff userId cut = true)
    (hp : cutsForGood t c w) (hrule : authRule (w.own t) c)
    (ho : (authService cfg).Outcome c w.store x s') {row : RefreshToken}
    (hex : exchanged? ⟨t, c, x, w.store⟩ = some (id, row)) : ¬ HasToken cut.before userId id := by
  intro hold
  obtain ⟨now, d, g, r, rfl, hminted, hg, hfetched, hby, rfl, hrevoked, hhas⟩ :=
    hw.exchange hrule hex ho
  rcases hp with huncut | ⟨r', hr', hhash⟩
  · obtain ⟨r₁, hr₁, hid₁, hu₁⟩ := hold.kept h.kept
    obtain rfl : d.userId = userId := by
      obtain ⟨r₂, hr₂, hid₂, hu₂⟩ := hhas
      rw [← hu₁, ← hu₂, w.store.tokens.eq_of_key hr₁ hr₂ (hid₁.trans hid₂.symm)]
    rw [htrace] at hg
    rcases List.mem_append.mp hg with hpost | hrest
    · exact h.fetched g hpost r hfetched hrevoked hold
    · rcases List.mem_cons.mp hrest with rfl | hpre
      · rw [(cutsOff_silent hcut).2.2] at hfetched
        cases hfetched
      · have hnot := huncut.of_split htrace hcut hpre
        rw [hby] at hnot
        cases hnot
  · exact hminted.unused r' hr' hhash

/-- What a call keeps of a cut-off before it. -/
theorem Lasts.log (hw : Chains s₀ w) (h : Lasts s₀ userId post cut pre w)
    (htrace : w.trace = post ++ cut :: pre) (hcut : cutsOff userId cut = true)
    (hp : cutsForGood t c w) (hrule : authRule (w.own t) c)
    (ho : (authService cfg).Outcome c w.store x s') :
    Lasts s₀ userId (⟨t, c, x, w.store⟩ :: post) cut pre (w.log t c x s') := by
  have hkept : w.store.KeepsTokens s' := keepsTokens_of_outcome ho
  constructor
  · exact h.kept.trans hkept
  · exact h.revoked.kept hkept
  · intro id hid
    rcases mem_chained_cons hid with hold | ⟨row, hstored, -, huser, hverified⟩ |
        ⟨old, row, hex, -, hold⟩
    · exact h.old id hold
    · -- The login verified before the cut-off, so it may not store a token after it.
      obtain ⟨d, rfl, hminted⟩ := stored_of_outcome ho hstored
      obtain ⟨e, he, hby⟩ := List.any_eq_true.mp hverified
      rcases hp with huncut | ⟨r, hr, hhash⟩
      · obtain rfl : d.userId = userId := hminted.user.symm.trans huser
        have hnot := huncut.of_split htrace hcut he
        rw [hby] at hnot
        cases hnot
      · exact absurd hhash (hminted.unused r hr)
    · exact absurd (h.old old hold) (h.not_exchanged hw htrace hcut hp hrule ho hex)
  · intro e he r hfetched hrevoked hold
    rcases List.mem_cons.mp he with rfl | hpost
    · obtain ⟨a, ha, hid, hu⟩ := hold
      have hspent := h.revoked a ha hu
      rw [hid] at hspent
      exact hrevoked (hspent.revoked (mem_of_fetched ho hfetched))
    · exact h.fetched e hpost r hfetched hrevoked hold
  · intro e he id row hex
    rcases List.mem_cons.mp he with rfl | hpost
    · exact h.not_exchanged hw htrace hcut hp hrule ho hex
    · exact h.exchanged e hpost id row hex

/-- What one call keeps. -/
theorem Chains.log (h : Chains s₀ w) (hp : cutsForGood t c w) (hrule : authRule (w.own t) c)
    (ho : (authService cfg).Outcome c w.store x s') : Chains s₀ (w.log t c x s') := by
  have hkept : w.store.KeepsTokens s' := keepsTokens_of_outcome ho
  constructor
  · intro e he r hfetched
    have hold : ∃ r' ∈ w.store.tokens.rows, r'.id = r.id ∧ r'.userId = r.userId := by
      rcases List.mem_cons.mp he with rfl | hold
      · exact ⟨r, mem_of_fetched ho hfetched, rfl, rfl⟩
      · exact h.fetched e hold r hfetched
    obtain ⟨r', hr', hid, hu⟩ := hold
    obtain ⟨r'', hr'', hid', hstays⟩ := hkept r' hr'
    exact ⟨r'', hr'', hid'.trans hid, hstays.user.symm.trans hu⟩
  · intro userId before id hid
    rcases mem_chained_cons hid with hold | ⟨row, hstored, rfl, huser, -⟩ |
        ⟨old, row, hex, rfl, hold⟩
    · exact (h.chained userId before id hold).kept hkept
    · obtain ⟨d, rfl, hminted⟩ := stored_of_outcome ho hstored
      exact ⟨row, hminted.mem, rfl, huser⟩
    · obtain ⟨now, d, g, r, rfl, hminted, -, -, -, -, -, hhas⟩ := h.exchange hrule hex ho
      obtain ⟨r₁, hr₁, hid₁, hu₁⟩ := hhas
      have huser : r₁.userId = userId := by
        have holder := h.chained userId before old hold
        rw [← hid₁] at holder
        exact holder.user hr₁
      exact ⟨row, hminted.mem, rfl, hminted.user.trans (hu₁.symm.trans huser)⟩
  · intro post cut pre htrace userId hcut
    change _ :: w.trace = _ at htrace
    cases post with
    | nil =>
        obtain ⟨rfl, rfl⟩ := List.cons.inj htrace
        obtain ⟨hstored, hex, -⟩ := cutsOff_silent hcut
        refine ⟨hkept, cutOff_of_outcome hp ho hcut, fun id hid => ?_, ?_, ?_⟩
        · rcases mem_chained_cons hid with hold | ⟨row, hrow, -⟩ | ⟨old, row, hrow, -⟩
          · exact h.chained userId w.trace id hold
          · rw [hstored] at hrow
            cases hrow
          · rw [hex] at hrow
            cases hrow
        · exact fun e he => by cases he
        · exact fun e he => by cases he
    | cons e post =>
        obtain ⟨rfl, hrest⟩ := List.cons.inj htrace
        exact (h.lasts post cut pre hrest userId hcut).log h hrest hcut hp hrule ho

end Step

/-- Others leave the tokens alone. -/
theorem Chains.env {w : AuthWorld} {s' : AuthStore} (h : Chains s₀ w)
    (hs : s'.tokens = w.store.tokens) : Chains s₀ { w with store := s' } := by
  have hkept : w.store.KeepsTokens s' := .of_eq hs
  constructor
  · intro e he r hfetched
    rw [hs]
    exact h.fetched e he r hfetched
  · exact fun userId before id hid => (h.chained userId before id hid).kept hkept
  · intro post cut pre htrace userId hcut
    obtain ⟨hk, hrevoked, hold, hfetched, hexchanged⟩ := h.lasts post cut pre htrace userId hcut
    exact ⟨hk.trans hkept, hrevoked.kept hkept, hold, hfetched, hexchanged⟩

/-- Each program exchanges what it has fetched, and the chains are kept. -/
def chainGuard (cfg : AuthConfig) (s₀ : AuthStore) : Guard (authService cfg) cutsForGood where
  inv := Chains s₀
  rule := authRule
  answers := authAnswers
  answered _ _ _ ho := answers_of_outcome ho _
  call_inv hi hp hrule ho := hi.log hp hrule ho
  env_inv hi henv := hi.env henv
  start_inv hi hstart := by
    obtain ⟨rfl, -⟩ := hstart
    exact hi

/-- In a run in which every cut-off is for good, no token that goes back to a login before a cut-off
of its user is exchanged after it. -/
theorem not_exchanged_after_cutOff {c : AuthPool}
    (hr : ((authService cfg).system.restrict cutsForGood).Reach (Service.init s₀) c)
    {post pre : List AuthEvent} {cut : AuthEvent} (htrace : c.world.trace = post ++ cut :: pre)
    {userId : Id} (hcut : cutsOff userId cut = true) {e : AuthEvent} (he : e ∈ post) {id : Id}
    {row : RefreshToken} (hex : exchanged? e = some (id, row)) :
    id ∉ chained s₀ userId pre c.world.trace := by
  have hstart : ∀ {t s p s'}, (authService cfg).starts s p s' →
      p.Along authRule authAnswers t (fun _ _ => True) [] := by
    rintro t s p s' ⟨-, op, rfl⟩
    exact along_program op
  have hgood := Guard.good_of_reach (G := chainGuard cfg s₀) hstart (Chains.init s₀) hr
  have hlasts := hgood.1.lasts post cut pre htrace userId hcut
  exact fun hid => hlasts.exchanged e he id row hex (hlasts.old id hid)

/-! ## A deactivation and a removal -/

instance (userId : Id) (start : AuthEvent → Bool) (log : List AuthEvent) :
    Decidable (UncutSince userId start log) :=
  inferInstanceAs (Decidable (List.Pairwise _ _))

instance (s : AuthStore) (clientId : Id) : Decidable (NothingToRevoke s clientId) :=
  inferInstanceAs (Decidable (∀ r ∈ s.tokens.rows, _))

/-- The test of `cutsForGood`. -/
def cutsForGood? (t : Nat) (w : AuthWorld) : AuthCall → Bool
  | .lifecycleClient id false => decide ((∃ client ∈ w.store.clients.find? id,
      client.isActive = false) → NothingToRevoke w.store id)
  | .clientDeactivate id => decide (NothingToRevoke w.store id)
  | .tokenCreate d => decide (UncutSince d.userId (verifiedBy t d.userId) w.trace ∨
      ∃ r ∈ w.store.tokens.rows, r.tokenHash = d.tokenHash)
  | .exchange id _ d => decide (UncutSince d.userId (fetchedBy t id) w.trace ∨
      ∃ r ∈ w.store.tokens.rows, r.tokenHash = d.tokenHash)
  | _ => true

theorem cutsForGood?_eq_true {t : Nat} {c : AuthCall} {w : AuthWorld} :
    cutsForGood? t w c = true ↔ cutsForGood t c w := by
  cases c with
  | lifecycleClient id isActive =>
      cases isActive with
      | true => exact iff_of_true rfl trivial
      | false => exact decide_eq_true_iff
  | clientDeactivate id => exact decide_eq_true_iff
  | tokenCreate d => exact decide_eq_true_iff
  | exchange id now d => exact decide_eq_true_iff
  | _ => exact iff_of_true rfl trivial

instance (t : Nat) (c : AuthCall) (w : AuthWorld) : Decidable (cutsForGood t c w) :=
  decidable_of_iff _ cutsForGood?_eq_true

/-- The token of a login in the first turn. -/
def loginToken : String := sampleSign "refresh" samplePayload 1000

def login : AuthOp := .login "viewer@example.com" "secret"

/-- After the latest `n` calls comes a cut-off of the viewer. -/
def cutAfter (n : Nat) (log : List AuthEvent) : Bool :=
  (log.drop n).head?.any (cutsOff "c0")

/-- One of the latest `n` calls exchanges a token whose chain goes back to a login before them. -/
def exchangesOld (n : Nat) (log : List AuthEvent) : Bool :=
  (log.take n).any fun e => (exchanged? e).any fun x =>
    x.1 ∈ chained viewerStore "c0" (log.drop (n + 1)) log

theorem split_of_cutAfter {n : Nat} {log : List AuthEvent} (h : cutAfter n log = true) :
    ∃ cut, log = log.take n ++ cut :: log.drop (n + 1) ∧ cutsOff "c0" cut = true := by
  obtain ⟨cut, hhead, hcut⟩ := (Option.any_eq_true _ _).mp h
  refine ⟨cut, ?_, hcut⟩
  obtain ⟨rest, hrest⟩ := List.head?_eq_some_iff.mp hhead
  calc log = log.take n ++ log.drop n := (List.take_append_drop n log).symm
    _ = log.take n ++ cut :: log.drop (n + 1) := by
      rw [hrest, ← List.drop_drop, hrest]
      rfl

/-- A login, a deactivation, a reactivation, and a refresh that is rejected. -/
theorem deactivation_lasts : ∃ (c : AuthPool) (post pre : List AuthEvent) (cut : AuthEvent),
    ((authService sampleAuth).system.restrict cutsForGood).Reach (Service.init viewerStore) c ∧
      c.world.trace = post ++ cut :: pre ∧ cutsOff "c0" cut = true ∧
      (chained viewerStore "c0" pre c.world.trace).length = 2 ∧
      ∀ e ∈ post, ∀ id row, exchanged? e = some (id, row) →
        id ∉ chained viewerStore "c0" pre c.world.trace := by
  obtain ⟨c, hr, hlog⟩ := Service.exists_config_of_perform cutsForGood
    (turns [login, .setActiveStatus "c0" false, .setActiveStatus "c0" true, .refresh loginToken]
      [(0, 6), (1, 2), (2, 2), (3, 3)]) (Service.init viewerStore)
    (fun c => cutAfter 5 c.world.trace &&
      (chained viewerStore "c0" (c.world.trace.drop 6) c.world.trace).length = 2)
    (legal_turns _ _) (by decide +kernel)
  rw [Bool.and_eq_true, decide_eq_true_eq] at hlog
  obtain ⟨cut, htrace, hcut⟩ := split_of_cutAfter hlog.1
  refine ⟨c, _, _, cut, hr, htrace, hcut, hlog.2, fun e he id row hex => ?_⟩
  exact not_exchanged_after_cutOff hr htrace hcut he hex

/-- A login, a removal of the client, a reactivation, and a refresh that succeeds. -/
theorem removal_does_not_last : ¬ ∀ (s₀ : AuthStore) (c : AuthPool),
    (authService sampleAuth).system.Reach (Service.init s₀) c →
      ∀ (post pre : List AuthEvent) (cut : AuthEvent), c.world.trace = post ++ cut :: pre →
        ∀ userId, cutsOff userId cut = true → ∀ e ∈ post, ∀ id row,
          exchanged? e = some (id, row) → id ∉ chained s₀ userId pre c.world.trace := by
  intro hclaim
  obtain ⟨c, hr, hlog⟩ := Service.exists_config_of_perform (fun _ _ _ => True)
    (turns [login, .remove "c0", .setActiveStatus "c0" true, .refresh loginToken]
      [(0, 6), (1, 2), (2, 2), (3, 7)]) (Service.init viewerStore)
    (fun c => cutAfter 9 c.world.trace && exchangesOld 9 c.world.trace) (legal_turns _ _)
    (by decide +kernel)
  rw [System.restrict_true] at hr
  rw [Bool.and_eq_true] at hlog
  obtain ⟨cut, htrace, hcut⟩ := split_of_cutAfter hlog.1
  obtain ⟨e, he, hany⟩ := List.any_eq_true.mp hlog.2
  obtain ⟨⟨id, row⟩, hex, hold⟩ := (Option.any_eq_true _ _).mp hany
  exact hclaim viewerStore c hr _ _ cut htrace "c0" hcut e he id row hex (by simpa using hold)

end CreativeBackend.Accounts
