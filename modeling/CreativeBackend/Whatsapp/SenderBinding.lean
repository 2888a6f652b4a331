import CreativeBackend.Whatsapp.TicketRequests
import CreativeBackend.Interaction.History
import CreativeBackend.Scans.Service

/-!
# One account for each request token

Any number of claims and renewals run at once, and any call may fail. A token that is renewed
was never on a registration before, as random texts do not repeat, so what a registration bound
to a token stays bound to it until the token is gone for good. All claims that succeed for one
token therefore name one account.
-/

namespace CreativeBackend

open Relational Interaction WhatsappTicketRequestsService

namespace TicketRequests

/-- Claims from any account for any token, and renewals, over one store. -/
def service (rt : Runtime) (cfg : Config) : Service TicketResp RequestExn TicketStore where
  Choice := TicketChoice
  machine := ticketMachine rt
  faulty := TicketCall.faulty
  env _ _ := False
  starts s p s' := s' = s ∧ ((∃ id, p = (createForRegistration rt cfg id).void) ∨
    ∃ id phone token, p = (claimTicketRequestSender ⟨id, normalizePhone phone, token⟩).void)

/-- Some registration carries the token. -/
def Carries (s : TicketStore) (token : String) : Prop :=
  ∃ r ∈ s.registrations.rows, r.ticketRequestToken = some token

/-- The token of a random text. -/
def tokenOf (hex : String) : String := "WTR_" ++ hex

theorem tokenOf_injective : Function.Injective tokenOf := by
  intro a b h
  have hlist : (tokenOf a).toList = (tokenOf b).toList := congrArg String.toList h
  rw [tokenOf, tokenOf, String.toList_append, String.toList_append] at hlist
  exact String.ext (List.append_cancel_left hlist)

/-- No random text is drawn twice, and no text to come is on a registration yet. -/
structure Distinct (rt : Runtime) (s : TicketStore) : Prop where
  random : Function.Injective rt.random
  unused : ∀ k, Carries s (tokenOf (rt.random k)) → k < s.draws

variable {rt : Runtime} {cfg : Config}

/-! ## What a call does to the registrations -/

/-- Where a row after a call comes from. -/
inductive RowOrigin (c : TicketCall) (s : TicketStore) (row : TicketRegistration) : Prop
  | kept (r : TicketRegistration) (hr : r ∈ s.registrations.rows)
      (htoken : row.ticketRequestToken = r.ticketRequestToken)
      (hphone : row.ticketRequestPhone = r.ticketRequestPhone)
  | renewed (id : Id) (token : String) (expiresAt now : Time)
      (hc : c = .registrationRenew id token expiresAt now)
      (htoken : row.ticketRequestToken = some token)
  | claimed (input : ClaimTicketRequestSenderInput) (now : Time) (r : TicketRegistration)
      (hr : r ∈ s.registrations.rows) (hc : c = .registrationClaim input now)
      (htoken : row.ticketRequestToken = r.ticketRequestToken)
      (hfree : r.ticketRequestPhone = none)

theorem rowOrigin_of_renew {s s' : TicketStore} {id : Id} {token : String} {expiresAt now : Time}
    {x : Except RequestExn TicketRegistration} (h : s.renewToken id token expiresAt now = (x, s'))
    {row : TicketRegistration} (hrow : row ∈ s'.registrations.rows) :
    RowOrigin (.registrationRenew id token expiresAt now) s row := by
  simp only [TicketStore.renewToken] at h
  split at h
  · cases h
    exact .kept row hrow rfl rfl
  · cases h
    exact .kept row hrow rfl rfl
  · next hu =>
      cases h
      rcases (Table.mem_update hu).mp hrow with ⟨hold, -⟩ | rfl
      · exact .kept row hold rfl rfl
      · obtain ⟨a, -, -, rfl, -, -⟩ := Table.update_eq_done hu
        exact .renewed id token expiresAt now rfl rfl

theorem rowOrigin_of_claim {s : TicketStore} {input : ClaimTicketRequestSenderInput} {now : Time}
    {row : TicketRegistration} (hrow : row ∈ (s.claimSender input now).2.registrations.rows) :
    RowOrigin (.registrationClaim input now) s row := by
  obtain ⟨r, hr, rfl⟩ := List.mem_map.mp hrow
  by_cases hclaim : r.claimable input now = true
  · have hfree : r.ticketRequestPhone = none := by
      simp only [TicketRegistration.claimable, Bool.and_eq_true] at hclaim
      simpa using hclaim.2
    exact .claimed input now r hr rfl (r.token_claim input now) hfree
  · refine .kept r hr (r.token_claim input now) ?_
    simp [TicketRegistration.claim, hclaim]

theorem rowOrigin_of_consume {s : TicketStore} {id : Id} {token : String} {now : Time}
    {row : TicketRegistration} (hrow : row ∈ (s.consumeToken id token now).2.registrations.rows) :
    RowOrigin (.registrationConsume id token now) s row := by
  obtain ⟨r, hr, rfl⟩ := List.mem_map.mp hrow
  exact .kept r hr (r.token_consume id token now) (r.phone_consume id token now)

theorem registrations_of_createDelivery (s : TicketStore) (deliveryId : String) (payload : Json) :
    (s.createDelivery deliveryId payload).2.registrations = s.registrations := by
  simp only [TicketStore.createDelivery]
  split <;> rfl

theorem registrations_of_markDelivery (s : TicketStore) (id : Id) (status : String)
    (reason : Option String) (now : Time) :
    (s.markDelivery id status reason now).2.registrations = s.registrations := by
  simp only [TicketStore.markDelivery]
  split <;> rfl

/-- What one call does to the registrations. -/
theorem rowOrigin_of_outcome {c : TicketCall} {s s' : TicketStore} {x : Except RequestExn (TicketResp c)}
    (h : (service rt cfg).Outcome c s x s') {row : TicketRegistration}
    (hrow : row ∈ s'.registrations.rows) : RowOrigin c s row := by
  rcases h with ⟨ch, hm⟩ | ⟨-, rfl, -⟩
  · change ticketMachine rt ch c s = (x, s') at hm
    cases c with
    | registrationRenew id token expiresAt now => exact rowOrigin_of_renew hm hrow
    | registrationClaim input now =>
        cases hm
        exact rowOrigin_of_claim hrow
    | registrationConsume id token now =>
        cases hm
        exact rowOrigin_of_consume hrow
    | deliveryCreate deliveryId payload =>
        have hs' : (s.createDelivery deliveryId payload).2 = s' := congrArg Prod.snd hm
        rw [← hs', registrations_of_createDelivery] at hrow
        exact .kept row hrow rfl rfl
    | deliveryMark id status reason now =>
        have hs' : (s.markDelivery id status reason now).2 = s' := congrArg Prod.snd hm
        rw [← hs', registrations_of_markDelivery] at hrow
        exact .kept row hrow rfl rfl
    | _ =>
        cases hm
        exact .kept row hrow rfl rfl
  · exact .kept row hrow rfl rfl

/-- A token that a call puts on a registration is the renewed one. -/
theorem carries_of_outcome {c : TicketCall} {s s' : TicketStore} {x : Except RequestExn (TicketResp c)}
    (h : (service rt cfg).Outcome c s x s') {token : String} (ht : Carries s' token) :
    Carries s token ∨ ∃ id expiresAt now, c = .registrationRenew id token expiresAt now := by
  obtain ⟨row, hrow, htoken⟩ := ht
  cases rowOrigin_of_outcome h hrow with
  | kept r hr heq hphone => exact .inl ⟨r, hr, heq ▸ htoken⟩
  | renewed id token' expiresAt now hc heq =>
      have hsame : token' = token := Option.some.inj (heq.symm.trans htoken)
      exact .inr ⟨id, expiresAt, now, hsame ▸ hc⟩
  | claimed input now r hr hc heq hfree => exact .inl ⟨r, hr, heq ▸ htoken⟩

/-- Two rows of one store with one token are one row. -/
theorem eq_of_token (s : TicketStore) {a b : TicketRegistration} (ha : a ∈ s.registrations.rows)
    (hb : b ∈ s.registrations.rows) {token : String} (hta : a.ticketRequestToken = some token)
    (htb : b.ticketRequestToken = some token) : a = b := by
  apply s.registrations.eq_of_clash ha hb
  simp [clash, hta, htb]

/-! ## Tokens are drawn and used once -/

abbrev TicketEvent := Interaction.Event TicketResp RequestExn TicketStore

abbrev TicketWorld := World TicketResp RequestExn TicketStore

/-- The random text that a call answered. -/
def drawn? : TicketEvent → Option String
  | ⟨_, .random, .ok hex, _⟩ => some hex
  | _ => none

/-- The token that a call was to put on a registration. -/
def renewed? : TicketEvent → Option String
  | ⟨_, .registrationRenew _ token _ _, _, _⟩ => some token
  | _ => none

/-- Every renewal of a log brought a token that no earlier store carried. -/
def FreshLog : List TicketEvent → Prop
  | [] => True
  | e :: tr => FreshLog tr ∧ ∀ token, renewed? e = some token →
      ∀ s ∈ e.before :: tr.map (·.before), ¬ Carries s token

/-- How the log tells the tokens of a run apart. -/
structure TokenLog (rt : Runtime) (w : TicketWorld) : Prop where
  below : ∀ s ∈ w.stores, ∀ k, Carries s (tokenOf (rt.random k)) → k < w.store.draws
  drawn : ∀ e ∈ w.trace, ∀ hex, drawn? e = some hex → ∃ k < w.store.draws, hex = rt.random k
  once : ∀ e ∈ w.trace, ∀ e' ∈ w.trace, ∀ hex, drawn? e = some hex → drawn? e' = some hex →
    e.thread = e'.thread
  used : ∀ e ∈ w.trace, ∀ hex, drawn? e = some hex → ∀ s ∈ w.stores, Carries s (tokenOf hex) →
    ∃ e' ∈ w.trace, e'.thread = e.thread ∧ renewed? e' = some (tokenOf hex)
  renewals : ∀ e ∈ w.trace, ∀ token, renewed? e = some token →
    ∃ e' ∈ w.trace, ∃ hex, drawn? e' = some hex ∧ token = tokenOf hex
  fresh : FreshLog w.trace

/-- The thread has drawn a text and not used it. -/
def Holding (t : Nat) (hex : String) (w : TicketWorld) : Prop :=
  (∃ e ∈ w.own t, drawn? e = some hex) ∧ ∀ e ∈ w.own t, renewed? e ≠ some (tokenOf hex)

/-- A text in hand is not yet a token of any registration. -/
theorem TokenLog.unused {w : TicketWorld} (h : TokenLog rt w) {t : Nat} {hex : String}
    (ht : Holding t hex w) : ∀ s ∈ w.stores, ¬ Carries s (tokenOf hex) := by
  intro s hs hcarries
  obtain ⟨⟨e, he, hdrawn⟩, hnone⟩ := ht
  obtain ⟨hmem, hthread⟩ := World.mem_own.mp he
  obtain ⟨e', he', hsame, hrenewed⟩ := h.used e hmem hex hdrawn s hs hcarries
  exact hnone e' (World.mem_own.mpr ⟨he', hsame.trans hthread⟩) hrenewed

/-- Only a random text counts a draw. -/
theorem draws_of_outcome {c : TicketCall} {s s' : TicketStore} {x : Except RequestExn (TicketResp c)}
    (h : (service rt cfg).Outcome c s x s') : s.draws ≤ s'.draws := by
  rcases h with ⟨ch, hm⟩ | ⟨-, rfl, -⟩
  · have hs' : (ticketMachine rt ch c s).2 = s' := congrArg Prod.snd hm
    rw [← hs']
    cases c with
    | random => exact Nat.le_succ _
    | registrationRenew id token expiresAt now =>
        simp only [ticketMachine, TicketStore.renewToken]
        split <;> exact Nat.le_refl _
    | deliveryCreate deliveryId payload =>
        simp only [ticketMachine, TicketStore.createDelivery]
        split <;> exact Nat.le_refl _
    | deliveryMark id status reason now =>
        simp only [ticketMachine, TicketStore.markDelivery]
        split <;> exact Nat.le_refl _
    | _ => exact Nat.le_refl _
  · exact Nat.le_refl _

theorem drawn_of_outcome {t : Nat} {c : TicketCall} {s s' : TicketStore}
    {x : Except RequestExn (TicketResp c)} (h : (service rt cfg).Outcome c s x s') {hex : String}
    (hd : drawn? ⟨t, c, x, s⟩ = some hex) :
    c = .random ∧ hex = rt.random s.draws ∧ s'.draws = s.draws + 1 := by
  cases c with
  | random =>
      rcases h with ⟨ch, hm⟩ | ⟨hfalse, -⟩
      · cases hm
        cases hd
        exact ⟨rfl, rfl, rfl⟩
      · exact hfalse.elim
  | _ => cases hd

theorem renewed_eq_some {t : Nat} {c : TicketCall} {s : TicketStore}
    {x : Except RequestExn (TicketResp c)} {token : String}
    (h : renewed? ⟨t, c, x, s⟩ = some token) :
    ∃ id expiresAt now, c = .registrationRenew id token expiresAt now := by
  cases c with
  | registrationRenew id token' expiresAt now =>
      cases h
      exact ⟨id, expiresAt, now, rfl⟩
  | _ => cases h

/-- What one call preserves, where a renewal brings a text in hand. -/
theorem TokenLog.step (hinj : Function.Injective rt.random) {w : TicketWorld}
    (h : TokenLog rt w) {t : Nat} {c : TicketCall} {x : Except RequestExn (TicketResp c)}
    {s' : TicketStore} (ho : (service rt cfg).Outcome c w.store x s')
    (hnew : ∀ id token expiresAt now, c = .registrationRenew id token expiresAt now →
      ∃ hex, token = tokenOf hex ∧ Holding t hex w) :
    TokenLog rt (w.log t c x s') := by
  have hmono := draws_of_outcome ho
  -- A text in hand has a number below the count of draws.
  have hheld : ∀ hex, Holding t hex w → ∃ e ∈ w.trace, e.thread = t ∧ drawn? e = some hex := by
    rintro hex ⟨⟨e, he, hd⟩, -⟩
    obtain ⟨hmem, hthread⟩ := World.mem_own.mp he
    exact ⟨e, hmem, hthread, hd⟩
  constructor
  · intro s hs k hk
    rcases List.mem_cons.mp hs with rfl | hold
    · rcases carries_of_outcome ho hk with hbefore | ⟨id, expiresAt, now, hc⟩
      · exact Nat.lt_of_lt_of_le (h.below _ w.store_mem_stores k hbefore) hmono
      · obtain ⟨hex, heq, hhold⟩ := hnew _ _ _ _ hc
        obtain ⟨e, he, -, hd⟩ := hheld hex hhold
        obtain ⟨k', hk', rfl⟩ := h.drawn e he hex hd
        have hkk : k = k' := hinj (tokenOf_injective heq)
        exact hkk ▸ Nat.lt_of_lt_of_le hk' hmono
    · exact Nat.lt_of_lt_of_le (h.below s hold k hk) hmono
  · intro e he hex hd
    rcases List.mem_cons.mp he with rfl | hold
    · obtain ⟨-, rfl, hdraws⟩ := drawn_of_outcome ho hd
      exact ⟨w.store.draws, by simp [World.log, hdraws], rfl⟩
    · obtain ⟨k, hk, rfl⟩ := h.drawn e hold hex hd
      exact ⟨k, Nat.lt_of_lt_of_le hk hmono, rfl⟩
  · -- The newest text is none of the earlier ones.
    have hfirst : ∀ e ∈ w.trace, ∀ hex, drawn? e = some hex → drawn? ⟨t, c, x, w.store⟩ ≠ some hex := by
      intro e he hex hd hd'
      obtain ⟨k, hk, rfl⟩ := h.drawn e he hex hd
      obtain ⟨-, heq, -⟩ := drawn_of_outcome ho hd'
      exact absurd (hinj heq) (Nat.ne_of_lt hk)
    intro e he e' he' hex hd hd'
    rcases List.mem_cons.mp he with rfl | hold
    · rcases List.mem_cons.mp he' with rfl | hold'
      · rfl
      · exact absurd hd (hfirst e' hold' hex hd')
    · rcases List.mem_cons.mp he' with rfl | hold'
      · exact absurd hd' (hfirst e hold hex hd)
      · exact h.once e hold e' hold' hex hd hd'
  · intro e he hex hd s hs hcarries
    rcases List.mem_cons.mp he with rfl | hold
    · obtain ⟨rfl, rfl, -⟩ := drawn_of_outcome ho hd
      -- A text that is only now drawn is on no registration.
      exfalso
      rcases List.mem_cons.mp hs with rfl | hs
      · rcases carries_of_outcome ho hcarries with hbefore | ⟨id, expiresAt, now, hc⟩
        · exact Nat.lt_irrefl _ (h.below _ w.store_mem_stores _ hbefore)
        · cases hc
      · exact Nat.lt_irrefl _ (h.below s hs _ hcarries)
    · have hearlier : ∀ s ∈ w.stores, Carries s (tokenOf hex) →
          ∃ e' ∈ (w.log t c x s').trace, e'.thread = e.thread ∧
            renewed? e' = some (tokenOf hex) := by
        intro s hs hcarries
        obtain ⟨e', he', hthread, hren⟩ := h.used e hold hex hd s hs hcarries
        exact ⟨e', List.mem_cons_of_mem _ he', hthread, hren⟩
      rcases List.mem_cons.mp hs with rfl | hs
      · rcases carries_of_outcome ho hcarries with hbefore | ⟨id, expiresAt, now, rfl⟩
        · exact hearlier _ w.store_mem_stores hbefore
        · obtain ⟨hex', heq, hhold⟩ := hnew _ _ _ _ rfl
          obtain rfl : hex = hex' := tokenOf_injective heq
          obtain ⟨e', he', hthread, hd'⟩ := hheld hex hhold
          have hsame : e'.thread = e.thread := h.once e' he' e hold hex hd' hd
          exact ⟨_, List.mem_cons_self, hthread.symm.trans hsame, rfl⟩
      · exact hearlier s hs hcarries
  · intro e he token hren
    rcases List.mem_cons.mp he with rfl | hold
    · obtain ⟨id, expiresAt, now, hc⟩ := renewed_eq_some hren
      obtain ⟨hex, heq, hhold⟩ := hnew _ _ _ _ hc
      obtain ⟨e', he', -, hd⟩ := hheld hex hhold
      exact ⟨e', List.mem_cons_of_mem _ he', hex, hd, heq⟩
    · obtain ⟨e', he', hex, hd, heq⟩ := h.renewals e hold token hren
      exact ⟨e', List.mem_cons_of_mem _ he', hex, hd, heq⟩
  · refine ⟨h.fresh, fun token hren => ?_⟩
    obtain ⟨id, expiresAt, now, hc⟩ := renewed_eq_some hren
    obtain ⟨hex, rfl, hhold⟩ := hnew _ _ _ _ hc
    exact h.unused hhold

/-! ## The programs keep the token log -/

section Programs

variable (hinj : Function.Injective rt.random)

/-- The token log as a discipline of the service. -/
def discipline (rt : Runtime) (cfg : Config) : Discipline (service rt cfg) (fun _ _ _ => True) where
  inv := TokenLog rt
  rely _ _ := True
  rely_refl _ := trivial
  rely_trans _ _ := trivial
  call_rely _ _ _ := trivial
  env_inv _ h := h.elim
  env_rely _ h := h.elim
  start_inv := by
    rintro w p s' hi ⟨rfl, -⟩
    exact hi
  start_rely _ _ := trivial

variable {t : Nat} {w w' : TicketWorld}

theorem Holding.of_own {hex : String} (h : Holding t hex w) (ho : w'.own t = w.own t) :
    Holding t hex w' := by
  unfold Holding
  rw [ho]
  exact h

include hinj

theorem keeps_of_not_renewal {c : TicketCall}
    (hc : ∀ id token expiresAt now, c ≠ .registrationRenew id token expiresAt now) :
    ∀ x s', TokenLog rt w → (service rt cfg).Outcome c w.store x s' → TokenLog rt (w.log t c x s') :=
  fun _ _ hi ho => hi.step hinj ho fun _ _ _ _ heq => absurd heq (hc _ _ _ _)

/-- A drawn text is in hand. -/
theorem returns_random :
    (discipline rt cfg).Returns t (Holding t) (ticketCall .random : Req String) w := by
  have hkeeps : (discipline rt cfg).Keeps t .random w := fun w' _ hi _ x s' ho =>
    keeps_of_not_renewal hinj (by intros; simp) x s' hi ho
  refine (Discipline.returns_performed hkeeps).mono ?_
  rintro hex w' ⟨w₀, s₀, -, hi, -, ho, hsince⟩
  have hdrawn : drawn? ⟨t, .random, .ok hex, w₀.store⟩ = some hex := rfl
  obtain ⟨-, hhex, -⟩ := drawn_of_outcome ho hdrawn
  have hlog : Holding t hex (w₀.log t .random (.ok hex) s₀) := by
    refine ⟨⟨_, ?_, hdrawn⟩, ?_⟩
    · simp
    · intro e he hren
      rw [World.own_log] at he
      rcases List.mem_cons.mp he with rfl | hold
      · cases hren
      · obtain ⟨e', he', hex', hd, heq⟩ := hi.renewals e (World.mem_own.mp hold).1 _ hren
        obtain rfl : hex = hex' := tokenOf_injective heq
        obtain ⟨k, hk, heq'⟩ := hi.drawn e' he' hex hd
        exact absurd (hinj (hhex.symm.trans heq')) (Nat.ne_of_gt hk)
  exact hlog.of_own hsince.own

/-- Reading the clock leaves the text in hand. -/
theorem returns_now {hex : String} (h : Holding t hex w) :
    (discipline rt cfg).Returns t (fun _ => Holding t hex) (ticketCall .now : Req Time) w := by
  have hkeeps : (discipline rt cfg).Keeps t .now w := fun w' _ hi _ x s' ho =>
    keeps_of_not_renewal hinj (by intros; simp) x s' hi ho
  refine (Discipline.returns_performed hkeeps).mono ?_
  intro now w' hp
  obtain ⟨s, hown⟩ := hp.own
  obtain ⟨⟨e, he, hd⟩, hnone⟩ := h
  refine ⟨⟨e, ?_, hd⟩, ?_⟩
  · rw [hown]
    exact List.mem_cons_of_mem _ he
  · intro e' he' hren
    rw [hown] at he'
    rcases List.mem_cons.mp he' with rfl | hold
    · cases hren
    · exact hnone e' hold hren

theorem safe_persistUniqueToken (registrationId : Id) (expiresAt : Time) (attempts : Nat)
    (hi : TokenLog rt w) :
    (discipline rt cfg).logic.Safe t (persistUniqueToken registrationId expiresAt attempts) w := by
  induction attempts generalizing w with
  | zero => exact fun _ _ _ => trivial
  | succ attempts ih =>
      refine Discipline.safe_bind_returns hi (returns_random hinj) fun hex w₁ hi₁ _ hhold => ?_
      refine Discipline.safe_bind_returns hi₁ (returns_now hinj hhold) fun now w₂ hi₂ _ hhold₂ => ?_
      apply Discipline.safe_tryCatch hi₂
      · apply Discipline.safe_call_bind hi₂
        · intro w₃ hsince hi₃ _ x s' ho
          apply hi₃.step hinj ho
          rintro id token expiresAt' now' heq
          cases heq
          exact ⟨hex, rfl, hhold₂.of_own hsince.own⟩
        · exact fun _ _ _ _ _ _ _ _ => trivial
      · intro error w₃ hi₃ _
        split
        · split
          · exact ih hi₃
          · exact fun _ _ _ => trivial
        · exact fun _ _ _ => trivial

/-- The calls of a program without renewals keep the token log. -/
theorem safe_of_no_renewal {α : Type} {p : Req α}
    (hp : p.All fun c => ∀ id token expiresAt now, c ≠ .registrationRenew id token expiresAt now) :
    (discipline rt cfg).logic.Safe t p w :=
  Discipline.safe_of_all
    (fun _ hc _ _ hi _ x s' ho => keeps_of_not_renewal hinj hc x s' hi ho) hp w

theorem safe_createForRegistration (id : Id) (hi : TokenLog rt w) :
    (discipline rt cfg).logic.Safe t (createForRegistration rt cfg id) w := by
  have hread : (discipline rt cfg).Keeps t (.registrationById id) w :=
    fun w' _ hi _ x s' ho => keeps_of_not_renewal hinj (by intros; simp) x s' hi ho
  refine Discipline.safe_call_bind hi hread fun found w₁ hi₁ _ _ => ?_
  cases found with
  | none => exact fun _ _ _ => trivial
  | some registration =>
      have hnow : (discipline rt cfg).Keeps t .now w₁ :=
        fun w' _ hi _ x s' ho => keeps_of_not_renewal hinj (by intros; simp) x s' hi ho
      refine Discipline.safe_call_bind hi₁ hnow fun now w₂ hi₂ _ _ => ?_
      have hpersist : (discipline rt cfg).logic.Safe t (persistUniqueToken registration.id
          (now + cfg.expiresHours * 60 * 60 * 1000) 5) w₂ :=
        safe_persistUniqueToken hinj _ _ _ hi₂
      refine Discipline.safe_bind hi₂ hpersist fun token w₃ hi₃ _ => ?_
      refine safe_of_no_renewal hinj ?_
      exact Prog.all_bind (Prog.all_ofExcept _) fun _ => trivial

omit hinj in
theorem all_claimTicketRequestSender (input : ClaimTicketRequestSenderInput) :
    (claimTicketRequestSender input).All fun c =>
      ∀ id token expiresAt now, c ≠ .registrationRenew id token expiresAt now := by
  have hcall : ∀ c : TicketCall, (∀ id token expiresAt now, c ≠ .registrationRenew id token expiresAt now) →
      (ticketCall c).All fun c => ∀ id token expiresAt now, c ≠ .registrationRenew id token expiresAt now :=
    fun c hc => Prog.all_call hc
  unfold claimTicketRequestSender
  refine Prog.all_bind (hcall _ (by intros; simp)) fun now => ?_
  refine Prog.all_bind (hcall _ (by intros; simp)) fun found => ?_
  split
  · trivial
  · refine Prog.all_ite (Prog.all_ret _) (Prog.all_ite (Prog.all_ret _) ?_)
    split
    · trivial
    · refine Prog.all_bind (hcall _ (by intros; simp)) fun count => ?_
      refine Prog.all_ite (Prog.all_ret _) ?_
      refine Prog.all_bind (hcall _ (by intros; simp)) fun again => ?_
      split
      · trivial
      · split
        · trivial
        · refine Prog.all_ite (Prog.all_ret _) ?_
          refine Prog.all_bind (hcall _ (by intros; simp)) fun later => ?_
          refine Prog.all_ite (Prog.all_ret _) ?_
          exact Prog.all_ite (Prog.all_ret _) (Prog.all_ret _)

/-- The log of a run tells its tokens apart. -/
theorem tokenLog_of_reach {s : TicketStore} (hs : ∀ k, Carries s (tokenOf (rt.random k)) → k < s.draws)
    {c : Interaction.Config TicketResp RequestExn TicketWorld}
    (hr : (service rt cfg).system.Reach (Service.init s) c) : TokenLog rt c.world := by
  have hinit : TokenLog rt ⟨s, []⟩ := by
    refine ⟨?_, ?_, ?_, ?_, ?_, trivial⟩
    · intro s' hs' k hk
      obtain rfl : s' = s := by simpa [World.stores] using hs'
      exact hs k hk
    all_goals
      intro e he
      cases he
  rw [← System.restrict_true (service rt cfg).system] at hr
  refine Discipline.inv_of_reach (D := discipline rt cfg) ?_ hinit hr
  rintro t w p s' - hi ⟨rfl, ⟨id, rfl⟩ | ⟨id, phone, token, rfl⟩⟩
  · exact Discipline.safe_void hi (safe_createForRegistration hinj id hi)
  · exact Discipline.safe_void hi (safe_of_no_renewal hinj (all_claimTicketRequestSender _))

end Programs

/-! ## What is bound stays bound -/

/-- A registration with the token is bound to the phone. -/
def Binds (s : TicketStore) (token phone : String) : Prop :=
  ∃ r ∈ s.registrations.rows, r.ticketRequestToken = some token ∧ r.ticketRequestPhone = some phone

theorem Binds.carries {s : TicketStore} {token phone : String} (h : Binds s token phone) :
    Carries s token := by
  obtain ⟨r, hr, htoken, -⟩ := h
  exact ⟨r, hr, htoken⟩

/-- The phones of a token in all stores of a log. -/
structure BoundLog (tr : List TicketEvent) (s : TicketStore) : Prop where
  agree : ∀ b ∈ s :: tr.map (·.before), ∀ b' ∈ s :: tr.map (·.before), ∀ token phone phone',
    Binds b token phone → Binds b' token phone' → phone = phone'
  kept : ∀ b ∈ s :: tr.map (·.before), ∀ token phone, Binds b token phone →
    ∀ r ∈ s.registrations.rows, r.ticketRequestToken = some token →
      r.ticketRequestPhone = some phone

/-- The row of a token is the bound one. -/
theorem Binds.phone_eq {s : TicketStore} {token phone : String} (h : Binds s token phone)
    {r : TicketRegistration} (hr : r ∈ s.registrations.rows)
    (ht : r.ticketRequestToken = some token) : r.ticketRequestPhone = some phone := by
  obtain ⟨r', hr', htoken, hphone⟩ := h
  have hsame : r = r' := eq_of_token s hr hr' ht htoken
  exact hsame ▸ hphone

/-- What one call preserves, where a renewal brings a fresh token. -/
theorem BoundLog.step {tr : List TicketEvent} {t : Nat} {c : TicketCall} {s s' : TicketStore}
    {x : Except RequestExn (TicketResp c)} (h : BoundLog tr s)
    (ho : (service rt cfg).Outcome c s x s') (hfresh : FreshLog (⟨t, c, x, s⟩ :: tr)) :
    BoundLog (⟨t, c, x, s⟩ :: tr) s' := by
  have hkept : ∀ b ∈ s :: tr.map (·.before), ∀ token phone, Binds b token phone →
      ∀ r ∈ s'.registrations.rows, r.ticketRequestToken = some token →
        r.ticketRequestPhone = some phone := by
    intro b hb token phone hbinds r hr htoken
    cases rowOrigin_of_outcome ho hr with
    | kept r₀ hr₀ heq hphone => rw [hphone, h.kept b hb token phone hbinds r₀ hr₀ (heq ▸ htoken)]
    | renewed id token' expiresAt now hc heq =>
        -- The token is fresh, so no earlier store could bind it.
        subst hc
        have hsame : token' = token := Option.some.inj (heq.symm.trans htoken)
        exact absurd hbinds.carries (hfresh.2 token (hsame ▸ rfl) b hb)
    | claimed input now r₀ hr₀ hc heq hfree =>
        have hbound := h.kept b hb token phone hbinds r₀ hr₀ (heq ▸ htoken)
        rw [hfree] at hbound
        cases hbound
  have hall : ∀ b ∈ s' :: s :: tr.map (·.before), ∀ token phone, Binds b token phone →
      ∀ r ∈ s'.registrations.rows, r.ticketRequestToken = some token →
        r.ticketRequestPhone = some phone := by
    intro b hb token phone hbinds r hr htoken
    rcases List.mem_cons.mp hb with rfl | hold
    · exact hbinds.phone_eq hr htoken
    · exact hkept b hold token phone hbinds r hr htoken
  refine ⟨?_, hall⟩
  intro b hb b' hb' token phone phone' hbinds hbinds'
  rcases List.mem_cons.mp hb' with rfl | hold'
  · obtain ⟨r, hr, htoken, hphone⟩ := hbinds'
    have heq := hall b hb token phone hbinds r hr htoken
    exact Option.some.inj (heq.symm.trans hphone)
  · rcases List.mem_cons.mp hb with rfl | hold
    · obtain ⟨r, hr, htoken, hphone⟩ := hbinds
      have heq := hkept b' hold' token phone' hbinds' r hr htoken
      exact Option.some.inj (hphone.symm.trans heq)
    · exact h.agree b hold b' hold' token phone phone' hbinds hbinds'

/-- What a whole log preserves. -/
theorem boundLog_of_logs {s₀ s : TicketStore} {tr : List TicketEvent}
    (h : (service rt cfg).Logs s₀ tr s) (hfresh : FreshLog tr) : BoundLog tr s := by
  induction h with
  | @start =>
      have hkept : ∀ b ∈ [s₀], ∀ token phone, Binds b token phone →
          ∀ r ∈ s₀.registrations.rows, r.ticketRequestToken = some token →
            r.ticketRequestPhone = some phone := by
        intro b hb token phone hbinds r hr htoken
        obtain rfl := List.mem_singleton.mp hb
        exact hbinds.phone_eq hr htoken
      refine ⟨?_, hkept⟩
      intro b hb b' hb' token phone phone' hbinds hbinds'
      obtain rfl := List.mem_singleton.mp hb'
      obtain ⟨r, hr, htoken, hphone⟩ := hbinds'
      exact Option.some.inj ((hkept b hb token phone hbinds r hr htoken).symm.trans hphone)
  | call _ ho ih => exact (ih hfresh.1).step ho hfresh

/-! ## A replaced token is gone -/

/-- A renewal in the log took the token from its registration. -/
def Replaced (tr : List TicketEvent) (token : String) : Prop :=
  ∃ t id token' expiresAt now row before,
    (⟨t, .registrationRenew id token' expiresAt now, .ok row, before⟩ : TicketEvent) ∈ tr ∧
      ∃ r ∈ before.registrations.rows, r.id = id ∧ r.ticketRequestToken = some token

theorem Replaced.carried {tr : List TicketEvent} {token : String} (h : Replaced tr token) :
    ∃ e ∈ tr, Carries e.before token := by
  obtain ⟨t, id, token', expiresAt, now, row, before, he, r, hr, -, htoken⟩ := h
  exact ⟨_, he, r, hr, htoken⟩

/-- The renewal itself removes the token. -/
theorem not_carries_of_renew {s s' : TicketStore} {id : Id} {token token' : String}
    {expiresAt now : Time} {row : TicketRegistration}
    (ho : (service rt cfg).Outcome (.registrationRenew id token' expiresAt now) s (.ok row) s')
    {r : TicketRegistration} (hr : r ∈ s.registrations.rows) (hid : r.id = id)
    (htoken : r.ticketRequestToken = some token) (hne : token' ≠ token) : ¬ Carries s' token := by
  rintro ⟨a, ha, hat⟩
  rcases ho with ⟨ch, hm⟩ | ⟨-, -, e, he⟩
  · change s.renewToken id token' expiresAt now = (.ok row, s') at hm
    simp only [TicketStore.renewToken] at hm
    split at hm
    · cases hm
    · cases hm
    · next hu =>
        cases hm
        rcases (Table.mem_update hu).mp ha with ⟨hold, hkey⟩ | rfl
        · have hsame : a = r := eq_of_token s hold hr hat htoken
          exact hkey (hsame ▸ hid)
        · obtain ⟨b, -, -, rfl, -, -⟩ := Table.update_eq_done hu
          exact hne (Option.some.inj hat)
  · cases he

/-- A replaced token does not come back. -/
theorem not_carries_of_replaced {s₀ s : TicketStore} {tr : List TicketEvent}
    (h : (service rt cfg).Logs s₀ tr s) (hfresh : FreshLog tr) {token : String}
    (hrep : Replaced tr token) : ¬ Carries s token := by
  induction h with
  | start =>
      obtain ⟨e, he, -⟩ := hrep.carried
      cases he
  | @call tr t c x s s' h ho ih =>
      obtain ⟨t', id, token', expiresAt, now, row, before, he, r, hr, hid, htoken⟩ := hrep
      rcases List.mem_cons.mp he with heq | hold
      · cases heq
        have hne : token' ≠ token := by
          intro hsame
          subst hsame
          exact hfresh.2 token' rfl s List.mem_cons_self ⟨r, hr, htoken⟩
        exact not_carries_of_renew ho hr hid htoken hne
      · have hrep' : Replaced tr token :=
          ⟨t', id, token', expiresAt, now, row, before, hold, r, hr, hid, htoken⟩
        intro hcarries
        rcases carries_of_outcome ho hcarries with hbefore | ⟨id', expiresAt', now', rfl⟩
        · exact ih hfresh.1 hrep' hbefore
        · have hmem : before ∈ s :: tr.map (·.before) :=
            List.mem_cons_of_mem _ (List.mem_map_of_mem (f := Interaction.Event.before) hold)
          exact hfresh.2 token rfl before hmem ⟨r, hr, htoken⟩

/-- No later call is performed where the token is still on a registration. -/
theorem not_carries_before {s₀ s : TicketStore} {new old : List TicketEvent}
    (h : (service rt cfg).Logs s₀ (new ++ old) s) (hfresh : FreshLog (new ++ old)) {token : String}
    (hrep : Replaced old token) : ∀ e ∈ new, ¬ Carries e.before token := by
  induction new generalizing s with
  | nil => simp
  | cons e new ih =>
      cases h with
      | @call _ t c x s₁ _ h ho =>
          have hrep' : Replaced (new ++ old) token := by
            obtain ⟨t', id, token', expiresAt, now, row, before, he, hrest⟩ := hrep
            exact ⟨t', id, token', expiresAt, now, row, before, List.mem_append_right new he, hrest⟩
          intro e' he'
          rcases List.mem_cons.mp he' with rfl | hlater
          · exact not_carries_of_replaced h hfresh.1 hrep'
          · exact ih h hfresh.1 e' hlater

/-! ## What a successful claim has seen -/

/-- The claim read a registration that carries its token. -/
def ReadToken (input : ClaimTicketRequestSenderInput) (log : List TicketEvent)
    (r : TicketRegistration) : Prop :=
  (∃ t before, (⟨t, .registrationById input.registrationId, .ok (some r), before⟩ : TicketEvent) ∈ log) ∧
    tokenMatches input.ticketRequestToken r = true

/-- Why a claim succeeded: it read its own phone, or it bound the token itself. -/
def SawOwnPhone (input : ClaimTicketRequestSenderInput) (log : List TicketEvent) : Prop :=
  (∃ r, ReadToken input log r ∧ r.ticketRequestPhone.any (boundTo · input.senderPhone) = true) ∨
    ∃ t now before, (⟨t, .registrationClaim input now, .ok 1, before⟩ : TicketEvent) ∈ log

theorem SawOwnPhone.mono {input : ClaimTicketRequestSenderInput} {log log' : List TicketEvent}
    (h : SawOwnPhone input log) (hsub : ∀ e ∈ log, e ∈ log') : SawOwnPhone input log' := by
  rcases h with ⟨r, ⟨⟨t, before, he⟩, hmatch⟩, hphone⟩ | ⟨t, now, before, he⟩
  · exact .inl ⟨r, ⟨⟨t, before, hsub _ he⟩, hmatch⟩, hphone⟩
  · exact .inr ⟨t, now, before, hsub _ he⟩

theorem any_of_truthy {o : Option String} {a : String} {p : String → Bool} (ho : truthy o = some a)
    (hp : p a = true) : o.any p = true := by
  rw [(truthy_eq_some_iff.mp ho).1]
  exact hp

/-- The end of a claim whose conditional update found no row to bind. -/
theorem sawOwnPhone_of_reread {input : ClaimTicketRequestSenderInput} {log : List TicketEvent}
    {latest : TicketRegistration} (t : Nat) (before : TicketStore)
    (h : Follows (match truthy latest.ticketRequestPhone with
      | none => (pure false : Req Bool)
      | some phone =>
          if (truthy latest.ticketRequestToken).isNone || latest.ticketRequestExpiresAt.isNone then
            pure false
          else do
            let later ← ticketCall .now
            if !unexpired later latest then pure false
            else if !tokenMatches input.ticketRequestToken latest then pure false
            else pure (boundTo phone input.senderPhone)) log (Prog.ofExcept (.ok true))) :
    SawOwnPhone input
      (log ++ [⟨t, .registrationById input.registrationId, .ok (some latest), before⟩]) := by
  split at h
  · cases h.of_ret
  · next phone hphone =>
      split at h
      · cases h.of_ret
      · obtain ⟨t', later, b, log', rfl, hrest⟩ := Follows.of_call_bind h
        split at hrest
        · cases hrest.of_ret
        · split at hrest
          · cases hrest.of_ret
          · next hmatch =>
              refine .inl ⟨latest, ⟨⟨t, before, by simp⟩, by simpa using hmatch⟩, ?_⟩
              exact any_of_truthy hphone hrest.of_ret

/-- A claim that succeeded read its token, and saw its own phone. -/
theorem evidence_of_claim {input : ClaimTicketRequestSenderInput} {log : List TicketEvent}
    (h : Follows (claimTicketRequestSender input) log (Prog.ofExcept (.ok true))) :
    (∃ r, ReadToken input log r) ∧ SawOwnPhone input log := by
  obtain ⟨t₁, now, b₁, log₁, rfl, h₁⟩ := Follows.of_call_bind h
  obtain ⟨t₂, found, b₂, log₂, rfl, h₂⟩ := Follows.of_call_bind h₁
  split at h₂
  · cases h₂.of_ret
  · next current =>
      split at h₂
      · cases h₂.of_ret
      · next hmatch =>
          have hread : ReadToken input (log₂ ++ [⟨t₂, .registrationById input.registrationId,
              .ok (some current), b₂⟩] ++ [⟨t₁, .now, .ok now, b₁⟩]) current :=
            ⟨⟨t₂, b₂, by simp⟩, by simpa using hmatch⟩
          refine ⟨⟨current, hread⟩, ?_⟩
          split at h₂
          · cases h₂.of_ret
          · split at h₂
            · next phone hphone => exact .inl ⟨current, hread, any_of_truthy hphone h₂.of_ret⟩
            · obtain ⟨t₃, count, b₃, log₃, rfl, h₃⟩ := Follows.of_call_bind h₂
              split at h₃
              · next hone =>
                  subst hone
                  exact .inr ⟨t₃, now, b₃, by simp⟩
              · obtain ⟨t₄, again, b₄, log₄, rfl, h₄⟩ := Follows.of_call_bind h₃
                split at h₄
                · cases h₄.of_ret
                · next latest =>
                    have hsaw := sawOwnPhone_of_reread t₄ b₄ h₄
                    exact hsaw.mono fun e he =>
                      List.mem_append_left _ (List.mem_append_left _ (List.mem_append_left _ he))

theorem token_of_tokenMatches {token : String} {r : TicketRegistration}
    (h : tokenMatches token r = true) : r.ticketRequestToken = some token := by
  simp only [tokenMatches, Option.any_eq_true] at h
  obtain ⟨stored, hstored, hsame⟩ := h
  rw [(truthy_eq_some_iff.mp hstored).1, ← beq_iff_eq.mp hsame]

/-- A registration that was read was there, with the token that it showed. -/
theorem ReadToken.read {input : ClaimTicketRequestSenderInput} {log : List TicketEvent}
    {r : TicketRegistration} (h : ReadToken input log r) {s₀ : TicketStore} {w : TicketWorld}
    (hl : (service rt cfg).Logs s₀ w.trace w.store) (hsub : ∀ e ∈ log, e ∈ w.trace) :
    ∃ e ∈ log, r ∈ e.before.registrations.rows ∧
      r.ticketRequestToken = some input.ticketRequestToken := by
  obtain ⟨⟨t, before, he⟩, hmatch⟩ := h
  refine ⟨_, he, ?_, token_of_tokenMatches hmatch⟩
  obtain ⟨s', -, ho⟩ := hl.of_mem (hsub _ he)
  rcases ho with ⟨ch, hm⟩ | ⟨-, -, e, heq⟩
  · have hfind : before.registrations.find? input.registrationId = some r :=
      Except.ok.inj (congrArg Prod.fst hm)
    exact (Table.find?_eq_some_iff.mp hfind).1
  · cases heq

/-- A conditional update that changed a row bound it. -/
theorem binds_of_claimSender {s : TicketStore} {input : ClaimTicketRequestSenderInput} {now : Time}
    (h : (s.claimSender input now).1 = .ok 1) :
    Binds (s.claimSender input now).2 input.ticketRequestToken input.senderPhone := by
  have hcount : s.registrations.rows.countP (·.claimable input now) = 1 := Except.ok.inj h
  have hpos : 0 < s.registrations.rows.countP (·.claimable input now) := by omega
  obtain ⟨r, hr, hclaim⟩ := List.countP_pos_iff.mp hpos
  refine ⟨r.claim input now, List.mem_map_of_mem hr, ?_, ?_⟩
  · simp only [TicketRegistration.claimable, Bool.and_eq_true, beq_iff_eq] at hclaim
    rw [TicketRegistration.token_claim, hclaim.1.1.2]
  · simp [TicketRegistration.claim, hclaim]

/-- Somewhere in the run, the token was bound to the account of a claim that succeeded. -/
theorem SawOwnPhone.binds {input : ClaimTicketRequestSenderInput} {log : List TicketEvent}
    (h : SawOwnPhone input log) {s₀ : TicketStore} {w : TicketWorld}
    (hl : (service rt cfg).Logs s₀ w.trace w.store) (hsub : ∀ e ∈ log, e ∈ w.trace)
    (hnormal : normalizePhone input.senderPhone = input.senderPhone) :
    ∃ b ∈ w.stores, ∃ phone, Binds b input.ticketRequestToken phone ∧
      normalizePhone phone = input.senderPhone := by
  rcases h with ⟨r, hread, hphone⟩ | ⟨t, now, before, he⟩
  · obtain ⟨e, he, hr, htoken⟩ := hread.read hl hsub
    obtain ⟨phone, hsome, hbound⟩ := (Option.any_eq_true _ _).mp hphone
    exact ⟨e.before, World.before_mem_stores (hsub e he), phone, ⟨r, hr, htoken, hsome⟩,
      beq_iff_eq.mp hbound⟩
  · obtain ⟨s', hs', ho⟩ := hl.of_mem (hsub _ he)
    refine ⟨s', hs', input.senderPhone, ?_, hnormal⟩
    rcases ho with ⟨ch, hm⟩ | ⟨-, -, e, heq⟩
    · have hone : (before.claimSender input now).1 = .ok 1 := congrArg Prod.fst hm
      have hnext : (before.claimSender input now).2 = s' := congrArg Prod.snd hm
      exact hnext ▸ binds_of_claimSender hone
    · cases heq

end TicketRequests

open TicketRequests

/-- In any run of claims and renewals, with any calls failing, all claims that succeed for one
token come from one account, and no claim that starts after the token was replaced succeeds. -/
theorem one_sender_of_reach {rt : Runtime} {cfg : Config} {s : TicketStore} (hs : Distinct rt s)
    {c₁ c₂ : Interaction.Config TicketResp RequestExn TicketWorld}
    (h₁ : (service rt cfg).system.Reach (Service.init s) c₁)
    (h₂ : (service rt cfg).system.Reach c₁ c₂) (token : String) :
    (∀ t t' id id' phone phone',
      Ended (claimTicketRequestSender ⟨id, normalizePhone phone, token⟩) t (.ok true) c₂.world →
      Ended (claimTicketRequestSender ⟨id', normalizePhone phone', token⟩) t' (.ok true) c₂.world →
      normalizePhone phone = normalizePhone phone') ∧
    (Replaced c₁.world.trace token → ∀ t, c₁.pool.length ≤ t → ∀ id phone,
      ¬ Ended (claimTicketRequestSender ⟨id, normalizePhone phone, token⟩) t (.ok true)
        c₂.world) := by
  have hreach : (service rt cfg).system.Reach (Service.init s) c₂ := h₁.trans h₂
  have hfresh : FreshLog c₂.world.trace := (tokenLog_of_reach hs.random hs.unused hreach).fresh
  have henv : ∀ s s', (service rt cfg).env s s' → s' = s := fun _ _ h => h.elim
  have hstarts : ∀ s p s', (service rt cfg).starts s p s' → s' = s := fun _ _ _ h => h.1
  rw [← System.restrict_true (service rt cfg).system] at hreach h₁ h₂
  have hlogs := Service.logs_of_reach henv hstarts hreach
  have hbound := boundLog_of_logs hlogs hfresh
  have hown : ∀ t, ∀ e ∈ c₂.world.own t, e ∈ c₂.world.trace := fun t e he => (World.mem_own.mp he).1
  constructor
  · intro t t' id id' phone phone' hx hx'
    obtain ⟨b, hb, q, hbinds, hq⟩ := (evidence_of_claim hx).2.binds hlogs (hown t)
      (normalizePhone_normalizePhone phone)
    obtain ⟨b', hb', q', hbinds', hq'⟩ := (evidence_of_claim hx').2.binds hlogs (hown t')
      (normalizePhone_normalizePhone phone')
    have hsame : q = q' := hbound.agree b hb b' hb' token q q' hbinds hbinds'
    calc normalizePhone phone = normalizePhone q := hq.symm
      _ = normalizePhone q' := by rw [hsame]
      _ = normalizePhone phone' := hq'
  · intro hrep t ht id phone hx
    obtain ⟨new, htrace, -⟩ := Service.logs_of_reach_new henv hstarts h₂
    have hlogged : Discipline.Logged c₁ := Discipline.logged_of_reach h₁
    obtain ⟨⟨r, hread⟩, -⟩ := evidence_of_claim hx
    obtain ⟨e, he, hr, htoken⟩ := hread.read hlogs (hown t)
    have hnew : e ∈ new := mem_new_of_own htrace
      (fun e' he' => Nat.ne_of_lt (Nat.lt_of_lt_of_le (hlogged e' he') ht)) he
    rw [htrace] at hlogs hfresh
    exact not_carries_before hlogs hfresh hrep e hnew ⟨r, hr, htoken⟩

/-- One registration that no token was requested for. -/
def unrequested : TicketStore where
  registrations := .ofData [{ publicId := "REG_1" }]

theorem distinct_unrequested : Distinct sampleRuntime unrequested where
  random := by
    intro m n h
    have hkey : (fresh m : Id) = fresh n := congrArg ("c" ++ ·) h
    exact fresh_injective hkey
  unused k hk := by
    obtain ⟨r, hr, htoken⟩ := hk
    have hnone : ∀ r ∈ unrequested.registrations.rows, r.ticketRequestToken = none := by decide
    rw [hnone r hr] at htoken
    cases htoken

/-- Two accounts claim a new token at once. -/
theorem one_sender_of_two_claims :
    ∃ c, (service sampleRuntime sampleConfig).system.Reach (Service.init unrequested) c ∧
      (c.world.store.registrations.find? "c0").any (·.ticketRequestPhone == some "1") = true ∧
      ∀ t t' id id' phone phone',
        Ended (claimTicketRequestSender ⟨id, normalizePhone phone, "WTR_0"⟩) t (.ok true) c.world →
        Ended (claimTicketRequestSender ⟨id', normalizePhone phone', "WTR_0"⟩) t' (.ok true)
          c.world →
        normalizePhone phone = normalizePhone phone' := by
  obtain ⟨c, hr, hbound⟩ := Service.exists_reach_of_perform (fun _ _ _ => True)
    (v := service sampleRuntime sampleConfig)
    ([.start (createForRegistration sampleRuntime sampleConfig "c0").void (fun _ => true) id,
      .start (claimTicketRequestSender ⟨"c0", normalizePhone "+1", "WTR_0"⟩).void (fun _ => true) id,
      .start (claimTicketRequestSender ⟨"c0", normalizePhone "2", "WTR_0"⟩).void (fun _ => true) id] ++
      [0, 0, 0, 0, 0, 1, 2, 1, 2, 1, 2, 2, 2].map fun t => .step t {})
    (Service.init unrequested)
    (fun s => (s.registrations.find? "c0").any (·.ticketRequestPhone == some "1"))
    (by
      refine Service.legal_append.mpr ⟨?_, ?_⟩
      · simp only [Service.legal_cons, Service.legal_nil, and_true]
        exact ⟨fun _ _ => ⟨rfl, .inl ⟨_, rfl⟩⟩, fun _ _ => ⟨rfl, .inr ⟨_, _, _, rfl⟩⟩,
          fun _ _ => ⟨rfl, .inr ⟨_, _, _, rfl⟩⟩⟩
      · intro a ha
        obtain ⟨t, -, rfl⟩ := List.mem_map.mp ha
        trivial)
    (by decide +kernel)
  rw [System.restrict_true] at hr
  exact ⟨c, hr, hbound, (one_sender_of_reach distinct_unrequested hr .refl "WTR_0").1⟩

end CreativeBackend
