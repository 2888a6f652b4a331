import CreativeBackend.Scans.Reads

/-!
# What `generate` leaves behind

On its own, `QrService.generate` returns the token of the registration, active. A token
that was active is returned as it is; another one is refreshed in its row, or a row is
created.
-/

namespace CreativeBackend

open Relational Interaction

variable {rt : Runtime} {ch : Choice} {s s' : Store}

namespace QrService

/-- The token that `generate` returns, in the store after it. -/
structure Issued (s : Store) (r : Registration) (qr : FormattedQr) (s' : Store) (q : QrToken) :
    Prop where
  stored : q ∈ s'.qrTokens.rows
  registration : q.registrationId = r.id
  active : q.status = .ACTIVE
  payload : qr.payload = q.payload
  fresh_payload : q ∈ s.qrTokens.rows ∨ q.eventId = r.eventId ∧ q.payload.tokenId = q.tokenId
  kept : ∀ q₀ ∈ s.qrTokens.rows, q₀.registrationId = r.id →
    q.id = q₀.id ∧ (q₀.status = .ACTIVE → q = q₀)
  new : (∀ q₀ ∈ s.qrTokens.rows, q₀.registrationId ≠ r.id) → ∀ q₀ ∈ s.qrTokens.rows, q₀.id ≠ q.id

theorem token_unique {t : Table QrToken} {a b : QrToken} (ha : a ∈ t.rows) (hb : b ∈ t.rows)
    (h : a.registrationId = b.registrationId) : a = b := by
  apply t.eq_of_clash ha hb
  simp [clash, h]

theorem qrTokenOf_of_mem {q : QrToken} {registrationId : Id} (hq : q ∈ s.qrTokens.rows)
    (hr : q.registrationId = registrationId) : s.qrTokenOf registrationId = some q := by
  cases hfind : s.qrTokenOf registrationId with
  | none => exact absurd hr (by simpa using List.find?_eq_none.mp hfind q hq)
  | some x =>
      have hx : x.registrationId = registrationId := by simpa using List.find?_some hfind
      exact congrArg some (token_unique (List.mem_of_find?_eq_some hfind) hq (hx.trans hr.symm))

theorem formatQrToken_payload {q : QrToken} {qr : FormattedQr}
    (h : formatQrToken rt q = .ok qr) : qr.payload = q.payload := by
  unfold formatQrToken at h
  cases hc : createCompactQrToken rt q.tokenId with
  | error e => simp [hc, Except.map] at h
  | ok compact =>
      simp only [hc, Except.map, Except.ok.injEq] at h
      rw [← h]

/-- The event and the attendee type of a registration are stored. -/
structure Related (s : Store) (r : Registration) : Prop where
  event : ∃ e, s.events.find? r.eventId = some e
  attendeeType : ∃ a, s.attendeeTypes.find? r.attendeeTypeId = some a

/-- The registration of `generate`. -/
theorem findRegistrationWithRelations_ok {registrationId : Id} {v : RegistrationView}
    (h : (findRegistrationWithRelations registrationId).run (machine rt ch) s = (.ok v, s')) :
    s' = s ∧ s.registrations.find? registrationId = some v.registration ∧
      Related s v.registration := by
  obtain ⟨found, s₁, hcall, hrest⟩ := Prog.run_bind_eq_ok _ h
  rw [call, Prog.run_call] at hcall
  simp only [machine] at hcall
  split at hcall
  · cases hcall
    simp at hrest
  · next r hr =>
      simp only [Store.registrationView] at hcall
      split at hcall
      · next e a he ha =>
          cases hcall
          cases hrest
          exact ⟨rfl, hr, ⟨e, he⟩, ⟨a, ha⟩⟩
      · cases hcall

theorem tokenView_ok {o : Option QrToken} {v : Option QrTokenView} (h : tokenView s o = .ok v) :
    v.map (·.token) = o ∧ ∀ view, v = some view →
      s.registrations.find? view.token.registrationId = some view.registration := by
  cases o with
  | none =>
      cases h
      exact ⟨rfl, fun view hv => by cases hv⟩
  | some q =>
      simp only [tokenView, Store.qrTokenView] at h
      split at h
      · cases h
      · next r hr =>
          split at h
          · cases h
          · cases h
            refine ⟨rfl, fun view hv => ?_⟩
            cases hv
            exact hr

theorem findActive_ok {registrationId : Id} {e : Exn} {q : QrToken}
    (h : (findActive registrationId e).run (machine rt ch) s = (.ok q, s')) :
    q ∈ s.qrTokens.rows ∧ q.registrationId = registrationId ∧ q.status = .ACTIVE := by
  obtain ⟨found, s₁, hcall, hrest⟩ := Prog.run_bind_eq_ok _ h
  rw [call, Prog.run_call] at hcall
  cases found with
  | none => simp at hrest
  | some view =>
      cases hrest
      have hview := (tokenView_ok (congrArg Prod.fst hcall)).1
      have hmem := List.mem_filter.mp (Choice.first_mem hview.symm)
      have hholds := hmem.2
      simp only [QrTokenWhere.holds, Option.all_none, Option.all_some, Bool.and_true,
        Bool.and_eq_true, beq_iff_eq] at hholds
      exact ⟨hmem.1, hholds.1, hholds.2⟩

/-- The token that is stored where no active one was. -/
structure Stored (s : Store) (d : QrTokenData) (s' : Store) (q : QrToken) : Prop where
  stored : q ∈ s'.qrTokens.rows
  registration : q.registrationId = d.registrationId
  active : q.status = .ACTIVE
  event : q.eventId = d.eventId
  tokenId : q.tokenId = d.tokenId
  payload : q.payload = d.payload
  kept : ∀ q₀ ∈ s.qrTokens.rows, q₀.registrationId = d.registrationId → q.id = q₀.id
  new : (∀ q₀ ∈ s.qrTokens.rows, q₀.registrationId ≠ d.registrationId) →
    ∀ q₀ ∈ s.qrTokens.rows, q₀.id ≠ q.id

/-- A refreshed row. -/
theorem stored_refreshed {d : QrTokenData} {existing row : QrToken} {t : Table QrToken}
    (hex : existing ∈ s.qrTokens.rows) (hr : existing.registrationId = d.registrationId)
    (hu : s.qrTokens.update existing.id (Store.applyQrToken s.clock d) = .done row t)
    (hs : s'.qrTokens = t) : Stored s d s' row := by
  obtain ⟨old, hold, hid, hrow, -, -⟩ := Table.update_eq_done hu
  have hsame : old = existing := s.qrTokens.eq_of_key hold hex hid
  subst hsame
  have hreg : row.registrationId = d.registrationId := by
    rw [hrow]
    exact hr
  have hkey : row.id = old.id := by
    rw [hrow]
    rfl
  refine ⟨hs ▸ (Table.mem_update hu).mpr (.inr rfl), hreg, ?_, ?_, ?_, ?_, ?_, ?_⟩
  · rw [hrow]; rfl
  · rw [hrow]; rfl
  · rw [hrow]; rfl
  · rw [hrow]; rfl
  · intro q₀ hq₀ hq
    rw [hkey, token_unique hq₀ hold (hq.trans hr.symm)]
  · intro hnone
    exact absurd hr (hnone old hold)

/-- A new row. -/
theorem stored_created {d : QrTokenData} {row : QrToken} {t : Table QrToken}
    (hnone : ∀ q₀ ∈ s.qrTokens.rows, q₀.registrationId ≠ d.registrationId)
    (hc : s.qrTokens.create (Store.qrTokenRow s.clock d) = some (row, t))
    (hs : s'.qrTokens = t) : Stored s d s' row := by
  have hrow := (Table.create_eq_some hc).1
  have hkey : row.id = fresh s.qrTokens.serial := by
    rw [hrow]
    rfl
  refine ⟨hs ▸ (Table.mem_create hc).mpr (.inr rfl), ?_, ?_, ?_, ?_, ?_, ?_, ?_⟩
  · rw [hrow]; rfl
  · rw [hrow]; rfl
  · rw [hrow]; rfl
  · rw [hrow]; rfl
  · rw [hrow]; rfl
  · exact fun q₀ hq₀ hq => absurd hq (hnone q₀ hq₀)
  · intro _ q₀ hq₀ hid
    exact s.qrTokens.key_ne_fresh hq₀ (Nat.le_refl _) (hid.trans hkey)

theorem createOrRefreshQrToken_ok {d : QrTokenData} {existing : Option QrToken} {q : QrToken}
    (hex : s.qrTokenOf d.registrationId = existing) (hstatus : ∀ x, existing = some x → x.status ≠ .ACTIVE)
    (h : (createOrRefreshQrToken d existing).run (machine rt ch) s = (.ok q, s')) :
    Stored s d s' q := by
  have hinactive : ∀ x ∈ s.qrTokens.rows, x.registrationId = d.registrationId → x.status ≠ .ACTIVE := by
    intro x hx hr
    cases hfind : s.qrTokenOf d.registrationId with
    | none => exact absurd hr (by simpa using List.find?_eq_none.mp hfind x hx)
    | some y =>
        have hy : y.registrationId = d.registrationId := by simpa using List.find?_some hfind
        rw [token_unique hx (List.mem_of_find?_eq_some hfind) (hr.trans hy.symm)]
        exact hstatus y (hex.symm.trans hfind)
  cases existing with
  | none =>
      have hnone : ∀ x ∈ s.qrTokens.rows, x.registrationId ≠ d.registrationId := by
        intro x hx
        simpa using List.find?_eq_none.mp hex x hx
      simp only [createOrRefreshQrToken, Prog.tryCatch_eq] at h
      rw [Prog.run_tryCatch, call, Prog.run_call] at h
      cases hcreate : machine rt ch (.qrTokenCreate d) s with
      | mk r s₁ =>
          rw [hcreate] at h
          rcases Store.createQrToken_cases hcreate with ⟨e, rfl, rfl⟩ | ⟨row, t, hc, rfl, rfl⟩
          · dsimp only at h
            split at h
            · obtain ⟨hq, hr, hactive⟩ := findActive_ok h
              exact absurd hactive (hinactive q hq hr)
            · simp at h
          · cases h
            exact stored_created hnone hc rfl
  | some x =>
      have hx : x ∈ s.qrTokens.rows := List.mem_of_find?_eq_some hex
      have hr : x.registrationId = d.registrationId := by simpa using List.find?_some hex
      obtain ⟨count, s₁, hcall, hrest⟩ := Prog.run_bind_eq_ok _ h
      rw [call, Prog.run_call] at hcall
      rcases Store.refreshQrToken_cases hcall with
        ⟨e, he, -⟩ | ⟨hzero, rfl⟩ | ⟨_, row, t, -, -, hu, hone, rfl⟩
      · cases he
      · cases hzero
        obtain ⟨hq, hreg, hactive⟩ := findActive_ok hrest
        exact absurd hactive (hinactive q hq hreg)
      · cases hone
        have hstored : Stored s d { s with qrTokens := t } row := stored_refreshed hx hr hu rfl
        obtain ⟨found, s₂, hfind, hret⟩ := Prog.run_bind_eq_ok _ hrest
        rw [call, Prog.run_call] at hfind
        cases hfind
        have hrow : ({ s with qrTokens := t } : Store).qrTokenOf d.registrationId = some row := by
          cases hof : ({ s with qrTokens := t } : Store).qrTokenOf d.registrationId with
          | none =>
              exact absurd hstored.registration
                (by simpa using List.find?_eq_none.mp hof row hstored.stored)
          | some y =>
              have hy : y.registrationId = d.registrationId := by simpa using List.find?_some hof
              exact congrArg some (token_unique (List.mem_of_find?_eq_some hof) hstored.stored
                (hy.trans hstored.registration.symm))
        simp only [hrow] at hret
        cases hret
        exact hstored

/-- Drawing a token id changes no token. -/
theorem tryTokenIds_qrTokens (rt : Runtime) (ch : Choice) (attempts : Nat) (s : Store) :
    ((tryTokenIds attempts).run (machine rt ch) s).2.qrTokens = s.qrTokens := by
  induction attempts generalizing s with
  | zero => rfl
  | succ n ih =>
      simp only [tryTokenIds, Prog.bind_eq, Prog.run_bind, call, Prog.run_call, machine]
      cases tokenView { s with draws := s.draws + 1 } (s.qrTokens.rows.find? fun q =>
        q.tokenId = "QRT_" ++ rt.random s.draws) with
      | error e => rfl
      | ok found =>
          cases found with
          | none => rfl
          | some view => exact ih _

/-- The token of `issue`, where the registration had no active one. -/
theorem issue_ok {v : RegistrationView} {existing : Option QrToken} {qr : FormattedQr}
    (hex : s.qrTokenOf v.registration.id = existing)
    (hstatus : ∀ x, existing = some x → x.status ≠ .ACTIVE)
    (h : (issue rt v existing).run (machine rt ch) s = (.ok qr, s')) :
    ∃ q, Issued s v.registration qr s' q := by
  obtain ⟨tokenId, s₁, hdraw, h⟩ := Prog.run_bind_eq_ok _ h
  have h₁ : s₁.qrTokens = s.qrTokens := by
    have := tryTokenIds_qrTokens rt ch 5 s
    rw [generateTokenId] at hdraw
    rwa [hdraw] at this
  obtain ⟨now, s₂, hnow, h⟩ := Prog.run_bind_eq_ok _ h
  obtain ⟨nonce, s₃, hnonce, h⟩ := Prog.run_bind_eq_ok _ h
  have h₂ : s₂.qrTokens = s₁.qrTokens := by
    cases hnow
    rfl
  have h₃ : s₃.qrTokens = s.qrTokens := by
    cases hnonce
    exact h₂.trans h₁
  obtain ⟨q, s₄, hstore, hformat⟩ := Prog.run_bind_eq_ok _ h
  have hex₃ : s₃.qrTokenOf v.registration.id = existing := by
    rw [← hex, Store.qrTokenOf, Store.qrTokenOf, h₃]
  have hstored := createOrRefreshQrToken_ok hex₃ hstatus hstore
  obtain ⟨hqr, rfl⟩ := Prog.run_ofExcept_eq_ok _ hformat
  refine ⟨q, hstored.stored, hstored.registration, hstored.active, formatQrToken_payload hqr,
    .inr ⟨hstored.event, ?_⟩, fun q₀ hq₀ hr => ⟨hstored.kept q₀ (h₃ ▸ hq₀) hr, fun hactive => ?_⟩,
    fun hnone q₀ hq₀ => hstored.new (fun q₁ hq₁ => hnone q₁ (h₃ ▸ hq₁)) q₀ (h₃ ▸ hq₀)⟩
  · rw [hstored.payload, hstored.tokenId]
    rfl
  · cases hof : s.qrTokenOf v.registration.id with
    | none => exact absurd hr (by simpa using List.find?_eq_none.mp hof q₀ hq₀)
    | some x =>
        have hx : x.registrationId = v.registration.id := by simpa using List.find?_some hof
        have hsame : q₀ = x :=
          token_unique hq₀ (List.mem_of_find?_eq_some hof) (hr.trans hx.symm)
        exact absurd (hsame ▸ hactive) (hstatus x (hex.symm.trans hof))

/-- What a run of `generate` leaves. -/
theorem generate_ok {registrationId : Id} {qr : FormattedQr}
    (h : (generate rt registrationId).run (machine rt ch) s = (.ok qr, s')) :
    SameRows s s' ∧ ∃ r q, s.registrations.find? registrationId = some r ∧ Related s r ∧
      Issued s r qr s' q := by
  have hsame : SameRows s s' := by
    have := (generate_formats rt registrationId).sameRows rt ch s
    rwa [h] at this
  refine ⟨hsame, ?_⟩
  obtain ⟨v, s₁, hfind, hrest⟩ := Prog.run_bind_eq_ok _ h
  obtain ⟨rfl, hr, hrelated⟩ := findRegistrationWithRelations_ok hfind
  have hid : v.registration.id = registrationId := (Table.find?_eq_some_iff.mp hr).2
  split at hrest
  · simp at hrest
  · obtain ⟨existing, s₂, hexisting, hissue⟩ := Prog.run_bind_eq_ok _ hrest
    rw [call, Prog.run_call] at hexisting
    cases hexisting
    cases hof : s₁.qrTokenOf registrationId with
    | none =>
        rw [hof] at hissue
        obtain ⟨q, hq⟩ := issue_ok (hid ▸ hof) (fun x hx => by cases hx) hissue
        exact ⟨_, q, hr, hrelated, hq⟩
    | some x =>
        rw [hof] at hissue
        have hx : x ∈ s₁.qrTokens.rows := List.mem_of_find?_eq_some hof
        have hreg : x.registrationId = registrationId := by simpa using List.find?_some hof
        dsimp only at hissue
        split at hissue
        · next hactive =>
            obtain ⟨hqr, rfl⟩ := Prog.run_ofExcept_eq_ok _ hissue
            refine ⟨_, x, hr, hrelated, hx, hreg.trans hid.symm, hactive, formatQrToken_payload hqr, .inl hx,
              fun q₀ hq₀ hq => ?_, fun hnone => absurd (hreg.trans hid.symm) (hnone x hx)⟩
            have heq : x = q₀ := token_unique hx hq₀ (hreg.trans (hid.symm.trans hq.symm))
            exact ⟨congrArg (·.id) heq, fun _ => heq⟩
        · next hinactive =>
            obtain ⟨q, hq⟩ := issue_ok (hid ▸ hof) (fun y hy => by cases hy; exact hinactive) hissue
            exact ⟨_, q, hr, hrelated, hq⟩

end QrService

end CreativeBackend
