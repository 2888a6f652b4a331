import CreativeBackend.Accounts.TokenEffects

/-!
# Runs of the account services

What the log of a program says before it exchanges or stores a token: an exchange is of a token that
was fetched as not revoked, and a login stores a token of the user that it has verified.
-/

namespace CreativeBackend.Accounts

open Relational Interaction AuthStore

/-! ## The log -/

/-- The token that a call fetched. -/
def fetched? : AuthEvent → Option RefreshToken
  | ⟨_, .tokenByHash _, .ok found, _⟩ => found
  | _ => none

/-- The user whose credentials a login then verifies. -/
def candidate? : AuthEvent → Option User
  | ⟨_, .userByEmailOrPhone _, .ok found, _⟩ => found.map (·.user)
  | _ => none

/-- The token that a call has exchanged, and the new one. -/
def exchanged? : AuthEvent → Option (Id × RefreshToken)
  | ⟨_, .exchange id _ _, .ok row, _⟩ => some (id, row)
  | _ => none

/-- The token that a login has stored. -/
def stored? : AuthEvent → Option RefreshToken
  | ⟨_, .tokenCreate _, .ok row, _⟩ => some row
  | _ => none

def Fetched (log : List AuthEvent) (r : RefreshToken) : Prop := ∃ e ∈ log, fetched? e = some r

def HasCandidate (log : List AuthEvent) (userId : Id) : Prop :=
  ∃ e ∈ log, ∃ user, candidate? e = some user ∧ user.id = userId

/-- What a program knows before it exchanges or stores a token. -/
def authRule (log : List AuthEvent) : AuthCall → Prop
  | .exchange id _ d => ∃ r, Fetched log r ∧ r.id = id ∧ r.userId = d.userId ∧ ¬ r.Revoked
  | .tokenCreate d => HasCandidate log d.userId
  | _ => True

/-- A user is found under its own id. -/
def authAnswers (_ : List AuthEvent) : (c : AuthCall) → Except Exn (AuthResp c) → AuthStore → Prop
  | .userById id, x, _ => ∀ r, x = .ok (some r) → r.user.id = id
  | _, _, _ => True

variable {cfg : AuthConfig}

theorem answers_of_outcome {c : AuthCall} {x : Except Exn (AuthResp c)} {s s' : AuthStore}
    (ho : (authService cfg).Outcome c s x s') (log : List AuthEvent) : authAnswers log c x s := by
  cases c with
  | userById id =>
      rintro r rfl
      obtain ⟨ch, hstep⟩ := step_of_ok ho
      have hfind : (s.users.find? id).map s.withClient = some r :=
        Except.ok.inj (congrArg Prod.fst hstep)
      obtain ⟨user, huser, rfl⟩ := Option.map_eq_some_iff.mp hfind
      exact (Table.find?_eq_some_iff.mp huser).2
  | _ => trivial

/-- What a call fetches is in the store. -/
theorem mem_of_fetched {c : AuthCall} {x : Except Exn (AuthResp c)} {s s' : AuthStore} {t : Nat}
    {r : RefreshToken} (ho : (authService cfg).Outcome c s x s')
    (hf : fetched? ⟨t, c, x, s⟩ = some r) : r ∈ s.tokens.rows := by
  cases c with
  | tokenByHash tokenHash =>
      cases x with
      | error e => cases hf
      | ok found =>
          obtain ⟨ch, hstep⟩ := step_of_ok ho
          have hfind : s.tokens.rows.find? _ = found := Except.ok.inj (congrArg Prod.fst hstep)
          obtain rfl : found = some r := hf
          exact List.mem_of_find?_eq_some hfind
  | _ => cases hf

/-- An exchange leaves the old token revoked, and a new token of the user. -/
theorem exchange_of_outcome {c : AuthCall} {x : Except Exn (AuthResp c)} {s s' : AuthStore}
    {t : Nat} {id : Id} {row : RefreshToken} (ho : (authService cfg).Outcome c s x s')
    (he : exchanged? ⟨t, c, x, s⟩ = some (id, row)) :
    ∃ now d, c = .exchange id now d ∧ Minted d row s s' ∧ s'.HasRevoked id := by
  cases c with
  | exchange id' now d =>
      cases x with
      | error e => cases he
      | ok row' =>
          cases he
          obtain ⟨ch, hstep⟩ := step_of_ok ho
          obtain ⟨-, hminted, hrevoked⟩ := exchange_eq_ok (ok_of_commit hstep)
          exact ⟨now, d, rfl, hminted, hrevoked⟩
  | _ => cases he

/-- A login leaves a new token of the user. -/
theorem stored_of_outcome {c : AuthCall} {x : Except Exn (AuthResp c)} {s s' : AuthStore}
    {t : Nat} {row : RefreshToken} (ho : (authService cfg).Outcome c s x s')
    (he : stored? ⟨t, c, x, s⟩ = some row) : ∃ d, c = .tokenCreate d ∧ Minted d row s s' := by
  cases c with
  | tokenCreate d =>
      cases x with
      | error e => cases he
      | ok row' =>
          cases he
          obtain ⟨ch, hstep⟩ := step_of_ok ho
          exact ⟨d, rfl, (createToken_eq_ok (ok_of_commit hstep)).2⟩
  | _ => cases he

/-! ## The operations along their logs -/

/-- The calls that need no knowledge. -/
def AuthCall.free : AuthCall → Bool
  | .exchange _ _ _ => false
  | .tokenCreate _ => false
  | _ => true

theorem authRule_of_free {c : AuthCall} (hc : c.free = true) (log : List AuthEvent) :
    authRule log c := by
  cases c <;> trivial

section Along

variable {α : Type} {t : Nat}

/-- Every call of the program is free. -/
abbrev AllFree (p : AuthSvc α) : Prop := p.All fun c => c.free = true

theorem all_authCall {c : AuthCall} (hc : c.free = true) : AllFree (authCall c) := Prog.all_call hc

/-- The program follows the rule on every log in which a fact holds that stays. -/
theorem along_of_fact {F : List AuthEvent → Prop} (hF : ∀ e log, F log → F (e :: log))
    {P : AuthCall → Prop} (hP : ∀ log c, P c → F log → authRule log c) {p : AuthSvc α}
    (hp : p.All P) {log : List AuthEvent} (hlog : F log) :
    p.Along authRule authAnswers t (fun _ _ => True) log :=
  (Prog.along_of_all (fun log c r s _ hlog _ => hF ⟨t, c, r, s⟩ log hlog) hP hp hlog).mono
    fun _ _ _ => trivial

theorem along_of_allFree {p : AuthSvc α} (hp : AllFree p) (log : List AuthEvent) :
    p.Along authRule authAnswers t (fun _ _ => True) log :=
  along_of_fact (F := fun _ => True) (fun _ _ _ => trivial)
    (fun log _ hc _ => authRule_of_free hc log) hp trivial

theorem along_void {p : AuthSvc α} {log : List AuthEvent}
    (hp : p.Along authRule authAnswers t (fun _ _ => True) log) :
    p.void.Along authRule authAnswers t (fun _ _ => True) log :=
  Prog.along_bind hp (fun _ _ _ => trivial) fun _ _ _ => trivial

namespace AuthService

variable (cfg)

theorem along_validate (identifier password : String) :
    (validateUserByEmailOrPhone cfg identifier password).Along authRule authAnswers t
      (fun log x => ∀ user, x = .ok user → HasCandidate log user.id) [] := by
  apply Prog.along_call_bind (R := AuthResp) (c := .userByEmailOrPhone identifier) trivial
  · intro found s _
    cases found with
    | none => exact fun user h => by cases h
    | some r =>
        dsimp only
        split
        · exact fun user h => by cases h
        · split
          · exact fun user h => by cases h
          · intro user h
            cases h
            exact ⟨_, List.mem_cons_self, r.user, rfl, rfl⟩
  · exact fun e s _ user h => by cases h

theorem along_login (identifier password : String) :
    (login cfg identifier password).Along authRule authAnswers t (fun _ _ => True) [] := by
  refine Prog.along_bind (along_validate cfg identifier password) (fun log user hvalid => ?_)
    fun _ _ _ => trivial
  have hcandidate : HasCandidate log user.id := hvalid user rfl
  let P : AuthCall → Prop := fun c =>
    c.free = true ∨ ∃ d : NewToken, c = .tokenCreate d ∧ d.userId = user.id
  refine along_of_fact (F := fun log => HasCandidate log user.id) (P := P) ?_ ?_ ?_ hcandidate
  · rintro e log ⟨x, hx, hfound⟩
    exact ⟨x, List.mem_cons_of_mem e hx, hfound⟩
  · rintro log c (hfree | ⟨d, rfl, hd⟩) hlog
    · exact authRule_of_free hfree log
    · change HasCandidate log d.userId
      rwa [hd]
  · have hnow : (authCall .now).All P := Prog.all_call (.inl rfl)
    refine Prog.all_bind hnow fun now => ?_
    refine Prog.all_bind (Prog.all_call (.inl rfl)) fun _ => ?_
    refine Prog.all_bind (Prog.all_bind hnow fun _ => trivial) fun issued => ?_
    refine Prog.all_bind (Prog.all_bind (Prog.all_bind hnow fun _ => trivial) fun expiresAt => ?_)
      fun _ => trivial
    exact Prog.all_call (.inr ⟨_, rfl, rfl⟩)

/-- A token that was fetched as usable may be exchanged. -/
theorem along_rotate {stored : RefreshToken} {payload : JwtPayload} {now : Time}
    {log : List AuthEvent} (hfetched : Fetched log stored)
    (husable : usable stored payload now = true) :
    (rotate cfg stored payload now).Along authRule authAnswers t (fun _ _ => True) log := by
  simp only [usable, Bool.and_eq_true, decide_eq_true_eq] at husable
  obtain ⟨⟨hrevoked, -⟩, huser⟩ := husable
  apply Prog.along_call_bind (R := AuthResp) (c := .userById payload.sub) trivial
  · intro found s hanswer
    cases found with
    | none => trivial
    | some r =>
        have hsame : r.user.id = stored.userId := (hanswer r rfl).trans huser.symm
        dsimp only
        split
        · trivial
        · let P : AuthCall → Prop := fun c =>
            c.free = true ∨ ∃ now d, c = .exchange stored.id now d ∧ d.userId = stored.userId
          refine along_of_fact (F := fun log => Fetched log stored) (P := P) ?_ ?_ ?_ ?_
          · rintro e log ⟨x, hx, hfound⟩
            exact ⟨x, List.mem_cons_of_mem e hx, hfound⟩
          · rintro log c (hfree | ⟨now, d, rfl, hd⟩) hlog
            · exact authRule_of_free hfree log
            · exact ⟨stored, hlog, rfl, hd.symm, fun h => h hrevoked⟩
          · have hnow : (authCall .now).All P := Prog.all_call (.inl rfl)
            refine Prog.all_bind (Prog.all_bind hnow fun _ => trivial) fun issued => ?_
            refine Prog.all_bind (Prog.all_bind hnow fun _ => trivial) fun expiresAt => ?_
            refine Prog.all_bind (Prog.all_call ?_) fun _ => trivial
            exact .inr ⟨now, _, rfl, hsame⟩
          · obtain ⟨x, hx, hfound⟩ := hfetched
            exact ⟨x, List.mem_cons_of_mem _ hx, hfound⟩
  · exact fun _ _ _ => trivial

theorem along_refresh (refreshToken : String) :
    (refresh cfg refreshToken).Along authRule authAnswers t (fun _ _ => True) [] := by
  have hverify : AllFree (verifyRefreshToken cfg refreshToken) := by
    refine Prog.all_bind (all_authCall rfl) fun now => ?_
    split <;> trivial
  refine Prog.along_bind (along_of_allFree hverify []) (fun log payload _ => ?_)
    fun _ _ _ => trivial
  apply Prog.along_call_bind (R := AuthResp) (c := .tokenByHash _) trivial
  · intro found s _
    apply Prog.along_call_bind (R := AuthResp) (c := .now) trivial
    · intro now s' _
      cases found with
      | none => trivial
      | some stored =>
          dsimp only
          split
          · trivial
          · next husable =>
              refine along_rotate cfg ?_ (by simpa using husable)
              exact ⟨_, List.mem_cons_of_mem _ List.mem_cons_self, rfl⟩
    · exact fun _ _ _ => trivial
  · exact fun _ _ _ => trivial

theorem all_logout (refreshToken : String) : AllFree (logout cfg refreshToken) := by
  refine Prog.all_bind (all_authCall rfl) fun found => ?_
  cases found with
  | none => trivial
  | some stored =>
      refine Prog.all_ite trivial ?_
      refine Prog.all_bind (all_authCall rfl) fun now => ?_
      exact Prog.all_bind (all_authCall rfl) fun _ => trivial

end AuthService

theorem all_setActiveStatus (id : Id) (isActive : Bool) :
    AllFree (ClientLifecycleService.setActiveStatus id isActive) := by
  refine Prog.all_bind (all_authCall rfl) fun found => ?_
  cases found with
  | none => trivial
  | some client =>
      refine Prog.all_ite trivial ?_
      exact Prog.all_bind (all_authCall rfl) fun _ => trivial

theorem all_remove (id : Id) : AllFree (ClientsService.remove id) := by
  refine Prog.all_bind (all_authCall rfl) fun found => ?_
  cases found with
  | none => trivial
  | some client => exact all_authCall rfl

/-- The end of both password resets. -/
theorem all_reset (userId : Id) (newPassword : String) : AllFree (do
    let passwordHash ← authCall (.hashPassword newPassword)
    let revokedAt ← authCall .now
    let _ ← authCall (.resetPassword userId passwordHash revokedAt)
    return ()) := by
  refine Prog.all_bind (all_authCall rfl) fun passwordHash => ?_
  refine Prog.all_bind (all_authCall rfl) fun revokedAt => ?_
  exact Prog.all_bind (all_authCall rfl) fun _ => trivial

theorem all_resetAccessAccountPassword (clientId : Id) (newPassword : String) :
    AllFree (ClientsService.resetAccessAccountPassword clientId newPassword) := by
  refine Prog.all_bind ?_ fun account => all_reset account.id newPassword
  refine Prog.all_bind (all_authCall rfl) fun found => ?_
  split
  · trivial
  · split
    · exact Prog.all_ite trivial (Prog.all_ite trivial trivial)
    · trivial

theorem all_resetPassword (id : Id) (newPassword : String) :
    AllFree (UsersService.resetPassword id newPassword) := by
  refine Prog.all_bind (all_authCall rfl) fun found => ?_
  cases found with
  | none => trivial
  | some r => exact all_reset id newPassword

/-- Every operation exchanges and stores only what its log allows. -/
theorem along_program (op : AuthOp) :
    (op.program cfg).Along authRule authAnswers t (fun _ _ => True) [] := by
  cases op with
  | login identifier password => exact along_void (AuthService.along_login cfg identifier password)
  | refresh refreshToken => exact along_void (AuthService.along_refresh cfg refreshToken)
  | logout refreshToken =>
      exact along_void (along_of_allFree (AuthService.all_logout cfg refreshToken) [])
  | setActiveStatus id isActive =>
      exact along_void (along_of_allFree (all_setActiveStatus id isActive) [])
  | remove id => exact along_void (along_of_allFree (all_remove id) [])
  | resetPassword id newPassword =>
      exact along_void (along_of_allFree (all_resetPassword id newPassword) [])
  | resetAccessAccountPassword clientId newPassword =>
      exact along_void
        (along_of_allFree (all_resetAccessAccountPassword clientId newPassword) [])

end Along

end CreativeBackend.Accounts
