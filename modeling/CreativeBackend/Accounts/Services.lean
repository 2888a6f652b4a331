import CreativeBackend.Accounts.Store

/-!
# Authentication and accounts

`AuthService`, `ClientLifecycleService.setActiveStatus`, and what `ClientsService` and `UsersService`
do to accounts that can log in.

## Implementation notes

Signing, verifying and hashing are parameters. The access token is signed and returned, and nothing
else here depends on it.
-/

namespace CreativeBackend.Accounts

open Interaction

structure JwtPayload where
  sub : Id
  role : UserRole
  clientId : Option Id
  deriving DecidableEq

/-- The secrets of the deployment, `jsonwebtoken`, `sha256`, `bcrypt.compare`, and the calendar. -/
structure AuthConfig where
  signAccess : JwtPayload → Time → String
  signRefresh : JwtPayload → Time → String
  verifyRefresh : String → Time → Option JwtPayload
  hashRefreshToken : String → String
  comparePassword : String → String → Bool
  /-- `setDate(getDate() + days)`. -/
  addDays : Nat → Time → Time

def REFRESH_TOKEN_EXPIRES_IN_DAYS : Nat := 7

/-- What a login and a refresh return. -/
structure Issued where
  user : AuthUser
  accessToken : String
  refreshToken : String

/-- A refused request; the status of `UnauthorizedException` is not told apart. -/
def unauthorized {α : Type} (message : String) : AuthSvc α := throw (.error message)

def isAuthenticationAllowed (r : UserRecord) : Bool :=
  if r.user.status ≠ .ACTIVE then false
  else if r.user.role ≠ .CLIENT_VIEWER then true
  else
    match truthy r.user.clientId, r.client with
    | some clientId, some client => client.id = clientId && client.isActive
    | _, _ => false

def UserRecord.authUser (r : UserRecord) : AuthUser where
  id := r.user.id
  fullName := r.user.fullName
  email := r.user.email
  phone := r.user.phone
  role := r.user.role
  clientId := r.user.clientId

namespace AuthService

variable (cfg : AuthConfig)

def validateUserByEmailOrPhone (identifier password : String) : AuthSvc AuthUser := do
  match ← authCall (.userByEmailOrPhone identifier) with
  | none => unauthorized "Invalid credentials"
  | some r =>
      if isAuthenticationAllowed r = false then unauthorized "Invalid credentials"
      else if cfg.comparePassword password r.user.passwordHash = false then
        unauthorized "Invalid credentials"
      else return r.authUser

/-- The access token and the refresh token. -/
def issueTokens (user : AuthUser) : AuthSvc (String × String) := do
  let payload : JwtPayload := { sub := user.id, role := user.role, clientId := user.clientId }
  let now ← authCall .now
  return (cfg.signAccess payload now, cfg.signRefresh payload now)

def getRefreshTokenExpiresAt : AuthSvc Time := do
  let expiresAt ← authCall .now
  return cfg.addDays REFRESH_TOKEN_EXPIRES_IN_DAYS expiresAt

def storeRefreshToken (userId : Id) (refreshToken : String) : AuthSvc RefreshToken := do
  let expiresAt ← getRefreshTokenExpiresAt cfg
  authCall (.tokenCreate { userId, tokenHash := cfg.hashRefreshToken refreshToken, expiresAt })

def login (identifier password : String) : AuthSvc Issued := do
  let user ← validateUserByEmailOrPhone cfg identifier password
  let now ← authCall .now
  let _ ← authCall (.userLoggedIn user.id now)
  let (accessToken, refreshToken) ← issueTokens cfg user
  let _ ← storeRefreshToken cfg user.id refreshToken
  return { user, accessToken, refreshToken }

def verifyRefreshToken (refreshToken : String) : AuthSvc JwtPayload := do
  let now ← authCall .now
  match cfg.verifyRefresh refreshToken now with
  | none => unauthorized "Invalid refresh token"
  | some payload => return payload

/-- A stored token that may be exchanged. -/
def usable (r : RefreshToken) (payload : JwtPayload) (now : Time) : Bool :=
  r.revokedAt = none && now < r.expiresAt && r.userId = payload.sub

/-- `refresh` from the stored token on. -/
def rotate (stored : RefreshToken) (payload : JwtPayload) (now : Time) : AuthSvc Issued := do
  match ← authCall (.userById payload.sub) with
  | none => unauthorized "Invalid refresh token"
  | some r =>
      if isAuthenticationAllowed r = false then unauthorized "Invalid refresh token"
      else do
        let (accessToken, refreshToken) ← issueTokens cfg r.authUser
        let expiresAt ← getRefreshTokenExpiresAt cfg
        let _ ← authCall (.exchange stored.id now {
          userId := r.user.id
          tokenHash := cfg.hashRefreshToken refreshToken
          expiresAt })
        return { user := r.authUser, accessToken, refreshToken }

def refresh (refreshToken : String) : AuthSvc Issued := do
  let payload ← verifyRefreshToken cfg refreshToken
  let found ← authCall (.tokenByHash (cfg.hashRefreshToken refreshToken))
  let now ← authCall .now
  match found with
  | none => unauthorized "Invalid refresh token"
  | some stored =>
      if usable stored payload now = false then unauthorized "Invalid refresh token"
      else rotate cfg stored payload now

def logout (refreshToken : String) : AuthSvc Unit := do
  match ← authCall (.tokenByHash (cfg.hashRefreshToken refreshToken)) with
  | none => return ()
  | some stored =>
      if stored.revokedAt ≠ none then return ()
      else do
        let now ← authCall .now
        let _ ← authCall (.tokenRevoke stored.id now)
        return ()

end AuthService

/-- `changed`, and the client. -/
def ClientLifecycleService.setActiveStatus (id : Id) (isActive : Bool) :
    AuthSvc (Bool × Client) := do
  match ← authCall (.lifecycleClient id isActive) with
  | none => throw (.notFound "Client not found")
  | some client =>
      if client.isActive = isActive then return (false, client)
      else do
        let client ← authCall (.setActive id isActive)
        return (true, client)

namespace ClientsService

def remove (id : Id) : AuthSvc Client := do
  match ← authCall (.clientById id) with
  | none => throw (.notFound "Client not found")
  | some _ => authCall (.clientDeactivate id)

def findPrimaryAccessAccountOrThrow (clientId : Id) : AuthSvc User := do
  match ← authCall (.primaryUser clientId) with
  | none => throw (.notFound "Client not found")
  | some (client, account) =>
      match truthy client.primaryUserId, account with
      | some _, some user =>
          if user.role ≠ .CLIENT_VIEWER ∨ user.clientId ≠ some client.id then
            throw (.conflict "Client primary access account is invalid")
          else if user.status = .DELETED then
            throw (.badRequest "Client access account is deleted")
          else return user
      | _, _ => throw (.notFound "Client access account not found")

def resetAccessAccountPassword (clientId : Id) (newPassword : String) : AuthSvc Unit := do
  let accessAccount ← findPrimaryAccessAccountOrThrow clientId
  let passwordHash ← authCall (.hashPassword newPassword)
  let revokedAt ← authCall .now
  let _ ← authCall (.resetPassword accessAccount.id passwordHash revokedAt)
  return ()

end ClientsService

def UsersService.resetPassword (id : Id) (newPassword : String) : AuthSvc Unit := do
  match ← authCall (.userById id) with
  | none => throw (.notFound "User not found")
  | some _ => do
      let passwordHash ← authCall (.hashPassword newPassword)
      let revokedAt ← authCall .now
      let _ ← authCall (.resetPassword id passwordHash revokedAt)
      return ()

/-! ## The operations together -/

inductive AuthOp where
  | login (identifier password : String)
  | refresh (refreshToken : String)
  | logout (refreshToken : String)
  | setActiveStatus (id : Id) (isActive : Bool)
  | remove (id : Id)
  | resetPassword (id : Id) (newPassword : String)
  | resetAccessAccountPassword (clientId : Id) (newPassword : String)

def AuthOp.program (cfg : AuthConfig) : AuthOp → AuthSvc Unit
  | login identifier password => (AuthService.login cfg identifier password).void
  | refresh refreshToken => (AuthService.refresh cfg refreshToken).void
  | logout refreshToken => (AuthService.logout cfg refreshToken).void
  | setActiveStatus id isActive => (ClientLifecycleService.setActiveStatus id isActive).void
  | remove id => (ClientsService.remove id).void
  | resetPassword id newPassword => (UsersService.resetPassword id newPassword).void
  | resetAccessAccountPassword clientId newPassword =>
      (ClientsService.resetAccessAccountPassword clientId newPassword).void

/-- Any number of operations over one store; others may change the users and the clients. -/
def authService (cfg : AuthConfig) : Service AuthResp Exn AuthStore where
  Choice := AuthChoice
  machine := authMachine
  faulty _ := True
  env s s' := s'.tokens = s.tokens
  starts s p s' := s' = s ∧ ∃ op : AuthOp, p = op.program cfg

end CreativeBackend.Accounts
