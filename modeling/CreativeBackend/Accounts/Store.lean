import CreativeBackend.Accounts.Rows
import CreativeBackend.Store.Calls

/-!
# Accounts and refresh tokens in the store

The statements that authentication and the administration of accounts make. A transaction is one
step; one that fails leaves the store alone.
-/

namespace CreativeBackend.Accounts

open Relational Interaction

/-! ## Rows -/

structure RefreshToken where
  id : Id := ""
  userId : Id
  tokenHash : String
  revokedAt : Option Time := none
  expiresAt : Time

instance : Record RefreshToken Id where
  key := (·.id)
  withKey k a := { a with id := k }
  key_withKey _ _ := rfl
  clash a b := a.tokenHash == b.tokenHash

/-- The columns of a new token. -/
structure NewToken where
  userId : Id
  tokenHash : String
  expiresAt : Time

def NewToken.row (d : NewToken) : RefreshToken where
  userId := d.userId
  tokenHash := d.tokenHash
  expiresAt := d.expiresAt

/-- A user with its client. -/
structure UserRecord where
  user : User
  client : Option Client

structure AuthStore where
  clock : Time := 0
  users : Table User := .empty
  clients : Table Client := .empty
  tokens : Table RefreshToken := .empty

namespace AuthStore

variable (s : AuthStore)

abbrev Answer (α : Type) := Except Exn α × AuthStore

def withClient (user : User) : UserRecord where
  user
  client := user.clientId.bind s.clients.find?

/-- The user is of the client. -/
def ofClient (clientId userId : Id) : Bool :=
  (s.users.find? userId).any fun user => user.clientId = some clientId

/-! ## Statements -/

/-- A token that is not revoked and has a property is revoked. -/
def revoke (where_ : RefreshToken → Bool) (now : Time) (r : RefreshToken) : RefreshToken :=
  if r.revokedAt = none ∧ where_ r = true then { r with revokedAt := some now } else r

theorem revoke_id (where_ : RefreshToken → Bool) (now : Time) (r : RefreshToken) :
    (revoke where_ now r).id = r.id := by
  unfold revoke
  split <;> rfl

theorem revoke_tokenHash (where_ : RefreshToken → Bool) (now : Time) (r : RefreshToken) :
    (revoke where_ now r).tokenHash = r.tokenHash := by
  unfold revoke
  split <;> rfl

theorem clash_of_revoke (where_ : RefreshToken → Bool) (now : Time) (a b : RefreshToken)
    (h : clash (revoke where_ now a) (revoke where_ now b) = true) : clash a b = true := by
  simpa [clash, revoke_tokenHash] using h

/-- `refreshToken.updateMany` of tokens that are not revoked. -/
def revokeMany (where_ : RefreshToken → Bool) (now : Time) : AuthStore :=
  { s with
    tokens := s.tokens.mapRows (revoke where_ now) (revoke_id where_ now)
      (clash_of_revoke where_ now) }

/-- `refreshToken.update` of `revokedAt`. -/
def revokeToken (id : Id) (now : Time) : Except Exn (RefreshToken × AuthStore) :=
  match s.tokens.update id fun r => { r with revokedAt := some now } with
  | .missing => .error (.prisma .notFound)
  | .duplicate => .error (.prisma .uniqueConstraint)
  | .done row t => .ok (row, { s with tokens := t })

/-- `refreshToken.create`. -/
def createToken (d : NewToken) : Except Exn (RefreshToken × AuthStore) :=
  if Store.refers s.users d.userId then
    match s.tokens.create d.row with
    | none => .error (.prisma .uniqueConstraint)
    | some (row, t) => .ok (row, { s with tokens := t })
  else .error (.prisma .foreignKey)

/-- `user.update` of columns other than the keys. -/
def updateUser (id : Id) (f : User → User) : Except Exn (User × AuthStore) :=
  match s.users.update id f with
  | .missing => .error (.prisma .notFound)
  | .duplicate => .error (.prisma .uniqueConstraint)
  | .done row t => .ok (row, { s with users := t })

/-- `client.update` of `isActive`. -/
def updateActive (id : Id) (isActive : Bool) : Except Exn (Client × AuthStore) :=
  match s.clients.update id fun client => { client with isActive } with
  | .missing => .error (.prisma .notFound)
  | .duplicate => .error (.prisma .uniqueConstraint)
  | .done row t => .ok (row, { s with clients := t })

/-! ## Transactions -/

/-- A statement or a transaction commits, or rolls back. -/
def commit {α : Type} : Except Exn (α × AuthStore) → Answer α
  | .ok (a, s') => (.ok a, s')
  | .error e => (.error e, s)

/-- The transaction of `refresh`: the old token is revoked, and a new one stored. -/
def exchange (id : Id) (now : Time) (d : NewToken) : Except Exn (RefreshToken × AuthStore) := do
  let (_, s) ← s.revokeToken id now
  s.createToken d

/-- The transaction of `setActiveStatus`. -/
def setActive (id : Id) (isActive : Bool) : Except Exn (Client × AuthStore) := do
  let (client, s) ← s.updateActive id isActive
  if isActive then return (client, s)
  else return (client, s.revokeMany (fun r => s.ofClient id r.userId) s.clock)

/-- The transaction of a password reset. -/
def resetPassword (userId : Id) (passwordHash : String) (now : Time) :
    Except Exn (User × AuthStore) := do
  let (user, s) ← s.updateUser userId fun user => { user with passwordHash }
  return (user, s.revokeMany (fun r => r.userId = userId) now)

end AuthStore

/-! ## Calls -/

inductive AuthCall where
  | now
  /-- `hashPassword`; `bcrypt` draws the salt. -/
  | hashPassword (password : String)
  | userByEmailOrPhone (identifier : String)
  | userById (id : Id)
  | userLoggedIn (id : Id) (now : Time)
  | tokenByHash (tokenHash : String)
  | tokenCreate (d : NewToken)
  | tokenRevoke (id : Id) (now : Time)
  | exchange (id : Id) (now : Time) (d : NewToken)
  /-- The read of `setActiveStatus`, with the status that is asked for. -/
  | lifecycleClient (id : Id) (isActive : Bool)
  | setActive (id : Id) (isActive : Bool)
  | clientById (id : Id)
  | clientDeactivate (id : Id)
  | primaryUser (clientId : Id)
  | resetPassword (userId : Id) (passwordHash : String) (now : Time)

/-- The answer of each call. -/
@[reducible] def AuthResp : AuthCall → Type
  | .now => Time
  | .hashPassword _ => String
  | .userByEmailOrPhone _ => Option UserRecord
  | .userById _ => Option UserRecord
  | .userLoggedIn _ _ => User
  | .tokenByHash _ => Option RefreshToken
  | .tokenCreate _ => RefreshToken
  | .tokenRevoke _ _ => RefreshToken
  | .exchange _ _ _ => RefreshToken
  | .lifecycleClient _ _ => Option Client
  | .setActive _ _ => Client
  | .clientById _ => Option Client
  | .clientDeactivate _ => Client
  | .primaryUser _ => Option (Client × Option User)
  | .resetPassword _ _ _ => User

abbrev AuthSvc (α : Type) := Prog AuthResp Exn α

/-- A call of the account services. -/
def authCall (c : AuthCall) : AuthSvc (AuthResp c) := Prog.call c

/-- What the callers do not see: the order of rows without `orderBy`, and the salts. -/
structure AuthChoice where
  order : Choice := {}
  bcrypt : String → String := id

/-- A query answers from the store and leaves it alone. -/
def authQuery {α : Type} (s : AuthStore) (a : α) : AuthStore.Answer α := (.ok a, s)

/-- Answer a call from the store. -/
def authMachine (ch : AuthChoice) : Machine AuthResp Exn AuthStore
  | .now, s => authQuery s s.clock
  | .hashPassword password, s => authQuery s (ch.bcrypt password)
  | .userByEmailOrPhone identifier, s => authQuery s
      ((ch.order.first (s.users.rows.filter fun user =>
        user.email = some identifier ∨ user.phone = some identifier)).map s.withClient)
  | .userById id, s => authQuery s ((s.users.find? id).map s.withClient)
  | .userLoggedIn id now, s =>
      s.commit (s.updateUser id fun user => { user with lastLoginAt := some now })
  | .tokenByHash tokenHash, s => authQuery s (s.tokens.rows.find? fun r => r.tokenHash = tokenHash)
  | .tokenCreate d, s => s.commit (s.createToken d)
  | .tokenRevoke id now, s => s.commit (s.revokeToken id now)
  | .exchange id now d, s => s.commit (s.exchange id now d)
  | .lifecycleClient id _, s => authQuery s (s.clients.find? id)
  | .setActive id isActive, s => s.commit (s.setActive id isActive)
  | .clientById id, s => authQuery s (s.clients.find? id)
  | .clientDeactivate id, s => s.commit (s.updateActive id false)
  | .primaryUser clientId, s => authQuery s
      ((s.clients.find? clientId).map fun client => (client, client.primaryUserId.bind s.users.find?))
  | .resetPassword userId passwordHash now, s =>
      s.commit (s.resetPassword userId passwordHash now)

end CreativeBackend.Accounts
