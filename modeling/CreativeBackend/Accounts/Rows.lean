import CreativeBackend.Store.Schema

/-!
# Accounts

The rows of users and clients. An account of a client is a user with the role of a viewer.
-/

namespace CreativeBackend

open Relational

inductive UserRole where
  | SUPER_ADMIN | CLIENT_VIEWER | STAFF
  deriving DecidableEq, Repr

inductive UserStatus where
  | ACTIVE | SUSPENDED | INVITED | DELETED
  deriving DecidableEq, Repr

structure Client where
  id : Id := ""
  name : String := ""
  contactName : Option String := none
  contactPhone : Option String := none
  contactEmail : Option String := none
  notes : Option String := none
  isActive : Bool := true
  primaryUserId : Option Id := none

structure User where
  id : Id := ""
  clientId : Option Id := none
  email : Option String := none
  phone : Option String := none
  passwordHash : String := ""
  fullName : String := ""
  role : UserRole
  status : UserStatus := .ACTIVE
  lastLoginAt : Option Time := none
  deletedAt : Option Time := none

/-- The user of an authenticated request. -/
structure AuthUser where
  id : Id
  fullName : String := ""
  email : Option String := none
  phone : Option String := none
  role : UserRole
  clientId : Option Id := none

instance : Record Client Id where
  key := (·.id)
  withKey k a := { a with id := k }
  key_withKey _ _ := rfl
  clash a b := sameKey a.primaryUserId b.primaryUserId

instance : Record User Id where
  key := (·.id)
  withKey k a := { a with id := k }
  key_withKey _ _ := rfl
  clash a b := sameKey a.email b.email || sameKey a.phone b.phone

end CreativeBackend
