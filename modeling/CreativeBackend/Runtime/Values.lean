import CreativeBackend.Interaction.Program
import CreativeBackend.Relational.Table
import Mathlib.Data.List.Sort

/-!
# Values of the TypeScript runtime

JSON values, the string operations the services use, exceptions, and the
parameters that stand for Node's library and the deployment.

## Implementation notes

The cryptographic functions, base64url, the JSON reader and printer and the date
reader are parameters: no result depends on how they compute. A JavaScript
number is a rational, as `JSON.parse` never returns `NaN`.
-/

namespace CreativeBackend

/-- Milliseconds since the epoch. -/
abbrev Time := Int

/-- Primary keys are strings. -/
abbrev Id := String

inductive Json where
  | null
  | bool (b : Bool)
  | num (q : Rat)
  | str (s : String)
  | arr (items : List Json)
  | obj (fields : List (String × Json))
  deriving Inhabited

namespace Json

/-- Property access; `none` is `undefined`. -/
def field? : Json → String → Option Json
  | obj fields, k => fields.lookup k
  | _, _ => none

/-- The property when `typeof` says it is a string. -/
def string? (j : Json) (k : String) : Option String :=
  match j.field? k with
  | some (str s) => some s
  | _ => none

/-- The property when `Number.isInteger` accepts it. -/
def integer? (j : Json) (k : String) : Option Int :=
  match j.field? k with
  | some (num q) => if q.den = 1 then some q.num else none
  | _ => none

/-- A value with `typeof value === 'object'` that is neither null nor an array. -/
def record? : Option Json → Option (List (String × Json))
  | some (obj fields) => some fields
  | _ => none

/-- `{ ...base, ...extra }`. -/
def spread (base extra : List (String × Json)) : Json :=
  obj (base.filter (fun f => (extra.lookup f.1).isNone) ++ extra)

end Json

/-! ## Strings -/

/-- The white space that `String.prototype.trim` removes. -/
def isTrimmed (c : Char) : Bool :=
  let n := c.toNat
  (9 ≤ n && n ≤ 13) || n == 32 || n == 160 || n == 5760 || (8192 ≤ n && n ≤ 8202) ||
    n == 8232 || n == 8233 || n == 8239 || n == 8287 || n == 12288 || n == 65279

/-- `value.trim()`. -/
@[irreducible] def trim (s : String) : String :=
  String.ofList ((((s.toList.dropWhile isTrimmed).reverse).dropWhile isTrimmed).reverse)

/-- `value.startsWith(prefix)`. -/
@[irreducible] def startsWith (s pre : String) : Bool := pre.toList.isPrefixOf s.toList

/-- The pieces of a character list between dots. -/
def splitChars : List Char → List (List Char)
  | [] => [[]]
  | c :: cs =>
      if c = '.' then [] :: splitChars cs
      else match splitChars cs with
        | [] => [[c]]
        | w :: ws => (c :: w) :: ws

/-- `value.split('.')`. -/
def splitDots (s : String) : List String := (splitChars s.toList).map String.ofList

/-- `/^[a-zA-Z0-9_-]+$/.test(value)`. -/
def isTokenText (s : String) : Bool :=
  !s.toList.isEmpty && s.toList.all fun c => c.isAlphanum || c == '_' || c == '-'

/-- A string that JavaScript treats as true. -/
def truthy : Option String → Option String
  | some s => if s = "" then none else some s
  | none => none

@[simp] theorem truthy_none : truthy none = none := rfl

theorem truthy_eq_some_iff {o : Option String} {s : String} :
    truthy o = some s ↔ o = some s ∧ s ≠ "" := by
  cases o with
  | none => simp
  | some a =>
      simp only [truthy]
      split
      · next h => simp [h]
      · next h =>
          simp only [Option.some.injEq]
          exact ⟨fun e => ⟨e, e ▸ h⟩, fun e => e.1⟩

/-! ## Exceptions -/

/-- The error codes of Prisma that the services meet. -/
inductive PrismaCode where
  | uniqueConstraint
  | foreignKey
  | notFound
  | validation
  | connection
  deriving DecidableEq, Repr

/-- The exceptions of the services: Nest's HTTP exceptions, Prisma's errors, and others. -/
inductive Exn where
  | badRequest (message : String)
  | notFound (message : String)
  | conflict (message : String)
  | serviceUnavailable (message : String)
  | prisma (code : PrismaCode)
  | error (message : String)
  deriving DecidableEq, Repr

/-- `error.message`. -/
def Exn.message : Exn → String
  | badRequest m => m
  | notFound m => m
  | conflict m => m
  | serviceUnavailable m => m
  | prisma .uniqueConstraint => "Unique constraint failed"
  | prisma .foreignKey => "Foreign key constraint violated"
  | prisma .notFound => "An operation failed because it depends on a record that was not found"
  | prisma .validation => "Invalid value provided"
  | prisma .connection => "Can't reach database server"
  | error m => m

/-! ## Parameters -/

/-- Node's library functions and the configuration of the deployment. -/
structure Runtime where
  qrSigningSecret : String
  scanProcessingEnabled : Bool
  registrationPipelineEnabled : Bool
  /-- `APP_PUBLIC_BASE_URL` or its default, without trailing slashes. -/
  publicBaseUrl : String
  /-- The digest of `createHmac('sha256', secret).update(data)`. -/
  hmacSha256 : String → String → List UInt8
  /-- The hexadecimal digest of `createHash('sha256').update(data)`. -/
  sha256Hex : String → String
  base64url : List UInt8 → String
  /-- `Buffer.from(value, 'base64url').toString('utf8')`. -/
  decodeBase64Url : String → String
  /-- `Buffer.from(value, 'utf8').toString('base64url')`. -/
  encodeBase64Url : String → String
  jsonParse : String → Option Json
  jsonStringify : Json → String
  /-- `String(value)` of a number. -/
  numberToString : Rat → String
  isEd25519PublicKey : String → Bool
  /-- `verify(null, data, publicKey, signature)` for a base64url signature. -/
  verifyEd25519 : String → String → String → Bool
  /-- `new Date(value)`; `none` is an invalid date. -/
  parseDate : String → Option Time
  toISOString : Time → String
  /-- The successive outputs of `randomBytes`, printed. -/
  random : Nat → String

/-- A property of a result can be read off the result. -/
theorem exists_ok {α : Type} {x : Except Exn α} {p : α → Bool} (h : x.toOption.any p = true) :
    ∃ a, x = .ok a ∧ p a = true := by
  cases x with
  | error e => cases h
  | ok a => exact ⟨a, rfl, h⟩

mutual

/-- `String(value)`. -/
def jsString (rt : Runtime) : Json → String
  | .null => "null"
  | .bool b => if b then "true" else "false"
  | .num q => rt.numberToString q
  | .str s => s
  | .arr items => String.intercalate "," (joinedItems rt items)
  | .obj _ => "[object Object]"

/-- The pieces of `Array.prototype.join`. -/
def joinedItems (rt : Runtime) : List Json → List String
  | [] => []
  | .null :: items => "" :: joinedItems rt items
  | item :: items => jsString rt item :: joinedItems rt items

end

/-- A sequence that succeeds does so in both parts. -/
theorem Except.exists_of_bind_eq_ok {ε α β : Type} {x : Except ε α} {f : α → Except ε β} {b : β}
    (h : (x >>= f) = .ok b) : ∃ a, x = .ok a ∧ f a = .ok b := by
  cases x with
  | error e => cases h
  | ok a => exact ⟨a, rfl, h⟩

/-- Keys are handed out in order, as `cuid()` never repeats one. -/
instance : Relational.KeySupply Id where
  fresh n := "c" ++ Nat.repr n
  fresh_injective m n h := by
    have h' : ("c" ++ Nat.repr m).toList = ("c" ++ Nat.repr n).toList := congrArg String.toList h
    rw [String.toList_append, String.toList_append, Nat.toList_repr, Nat.toList_repr] at h'
    have hd : Nat.toDigits 10 m = Nat.toDigits 10 n := List.append_cancel_left h'
    rw [← Nat.ofDigitChars_ten_toDigits (n := m), hd, Nat.ofDigitChars_ten_toDigits]

end CreativeBackend
