import CreativeBackend.Runtime.Values

/-!
# Request bodies and mapped types

A DTO class is the list of its properties with their initialisers, conversions and
checks. `PartialType` and `OmitType` derive classes from it and keep the
initialisers. The validation pipe creates an instance of the class, copies the
converted properties of the body onto it and validates it.

## Implementation notes

An object is a function from property names; `none` is `undefined`. The
conversion of strings to numbers, the ISO 8601 check and case mapping are
parameters.
-/

namespace CreativeBackend

/-- Node's functions that the validation pipe and the administration services use. -/
structure Platform where
  /-- `Number(value)`; `none` is `NaN`. -/
  toNumber : Json → Option Rat
  /-- The check of `IsDateString`. -/
  isDateString : String → Bool
  /-- `new Date(value)`; `none` is an invalid date. -/
  parseDate : String → Option Time
  toUpperCase : String → String
  toLowerCase : String → String

/-- A value of a column or property. -/
inductive Cell where
  | json (value : Json)
  | date (value : Option Time)

namespace Cell

/-- The value when it is a string. -/
def str? : Cell → Option String
  | json (.str s) => some s
  | _ => none

/-- Whether the value is `null`. -/
def isNull : Cell → Bool
  | json .null => true
  | _ => false

end Cell

/-- A JavaScript object. -/
abbrev Columns := String → Option Cell

namespace Columns

/-- `{ ...columns, key: value }`; `none` is `undefined`. -/
def set (columns : Columns) (key : String) (value : Option Cell) : Columns :=
  fun k => if k = key then value else columns k

@[simp] theorem set_self (columns : Columns) (key : String) (value : Option Cell) :
    columns.set key value key = value := if_pos rfl

theorem set_of_ne (columns : Columns) {key k : String} (value : Option Cell) (h : k ≠ key) :
    columns.set key value k = columns k := if_neg h

/-- The property when it is a string. -/
def str? (columns : Columns) (key : String) : Option String := (columns key).bind Cell.str?

/-- The property when it is a string that JavaScript treats as true. -/
def text? (columns : Columns) (key : String) : Option String := truthy (columns.str? key)

end Columns

/-! ## Classes -/

/-- A property of a class with its initialiser, its `Type` conversion and its checks. -/
structure Property where
  name : String
  initialiser : Option Json := none
  isOptional : Bool := false
  convert : Platform → Json → Json := fun _ v => v
  check : Platform → Json → Bool

abbrev DtoClass := List Property

/-- `PartialType`: every property is optional and keeps its initialiser. -/
def PartialType (c : DtoClass) : DtoClass := c.map fun p => { p with isOptional := true }

/-- `OmitType`: the class without some properties. -/
def OmitType (c : DtoClass) (names : List String) : DtoClass := c.filter fun p => p.name ∉ names

namespace DtoClass

def property? (c : DtoClass) (name : String) : Option Property := c.find? fun p => p.name = name

/-- The value of a property in a new instance. -/
def initial (c : DtoClass) (name : String) : Option Json :=
  (c.property? name).bind (·.initialiser)

end DtoClass

/-! ## Conversions and checks -/

/-- `Boolean(value)` of a defined value. -/
def toBoolean : Json → Json
  | .null => .null
  | .bool b => .bool b
  | .num q => .bool (q ≠ 0)
  | .str s => .bool (s ≠ "")
  | .arr _ => .bool true
  | .obj _ => .bool true

/-- `Number(value)` of a defined value; a value that is no number stays as it is. -/
def toNumber (p : Platform) : Json → Json
  | .null => .null
  | v => ((p.toNumber v).map Json.num).getD v

def isString : Json → Bool
  | .str _ => true
  | _ => false

def maxLength (n : Nat) : Json → Bool
  | .str s => s.length ≤ n
  | _ => false

def isEnum (values : List String) : Json → Bool
  | .str s => s ∈ values
  | _ => false

def isBoolean : Json → Bool
  | .bool _ => true
  | _ => false

def isNatural : Json → Bool
  | .num q => q.den = 1 && 0 ≤ q.num
  | _ => false

def isDateString (p : Platform) : Json → Bool
  | .str s => p.isDateString s
  | _ => false

def isStringArray : Json → Bool
  | .arr items => items.all isString
  | _ => false

/-! ## The validation pipe -/

namespace ValidationPipe

variable (p : Platform) (c : DtoClass) (body : List (String × Json))

/-- `new Dto()` with the properties of the body copied onto it. -/
def instantiate : Columns := fun key =>
  (c.property? key).bind fun property =>
    match body.lookup key with
    | some v => some (.json (property.convert p v))
    | none => property.initialiser.map .json

/-- The checks of one property of the instance. -/
def valid (dto : Columns) (property : Property) : Bool :=
  match dto property.name with
  | none => property.isOptional
  | some (.json .null) => property.isOptional || property.check p .null
  | some (.json v) => property.check p v
  | some (.date _) => false

/-- `transform`, with `whitelist` and `forbidNonWhitelisted`. -/
def transform : Except Exn Columns :=
  if body.all fun f => (c.property? f.1).isSome then
    if c.all (valid p (instantiate p c body)) then .ok (instantiate p c body)
    else .error (.badRequest "Bad Request Exception")
  else .error (.badRequest "Bad Request Exception")

variable {p c body}

/-- A property that the body does not have keeps its initial value. -/
theorem instantiate_of_lookup_eq_none {key : String} (h : body.lookup key = none) :
    instantiate p c body key = (c.initial key).map .json := by
  simp only [instantiate, DtoClass.initial]
  cases c.property? key with
  | none => rfl
  | some property => simp [h]

/-- A property of the body is converted. -/
theorem instantiate_of_lookup_eq_some {key : String} {property : Property} {v : Json}
    (hp : c.property? key = some property) (h : body.lookup key = some v) :
    instantiate p c body key = some (.json (property.convert p v)) := by
  simp only [instantiate, hp, Option.bind_some, h]

theorem transform_eq_ok {dto : Columns} (h : transform p c body = .ok dto) :
    dto = instantiate p c body := by
  unfold transform at h
  split at h
  · split at h
    · exact (Except.ok.inj h).symm
    · cases h
  · cases h

end ValidationPipe

end CreativeBackend
