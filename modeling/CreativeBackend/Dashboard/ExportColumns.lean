import CreativeBackend.Dashboard.Lists
import CreativeBackend.Runtime.Text
import Mathlib.Data.List.Sort

/-!
# The cells of the custom fields

An exported sheet has a column for each key of the active fields of the exported events. The cell
of a registration shows the value under the key, else what is stored under the first equivalent key
of its custom fields, else a column of the registration. An equivalent key can be a field of the
event itself: a cell shows the value of another field exactly where the first equivalent key is one,
and no registration has such a cell exactly where no two fields have equivalent keys.

The texts that the values become are left out.
-/

namespace CreativeBackend

/-! ## Values -/

/-- The names that every JavaScript object inherits. -/
def objectPrototype : List String :=
  ["constructor", "__defineGetter__", "__defineSetter__", "hasOwnProperty", "__lookupGetter__",
    "__lookupSetter__", "isPrototypeOf", "propertyIsEnumerable", "toString", "valueOf",
    "__proto__", "toLocaleString"]

/-- A value and where it comes from. -/
inductive DynamicValue where
  | custom (key : String) (value : Json)
  | inherited (name : String)
  | column (value : Option String)
  | undefined

namespace RegistrationExcelExporter

/-- `value !== undefined && value !== null && value !== ''`, of a value in JSON. -/
def hasJsonValue : Json → Bool
  | .null => false
  | .str s => s ≠ ""
  | _ => true

def hasValue : DynamicValue → Bool
  | .custom _ value => hasJsonValue value
  | .inherited _ => true
  | .column value => value.any (· ≠ "")
  | .undefined => false

/-- An object, its properties in the order of `Object.keys`. -/
def toRecord (value : Option Json) : List (String × Json) := (Json.record? value).getD []

/-- `customFields[key]`. -/
def valueAt (customFields : List (String × Json)) (key : String) : DynamicValue :=
  match customFields.lookup key with
  | some value => .custom key value
  | none => if key ∈ objectPrototype then .inherited key else .undefined

section Keys

variable (toLowerCase : String → String)

/-- `key.replace(/[\s_-]/g, '').toLowerCase()`. -/
def normalizeFieldKey (key : String) : String :=
  toLowerCase (String.ofList
    (key.toList.filter fun ch => !(isTrimmed ch || ch == '_' || ch == '-')))

def isBaseFieldKey (key : String) : Bool :=
  normalizeFieldKey toLowerCase key == "fullname" || normalizeFieldKey toLowerCase key == "phone"

def getEquivalentNormalizedKeys (key : String) : List String :=
  let normalizedKey := normalizeFieldKey toLowerCase key
  if normalizedKey = "company" ∨ normalizedKey = "companyname" then ["company", "companyname"]
  else if normalizedKey = "jobtitle" ∨ normalizedKey = "position" then ["jobtitle", "position"]
  else [normalizedKey]

/-- `equivalentKeys.has(this.normalizeFieldKey(key))`. -/
def isEquivalent (fieldKey key : String) : Bool :=
  normalizeFieldKey toLowerCase key ∈ getEquivalentNormalizedKeys toLowerCase fieldKey

/-- The first of the keys that is equivalent to the one of the field. -/
def matchingCustomKey (customFields : List (String × Json)) (fieldKey : String) : Option String :=
  truthy ((customFields.map (·.1)).find? (isEquivalent toLowerCase fieldKey))

/-- The column of the registration for a key. -/
def columnValue (registration : Registration) (fieldKey : String) : DynamicValue :=
  let normalizedFieldKey := normalizeFieldKey toLowerCase fieldKey
  if normalizedFieldKey = "email" then .column registration.email
  else if normalizedFieldKey = "company" ∨ normalizedFieldKey = "companyname" then
    .column registration.companyName
  else if normalizedFieldKey = "jobtitle" ∨ normalizedFieldKey = "position" then
    .column registration.jobTitle
  else .undefined

def getDynamicFieldValue (registration : Registration) (fieldKey : String) : DynamicValue :=
  let customFields := toRecord registration.customFields
  let exactValue := valueAt customFields fieldKey
  if hasValue exactValue then exactValue
  else match matchingCustomKey toLowerCase customFields fieldKey with
    | some key =>
        if hasValue (valueAt customFields key) then valueAt customFields key
        else columnValue toLowerCase registration fieldKey
    | none => columnValue toLowerCase registration fieldKey

end Keys

/-! ## Columns -/

structure ExportDynamicColumn where
  key : String
  label : String
  deriving DecidableEq, Repr

section Columns

variable (toLowerCase : String → String) {ρ : Type} [Ord ρ] (c : Collation ρ)

/-- `distinct: ['eventId']`. -/
def eventIdsOf (registrations : List Registration) : List Id :=
  (registrations.map (·.eventId)).eraseDups

def fieldOrder : RegistrationField → RegistrationField → Ordering :=
  compareLex (sortedBy (fun f => c.collate f.eventId) .asc)
    (compareLex (sortedBy (·.sortOrder) .asc) (sortedBy (·.createdAt) .asc))

/-- The active fields of the events, of the attendee type where there is one. -/
def exportedFields (db : DashboardDb) (eventIds : List Id) (attendeeTypeId : Option Id) :
    List RegistrationField :=
  (db.registrationFields.filter fun f => eventIds.any (c.same f.eventId) && f.isActive &&
    (truthy attendeeTypeId).all fun typeId => f.attendeeTypeId.all (c.same typeId)).insertionSort
      fun a b => (fieldOrder c a b).isLE

/-- `field.labelAr || field.labelEn || field.key`. -/
def labelOf (field : RegistrationField) : String :=
  ((truthy (some field.labelAr)).or (truthy field.labelEn)).getD field.key

/-- The columns after one field more. -/
def addColumn (columns : List ExportDynamicColumn) (field : RegistrationField) :
    List ExportDynamicColumn :=
  if isBaseFieldKey toLowerCase field.key || columns.any (·.key == field.key) then columns
  else columns ++ [{ key := field.key, label := labelOf field }]

/-- The columns of the fields of the events; an export of no event has none. -/
def getDynamicColumns (db : DashboardDb) (eventIds : List Id) (attendeeTypeId : Option Id) :
    List ExportDynamicColumn :=
  if eventIds.isEmpty then []
  else (exportedFields c db eventIds attendeeTypeId).foldl (addColumn toLowerCase) []

end Columns

end RegistrationExcelExporter

end CreativeBackend
