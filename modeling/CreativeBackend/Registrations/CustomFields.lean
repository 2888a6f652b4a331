import CreativeBackend.Store.Schema

/-!
# Custom fields

`RegistrationsService.validateCustomFields` checks the custom fields of a
registration against the fields that apply to its attendee type. Whether they are
accepted depends on the set of those fields, not on the order in which the
database returns them.
-/

namespace CreativeBackend

variable (rt : Runtime)

/-- `/^[^\s@]+@[^\s@]+\.[^\s@]+$/.test(value)`. -/
def isEmail (value : String) : Bool :=
  let cs := value.toList
  let domain := (cs.dropWhile (· ≠ '@')).tail
  cs.all (fun c => !isTrimmed c) && cs.contains '@' && cs.head? ≠ some '@' &&
    !domain.contains '@' && domain.tail.dropLast.contains '.'

/-- Check the items in order and stop at the first error. -/
def checkAll {α : Type} (check : α → Except Exn Unit) : List α → Except Exn Unit
  | [] => .ok ()
  | a :: rest =>
      match check a with
      | .error e => .error e
      | .ok () => checkAll check rest

theorem checkAll_eq_ok_iff {α : Type} {check : α → Except Exn Unit} {items : List α} :
    checkAll check items = .ok () ↔ ∀ a ∈ items, check a = .ok () := by
  induction items with
  | nil => simp [checkAll]
  | cons a rest ih =>
      simp only [checkAll, List.mem_cons, forall_eq_or_imp]
      cases h : check a with
      | error e => simp
      | ok u => simp [ih]

namespace RegistrationsService

def isEmpty : Option Json → Bool
  | none => true
  | some .null => true
  | some (.str s) => s = ""
  | some (.arr items) => items.isEmpty
  | some _ => false

mutual

/-- Whether `String(value)` finds an object whose own `toString` is no function. -/
def unprintable : Json → Bool
  | .obj fields => (fields.lookup "toString").isSome
  | .arr items => anyUnprintable items
  | _ => false

def anyUnprintable : List Json → Bool
  | [] => false
  | item :: items => unprintable item || anyUnprintable items

end

/-- `String(value)`, which raises a `TypeError` on such an object. -/
def printed (value : Json) : Except Exn String :=
  if unprintable value then .error (.error "Cannot convert object to primitive value")
  else .ok (jsString rt value)

/-- The value of an option of a select field; `none` is `null`. -/
def optionValue : Json → Except Exn (Option String)
  | .obj fields =>
      match fields.lookup "value" with
      | some value => (printed rt value).map some
      | none => .ok none
  | .str s => .ok (some s)
  | _ => .ok none

def optionValues : List Json → Except Exn (List String)
  | [] => .ok []
  | option :: options => do
      let value ← optionValue rt option
      let values ← optionValues options
      return value.toList ++ values

/-- The values of the options of a select field. -/
def getOptionValues : Option Json → Except Exn (List String)
  | some (.arr options) => optionValues rt options
  | _ => .ok []

def validateSelectValue (field : RegistrationField) (value : Json) : Except Exn Unit := do
  let allowedValues ← getOptionValues rt field.options
  let text ← printed rt value
  if allowedValues.contains text then return ()
  else throw (.badRequest (field.key ++ " has an invalid option"))

def validateCustomFieldValue (field : RegistrationField) (value : Json) : Except Exn Unit :=
  let must (holds : Bool) (what : String) : Except Exn Unit :=
    if holds then .ok () else .error (.badRequest (field.key ++ " must be " ++ what))
  match field.type with
  | .EMAIL =>
      must (match value with | .str s => isEmail s | _ => false) "a valid email"
  | .PHONE =>
      must (match value with | .str s => trim s ≠ "" | _ => false) "a valid phone"
  | .NUMBER => must (match value with | .num _ => true | _ => false) "a number"
  | .BOOLEAN => must (match value with | .bool _ => true | _ => false) "a boolean"
  | .DATE =>
      must (match value with | .str s => (rt.parseDate s).isSome | _ => false) "a valid date"
  | .SELECT => validateSelectValue rt field value
  | .MULTI_SELECT =>
      match value with
      | .arr items => checkAll (validateSelectValue rt field) items
      | _ => .error (.badRequest (field.key ++ " must be an array"))
  | _ => .ok ()

/-- The check of one field against the submitted values. -/
def validateField (customFields : List (String × Json)) (field : RegistrationField) :
    Except Exn Unit :=
  let value := customFields.lookup field.key
  if field.isRequired && isEmpty value then
    .error (.badRequest (field.key ++ " is required"))
  else
    match value with
    | none => .ok ()
    | some v => if isEmpty (some v) then .ok () else validateCustomFieldValue rt field v

/-- A submitted key must be the key of a field. -/
def knownKey (fields : List RegistrationField) (key : String) : Except Exn Unit :=
  if fields.any fun field => field.key = key then .ok ()
  else .error (.badRequest ("Unknown custom field: " ++ key))

/-- `validateCustomFields`, after the fields were read. -/
def validateCustomFields (fields : List RegistrationField) (customFields : List (String × Json)) :
    Except Exn Unit :=
  match checkAll (knownKey fields) (customFields.map (·.1)) with
  | .error e => .error e
  | .ok () => checkAll (validateField rt customFields) fields

/-- The fields that apply to an attendee type. -/
def applies (eventId attendeeTypeId : Id) (field : RegistrationField) : Bool :=
  field.eventId == eventId && field.isActive &&
    (field.attendeeTypeId == none || field.attendeeTypeId == some attendeeTypeId)

theorem validateCustomFields_eq_ok_iff {fields : List RegistrationField}
    {customFields : List (String × Json)} :
    validateCustomFields rt fields customFields = .ok () ↔
      (∀ f ∈ customFields, ∃ field ∈ fields, field.key = f.1) ∧
        ∀ field ∈ fields, validateField rt customFields field = .ok () := by
  have hknown : checkAll (knownKey fields) (customFields.map (·.1)) = .ok () ↔
      ∀ f ∈ customFields, ∃ field ∈ fields, field.key = f.1 := by
    rw [checkAll_eq_ok_iff]
    simp [knownKey]
  rw [← hknown, ← checkAll_eq_ok_iff]
  simp only [validateCustomFields]
  cases checkAll (knownKey fields) (customFields.map (·.1)) with
  | error e => simp
  | ok u => simp

/-- The order of the fields does not matter for acceptance. -/
theorem validateCustomFields_congr {fields fields' : List RegistrationField}
    (h : ∀ field, field ∈ fields ↔ field ∈ fields') (customFields : List (String × Json)) :
    validateCustomFields rt fields customFields = .ok () ↔
      validateCustomFields rt fields' customFields = .ok () := by
  simp only [validateCustomFields_eq_ok_iff, h]

end RegistrationsService

end CreativeBackend
