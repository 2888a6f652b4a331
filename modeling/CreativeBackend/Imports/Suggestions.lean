import CreativeBackend.Imports.Columns
import CreativeBackend.Store.Schema

/-!
# Suggested mappings

`ImportsService.suggestMapping` looks for the header of one field after the other. No header is used
twice, and a comparison with an empty normalised text always succeeds.

## Implementation notes

The score of a column is a sum of two quotients; it is compared as a fraction here.
-/

namespace CreativeBackend

namespace ImportsService

variable (cfg : Config)

/-! ## The search -/

/-- The fields of every registration, in the order in which they are mapped. -/
inductive SystemField where
  | fullName
  | phone
  | email
  | companyName
  | jobTitle
  | externalId
  | notes
  | attendeeTypeCode
  deriving DecidableEq, Repr

namespace SystemField

def all : List SystemField :=
  [fullName, phone, email, companyName, jobTitle, externalId, notes, attendeeTypeCode]

/-- The aliases that `suggestMapping` looks for. -/
def aliases : SystemField → List String
  | fullName => ["full_name", "full name", "name", "visitor name", "attendee name", "الاسم",
      "الاسم الكامل", "اسم الزائر"]
  | phone => ["phone", "mobile", "whatsapp", "phone number", "رقم الهاتف", "الهاتف", "الموبايل"]
  | email => ["email", "mail", "email address", "البريد الإلكتروني", "البريد الالكتروني"]
  | companyName => ["company", "company_name", "company name", "organization", "اسم الشركة",
      "الشركة", "الجهة"]
  | jobTitle => ["job_title", "job title", "position", "title", "occupation", "المسمى الوظيفي",
      "المنصب", "الوظيفة"]
  | externalId => ["external_id", "external id", "registration id", "serial", "serial number",
      "رقم تسلسلي", "المعرف الخارجي"]
  | notes => ["notes", "note", "remarks", "ملاحظات", "ملاحظة"]
  | attendeeTypeCode => ["attendee_type_code", "attendee type code", "type code",
      "كود نوع الحضور"]

end SystemField

/-- `new Set(aliases.filter(Boolean).map(normalizeHeader))`. -/
def normalizedAliases (aliases : List String) : List String :=
  (aliases.filter (· ≠ "")).map (normalizeHeader cfg)

/-- The first test of `findHeaderFromHeaders`. -/
def matchesExactly (aliases : List String) (header : ImportHeader) : Bool :=
  (normalizedAliases cfg aliases).contains (normalizeHeader cfg header.label)

/-- The second test of `findHeaderFromHeaders`. -/
def matchesLoosely (aliases : List String) (header : ImportHeader) : Bool :=
  (normalizedAliases cfg aliases).any fun known =>
    includes (normalizeHeader cfg header.label) known ||
      (decide (4 ≤ utf16Length known) && includes known (normalizeHeader cfg header.label))

/-- The first unused header that passes the first test, or else the second one. -/
def findBy (exact loose : List String → ImportHeader → Bool) (headers : List ImportHeader)
    (aliases usedHeaders : List String) : Option ImportHeader :=
  headers.find? (fun header => !usedHeaders.contains header.key && exact aliases header) <|>
    headers.find? fun header => !usedHeaders.contains header.key && loose aliases header

/-- The header whose key `findHeaderFromHeaders` returns. -/
def findHeaderFromHeaders : List ImportHeader → List String → List String → Option ImportHeader :=
  findBy (matchesExactly cfg) (matchesLoosely cfg)

/-- A positive fraction. -/
structure Score where
  numerator : Nat
  denominator : Nat
  deriving DecidableEq, Repr

def Score.less (a b : Score) : Bool :=
  decide (a.numerator * b.denominator < b.numerator * a.denominator)

/-- The share of numbers and the share of different values among the values of a column, added. -/
def sequentialScore (rows : List ParsedImportRow) (key : String) : Option Score :=
  let values := ((rows.take 100).map fun row => toDisplayString cfg (getProperty row.data key)).filter
    (· ≠ "")
  if values.length < min 5 rows.length ∨ values = [] then none
  else
    let numericCount := (values.filter fun value => (cfg.number value).isSome).length
    let uniqueCount := values.dedup.length
    some { numerator := numericCount + uniqueCount, denominator := values.length }

/-- The best column so far after a further header. -/
def betterColumn (rows : List ParsedImportRow) (usedHeaders : List String)
    (best : Option String × Score) (header : ImportHeader) : Option String × Score :=
  if usedHeaders.contains header.key = true then best
  else
    match sequentialScore cfg rows header.key with
    | none => best
    | some score =>
        if Score.less ⟨18, 10⟩ score = true ∧ best.2.less score = true then
          (some header.key, score)
        else best

/-- The first unused column with the best score above 1.8. -/
def findSequentialIdentifierHeader (headers : List ImportHeader) (rows : List ParsedImportRow)
    (usedHeaders : List String) : Option String :=
  (headers.foldl (betterColumn cfg rows usedHeaders) (none, ⟨0, 1⟩)).1

/-! ## The mapping -/

/-- A mapping as it is stored or sent. -/
structure RawMapping where
  system : SystemField → Option Json
  customFields : List (String × Json)

structure ImportMapping where
  system : SystemField → Option String
  customFields : List (String × String)

/-- `typeof value === 'string' && value.trim() ? value.trim() : undefined`. -/
def normalizeValue : Option Json → Option String
  | some (.str value) => truthy (some (trim value))
  | _ => none

/-- `Object.fromEntries`. -/
def fromEntries {α : Type} (entries : List (String × α)) : List (String × α) :=
  entries.foldl (fun data entry => defineProperty data entry.1 entry.2) []

def normalizeMapping (mapping : RawMapping) : ImportMapping where
  system field := normalizeValue (mapping.system field)
  customFields := fromEntries (mapping.customFields.filterMap fun entry =>
    if trim entry.1 = "" then none
    else (normalizeValue (some entry.2)).map fun value => (trim entry.1, value))

/-! ## The suggestion -/

/-- The texts that are looked for on behalf of a field of the event. -/
def fieldTexts (field : RegistrationField) : List String :=
  [field.key, field.labelAr, field.labelEn.getD ""]

/-- A search finds the header of texts outside the used ones. -/
abbrev Search := List String → List String → Option ImportHeader

/-- The key that is mapped to a target. A header without a key is as good as none. -/
def pick (find : Search) (aliases usedHeaders : List String) : Option String :=
  (find aliases usedHeaders).bind fun header => truthy (some header.key)

section Targets

variable {κ : Type} (find : Search) (aliases : κ → List String)

/-- The targets for which a header is found, one after the other. -/
def pickFrom : List κ → List String → List (κ × String)
  | [], _ => []
  | target :: rest, usedHeaders =>
      match pick find (aliases target) usedHeaders with
      | some key => (target, key) :: pickFrom rest (key :: usedHeaders)
      | none => pickFrom rest usedHeaders

/-- The searches of `pickFrom`: the texts and the headers that are used by then. -/
def searches : List κ → List String → List (List String × List String)
  | [], _ => []
  | target :: rest, usedHeaders =>
      (aliases target, usedHeaders) ::
        searches rest ((pick find (aliases target) usedHeaders).toList ++ usedHeaders)

end Targets

def pickSystem (find : Search) : List (SystemField × String) :=
  pickFrom find SystemField.aliases SystemField.all []

/-- The column of sequential identifiers, when no header was found for the external id. -/
def sequentialHeader (headers : List ImportHeader) (rows : List ParsedImportRow)
    (picked : List (SystemField × String)) : Option String :=
  if (picked.lookup .externalId).isSome = true then none
  else truthy (findSequentialIdentifierHeader cfg headers rows (picked.map (·.2)))

/-- The headers of the system fields. -/
def systemHeaders (find : Search) (headers : List ImportHeader) (rows : List ParsedImportRow) :
    List (SystemField × String) :=
  ((sequentialHeader cfg headers rows (pickSystem find)).map (SystemField.externalId, ·)).toList ++
    pickSystem find

/-- The headers of the fields of the event. -/
def pickCustom (find : Search) (headers : List ImportHeader) (rows : List ParsedImportRow)
    (registrationFields : List RegistrationField) : List (RegistrationField × String) :=
  pickFrom find fieldTexts registrationFields ((systemHeaders cfg find headers rows).map (·.2))

/-- `suggestMapping` with a search for headers. -/
def suggestBy (find : Search) (headers : List ImportHeader) (rows : List ParsedImportRow)
    (registrationFields : List RegistrationField) : ImportMapping :=
  normalizeMapping {
    system := fun field => ((systemHeaders cfg find headers rows).lookup field).map .str
    customFields := (pickCustom cfg find headers rows registrationFields).foldl
      (fun data p => setProperty data p.1.key (.str p.2)) [] }

def suggestMapping (headers : List ImportHeader) (rows : List ParsedImportRow)
    (registrationFields : List RegistrationField) : ImportMapping :=
  suggestBy cfg (findHeaderFromHeaders cfg headers) headers rows registrationFields

end ImportsService

end CreativeBackend
