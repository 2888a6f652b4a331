import CreativeBackend.Admin.Rows

/-!
# The update services

The DTO classes of events, attendee types, registration fields, checkpoints and zones,
and the `update` functions of their services. Each function reads its row, makes its
checks and writes one object of columns.
-/

namespace CreativeBackend

open Relational

/-! ## DTO classes -/

def eventTypes : List String :=
  ["EXHIBITION", "CONFERENCE", "WORKSHOP", "SUMMIT", "FESTIVAL", "CAREER_FAIR", "OTHER"]

def checkpointTypes : List String :=
  ["ENTRY", "EXIT", "BOOTH", "SESSION_ROOM", "VIP_AREA", "INTERNAL_POINT", "WORKSHOP_AREA", "OTHER"]

def registrationFieldTypes : List String :=
  ["TEXT", "TEXTAREA", "NUMBER", "EMAIL", "PHONE", "DATE", "BOOLEAN", "SELECT", "MULTI_SELECT",
    "FILE"]

/-- `@IsString() name: string`. -/
def stringProperty (name : String) : Property := { name, check := fun _ => isString }

/-- `@IsOptional() @IsString() name?: string`. -/
def optionalStringProperty (name : String) : Property :=
  { name, isOptional := true, check := fun _ => isString }

/-- `@IsString() @MaxLength(n)`. -/
def boundedProperty (name : String) (n : Nat) (isOptional : Bool) : Property :=
  { name, isOptional, check := fun _ => maxLength n }

/-- `@IsOptional() @Type(() => Boolean) @IsBoolean() name?: boolean = value`. -/
def booleanProperty (name : String) (value : Bool) : Property :=
  { name, initialiser := some (.bool value), isOptional := true, convert := fun _ => toBoolean,
    check := fun _ => isBoolean }

/-- `@IsOptional() @Type(() => Number) @IsInt() @Min(0) sortOrder?: number = 0`. -/
def sortOrderProperty : Property :=
  { name := "sortOrder", initialiser := some (.num 0), isOptional := true, convert := toNumber,
    check := fun _ => isNatural }

def CreateEventDto : DtoClass := [
  stringProperty "clientId",
  { name := "type", check := fun _ => isEnum eventTypes },
  stringProperty "titleAr",
  optionalStringProperty "titleEn",
  optionalStringProperty "descriptionAr",
  optionalStringProperty "descriptionEn",
  { name := "startsAt", check := isDateString },
  { name := "endsAt", check := isDateString },
  { name := "timezone", initialiser := some (.str "Asia/Damascus"), isOptional := true,
    check := fun _ => isString },
  booleanProperty "allowReEntry" true,
  { name := "duplicateStrategy", initialiser := some (.str "PHONE"), isOptional := true,
    check := fun _ => isString },
  { name := "qrValidFrom", isOptional := true, check := isDateString },
  { name := "qrValidUntil", isOptional := true, check := isDateString }]

def UpdateEventDto : DtoClass := PartialType CreateEventDto

def CreateAttendeeTypeDto : DtoClass := [
  stringProperty "eventId",
  boundedProperty "code" 50 false,
  boundedProperty "nameAr" 200 false,
  boundedProperty "nameEn" 200 true,
  optionalStringProperty "descriptionAr",
  optionalStringProperty "descriptionEn",
  booleanProperty "isDefault" false,
  booleanProperty "isActive" true,
  sortOrderProperty]

def UpdateAttendeeTypeDto : DtoClass := PartialType (OmitType CreateAttendeeTypeDto ["eventId"])

def CreateRegistrationFieldDto : DtoClass := [
  stringProperty "eventId",
  optionalStringProperty "attendeeTypeId",
  boundedProperty "key" 100 false,
  boundedProperty "labelAr" 200 false,
  boundedProperty "labelEn" 200 true,
  { name := "type", check := fun _ => isEnum registrationFieldTypes },
  optionalStringProperty "placeholderAr",
  optionalStringProperty "placeholderEn",
  optionalStringProperty "helpTextAr",
  optionalStringProperty "helpTextEn",
  booleanProperty "isRequired" false,
  booleanProperty "isUnique" false,
  { name := "options", isOptional := true, check := fun _ _ => true },
  { name := "validation", isOptional := true, check := fun _ _ => true },
  sortOrderProperty,
  booleanProperty "isActive" true]

def UpdateRegistrationFieldDto : DtoClass :=
  PartialType (OmitType CreateRegistrationFieldDto ["eventId"])

def CreateCheckpointDto : DtoClass := [
  stringProperty "eventId",
  optionalStringProperty "venueId",
  optionalStringProperty "zoneId",
  { name := "type", check := fun _ => isEnum checkpointTypes },
  boundedProperty "nameAr" 200 false,
  boundedProperty "nameEn" 200 true,
  boundedProperty "code" 100 false,
  { name := "allowedAttendeeTypes", isOptional := true, check := fun _ => isStringArray },
  booleanProperty "isActive" true,
  sortOrderProperty]

def UpdateCheckpointDto : DtoClass := PartialType CreateCheckpointDto

def CreateZoneDto : DtoClass := [
  stringProperty "eventId",
  optionalStringProperty "venueId",
  optionalStringProperty "parentId",
  boundedProperty "nameAr" 200 false,
  boundedProperty "nameEn" 200 true,
  boundedProperty "code" 100 true,
  sortOrderProperty]

def UpdateZoneDto : DtoClass := PartialType CreateZoneDto

/-! ## Checks that the services share -/

/-- A check under a condition. -/
def checkIf (condition : Prop) [Decidable condition] (check : Except Exn Unit) : Except Exn Unit :=
  if condition then check else .ok ()

variable (p : Platform) (s : AdminStore)

namespace AdminStore

/-- `findOne`. -/
def findOne (m : Model) (name : String) (id : Id) : Except Exn (Row m) :=
  match s.findUnique m id with
  | none => .error (.notFound (name ++ " not found"))
  | some row => .ok row

def ensureEventCanBeModified (eventId : Id) : Except Exn Unit :=
  match s.findUnique .event eventId with
  | none => .error (.notFound "Event not found")
  | some event =>
      if event.str? "status" = some "ARCHIVED" then
        .error (.badRequest "Archived events cannot be modified")
      else .ok ()

/-- A row that is named must exist and belong to the event. -/
def ensureBelongsToEvent (m : Model) (name : String) (id : Option Id) (eventId : Id) :
    Except Exn Unit :=
  match truthy id with
  | none => .ok ()
  | some id =>
      match s.findUnique m id with
      | none => .error (.notFound (name ++ " not found"))
      | some row =>
          if row.str? "eventId" = some eventId then .ok ()
          else .error (.badRequest (name ++ " must belong to the same event"))

def ensureVenueBelongsToEvent (venueId : Option Id) (eventId : Id) : Except Exn Unit :=
  s.ensureBelongsToEvent .venue "Venue" venueId eventId

def ensureZoneBelongsToEvent (zoneId : Option Id) (eventId : Id) : Except Exn Unit :=
  s.ensureBelongsToEvent .zone "Zone" zoneId eventId

/-- No other row of the event has the code. -/
def ensureCodeIsUnique (m : Model) (name : String) (eventId : Id) (code : Option String)
    (excludeId : Id) : Except Exn Unit :=
  match truthy code with
  | none => .ok ()
  | some code =>
      match s.findFirst m fun row => row.str? "eventId" = some eventId &&
          row.str? "code" = some code && row.id ≠ excludeId with
      | some _ => .error (.conflict (name ++ " code already exists for this event"))
      | none => .ok ()

end AdminStore

/-- The maximal runs of some characters as one underscore each. -/
def collapse (run : Char → Bool) : List Char → List Char
  | [] => []
  | c :: cs =>
      if run c then
        match cs with
        | [] => ['_']
        | d :: _ => if run d then collapse run cs else '_' :: collapse run cs
      else c :: collapse run cs

/-- `/[\s-]+/g` replaced by underscores. -/
def underscored (cs : List Char) : List Char := collapse (fun c => isTrimmed c || c == '-') cs

/-! ## Events -/

namespace EventsService

/-- The client must exist where one is named. -/
def ensureClientExists : Option Id → Except Exn Unit
  | none => .ok ()
  | some clientId =>
      match s.findUnique .client clientId with
      | none => .error (.notFound "Client not found")
      | some _ => .ok ()

/-- An invalid date compares as false. -/
def ensureEndsAfterStarts : Cell → Cell → Except Exn Unit
  | .date (some startsAt), .date (some endsAt) =>
      if endsAt ≤ startsAt then .error (.badRequest "endsAt must be after startsAt") else .ok ()
  | _, _ => .ok ()

/-- `dto[key] ? new Date(dto[key]) : undefined`. -/
def dateOf (dto : Columns) (key : String) : Option Cell :=
  (dto.text? key).map fun s => .date (p.parseDate s)

/-- The checks of `update`, and the columns it writes. -/
def updateData (id : Id) (dto : Columns) : Except Exn Columns := do
  let event ← s.findOne .event "Event" id
  checkIf (event.str? "status" = some "ARCHIVED")
    (.error (.badRequest "Archived events cannot be modified"))
  ensureClientExists s (dto.text? "clientId")
  let startsAt := (dateOf p dto "startsAt").getD (event.cell "startsAt")
  let endsAt := (dateOf p dto "endsAt").getD (event.cell "endsAt")
  ensureEndsAfterStarts startsAt endsAt
  return dto
    |>.set "startsAt" (dateOf p dto "startsAt")
    |>.set "endsAt" (dateOf p dto "endsAt")
    |>.set "qrValidFrom" (dateOf p dto "qrValidFrom")
    |>.set "qrValidUntil" (dateOf p dto "qrValidUntil")

def update (id : Id) (dto : Columns) : AdminStore.Answer (Row .event) :=
  match updateData p s id dto with
  | .error e => (.error e, s)
  | .ok data => s.update .event id data

end EventsService

/-! ## Attendee types -/

namespace AttendeeTypesService

def normalizeCode (code : String) : String :=
  p.toUpperCase (String.ofList (underscored (trim code).toList))

def updateData (id : Id) (dto : Columns) : Except Exn (Row .attendeeType × Columns) := do
  let attendeeType ← s.findOne .attendeeType "Attendee type" id
  let eventId := (attendeeType.str? "eventId").getD ""
  s.ensureEventCanBeModified eventId
  let code := (dto.text? "code").map (normalizeCode p)
  s.ensureCodeIsUnique .attendeeType "Attendee type" eventId code id
  return (attendeeType, dto.set "code" (code.map fun c => .json (.str c)))

/-- `data.isDefault`. -/
def isDefault (data : Columns) : Bool :=
  match data "isDefault" with
  | some (.json (.bool b)) => b
  | _ => false

def update (id : Id) (dto : Columns) : AdminStore.Answer (Row .attendeeType) :=
  match updateData p s id dto with
  | .error e => (.error e, s)
  | .ok (attendeeType, data) =>
      if isDefault data then
        -- One transaction: a failed update also takes the cleared defaults back.
        match (s.clearDefaults ((attendeeType.str? "eventId").getD "") id).update .attendeeType id
            data with
        | (.error e, _) => (.error e, s)
        | (.ok row, s') => (.ok row, s')
      else s.update .attendeeType id data

end AttendeeTypesService

/-! ## Registration fields -/

namespace RegistrationFieldsService

/-- `/([a-z])([A-Z])/g` replaced by `$1_$2`. -/
def splitCamel : List Char → List Char
  | c :: d :: cs =>
      if c.isLower && d.isUpper then c :: '_' :: d :: splitCamel cs else c :: splitCamel (d :: cs)
  | cs => cs

def normalizeKey (key : String) : String :=
  let words := underscored (splitCamel (trim key).toList)
  let kept := words.filter fun c => c.isAlphanum || c == '_'
  p.toLowerCase (String.ofList (collapse (· == '_') kept))

def requiresOptions (type : Option String) : Bool := type = some "SELECT" || type = some "MULTI_SELECT"

def hasNonEmptyOptions : Cell → Bool
  | .json (.arr items) => items.length > 0
  | .json (.obj fields) => fields.length > 0
  | _ => false

/-- `normalizeOptions` and `normalizeExistingOptions`; `Prisma.JsonNull` reads as `null`. -/
def normalizeOptions (type : Option String) (options : Cell) : Except Exn Cell :=
  if !requiresOptions type then .ok (.json .null)
  else if hasNonEmptyOptions options then .ok options
  else .error (.badRequest "options must be provided for select fields")

def ensureAttendeeTypeBelongsToEvent (attendeeTypeId : Option Id) (eventId : Id) :
    Except Exn Unit :=
  s.ensureBelongsToEvent .attendeeType "Attendee type" attendeeTypeId eventId

def ensureKeyIsUnique (eventId : Id) (key : Option String) (attendeeTypeId : Option Id)
    (excludeId : Id) : Except Exn Unit :=
  match s.findFirst .registrationField fun row => row.str? "eventId" = some eventId &&
      row.str? "key" = key && row.str? "attendeeTypeId" = attendeeTypeId && row.id ≠ excludeId with
  | some _ => .error (.conflict
      "Registration field key already exists for this event and attendee type scope")
  | none => .ok ()

def updateData (id : Id) (dto : Columns) : Except Exn Columns := do
  let field ← s.findOne .registrationField "Registration field" id
  let eventId := (field.str? "eventId").getD ""
  s.ensureEventCanBeModified eventId
  let attendeeTypeId := (dto "attendeeTypeId").getD (field.cell "attendeeTypeId")
  ensureAttendeeTypeBelongsToEvent s attendeeTypeId.str? eventId
  let key := ((dto.text? "key").map fun k => .json (.str (normalizeKey p k))).getD (field.cell "key")
  ensureKeyIsUnique s eventId key.str? attendeeTypeId.str? id
  let type := (dto.str? "type").or (field.str? "type")
  let options ← normalizeOptions type ((dto "options").getD (field.cell "options"))
  return dto
    |>.set "attendeeTypeId" (some attendeeTypeId)
    |>.set "key" (some key)
    |>.set "options" (some options)

def update (id : Id) (dto : Columns) : AdminStore.Answer (Row .registrationField) :=
  match updateData p s id dto with
  | .error e => (.error e, s)
  | .ok data => s.update .registrationField id data

end RegistrationFieldsService

/-! ## Checkpoints -/

namespace CheckpointsService

def updateData (id : Id) (dto : Columns) : Except Exn Columns := do
  let checkpoint ← s.findOne .checkpoint "Checkpoint" id
  let eventId := (checkpoint.str? "eventId").getD ""
  s.ensureEventCanBeModified eventId
  let nextEventId := (dto.str? "eventId").getD eventId
  checkIf (nextEventId ≠ eventId) (s.ensureEventCanBeModified nextEventId)
  s.ensureVenueBelongsToEvent ((dto.str? "venueId").or (checkpoint.str? "venueId")) nextEventId
  s.ensureZoneBelongsToEvent ((dto.str? "zoneId").or (checkpoint.str? "zoneId")) nextEventId
  s.ensureCodeIsUnique .checkpoint "Checkpoint" nextEventId
    ((dto.str? "code").or (checkpoint.str? "code")) id
  return dto

def update (id : Id) (dto : Columns) : AdminStore.Answer (Row .checkpoint) :=
  match updateData s id dto with
  | .error e => (.error e, s)
  | .ok data => s.update .checkpoint id data

end CheckpointsService

/-! ## Zones -/

namespace ZonesService

def ensureZoneCanMove (id : Id) : Except Exn Unit :=
  if s.count .zone (fun z => z.str? "parentId" = some id) > 0 ∨
      s.count .checkpoint (fun c => c.str? "zoneId" = some id) > 0 then
    .error (.badRequest
      "Cannot move zone to another event while it has child zones or checkpoints")
  else .ok ()

def ensureParentBelongsToEvent (parentId : Option Id) (eventId currentZoneId : Id) :
    Except Exn Unit :=
  match truthy parentId with
  | none => .ok ()
  | some parentId =>
      match s.findUnique .zone parentId with
      | none => .error (.notFound "Parent zone not found")
      | some parent =>
          if parent.str? "eventId" ≠ some eventId then
            .error (.badRequest "Parent zone must belong to the same event")
          else if parent.id = currentZoneId then
            .error (.badRequest "Zone cannot be its own parent")
          else .ok ()

def updateData (id : Id) (dto : Columns) : Except Exn Columns := do
  let zone ← s.findOne .zone "Zone" id
  let eventId := (zone.str? "eventId").getD ""
  s.ensureEventCanBeModified eventId
  let nextEventId := (dto.str? "eventId").getD eventId
  checkIf (nextEventId ≠ eventId) (s.ensureEventCanBeModified nextEventId)
  checkIf (nextEventId ≠ eventId) (ensureZoneCanMove s id)
  checkIf (dto.str? "parentId" = some id) (.error (.badRequest "Zone cannot be its own parent"))
  s.ensureVenueBelongsToEvent ((dto.str? "venueId").or (zone.str? "venueId")) nextEventId
  ensureParentBelongsToEvent s ((dto.str? "parentId").or (zone.str? "parentId")) nextEventId id
  s.ensureCodeIsUnique .zone "Zone" nextEventId ((dto.str? "code").or (zone.str? "code")) id
  return dto

def update (id : Id) (dto : Columns) : AdminStore.Answer (Row .zone) :=
  match updateData s id dto with
  | .error e => (.error e, s)
  | .ok data => s.update .zone id data

end ZonesService

/-! ## The PATCH routes -/

/-- What has a PATCH route. -/
inductive Resource where
  | event | attendeeType | registrationField | checkpoint | zone
  deriving DecidableEq, Repr

namespace Resource

abbrev model : Resource → Model
  | .event => .event
  | .attendeeType => .attendeeType
  | .registrationField => .registrationField
  | .checkpoint => .checkpoint
  | .zone => .zone

abbrev dto : Resource → DtoClass
  | .event => UpdateEventDto
  | .attendeeType => UpdateAttendeeTypeDto
  | .registrationField => UpdateRegistrationFieldDto
  | .checkpoint => UpdateCheckpointDto
  | .zone => UpdateZoneDto

def update : (r : Resource) → Id → Columns → AdminStore.Answer (Row r.model)
  | .event => EventsService.update p s
  | .attendeeType => AttendeeTypesService.update p s
  | .registrationField => RegistrationFieldsService.update p s
  | .checkpoint => CheckpointsService.update s
  | .zone => ZonesService.update s

/-- The validation pipe and the service. -/
def patch (r : Resource) (id : Id) (body : List (String × Json)) :
    AdminStore.Answer (Row r.model) :=
  match ValidationPipe.transform p r.dto body with
  | .error e => (.error e, s)
  | .ok dto => r.update p s id dto

end Resource

end CreativeBackend
