import CreativeBackend.Admin.Dto

/-!
# The rows that administrators edit

The tables of clients, events, attendee types, registration fields, venues, zones and
checkpoints with all their columns, and the statements of the services on them.

## Implementation notes

A cell holds what the Prisma client reads: a JSON null and a database null are both
`null`. An update writes the defined columns of its data, sets `updatedAt`, and is
refused when a value does not fit its column, an index or a foreign key.
-/

namespace CreativeBackend

open Relational

inductive Model where
  | client | event | attendeeType | registrationField | venue | zone | checkpoint
  deriving DecidableEq, Repr

/-- A column, and whether an update may write `null` to it: Prisma refuses `null` for
required and JSON columns, and takes `Prisma.JsonNull`, which only `options` is given. -/
structure Column where
  name : String
  nullable : Bool := false

namespace Model

/-- The columns of a model that an update may write. -/
def columns : Model → List Column
  | .client => [⟨"name", false⟩]
  | .event => [⟨"clientId", false⟩, ⟨"type", false⟩, ⟨"status", false⟩, ⟨"titleAr", false⟩,
      ⟨"titleEn", true⟩, ⟨"descriptionAr", true⟩, ⟨"descriptionEn", true⟩, ⟨"startsAt", false⟩,
      ⟨"endsAt", false⟩, ⟨"timezone", false⟩, ⟨"allowReEntry", false⟩,
      ⟨"duplicateStrategy", false⟩, ⟨"qrValidFrom", true⟩, ⟨"qrValidUntil", true⟩,
      ⟨"isActive", false⟩]
  | .attendeeType => [⟨"eventId", false⟩, ⟨"code", false⟩, ⟨"nameAr", false⟩, ⟨"nameEn", true⟩,
      ⟨"descriptionAr", true⟩, ⟨"descriptionEn", true⟩, ⟨"isDefault", false⟩,
      ⟨"isActive", false⟩, ⟨"sortOrder", false⟩]
  | .registrationField => [⟨"eventId", false⟩, ⟨"attendeeTypeId", true⟩, ⟨"key", false⟩,
      ⟨"labelAr", false⟩, ⟨"labelEn", true⟩, ⟨"type", false⟩, ⟨"placeholderAr", true⟩,
      ⟨"placeholderEn", true⟩, ⟨"helpTextAr", true⟩, ⟨"helpTextEn", true⟩,
      ⟨"isRequired", false⟩, ⟨"isUnique", false⟩, ⟨"options", true⟩, ⟨"validation", false⟩,
      ⟨"sortOrder", false⟩, ⟨"isActive", false⟩]
  | .venue => [⟨"eventId", false⟩, ⟨"nameAr", false⟩]
  | .zone => [⟨"eventId", false⟩, ⟨"venueId", true⟩, ⟨"parentId", true⟩, ⟨"nameAr", false⟩,
      ⟨"nameEn", true⟩, ⟨"code", true⟩, ⟨"sortOrder", false⟩]
  | .checkpoint => [⟨"eventId", false⟩, ⟨"venueId", true⟩, ⟨"zoneId", true⟩, ⟨"type", false⟩,
      ⟨"nameAr", false⟩, ⟨"nameEn", true⟩, ⟨"code", false⟩, ⟨"allowedAttendeeTypes", false⟩,
      ⟨"isActive", false⟩, ⟨"sortOrder", false⟩]

/-- The columns of the unique index. -/
def uniqueIndex : Model → List String
  | .attendeeType | .zone | .checkpoint => ["eventId", "code"]
  | .registrationField => ["eventId", "key", "attendeeTypeId"]
  | .client | .event | .venue => []

/-- The foreign keys. -/
def references : Model → List (String × Model)
  | .client => []
  | .event => [("clientId", .client)]
  | .attendeeType => [("eventId", .event)]
  | .registrationField => [("eventId", .event), ("attendeeTypeId", .attendeeType)]
  | .venue => [("eventId", .event)]
  | .zone => [("eventId", .event), ("venueId", .venue), ("parentId", .zone)]
  | .checkpoint => [("eventId", .event), ("venueId", .venue), ("zoneId", .zone)]

end Model

/-- A row with its primary key and its other columns. -/
structure Row (m : Model) where
  id : Id := ""
  cell : String → Cell

namespace Row

variable {m : Model}

/-- The column when it is a string. -/
def str? (row : Row m) (column : String) : Option String := (row.cell column).str?

/-- Equal strings in every column of the unique index. -/
def sameIndex (a b : Row m) : Bool :=
  !m.uniqueIndex.isEmpty && m.uniqueIndex.all fun column =>
    (a.str? column).isSome && a.str? column == b.str? column

/-- The index compares only its own columns. -/
theorem sameIndex_congr {a a' b b' : Row m}
    (ha : ∀ column ∈ m.uniqueIndex, a'.str? column = a.str? column)
    (hb : ∀ column ∈ m.uniqueIndex, b'.str? column = b.str? column) :
    sameIndex a' b' = sameIndex a b := by
  unfold sameIndex
  congr 1
  rw [Bool.eq_iff_iff, List.all_eq_true, List.all_eq_true]
  exact forall₂_congr fun column hcolumn => by rw [ha column hcolumn, hb column hcolumn]

end Row

instance (m : Model) : Record (Row m) Id where
  key := (·.id)
  withKey k a := { a with id := k }
  key_withKey _ _ := rfl
  clash := Row.sameIndex

structure AdminStore where
  clock : Time
  table : (m : Model) → Table (Row m)

namespace AdminStore

variable (s : AdminStore)

/-- What a service answers, and the store it leaves. -/
abbrev Answer (α : Type) := Except Exn α × AdminStore

def findUnique (m : Model) (id : Id) : Option (Row m) := (s.table m).find? id

def findFirst (m : Model) (where_ : Row m → Bool) : Option (Row m) :=
  (s.table m).rows.find? where_

def count (m : Model) (where_ : Row m → Bool) : Nat := ((s.table m).rows.filter where_).length

/-- The store with another table of a model. -/
def withTable (m : Model) (t : Table (Row m)) : AdminStore :=
  { s with table := fun n => if h : m = n then h ▸ t else s.table n }

@[simp] theorem withTable_table (m : Model) (t : Table (Row m)) :
    (s.withTable m t).table m = t := by
  simp [withTable]

/-- The columns of an update that are written. -/
def applyColumns {m : Model} (data : Columns) (row : Row m) : Row m :=
  { row with cell := fun column =>
      if column = "updatedAt" then .date (some s.clock) else (data column).getD (row.cell column) }

/-- Whether a value fits a column. -/
def fits (data : Columns) (column : Column) : Bool :=
  match data column.name with
  | none => true
  | some (.json .null) => column.nullable
  | some (.json _) => true
  | some (.date t) => t.isSome

/-- Whether the foreign keys that an update writes refer to rows. -/
def refersAll (m : Model) (data : Columns) : Bool :=
  m.references.all fun r =>
    match (data r.1).bind Cell.str? with
    | none => true
    | some id => (s.findUnique r.2 id).isSome

/-- `update` by primary key. -/
def update (m : Model) (id : Id) (data : Columns) : Answer (Row m) :=
  if !m.columns.all (fits data) then (.error (.prisma .validation), s)
  else if !s.refersAll m data then (.error (.prisma .foreignKey), s)
  else
    match (s.table m).update id (s.applyColumns data) with
    | .missing => (.error (.prisma .notFound), s)
    | .duplicate => (.error (.prisma .uniqueConstraint), s)
    | .done row t => (.ok row, s.withTable m t)

/-- The row of an attendee type after another of its event became the default. -/
def clearDefault (eventId id : Id) (row : Row .attendeeType) : Row .attendeeType :=
  if row.str? "eventId" = some eventId ∧ row.id ≠ id then
    s.applyColumns (Columns.set (fun _ => none) "isDefault" (some (.json (.bool false)))) row
  else row

theorem clearDefault_id (eventId id : Id) (row : Row .attendeeType) :
    (s.clearDefault eventId id row).id = row.id := by
  unfold clearDefault
  split <;> rfl

theorem clearDefault_str? (eventId id : Id) (row : Row .attendeeType) {column : String}
    (h : column ∈ Model.attendeeType.uniqueIndex) :
    (s.clearDefault eventId id row).str? column = row.str? column := by
  have hne : column ≠ "isDefault" ∧ column ≠ "updatedAt" := by
    simp only [Model.uniqueIndex, List.mem_cons, List.not_mem_nil, or_false] at h
    rcases h with rfl | rfl <;> decide
  unfold clearDefault
  split
  · simp [Row.str?, applyColumns, Columns.set, hne]
  · rfl

/-- `attendeeType.updateMany` of the other types of an event to `isDefault: false`. -/
def clearDefaults (eventId id : Id) : AdminStore :=
  s.withTable .attendeeType ((s.table .attendeeType).mapRows (s.clearDefault eventId id)
    (s.clearDefault_id eventId id)
    (fun _ _ h => (Row.sameIndex_congr (fun _ => s.clearDefault_str? eventId id _)
      (fun _ => s.clearDefault_str? eventId id _)).symm.trans h))

variable {s}

/-- What a successful update leaves. -/
theorem update_eq_ok {m : Model} {id : Id} {data : Columns} {row : Row m} {s' : AdminStore}
    (h : s.update m id data = (.ok row, s')) :
    ∃ old, s.findUnique m id = some old ∧ s'.findUnique m id = some (s.applyColumns data old) := by
  unfold update at h
  split at h
  · cases h
  · split at h
    · cases h
    · split at h
      · cases h
      · cases h
      · next new t hupdate =>
          cases h
          obtain ⟨old, hold, hkey, hrow, -, -⟩ := Table.update_eq_done hupdate
          have hnew : row = s.applyColumns data old := by
            rw [hrow, ← hkey]
            rfl
          refine ⟨old, Table.find?_eq_some_iff.mpr ⟨hold, hkey⟩, ?_⟩
          simp only [findUnique, withTable_table]
          exact Table.find?_eq_some_iff.mpr ⟨(Table.mem_update hupdate).mpr (.inr hnew.symm), hkey⟩

end AdminStore

end CreativeBackend
