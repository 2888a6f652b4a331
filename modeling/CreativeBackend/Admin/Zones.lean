import CreativeBackend.Admin.PartialUpdates

/-!
# Zones

`ZonesService.create` and `ZonesService.remove` over the rows that administrators edit, and the
requests that reach the three writing routes of zones through the validation pipe.

## Implementation notes

The rows that hang on checkpoints are not rows of this store. Most of them go with the checkpoint;
an offline scan operation restricts the deletion of its checkpoint, so a removal is given the
checkpoints that are held in this way.
-/

namespace CreativeBackend

open Relational

namespace AdminStore

variable (s : AdminStore)

/-- A new row: the columns that are given, and the defaults of the others. -/
def newRow {m : Model} (defaults : String → Cell) (data : Columns) : Row m where
  cell column :=
    if column = "createdAt" ∨ column = "updatedAt" then .date (some s.clock)
    else (data column).getD (defaults column)

/-- `create`. -/
def create (m : Model) (required : List String) (defaults : String → Cell) (data : Columns) :
    Answer (Row m) :=
  if !m.columns.all (fits data) || !required.all (fun column => (data column).isSome) then
    (.error (.prisma .validation), s)
  else if !s.refersAll m data then (.error (.prisma .foreignKey), s)
  else
    match (s.table m).create (s.newRow defaults data) with
    | none => (.error (.prisma .uniqueConstraint), s)
    | some (row, t) => (.ok row, s.withTable m t)

end AdminStore

/-- `ON DELETE SET NULL` on a column that refers to deleted rows. -/
def Row.clear {m : Model} (column : String) (ids : List Id) (row : Row m) : Row m :=
  if (row.str? column).any (· ∈ ids) then
    { row with cell := fun c => if c = column then .json .null else row.cell c }
  else row

namespace Row

variable {m : Model}

@[simp] theorem clear_id (column : String) (ids : List Id) (row : Row m) :
    (row.clear column ids).id = row.id := by
  unfold clear
  split <;> rfl

theorem clear_str?_of_ne {column c : String} (h : c ≠ column) (ids : List Id) (row : Row m) :
    (row.clear column ids).str? c = row.str? c := by
  unfold clear
  split
  · simp [str?, h]
  · rfl

/-- The column afterwards. -/
theorem clear_str? (column : String) (ids : List Id) (row : Row m) :
    (row.clear column ids).str? column =
      if (row.str? column).any (· ∈ ids) then none else row.str? column := by
  unfold clear
  split
  · simp [str?, Cell.str?]
  · rfl

end Row

namespace AdminStore

variable (s : AdminStore)

/-- `ON DELETE SET NULL` in the rows of a model. -/
def clearColumn (m : Model) (column : String) (hcolumn : column ∉ m.uniqueIndex) (ids : List Id) :
    AdminStore :=
  s.withTable m ((s.table m).mapRows (Row.clear column ids) (Row.clear_id column ids)
    (fun _ _ h => (Row.sameIndex_congr
      (fun _ hc => Row.clear_str?_of_ne (ne_of_mem_of_not_mem hc hcolumn) ids _)
      (fun _ hc => Row.clear_str?_of_ne (ne_of_mem_of_not_mem hc hcolumn) ids _)).symm.trans h))

def deleteMany (m : Model) (where_ : Row m → Bool) : AdminStore :=
  s.withTable m ((s.table m).deleteMany where_)

/-- `zone.deleteMany` by primary keys. -/
def deleteZones (ids : List Id) : AdminStore :=
  s.deleteMany .zone (fun z => z.id ∈ ids)
    |>.clearColumn .zone "parentId" (by decide) ids
    |>.clearColumn .checkpoint "zoneId" (by decide) ids

end AdminStore

/-! ## The subtree of a zone -/

/-- The levels below the current one, without zones that were visited before. -/
def zoneLevels (childrenOf : Id → List Id) : Nat → List Id → List Id → List (List Id)
  | 0, _, _ => []
  | fuel + 1, visited, current =>
      let level := current.filter (· ∉ visited)
      if level = [] then []
      else level :: zoneLevels childrenOf fuel (visited ++ level) (level.flatMap childrenOf)

/-- `collectZoneSubtree`: every level has a zone that was not visited before, so there are at most
as many levels as roots and zones. -/
def collectZoneSubtree (zones : List (Row .zone)) (rootIds : List Id) : List (List Id) :=
  let childrenOf id := (zones.filter fun z => truthy (z.str? "parentId") = some id).map (·.id)
  zoneLevels childrenOf (rootIds.length + zones.length + 1) [] rootIds.eraseDups

namespace ZonesService

variable (s : AdminStore)

/-- The code of a new zone is no other zone's of the event. -/
def ensureCodeIsNew (eventId : Id) (code : Option String) : Except Exn Unit :=
  match truthy code with
  | none => .ok ()
  | some code =>
      match s.findFirst .zone fun z =>
          z.str? "eventId" = some eventId && z.str? "code" = some code with
      | some _ => .error (.conflict "Zone code already exists for this event")
      | none => .ok ()

/-- The checks of `create`. A zone that is found under its key has a key that is not empty, so
`""` stands for no current zone. -/
def createChecks (dto : Columns) : Except Exn Unit := do
  let eventId := (dto.str? "eventId").getD ""
  s.ensureEventCanBeModified eventId
  s.ensureVenueBelongsToEvent (dto.str? "venueId") eventId
  ensureParentBelongsToEvent s (dto.str? "parentId") eventId ""
  ensureCodeIsNew s eventId (dto.str? "code")

/-- The database's default of a column of a zone. -/
def defaults : String → Cell
  | "sortOrder" => .json (.num 0)
  | _ => .json .null

def create (dto : Columns) : AdminStore.Answer (Row .zone) :=
  match createChecks s dto with
  | .error e => (.error e, s)
  | .ok () => s.create .zone ["eventId", "nameAr"] defaults dto

/-- The checks of `remove`, and the zone. -/
def removable (id : Id) : Except Exn (Row .zone) := do
  let zone ← s.findOne .zone "Zone" id
  s.ensureEventCanBeModified ((zone.str? "eventId").getD "")
  return zone

/-- The transaction of `remove`; `held` are the checkpoints that cannot be deleted. -/
def removeSubtree (held : Id → Bool) (zone : Row .zone) : AdminStore.Answer Unit :=
  let eventZones := (s.table .zone).rows.filter fun z =>
    z.str? "eventId" = zone.str? "eventId"
  let levels := collectZoneSubtree eventZones [zone.id]
  let inZone (c : Row .checkpoint) : Bool := (c.str? "zoneId").any (· ∈ levels.flatten)
  if (s.table .checkpoint).rows.any fun c => inZone c && held c.id then
    (.error (.prisma .foreignKey), s)
  else (.ok (), levels.reverse.foldl AdminStore.deleteZones (s.deleteMany .checkpoint inZone))

def remove (held : Id → Bool) (id : Id) : AdminStore.Answer Unit :=
  match removable s id with
  | .error e => (.error e, s)
  | .ok zone => removeSubtree s held zone

end ZonesService

/-! ## Requests -/

/-- The writing routes of zones. -/
inductive ZoneRequest where
  | create (body : List (String × Json))
  | update (id : Id) (body : List (String × Json))
  | remove (id : Id) (held : Id → Bool)

/-- What a request answers, and the store it leaves. -/
def ZoneRequest.perform (p : Platform) (s : AdminStore) : ZoneRequest → AdminStore.Answer Unit
  | .create body =>
      match ValidationPipe.transform p CreateZoneDto body with
      | .error e => (.error e, s)
      | .ok dto => ((ZonesService.create s dto).1.map fun _ => (), (ZonesService.create s dto).2)
  | .update id body =>
      ((Resource.zone.patch p s id body).1.map fun _ => (), (Resource.zone.patch p s id body).2)
  | .remove id held => ZonesService.remove s held id

/-- The stores that requests lead to, one after another, where each meets a condition. -/
inductive ZoneRun (p : Platform) (meets : AdminStore → ZoneRequest → Prop) (s₀ : AdminStore) :
    AdminStore → Prop
  | start : ZoneRun p meets s₀ s₀
  | next {s : AdminStore} {r : ZoneRequest} (h : ZoneRun p meets s₀ s) (hr : meets s r) :
      ZoneRun p meets s₀ (r.perform p s).2

end CreativeBackend
