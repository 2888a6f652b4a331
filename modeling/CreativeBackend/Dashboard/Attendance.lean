import CreativeBackend.Dashboard.Lists
import CreativeBackend.Relational.Levels

/-!
# The attendance of registrations

The list of a client and the export both group the allowed movements of registrations by their type
and read the attendance off the groups. The database returns the groups in any order.
-/

namespace CreativeBackend

inductive AttendanceStatus where
  | NOT_CHECKED_IN | INSIDE | EXITED
  deriving DecidableEq, Repr

/-! ## Groups -/

/-- A group of movements, with `_min` and `_max` of their times. -/
structure MovementGroup where
  registrationId : Id
  type : MovementType
  firstAt : Option Time
  lastAt : Option Time

/-- The times of the movements of a registration of one type. -/
def timesOf (logs : List MovementLog) (registrationId : Id) (type : MovementType) : List Time :=
  (logs.filter fun m => m.registrationId = registrationId && m.type = type).map (·.occurredAt)

/-- `groupBy(['registrationId', 'type'])`. -/
def groupMovements (logs : List MovementLog) : List MovementGroup :=
  ((logs.map fun m => (m.registrationId, m.type)).eraseDups).map fun key =>
    { registrationId := key.1, type := key.2
      firstAt := (timesOf logs key.1 key.2).min?
      lastAt := (timesOf logs key.1 key.2).max? }

/-- An entry or an exit that was allowed. -/
def isPassage (m : MovementLog) : Bool :=
  (m.type = .ENTRY || m.type = .EXIT) && m.result = .ALLOWED

/-- The map that a loop over the groups builds, which changes the entry of one registration at a
time. -/
def attendanceMap {α : Type} (addGroup : α → MovementGroup → α) (createEmptyAttendance : α)
    (movementGroups : List MovementGroup) : Id → Option α :=
  movementGroups.foldl (fun result group registrationId =>
    if registrationId = group.registrationId then
      some (addGroup ((result registrationId).getD createEmptyAttendance) group)
    else result registrationId) fun _ => none

/-! ## The export -/

namespace RegistrationExcelExporter

structure ExportAttendanceInfo where
  status : AttendanceStatus
  firstEntryAt : Option Time
  lastEntryAt : Option Time
  lastExitAt : Option Time
  deriving DecidableEq, Repr

def createEmptyAttendance : ExportAttendanceInfo :=
  { status := .NOT_CHECKED_IN, firstEntryAt := none, lastEntryAt := none, lastExitAt := none }

def resolveAttendanceStatus (attendance : ExportAttendanceInfo) : AttendanceStatus :=
  match attendance.lastEntryAt, attendance.lastExitAt with
  | none, _ => .NOT_CHECKED_IN
  | some _, none => .INSIDE
  | some entry, some exit => if entry > exit then .INSIDE else .EXITED

/-- The body of the loop over the groups. -/
def addGroup (current : ExportAttendanceInfo) (group : MovementGroup) : ExportAttendanceInfo :=
  let current := if group.type = .ENTRY then
    { current with firstEntryAt := group.firstAt, lastEntryAt := group.lastAt } else current
  let current := if group.type = .EXIT then { current with lastExitAt := group.lastAt } else current
  { current with status := resolveAttendanceStatus current }

/-- The movements that the export groups. -/
def passages (db : DashboardDb) (registrationIds : List Id) : List MovementLog :=
  db.movementLogs.filter fun m => m.registrationId ∈ registrationIds && isPassage m

def getAttendanceMap (movementGroups : List MovementGroup) : Id → Option ExportAttendanceInfo :=
  attendanceMap addGroup createEmptyAttendance movementGroups

end RegistrationExcelExporter

/-! ## The list of a client -/

namespace ClientRegistrationsService

structure AttendanceInfo where
  status : AttendanceStatus
  hasCheckedIn : Bool
  hasExited : Bool
  firstCheckedInAt : Option Time
  lastEntryAt : Option Time
  lastCheckedOutAt : Option Time
  deriving DecidableEq, Repr

def createEmptyAttendance : AttendanceInfo :=
  { status := .NOT_CHECKED_IN, hasCheckedIn := false, hasExited := false
    firstCheckedInAt := none, lastEntryAt := none, lastCheckedOutAt := none }

def resolveAttendanceStatus (attendance : AttendanceInfo) : AttendanceStatus :=
  if !attendance.hasCheckedIn then .NOT_CHECKED_IN
  else match attendance.lastCheckedOutAt with
    | none => .INSIDE
    | some exit => if attendance.lastEntryAt.any (· > exit) then .INSIDE else .EXITED

/-- The body of the loop over the groups. -/
def addGroup (current : AttendanceInfo) (group : MovementGroup) : AttendanceInfo :=
  let current := if group.type = .ENTRY then
    { current with hasCheckedIn := true, firstCheckedInAt := group.firstAt
                   lastEntryAt := group.lastAt } else current
  if group.type = .EXIT then
    { current with hasExited := true, lastCheckedOutAt := group.lastAt } else current

/-- The movements that the list of a client groups. -/
def passages {ρ : Type} [Ord ρ] (c : Collation ρ) (db : DashboardDb) (clientId : Id)
    (registrationIds : List Id) : List MovementLog :=
  db.movementLogs.filter fun m => m.registrationId ∈ registrationIds &&
    (db.events.find? fun e => e.id = m.eventId).any (fun e => c.same e.clientId clientId) &&
      isPassage m

def getAttendanceMap (movementGroups : List MovementGroup) : Id → Option AttendanceInfo :=
  fun registrationId =>
    (attendanceMap addGroup createEmptyAttendance movementGroups registrationId).map
      fun attendance => { attendance with status := resolveAttendanceStatus attendance }

end ClientRegistrationsService

/-! ## The groups of one registration -/

variable {α : Type} {add : α → MovementGroup → α} {empty : α}
  {logs : List MovementLog} {groups : List MovementGroup} {registrationId : Id}
  {type : MovementType}

theorem attendanceMap_eq_foldl (add : α → MovementGroup → α) (empty : α)
    (groups : List MovementGroup) (registrationId : Id) :
    attendanceMap add empty groups registrationId =
      (groups.filter fun g => g.registrationId = registrationId).foldl
        (fun result group => some (add (result.getD empty) group)) none := by
  suffices hfold : ∀ result : Id → Option α,
      groups.foldl (fun result group registrationId =>
        if registrationId = group.registrationId then
          some (add ((result registrationId).getD empty) group)
        else result registrationId) result registrationId =
      (groups.filter fun g => g.registrationId = registrationId).foldl
        (fun result group => some (add (result.getD empty) group))
          (result registrationId) from hfold _
  induction groups with
  | nil => exact fun _ => rfl
  | cons group groups ih =>
      intro result
      rw [List.foldl_cons, ih]
      by_cases hid : registrationId = group.registrationId
      · simp [hid]
      · simp [hid, Ne.symm hid]

/-- The group of the movements of a registration of one type. -/
def groupOf (logs : List MovementLog) (registrationId : Id) (type : MovementType) : MovementGroup :=
  { registrationId, type
    firstAt := (timesOf logs registrationId type).min?
    lastAt := (timesOf logs registrationId type).max? }

/-- The groups of a registration that are not empty. -/
def groupsOf (logs : List MovementLog) (registrationId : Id) : List MovementGroup :=
  [MovementType.ENTRY, .EXIT].filterMap fun type =>
    if timesOf logs registrationId type = [] then none else some (groupOf logs registrationId type)

theorem timesOf_ne_nil_iff : timesOf logs registrationId type ≠ [] ↔
    ∃ m ∈ logs, m.registrationId = registrationId ∧ m.type = type := by
  simp [timesOf]

theorem mem_groupMovements_iff {g : MovementGroup} : g ∈ groupMovements logs ↔
    g = groupOf logs g.registrationId g.type ∧ timesOf logs g.registrationId g.type ≠ [] := by
  simp only [groupMovements, List.mem_map, List.mem_eraseDups, timesOf_ne_nil_iff]
  constructor
  · rintro ⟨_, ⟨m, hm, rfl⟩, rfl⟩
    exact ⟨rfl, m, hm, rfl, rfl⟩
  · rintro ⟨hg, m, hm, hid, htype⟩
    refine ⟨_, ⟨m, hm, rfl⟩, ?_⟩
    rw [hg, hid, htype]
    rfl

theorem nodup_groupMovements (logs : List MovementLog) : (groupMovements logs).Nodup := by
  refine List.Nodup.map ?_ (Relational.nodup_eraseDups _)
  intro a b h
  simp only [MovementGroup.mk.injEq] at h
  exact Prod.ext h.1 h.2.1

theorem nodup_groupsOf (logs : List MovementLog) (registrationId : Id) :
    (groupsOf logs registrationId).Nodup := by
  refine List.Nodup.filterMap ?_ (by decide)
  intro a b g ha hb
  by_cases hnone : timesOf logs registrationId a = []
  · simp [hnone] at ha
  · by_cases hnone' : timesOf logs registrationId b = []
    · simp [hnone'] at hb
    · simp only [hnone, hnone', if_false, Option.mem_def, Option.some.injEq] at ha hb
      exact congrArg MovementGroup.type (ha.trans hb.symm)

/-- Of entries and exits, a registration has the groups of each type that has movements. -/
theorem perm_groupsOf (hlogs : ∀ m ∈ logs, m.type = .ENTRY ∨ m.type = .EXIT)
    (h : groups.Perm (groupMovements logs)) :
    (groups.filter fun g => g.registrationId = registrationId).Perm
      (groupsOf logs registrationId) := by
  refine (h.filter _).trans ((List.perm_ext_iff_of_nodup
    ((nodup_groupMovements logs).filter _) (nodup_groupsOf logs registrationId)).mpr fun g => ?_)
  simp only [List.mem_filter, mem_groupMovements_iff, decide_eq_true_eq, groupsOf,
    List.mem_filterMap, Option.ite_none_left_eq_some, Option.some.injEq]
  constructor
  · rintro ⟨⟨hg, htimes⟩, rfl⟩
    obtain ⟨m, hm, -, htype⟩ := timesOf_ne_nil_iff.mp htimes
    refine ⟨g.type, ?_, htimes, hg.symm⟩
    simpa [← htype] using hlogs m hm
  · rintro ⟨type, -, htimes, rfl⟩
    exact ⟨⟨rfl, htimes⟩, rfl⟩

/-- The order of the groups does not matter to a loop whose steps for different types commute. -/
theorem attendanceMap_eq (hlogs : ∀ m ∈ logs, m.type = .ENTRY ∨ m.type = .EXIT)
    (h : groups.Perm (groupMovements logs))
    (hcomm : ∀ a g g', add (add a g) g' = add (add a g') g ∨
      g.type = g'.type) :
    attendanceMap add empty groups registrationId =
      (groupsOf logs registrationId).foldl
        (fun result group => some (add (result.getD empty) group)) none := by
  rw [attendanceMap_eq_foldl]
  refine (perm_groupsOf hlogs h).foldl_eq' ?_ none
  intro x hx y hy result
  have hmember : ∀ g ∈ groups.filter fun g => g.registrationId = registrationId,
      g = groupOf logs registrationId g.type := by
    intro g hg
    obtain ⟨hgroup, hid⟩ := List.mem_filter.mp hg
    have hown := (mem_groupMovements_iff.mp (h.subset hgroup)).1
    rwa [of_decide_eq_true hid] at hown
  rcases hcomm (result.getD empty) x y with hswap | htype
  · exact congrArg some hswap
  · rw [hmember x hx, hmember y hy, htype]

/-! ## The attendance of one registration -/

namespace RegistrationExcelExporter

theorem addGroup_comm (a : ExportAttendanceInfo) (g g' : MovementGroup) :
    addGroup (addGroup a g) g' = addGroup (addGroup a g') g ∨ g.type = g'.type := by
  by_cases hsame : g.type = g'.type
  · exact .inr hsame
  · left
    unfold addGroup
    cases hg : g.type <;> cases hg' : g'.type <;> simp_all [resolveAttendanceStatus]

/-- The attendance in an export, from the movements that it groups. -/
theorem getAttendanceMap_getD (hlogs : ∀ m ∈ logs, m.type = .ENTRY ∨ m.type = .EXIT)
    (h : groups.Perm (groupMovements logs)) :
    (getAttendanceMap groups registrationId).getD createEmptyAttendance =
      addGroup { createEmptyAttendance with
        firstEntryAt := (timesOf logs registrationId .ENTRY).min?
        lastEntryAt := (timesOf logs registrationId .ENTRY).max? }
        (groupOf logs registrationId .EXIT) := by
  rw [getAttendanceMap, attendanceMap_eq hlogs h addGroup_comm]
  by_cases hentry : timesOf logs registrationId .ENTRY = []
  · by_cases hexit : timesOf logs registrationId .EXIT = []
    · simp [groupsOf, hentry, hexit, groupOf, addGroup, createEmptyAttendance,
        resolveAttendanceStatus]
    · simp [groupsOf, hentry, hexit, groupOf, addGroup, createEmptyAttendance,
        resolveAttendanceStatus]
  · by_cases hexit : timesOf logs registrationId .EXIT = []
    · simp [groupsOf, hentry, hexit, groupOf, addGroup, createEmptyAttendance,
        resolveAttendanceStatus]
    · simp [groupsOf, hentry, hexit, groupOf, addGroup, createEmptyAttendance,
        resolveAttendanceStatus]

end RegistrationExcelExporter

namespace ClientRegistrationsService

theorem addGroup_comm (a : AttendanceInfo) (g g' : MovementGroup) :
    addGroup (addGroup a g) g' = addGroup (addGroup a g') g ∨ g.type = g'.type := by
  by_cases hsame : g.type = g'.type
  · exact .inr hsame
  · left
    unfold addGroup
    cases hg : g.type <;> cases hg' : g'.type <;> simp_all

/-- The attendance in the list of a client, from the movements that it groups. -/
theorem getAttendanceMap_getD (hlogs : ∀ m ∈ logs, m.type = .ENTRY ∨ m.type = .EXIT)
    (h : groups.Perm (groupMovements logs)) :
    (getAttendanceMap groups registrationId).getD createEmptyAttendance =
      { status := resolveAttendanceStatus
          { createEmptyAttendance with
            hasCheckedIn := decide (timesOf logs registrationId .ENTRY ≠ [])
            lastEntryAt := (timesOf logs registrationId .ENTRY).max?
            lastCheckedOutAt := (timesOf logs registrationId .EXIT).max? }
        hasCheckedIn := decide (timesOf logs registrationId .ENTRY ≠ [])
        hasExited := decide (timesOf logs registrationId .EXIT ≠ [])
        firstCheckedInAt := (timesOf logs registrationId .ENTRY).min?
        lastEntryAt := (timesOf logs registrationId .ENTRY).max?
        lastCheckedOutAt := (timesOf logs registrationId .EXIT).max? } := by
  rw [getAttendanceMap, attendanceMap_eq hlogs h addGroup_comm]
  by_cases hentry : timesOf logs registrationId .ENTRY = []
  · by_cases hexit : timesOf logs registrationId .EXIT = []
    · simp [groupsOf, hentry, hexit, createEmptyAttendance, resolveAttendanceStatus]
    · simp [groupsOf, hentry, hexit, groupOf, addGroup, createEmptyAttendance,
        resolveAttendanceStatus]
  · by_cases hexit : timesOf logs registrationId .EXIT = []
    · simp [groupsOf, hentry, hexit, groupOf, addGroup, createEmptyAttendance,
        resolveAttendanceStatus]
    · simp [groupsOf, hentry, hexit, groupOf, addGroup, createEmptyAttendance,
        resolveAttendanceStatus]

end ClientRegistrationsService

end CreativeBackend
