import CreativeBackend.Dashboard.Attendance
import CreativeBackend.Dashboard.ExportColumns
import CreativeBackend.Relational.MovingPages

/-!
# The export of registrations

The export counts the matching registrations, reads the columns, and then reads the registrations
page by page with their movements. It is no transaction: others write between its queries, so each
query has its own database.

The cells of a row that only format its registration are left out.
-/

namespace CreativeBackend

open Relational Relational.Offset

def EXPORT_MAX_ROWS : Nat := 10000
def EXPORT_BATCH_SIZE : Nat := 1000

/-- The queries of an export. -/
inductive ExportQuery where
  | count | events | fields
  | page (k : Nat)
  | movements (k : Nat)
  deriving DecidableEq, Repr

structure RegistrationExcelExportInput where
  condition : DashboardDb → Registration → Bool
  orderBy : DashboardDb → Registration → Registration → Ordering
  attendeeTypeId : Option Id

namespace RegistrationExcelExportInput

variable (input : RegistrationExcelExportInput) (db : DashboardDb)

def matching : List Registration := db.registrations.filter (input.condition db)

/-- The matching registrations in the order that is asked for. -/
def ordered : List Registration :=
  (input.matching db).insertionSort fun a b => (input.orderBy db a b).isLE

end RegistrationExcelExportInput

/-- A row of the sheet. -/
structure SheetRow where
  registration : Registration
  attendance : RegistrationExcelExporter.ExportAttendanceInfo
  dynamicValues : List DynamicValue

structure RegistrationExcelExportOutput where
  columns : List RegistrationExcelExporter.ExportDynamicColumn
  rows : List SheetRow
  rowCount : Nat

namespace RegistrationExcelExporter

section Export

variable (toLowerCase : String → String) {ρ : Type} [Ord ρ] (c : Collation ρ)
  (input : RegistrationExcelExportInput) (dbs : ExportQuery → DashboardDb)

def buildSheetRow (dynamicColumns : List ExportDynamicColumn) (attendance : ExportAttendanceInfo)
    (registration : Registration) : SheetRow where
  registration := registration
  attendance := attendance
  dynamicValues := dynamicColumns.map fun column =>
    getDynamicFieldValue toLowerCase registration column.key

/-- The `while` loop, after `k` pages. -/
def exportLoop (dynamicColumns : List ExportDynamicColumn) (total k offset : Nat)
    (sheetRows : List SheetRow) : List SheetRow :=
  if _hmore : offset < total then
    let take := min EXPORT_BATCH_SIZE (total - offset)
    let registrations := window offset take (input.ordered (dbs (.page k)))
    if _hpage : registrations = [] then sheetRows
    else
      let attendanceMap := getAttendanceMap (groupMovements
        (passages (dbs (.movements k)) (registrations.map (·.id))))
      let rows := registrations.map fun registration => buildSheetRow toLowerCase dynamicColumns
        ((attendanceMap registration.id).getD createEmptyAttendance) registration
      exportLoop dynamicColumns total (k + 1) (offset + registrations.length) (sheetRows ++ rows)
  else sheetRows
termination_by total - offset
decreasing_by
  have hpos : 0 < registrations.length := List.length_pos_iff.mpr _hpage
  change total - (offset + registrations.length) < total - offset
  omega

/-- No sheet is made where nothing matches. -/
def export_ : Except HttpExn (Option RegistrationExcelExportOutput) :=
  let total := (input.matching (dbs .count)).length
  if total = 0 then .ok none
  else if total > EXPORT_MAX_ROWS then
    .error (.payloadTooLarge s!"Export is limited to {EXPORT_MAX_ROWS} registrations")
  else
    let eventIds := eventIdsOf (input.matching (dbs .events))
    let columns := getDynamicColumns toLowerCase c (dbs .fields) eventIds input.attendeeTypeId
    let rows := exportLoop toLowerCase input dbs columns total 0 0 []
    .ok (some { columns, rows, rowCount := rows.length })

end Export

end RegistrationExcelExporter

/-! ## The two exports -/

section Exports

variable {ρ : Type} [Ord ρ] (c : Collation ρ)

def AdminRegistrationExportService.exportInput (query : ListRegistrationsQueryDto) :
    RegistrationExcelExportInput where
  condition _ := RegistrationsService.listWhere c query
  orderBy _ := compareLex (sortedBy (·.registeredAt) .desc)
    (sortedBy (fun r => c.collate (Registration.id r)) .desc)
  attendeeTypeId := query.attendeeTypeId

def ClientRegistrationExportService.exportInput (clientId : Id)
    (query : ClientRegistrationsQueryDto) : RegistrationExcelExportInput where
  condition db := ClientDashboardQueryService.buildRegistrationWhere c db clientId
    query.toClientRegistrationFilterInput
  orderBy db := ClientDashboardQueryService.buildRegistrationOrderBy c db query
  attendeeTypeId := query.attendeeTypeId

end Exports

end CreativeBackend
