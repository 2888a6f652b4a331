import CreativeBackend.Dashboard.Exporter
import CreativeBackend.Dashboard.Pagination

/-!
# Complete exports

An export without writes has the matching registrations in their order. With writes between its
queries it is complete and without duplicates if these move no matching registration across the
place that was reached or behind the number that was counted, and let none on the sheet return
behind that place.
-/

namespace CreativeBackend

open Relational

/-! ## The queries of an export -/

section Queries

variable (input : RegistrationExcelExportInput) (dbs : ExportQuery → DashboardDb)

/-- The registrations that the count and the pages find. -/
def RegistrationExcelExportInput.answers : Nat → List Registration
  | 0 => input.ordered (dbs .count)
  | k + 1 => input.ordered (dbs (.page k))

theorem RegistrationExcelExportInput.perm_ordered (db : DashboardDb) :
    (input.ordered db).Perm (input.matching db) := List.perm_insertionSort _ _

theorem RegistrationExcelExportInput.total_answers :
    MovingPages.total (input.answers dbs) = (input.matching (dbs .count)).length :=
  (input.perm_ordered _).length_eq

end Queries

namespace RegistrationExcelExporter

section Sheets

variable {toLowerCase : String → String} {ρ : Type} [Ord ρ] {c : Collation ρ}
  {input : RegistrationExcelExportInput} {dbs : ExportQuery → DashboardDb}

theorem map_buildSheetRow (columns : List ExportDynamicColumn)
    (attendance : Registration → ExportAttendanceInfo) (registrations : List Registration) :
    (registrations.map fun registration =>
      buildSheetRow toLowerCase columns (attendance registration) registration).map
        (·.registration) = registrations := by
  rw [List.map_map]
  exact List.map_id _

/-- The loop reads page by page until no request follows. -/
theorem hasRead_exportLoop {columns : List ExportDynamicColumn} {k offset : Nat}
    {sheetRows : List SheetRow} (hoffset : offset = sheetRows.length)
    (hread : MovingPages.HasRead EXPORT_BATCH_SIZE (input.answers dbs) k
      (sheetRows.map (·.registration))) :
    ∃ k' read, (exportLoop toLowerCase input dbs columns (MovingPages.total (input.answers dbs)) k
        offset sheetRows).map (·.registration) = read ∧
      MovingPages.HasRead EXPORT_BATCH_SIZE (input.answers dbs) k' read ∧
      MovingPages.Ended EXPORT_BATCH_SIZE (input.answers dbs) k' read := by
  have hlength : offset = (sheetRows.map (·.registration)).length := by
    rw [hoffset, List.length_map]
  fun_induction exportLoop toLowerCase input dbs columns
    (MovingPages.total (input.answers dbs)) k offset sheetRows with
  | case1 k offset sheetRows hmore take registrations hpage =>
      refine ⟨k, _, rfl, hread, .inr ?_⟩
      rw [← hlength]
      exact hpage
  | case2 k offset sheetRows hmore take registrations hpage attendanceMap rows ih =>
      have hrows : rows.map (·.registration) = registrations := map_buildSheetRow _ _ _
      have hnext : (sheetRows ++ rows).map (·.registration) =
          sheetRows.map (·.registration) ++ MovingPages.page EXPORT_BATCH_SIZE (input.answers dbs) k
            (sheetRows.map (·.registration)).length := by
        rw [List.map_append, hrows, ← hlength]
        rfl
      have hcount : offset + registrations.length = (sheetRows ++ rows).length := by
        rw [List.length_append, hoffset, ← hrows, List.length_map]
      refine ih hcount ?_ (by rw [hcount, List.length_map])
      rw [hnext]
      refine .page hread (hlength ▸ hmore) ?_
      rw [← hlength]
      exact hpage
  | case3 k offset sheetRows hmore =>
      refine ⟨k, _, rfl, hread, .inl ?_⟩
      rw [← hlength]
      exact Nat.le_of_not_lt hmore

/-! ## Complete exports -/

variable (c) in
/-- What the two services ask the exporter for. -/
inductive Exports : RegistrationExcelExportInput → Prop
  | admin (query : ListRegistrationsQueryDto) :
      Exports (AdminRegistrationExportService.exportInput c query)
  | client (clientId : Id) (query : ClientRegistrationsQueryDto) :
      Exports (ClientRegistrationExportService.exportInput c clientId query)

/-- The rows of the sheet, where one is made. -/
def rowsOf (result : Option RegistrationExcelExportOutput) : List SheetRow :=
  (result.map (·.rows)).getD []

/-- `result?.rowCount ?? 0`. -/
def rowCountOf (result : Option RegistrationExcelExportOutput) : Nat :=
  (result.map (·.rowCount)).getD 0

variable (input dbs) in
/-- No registration has two rows, and one that matches unchanged at the count and at each page has a
row. -/
structure CompleteSheet (rows : List SheetRow) : Prop where
  once : (rows.map (·.registration.id)).Nodup
  complete : ∀ r, MovingPages.Throughout EXPORT_BATCH_SIZE (input.answers dbs) r →
    r ∈ rows.map (·.registration)

section Keys

variable [Std.TransOrd ρ]

theorem Exports.transCmp (h : Exports c input) (db : DashboardDb) :
    Std.TransCmp (input.orderBy db) := by
  cases h with
  | admin query =>
      unfold AdminRegistrationExportService.exportInput
      infer_instance
  | client clientId query => exact transCmp_buildRegistrationOrderBy c db query

theorem ordered_ordered (h : Exports c input) (db : DashboardDb) :
    Offset.Ordered (input.orderBy db) (input.matching db) (input.ordered db) := by
  have htrans := h.transCmp db
  exact Offset.ordered_insertionSort _ _

omit [Std.TransOrd ρ] in
variable (input dbs) in
theorem answers_eq_ordered (k : Nat) :
    ∃ query, input.answers dbs k = input.ordered (dbs query) := by
  cases k with
  | zero => exact ⟨.count, rfl⟩
  | succ k => exact ⟨.page k, rfl⟩

theorem nodup_answers (hkeys : ∀ query, (dbs query).PrimaryKeys c) (k : Nat) :
    ((input.answers dbs k).map Registration.id).Nodup := by
  obtain ⟨query, hquery⟩ := answers_eq_ordered input dbs k
  rw [hquery, ((input.perm_ordered _).map _).nodup_iff]
  refine List.pairwise_map.mpr (((hkeys query).registrations.sublist List.filter_sublist).imp ?_)
  intro a b hne heq
  rw [heq] at hne
  exact hne Std.ReflCmp.compare_self

/-- An export of at most `EXPORT_MAX_ROWS` registrations succeeds. It is complete where the writes
between its queries move no matching registration across the place that was reached or behind the
number that was counted, and let none on the sheet return behind that place. Without writes it has
the matching registrations in their order. -/
theorem export_exact (hexports : Exports c input) (hkeys : ∀ query, (dbs query).PrimaryKeys c)
    (hmax : (input.matching (dbs .count)).length ≤ EXPORT_MAX_ROWS) :
    ∃ result, export_ toLowerCase c input dbs = .ok result ∧
      (MovingPages.Calm Registration.id EXPORT_BATCH_SIZE (input.answers dbs) →
        CompleteSheet input dbs (rowsOf result)) ∧
      ((∀ query, dbs query = dbs .count) →
        Offset.Ordered (input.orderBy (dbs .count)) (input.matching (dbs .count))
          ((rowsOf result).map (·.registration)) ∧
        rowCountOf result = (input.matching (dbs .count)).length) := by
  unfold export_
  dsimp only
  by_cases hnone : (input.matching (dbs .count)).length = 0
  · rw [if_pos hnone]
    have hempty : input.answers dbs 0 = [] :=
      List.eq_nil_of_length_eq_zero ((input.perm_ordered _).length_eq.trans hnone)
    refine ⟨none, rfl, fun _ => ⟨List.nodup_nil, fun r hr => ?_⟩, fun _ => ⟨?_, hnone.symm⟩⟩
    · have hcounted := hr 0 .count
      rw [hempty] at hcounted
      cases hcounted
    · have hordered := ordered_ordered hexports (dbs .count)
      rwa [show input.ordered (dbs .count) = [] from hempty] at hordered
  · rw [if_neg hnone, if_neg (Nat.not_lt.mpr hmax)]
    refine ⟨_, rfl, ?_⟩
    dsimp only [rowsOf, rowCountOf, Option.map_some, Option.getD_some]
    generalize hcolumns : getDynamicColumns toLowerCase c (dbs .fields) _ _ = columns
    clear hcolumns
    rw [← input.total_answers dbs]
    obtain ⟨k, read, hrows, hread, hended⟩ :
        ∃ k read, (exportLoop toLowerCase input dbs columns (MovingPages.total (input.answers dbs))
            0 0 []).map (·.registration) = read ∧
          MovingPages.HasRead EXPORT_BATCH_SIZE (input.answers dbs) k read ∧
          MovingPages.Ended EXPORT_BATCH_SIZE (input.answers dbs) k read :=
      hasRead_exportLoop rfl .count
    generalize exportLoop toLowerCase input dbs columns _ 0 0 [] = rows at hrows
    have hbatch : 0 < EXPORT_BATCH_SIZE := by decide
    refine ⟨fun hcalm => ⟨?_, fun r hr => ?_⟩, fun hquiet => ?_⟩
    · have honce := (MovingPages.settled_of_hasRead (nodup_answers hkeys) hcalm hread).once
      rwa [← hrows, List.map_map] at honce
    · rw [hrows]
      exact MovingPages.mem_of_ended hbatch (nodup_answers hkeys) hcalm hread hended hr
    · have hsame : ∀ k, input.answers dbs k = input.answers dbs 0 := by
        intro k
        obtain ⟨query, hquery⟩ := answers_eq_ordered input dbs k
        rw [hquery, hquiet query]
        rfl
      have hall := MovingPages.hasRead_all hbatch hsame hread hended
      rw [hrows, hall]
      refine ⟨ordered_ordered hexports _, ?_⟩
      rw [MovingPages.total, ← hall, ← hrows, List.length_map]

end Keys

end Sheets

/-! ## A registration during an export -/

def registeredAt (id fullName : String) (at_ : Time) : Registration :=
  { imported id fullName with registeredAt := at_ }

def countedDb : DashboardDb where
  registrations := [registeredAt "r1" "Huda" 9]

def grownDb : DashboardDb where
  registrations := [registeredAt "r1" "Huda" 9, registeredAt "r2" "Sami" 10]

/-- The count finds one registration, and every later query a newer one besides. -/
def growing : ExportQuery → DashboardDb
  | .count => countedDb
  | _ => grownDb

theorem export_imported :
    ∃ result, export_ toLowerCase binary (AdminRegistrationExportService.exportInput binary {})
        (fun _ => importedDb) = .ok result ∧ rowCountOf result = 2 := by
  obtain ⟨result, hresult, -, hquiet⟩ := export_exact (.admin {})
    (fun _ => primaryKeys_importedDb) (by decide)
  exact ⟨result, hresult, (hquiet fun _ => rfl).2⟩

theorem primaryKeys_growing (query : ExportQuery) : (growing query).PrimaryKeys binary := by
  have hcounted : countedDb.PrimaryKeys binary := ⟨by decide, by decide⟩
  have hgrown : grownDb.PrimaryKeys binary := ⟨by decide, by decide⟩
  cases query with
  | count => exact hcounted
  | events => exact hgrown
  | fields => exact hgrown
  | page k => exact hgrown
  | movements k => exact hgrown

/-- The page has the newer registration alone. -/
theorem export_growing : export_ toLowerCase binary
    (AdminRegistrationExportService.exportInput binary {}) growing =
      .ok (some ⟨[], [buildSheetRow toLowerCase [] createEmptyAttendance
        (registeredAt "r2" "Sami" 10)], 1⟩) := by
  have hcount : ((AdminRegistrationExportService.exportInput binary {}).matching
      (growing .count)).length = 1 := by decide
  have hpage : (AdminRegistrationExportService.exportInput binary {}).ordered (growing (.page 0)) =
      [registeredAt "r2" "Sami" 10, registeredAt "r1" "Huda" 9] := rfl
  have hcolumns : getDynamicColumns toLowerCase binary (growing .fields)
      (eventIdsOf ((AdminRegistrationExportService.exportInput binary {}).matching
        (growing .events)))
      (AdminRegistrationExportService.exportInput binary {}).attendeeTypeId = [] := by decide
  have hwindow : Relational.Offset.window 0 (min EXPORT_BATCH_SIZE (1 - 0))
      ((AdminRegistrationExportService.exportInput binary {}).ordered (growing (.page 0))) =
        [registeredAt "r2" "Sami" 10] := by
    rw [hpage]
    rfl
  have hloop : exportLoop toLowerCase (AdminRegistrationExportService.exportInput binary {}) growing
      [] 1 0 0 [] = [buildSheetRow toLowerCase [] createEmptyAttendance
        (registeredAt "r2" "Sami" 10)] := by
    rw [exportLoop, dif_pos Nat.one_pos]
    simp only [hwindow]
    rw [exportLoop]
    rfl
  unfold export_
  simp only [hcount]
  rw [if_neg Nat.one_ne_zero, if_neg (by decide), hcolumns, hloop]
  rfl

/-- A registration that comes in after the count takes the place of the last one counted. -/
theorem not_export_exact :
    ¬ ∀ (input : RegistrationExcelExportInput) (dbs : ExportQuery → DashboardDb)
        (result : Option RegistrationExcelExportOutput), Exports binary input →
      (∀ query, (dbs query).PrimaryKeys binary) →
      (input.matching (dbs .count)).length ≤ EXPORT_MAX_ROWS →
      export_ toLowerCase binary input dbs = .ok result →
        CompleteSheet input dbs (rowsOf result) := by
  intro hall
  have hsheet := hall _ growing _ (.admin {}) primaryKeys_growing (by decide) export_growing
  have hordered : ∀ query, registeredAt "r1" "Huda" 9 ∈
      (AdminRegistrationExportService.exportInput binary {}).ordered (growing query) := by
    intro query
    refine (RegistrationExcelExportInput.perm_ordered _ _).mem_iff.mpr
      (List.mem_filter.mpr ⟨?_, rfl⟩)
    cases query <;> exact List.mem_cons_self
  have hmem := hsheet.complete (registeredAt "r1" "Huda" 9) fun k _ => by
    obtain ⟨query, hquery⟩ :=
      answers_eq_ordered (AdminRegistrationExportService.exportInput binary {}) growing k
    rw [hquery]
    exact hordered query
  have hid : "r1" = "r2" := congrArg Registration.id (List.mem_singleton.mp hmem)
  exact absurd hid (by decide)

end RegistrationExcelExporter

end CreativeBackend
