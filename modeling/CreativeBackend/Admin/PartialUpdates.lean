import CreativeBackend.Admin.Updates

/-!
# What a partial update changes

`PartialType` keeps the initialisers of the DTO class, so a PATCH body without the key
of an initialised property writes its initial value. An update therefore leaves the
other columns of its row alone exactly where they already hold the initial values.
-/

namespace CreativeBackend

open Relational

namespace Resource

/-- The body leaves the type of a row as it is. -/
def SameType {m : Model} (row : Row m) (body : List (String × Json)) : Prop :=
  ∀ v, body.lookup "type" = some v → row.cell "type" = .json v

/-- Every column whose key the body does not contain is the same in the second row,
except `updatedAt`, and `options` when the type changes. -/
def Untouched (r : Resource) (row row' : Row r.model) (body : List (String × Json)) : Prop :=
  ∀ column, body.lookup column = none → column ≠ "updatedAt" →
    ¬ (r = .registrationField ∧ column = "options" ∧ row'.cell "type" ≠ row.cell "type") →
      row'.cell column = row.cell column

/-- Every initialised column that the body does not contain already holds its initial
value, and a field whose type takes no options has none. -/
structure HoldsInitial (r : Resource) (row : Row r.model) (body : List (String × Json)) : Prop where
  initial : ∀ column v, r.dto.initial column = some v → body.lookup column = none →
    row.cell column = .json v
  options : r = .registrationField → body.lookup "options" = none → SameType row body →
    RegistrationFieldsService.requiresOptions (row.str? "type") = false →
      row.cell "options" = .json .null

/-- What an update does to the columns that the body does not contain. -/
structure Wrote (r : Resource) (row row' : Row r.model) (body : List (String × Json)) : Prop where
  column : ∀ column, body.lookup column = none → column ≠ "updatedAt" →
    (r = .registrationField → column ≠ "options") →
      row'.cell column = ((r.dto.initial column).map .json).getD (row.cell column)
  type : r = .registrationField → (row'.cell "type" = row.cell "type" ↔ SameType row body)
  options : r = .registrationField → body.lookup "options" = none → SameType row body →
    row'.cell "options" =
      if RegistrationFieldsService.requiresOptions (row.str? "type") then row.cell "options"
      else .json .null

theorem initial_updatedAt (r : Resource) : r.dto.initial "updatedAt" = none := by
  cases r <;> rfl

theorem initial_options (r : Resource) : r.dto.initial "options" = none := by
  cases r <;> rfl

theorem Wrote.untouched_iff {r : Resource} {row row' : Row r.model} {body : List (String × Json)}
    (h : Wrote r row row' body) : Untouched r row row' body ↔ HoldsInitial r row body := by
  constructor
  · intro hsame
    refine ⟨fun column v hinitial hbody => ?_, fun hr hbody htype hnone => ?_⟩
    · have hupdated : column ≠ "updatedAt" := by
        rintro rfl
        rw [initial_updatedAt] at hinitial
        cases hinitial
      have hoptions : column ≠ "options" := by
        rintro rfl
        rw [initial_options] at hinitial
        cases hinitial
      rw [← hsame column hbody hupdated fun hex => hoptions hex.2.1,
        h.column column hbody hupdated fun _ => hoptions, hinitial]
      rfl
    · have hkept := hsame "options" hbody (by decide)
        fun hex => hex.2.2 ((h.type hr).mpr htype)
      rw [← hkept, h.options hr hbody htype, hnone]
      rfl
  · intro hholds column hbody hupdated hexempt
    by_cases hoptions : r = .registrationField ∧ column = "options"
    · obtain ⟨hr, rfl⟩ := hoptions
      have hkept : row'.cell "type" = row.cell "type" := by
        by_contra hne
        exact hexempt ⟨hr, rfl, hne⟩
      have htype := (h.type hr).mp hkept
      rw [h.options hr hbody htype]
      split
      · rfl
      · next hnone => exact (hholds.options hr hbody htype (by simpa using hnone)).symm
    · rw [h.column column hbody hupdated fun hr hc => hoptions ⟨hr, hc⟩]
      cases hinitial : r.dto.initial column with
      | none => rfl
      | some v => exact (hholds.initial column v hinitial hbody).symm

end Resource

/-! ## What each service writes -/

variable {p : Platform} {s s' : AdminStore} {id : Id} {body : List (String × Json)}

theorem AdminStore.findUnique_of_findOne {m : Model} {name : String} {row : Row m}
    (h : s.findOne m name id = .ok row) : s.findUnique m id = some row := by
  unfold findOne at h
  split at h
  · cases h
  · next found => rw [found, Except.ok.inj h]

/-- The row after an update through the validation pipe. -/
theorem AdminStore.cell_applyColumns {m : Model} (data : Columns) (row : Row m) {column : String}
    (h : column ≠ "updatedAt") :
    (s.applyColumns data row).cell column = (data column).getD (row.cell column) := by
  simp [applyColumns, h]

section Dto

variable {c : DtoClass} {dto : Columns} (hdto : ValidationPipe.transform p c body = .ok dto)

include hdto

/-- A property that the body does not have and the class does not initialise. -/
theorem undefined_of_lookup {key : String} (hc : c.initial key = none)
    (hbody : body.lookup key = none) : dto key = none := by
  rw [ValidationPipe.transform_eq_ok hdto,
    ValidationPipe.instantiate_of_lookup_eq_none hbody, hc]
  rfl

theorem text?_of_lookup {key : String} (hc : c.initial key = none)
    (hbody : body.lookup key = none) : dto.text? key = none := by
  simp [Columns.text?, Columns.str?, undefined_of_lookup hdto hc hbody]

theorem property_of_lookup {key : String} (hbody : body.lookup key = none) :
    dto key = (c.initial key).map .json := by
  rw [ValidationPipe.transform_eq_ok hdto]
  exact ValidationPipe.instantiate_of_lookup_eq_none hbody

end Dto

open Resource

namespace EventsService

theorem updateData_eq_ok {dto data : Columns} (h : updateData p s id dto = .ok data) :
    data = (((dto.set "startsAt" (dateOf p dto "startsAt")).set "endsAt" (dateOf p dto "endsAt")).set
      "qrValidFrom" (dateOf p dto "qrValidFrom")).set "qrValidUntil" (dateOf p dto "qrValidUntil") := by
  obtain ⟨event, -, h⟩ := Except.exists_of_bind_eq_ok h
  obtain ⟨-, -, h⟩ := Except.exists_of_bind_eq_ok h
  obtain ⟨-, -, h⟩ := Except.exists_of_bind_eq_ok h
  obtain ⟨-, -, h⟩ := Except.exists_of_bind_eq_ok h
  exact (Except.ok.inj h).symm

/-- The dates of a body are undefined where it does not have them. -/
theorem updateData_column {dto data : Columns}
    (hdto : ValidationPipe.transform p UpdateEventDto body = .ok dto)
    (h : updateData p s id dto = .ok data) {column : String} (hbody : body.lookup column = none) :
    data column = dto column := by
  have hdate : ∀ key, UpdateEventDto.initial key = none → body.lookup key = none →
      dateOf p dto key = dto key := by
    intro key hkey hnone
    rw [undefined_of_lookup hdto hkey hnone]
    simp [dateOf, text?_of_lookup hdto hkey hnone]
  rw [updateData_eq_ok h]
  simp only [Columns.set]
  split_ifs with h₁ h₂ h₃ h₄
  · subst h₁
    exact hdate _ rfl hbody
  · subst h₂
    exact hdate _ rfl hbody
  · subst h₃
    exact hdate _ rfl hbody
  · subst h₄
    exact hdate _ rfl hbody
  · rfl

end EventsService

namespace AttendeeTypesService

theorem updateData_eq_ok {dto data : Columns} {row : Row .attendeeType}
    (h : updateData p s id dto = .ok (row, data)) :
    s.findUnique .attendeeType id = some row ∧
      data = dto.set "code" (((dto.text? "code").map (normalizeCode p)).map fun c => .json (.str c)) := by
  obtain ⟨attendeeType, hfound, h⟩ := Except.exists_of_bind_eq_ok h
  obtain ⟨-, -, h⟩ := Except.exists_of_bind_eq_ok h
  obtain ⟨-, -, h⟩ := Except.exists_of_bind_eq_ok h
  cases Except.ok.inj h
  exact ⟨AdminStore.findUnique_of_findOne hfound, rfl⟩

theorem updateData_column {dto data : Columns} {row : Row .attendeeType}
    (hdto : ValidationPipe.transform p UpdateAttendeeTypeDto body = .ok dto)
    (h : updateData p s id dto = .ok (row, data)) {column : String}
    (hbody : body.lookup column = none) : data column = dto column := by
  rw [(updateData_eq_ok h).2]
  simp only [Columns.set]
  split
  · next hcode =>
      subst hcode
      rw [undefined_of_lookup hdto rfl hbody, text?_of_lookup hdto rfl hbody]
      rfl
  · rfl

/-- The row itself keeps its columns when the defaults of its event are cleared. -/
theorem findUnique_clearDefaults (eventId : Id) :
    (s.clearDefaults eventId id).findUnique .attendeeType id = s.findUnique .attendeeType id := by
  simp only [AdminStore.findUnique, AdminStore.clearDefaults, AdminStore.withTable_table,
    Table.find?_mapRows]
  cases hrow : (s.table .attendeeType).find? id with
  | none => rfl
  | some row =>
      have hid : row.id = id := (Table.find?_eq_some_iff.mp hrow).2
      simp [AdminStore.clearDefault, hid]

theorem update_eq_ok {dto : Columns} {new : Row .attendeeType}
    (h : update p s id dto = (.ok new, s')) :
    ∃ row data, updateData p s id dto = .ok (row, data) ∧
      s'.findUnique .attendeeType id = some (s.applyColumns data row) := by
  unfold update at h
  split at h
  · cases h
  · next row data hdata =>
      refine ⟨row, data, hdata, ?_⟩
      have hrow := (updateData_eq_ok hdata).1
      split at h
      · split at h
        · cases h
        · next new' s'' hupdate =>
            cases h
            obtain ⟨old, hold, hnew⟩ := AdminStore.update_eq_ok hupdate
            rw [findUnique_clearDefaults, hrow] at hold
            cases hold
            exact hnew
      · obtain ⟨old, hold, hnew⟩ := AdminStore.update_eq_ok h
        rw [hrow] at hold
        cases hold
        exact hnew

end AttendeeTypesService

namespace RegistrationFieldsService

theorem updateData_eq_ok {dto data : Columns} (h : updateData p s id dto = .ok data) :
    ∃ row options, s.findUnique .registrationField id = some row ∧
      normalizeOptions ((dto.str? "type").or (row.str? "type"))
        ((dto "options").getD (row.cell "options")) = .ok options ∧
      data = ((dto.set "attendeeTypeId"
          (some ((dto "attendeeTypeId").getD (row.cell "attendeeTypeId")))).set "key"
        (some (((dto.text? "key").map fun k => .json (.str (normalizeKey p k))).getD
          (row.cell "key")))).set "options" (some options) := by
  obtain ⟨row, hfound, h⟩ := Except.exists_of_bind_eq_ok h
  obtain ⟨-, -, h⟩ := Except.exists_of_bind_eq_ok h
  obtain ⟨-, -, h⟩ := Except.exists_of_bind_eq_ok h
  obtain ⟨-, -, h⟩ := Except.exists_of_bind_eq_ok h
  obtain ⟨options, hoptions, h⟩ := Except.exists_of_bind_eq_ok h
  exact ⟨row, options, AdminStore.findUnique_of_findOne hfound, hoptions, (Except.ok.inj h).symm⟩

end RegistrationFieldsService

namespace CheckpointsService

theorem updateData_eq_ok {dto data : Columns} (h : updateData s id dto = .ok data) :
    data = dto := by
  obtain ⟨row, -, h⟩ := Except.exists_of_bind_eq_ok h
  obtain ⟨-, -, h⟩ := Except.exists_of_bind_eq_ok h
  obtain ⟨-, -, h⟩ := Except.exists_of_bind_eq_ok h
  obtain ⟨-, -, h⟩ := Except.exists_of_bind_eq_ok h
  obtain ⟨-, -, h⟩ := Except.exists_of_bind_eq_ok h
  obtain ⟨-, -, h⟩ := Except.exists_of_bind_eq_ok h
  exact (Except.ok.inj h).symm

end CheckpointsService

namespace ZonesService

theorem updateData_eq_ok {dto data : Columns} (h : updateData s id dto = .ok data) :
    data = dto := by
  obtain ⟨row, -, h⟩ := Except.exists_of_bind_eq_ok h
  obtain ⟨-, -, h⟩ := Except.exists_of_bind_eq_ok h
  obtain ⟨-, -, h⟩ := Except.exists_of_bind_eq_ok h
  obtain ⟨-, -, h⟩ := Except.exists_of_bind_eq_ok h
  obtain ⟨-, -, h⟩ := Except.exists_of_bind_eq_ok h
  obtain ⟨-, -, h⟩ := Except.exists_of_bind_eq_ok h
  obtain ⟨-, -, h⟩ := Except.exists_of_bind_eq_ok h
  obtain ⟨-, -, h⟩ := Except.exists_of_bind_eq_ok h
  exact (Except.ok.inj h).symm

end ZonesService

/-! ## All services -/

namespace Resource

/-- A service that writes the properties of the DTO as they are. -/
theorem wrote_of_column {r : Resource} (hr : r ≠ .registrationField) {dto data : Columns}
    (hdto : ValidationPipe.transform p r.dto body = .ok dto) (row : Row r.model)
    (hdata : ∀ column, body.lookup column = none → data column = dto column) :
    Wrote r row (s.applyColumns data row) body where
  column column hbody hupdated _ := by
    rw [AdminStore.cell_applyColumns data row hupdated, hdata column hbody,
      property_of_lookup hdto hbody]
  type h := absurd h hr
  options h := absurd h hr

/-- The type of a field is that of the body or stays. -/
theorem cell_type_iff {dto : Columns}
    (hdto : ValidationPipe.transform p UpdateRegistrationFieldDto body = .ok dto)
    (row : Row .registrationField) :
    (dto "type").getD (row.cell "type") = row.cell "type" ↔ SameType row body := by
  rw [ValidationPipe.transform_eq_ok hdto]
  cases hbody : body.lookup "type" with
  | none =>
      rw [ValidationPipe.instantiate_of_lookup_eq_none hbody]
      constructor
      · intro _ v hv
        rw [hbody] at hv
        cases hv
      · exact fun _ => rfl
  | some v =>
      have hvalue : ValidationPipe.instantiate p UpdateRegistrationFieldDto body "type" =
          some (.json v) := by
        have hproperty : UpdateRegistrationFieldDto.property? "type" =
            some { name := "type", isOptional := true,
                   check := fun _ => isEnum registrationFieldTypes } := rfl
        simp [ValidationPipe.instantiate, hproperty, hbody]
      rw [hvalue]
      constructor
      · intro heq w hw
        rw [hbody] at hw
        cases hw
        exact heq.symm
      · intro hsame
        exact (hsame v hbody).symm

/-- A type that stays is the type whose options are checked. -/
theorem str?_type {dto : Columns}
    (hdto : ValidationPipe.transform p UpdateRegistrationFieldDto body = .ok dto)
    {row : Row .registrationField} (hsame : SameType row body) :
    (dto.str? "type").or (row.str? "type") = row.str? "type" := by
  have hcell := (cell_type_iff hdto row).mpr hsame
  simp only [Columns.str?, Row.str?]
  cases hdto' : dto "type" with
  | none => simp
  | some c =>
      rw [hdto'] at hcell
      have hc : c = row.cell "type" := hcell
      rw [hc, Option.bind_some]
      exact Option.or_self

/-- What the update of a field writes. -/
theorem wrote_field {dto data : Columns} {row : Row .registrationField} {options : Cell}
    (hdto : ValidationPipe.transform p UpdateRegistrationFieldDto body = .ok dto)
    (hoptions : RegistrationFieldsService.normalizeOptions ((dto.str? "type").or (row.str? "type"))
      ((dto "options").getD (row.cell "options")) = .ok options)
    (hdata : data = ((dto.set "attendeeTypeId"
        (some ((dto "attendeeTypeId").getD (row.cell "attendeeTypeId")))).set "key"
      (some (((dto.text? "key").map fun k =>
        .json (.str (RegistrationFieldsService.normalizeKey p k))).getD (row.cell "key")))).set
          "options" (some options)) :
    Wrote .registrationField row (s.applyColumns data row) body where
  column column hbody hupdated hne := by
    have hinitial := property_of_lookup hdto hbody
    rw [AdminStore.cell_applyColumns data row hupdated, hdata, Columns.set_of_ne _ _ (hne rfl)]
    by_cases hkey : column = "key"
    · subst hkey
      rw [Columns.set_self, text?_of_lookup hdto rfl hbody]
      rfl
    · rw [Columns.set_of_ne _ _ hkey]
      by_cases htype : column = "attendeeTypeId"
      · subst htype
        rw [Columns.set_self, undefined_of_lookup hdto rfl hbody]
        rfl
      · rw [Columns.set_of_ne _ _ htype, hinitial]
  type _ := by
    rw [AdminStore.cell_applyColumns data row (by decide), hdata]
    exact cell_type_iff hdto row
  options _ hbody hsame := by
    rw [str?_type hdto hsame, undefined_of_lookup hdto rfl hbody] at hoptions
    rw [AdminStore.cell_applyColumns data row (by decide), hdata, Columns.set_self]
    simp only [RegistrationFieldsService.normalizeOptions] at hoptions
    split at hoptions
    · next hnone =>
        rw [← Except.ok.inj hoptions, if_neg (by simpa using hnone)]
        rfl
    · next hsome =>
        rw [if_pos (by simpa using hsome)]
        split at hoptions
        · rw [← Except.ok.inj hoptions]
          rfl
        · cases hoptions

/-- The rows before and after an update, and the columns between them. -/
theorem update_eq_ok {r : Resource} {dto : Columns} {new : Row r.model}
    (hdto : ValidationPipe.transform p r.dto body = .ok dto)
    (h : r.update p s id dto = (.ok new, s')) :
    ∃ row row', s.findUnique r.model id = some row ∧ s'.findUnique r.model id = some row' ∧
      Wrote r row row' body := by
  cases r with
  | event =>
      simp only [Resource.update, EventsService.update] at h
      split at h
      · cases h
      · next data hdata =>
          obtain ⟨row, hrow, hrow'⟩ := AdminStore.update_eq_ok h
          exact ⟨row, _, hrow, hrow', wrote_of_column (by decide) hdto row
            fun column => EventsService.updateData_column hdto hdata⟩
  | attendeeType =>
      obtain ⟨row, data, hdata, hrow'⟩ := AttendeeTypesService.update_eq_ok h
      exact ⟨row, _, (AttendeeTypesService.updateData_eq_ok hdata).1, hrow',
        wrote_of_column (by decide) hdto row
          fun column => AttendeeTypesService.updateData_column hdto hdata⟩
  | registrationField =>
      simp only [Resource.update, RegistrationFieldsService.update] at h
      split at h
      · cases h
      · next data hdata =>
          obtain ⟨row, hrow, hrow'⟩ := AdminStore.update_eq_ok h
          obtain ⟨row₀, options, hrow₀, hoptions, hdata⟩ :=
            RegistrationFieldsService.updateData_eq_ok hdata
          rw [hrow] at hrow₀
          cases hrow₀
          exact ⟨row, _, hrow, hrow', wrote_field hdto hoptions hdata⟩
  | checkpoint =>
      simp only [Resource.update, CheckpointsService.update] at h
      split at h
      · cases h
      · next data hdata =>
          obtain ⟨row, hrow, hrow'⟩ := AdminStore.update_eq_ok h
          exact ⟨row, _, hrow, hrow', wrote_of_column (by decide) hdto row
            fun column _ => by rw [CheckpointsService.updateData_eq_ok hdata]⟩
  | zone =>
      simp only [Resource.update, ZonesService.update] at h
      split at h
      · cases h
      · next data hdata =>
          obtain ⟨row, hrow, hrow'⟩ := AdminStore.update_eq_ok h
          exact ⟨row, _, hrow, hrow', wrote_of_column (by decide) hdto row
            fun column _ => by rw [ZonesService.updateData_eq_ok hdata]⟩

end Resource

open Resource

/-- A PATCH leaves the columns that its body does not contain alone exactly where they
hold the initial values of the DTO class already. -/
theorem patch_partial_iff {r : Resource} {row new : Row r.model}
    (hrow : s.findUnique r.model id = some row) (h : r.patch p s id body = (.ok new, s')) :
    ∃ row', s'.findUnique r.model id = some row' ∧
      (Untouched r row row' body ↔ HoldsInitial r row body) := by
  unfold Resource.patch at h
  split at h
  · cases h
  · next dto hdto =>
      obtain ⟨old, row', hold, hrow', hwrote⟩ := update_eq_ok hdto h
      rw [hrow] at hold
      cases hold
      exact ⟨row', hrow', hwrote.untouched_iff⟩

namespace Resource

/-- A platform without case mapping. -/
def samplePlatform : Platform where
  toNumber _ := none
  isDateString _ := true
  parseDate _ := some 5
  toUpperCase s := s
  toLowerCase s := s

/-- One active event with the given re-entry policy. -/
def sampleEvent (allowReEntry : Bool) : Row .event where
  cell
    | "status" => .json (.str "ACTIVE")
    | "startsAt" => .date (some 0)
    | "endsAt" => .date (some 10)
    | "timezone" => .json (.str "Asia/Damascus")
    | "allowReEntry" => .json (.bool allowReEntry)
    | "duplicateStrategy" => .json (.str "PHONE")
    | _ => .json .null

def sampleAdmin (allowReEntry : Bool) : AdminStore where
  clock := 5
  table
    | .event => .ofData [sampleEvent allowReEntry]
    | _ => .empty

/-- A body that names the event. -/
def title : List (String × Json) := [("titleAr", .str "Expo")]

theorem patch_title (allowReEntry : Bool) :
    ∃ new s', Resource.event.patch samplePlatform (sampleAdmin allowReEntry) "c0" title =
      (.ok new, s') ∧ (s'.findUnique .event "c0").map (·.cell "allowReEntry") =
        some (.json (.bool true)) := by
  refine ⟨_, _, rfl, rfl⟩

theorem findUnique_sampleEvent (allowReEntry : Bool) :
    (sampleAdmin allowReEntry).findUnique .event "c0" =
      some { sampleEvent allowReEntry with id := "c0" } := by
  rfl

/-- The sample event with re-entry holds the initial values of the class. -/
theorem holdsInitial_title :
    HoldsInitial .event { sampleEvent true with id := "c0" } title where
  initial column v hinitial _ := by
    obtain ⟨property, hproperty, hv⟩ := Option.bind_eq_some_iff.mp hinitial
    have hmem := List.mem_of_find?_eq_some hproperty
    have hname : property.name = column := by simpa using List.find?_some hproperty
    simp only [UpdateEventDto, PartialType, CreateEventDto, List.map_cons, List.map_nil,
      List.mem_cons, List.not_mem_nil, or_false] at hmem
    rcases hmem with rfl | rfl | rfl | rfl | rfl | rfl | rfl | rfl | rfl | rfl | rfl | rfl | rfl <;>
      cases hv <;> cases hname <;> rfl
  options h := by cases h

end Resource

/-- A title is edited alone where the event has the initial policy. -/
theorem title_edited_alone : ∃ (s' : AdminStore) (row' : Row .event), s'.findUnique .event "c0" = some row' ∧
    Untouched .event { sampleEvent true with id := "c0" } row' title := by
  obtain ⟨new, s', h, -⟩ := patch_title true
  obtain ⟨row', hrow', hiff⟩ := patch_partial_iff (findUnique_sampleEvent true) h
  exact ⟨s', row', hrow', hiff.mpr holdsInitial_title⟩

/-- A new title lets visitors of an event without re-entry in again. -/
theorem title_resets_re_entry :
    ¬ ∀ (p : Platform) (s s' : AdminStore) (id : Id) (body : List (String × Json)) (r : Resource)
        (row row' new : Row r.model), s.findUnique r.model id = some row →
      r.patch p s id body = (.ok new, s') → s'.findUnique r.model id = some row' →
        Untouched r row row' body := by
  intro hall
  obtain ⟨new, s', h, hreset⟩ := patch_title false
  obtain ⟨row', hrow', -⟩ := Option.map_eq_some_iff.mp hreset
  have hsame := hall samplePlatform _ s' "c0" title .event _ row' new
    (findUnique_sampleEvent false) h hrow' "allowReEntry" rfl (by decide) (fun hex => by cases hex.1)
  rw [hrow'] at hreset
  rw [Option.map_some, hsame] at hreset
  cases hreset

end CreativeBackend
