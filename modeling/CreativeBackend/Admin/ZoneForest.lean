import CreativeBackend.Admin.Zones
import CreativeBackend.Relational.Parents

/-!
# The forest of zones

An update of a zone checks that its parent is another zone of the event, and nothing further up. The
zones stay a forest in every run in which no zone is moved below itself; an update that moves one
there, and is accepted, closes a cycle.
-/

namespace CreativeBackend

open Relational

namespace AdminStore

variable {s s' : AdminStore}

/-- The `parentId` of a zone. -/
def parentOf (s : AdminStore) (id : Id) : Option Id :=
  (s.findUnique .zone id).bind (·.str? "parentId")

/-- Following `parentId` ends at a zone without parent, and a zone has the event of its parent. -/
structure ZoneForest (s : AdminStore) : Prop where
  rooted : ∀ id z, s.findUnique .zone id = some z → Rooted s.parentOf id
  sameEvent : ∀ id z p, s.findUnique .zone id = some z → z.str? "parentId" = some p →
    ∃ q e, s.findUnique .zone p = some q ∧ q.str? "eventId" = some e ∧ z.str? "eventId" = some e

/-- What runs of the service keep: the forest, and zones with keys and events. -/
structure ZonesKept (s : AdminStore) : Prop extends ZoneForest s where
  named : s.findUnique .zone "" = none
  event : ∀ id z, s.findUnique .zone id = some z → ∃ e, z.str? "eventId" = some e

theorem parentOf_of_find {id : Id} {z : Row .zone} (h : s.findUnique .zone id = some z) :
    s.parentOf id = z.str? "parentId" := by
  simp [parentOf, h]

theorem parentOf_eq_some {id p : Id} (h : s.parentOf id = some p) :
    ∃ z, s.findUnique .zone id = some z ∧ z.str? "parentId" = some p :=
  Option.bind_eq_some_iff.mp h

/-- A parent is a zone. -/
theorem ZonesKept.parent_ne {id p : Id} (h : s.ZonesKept) (hp : s.parentOf id = some p) :
    p ≠ "" := by
  obtain ⟨z, hz, hzp⟩ := parentOf_eq_some hp
  obtain ⟨q, -, hq, -⟩ := h.sameEvent id z p hz hzp
  rintro rfl
  rw [h.named] at hq
  cases hq

/-- What is not a zone is no zone's parent. -/
theorem ZoneForest.childless {k : Id} (h : s.ZoneForest) (hk : s.findUnique .zone k = none)
    (y : Id) : s.parentOf y ≠ some k := by
  intro hy
  obtain ⟨z, hz, hzp⟩ := parentOf_eq_some hy
  obtain ⟨q, -, hq, -⟩ := h.sameEvent y z k hz hzp
  rw [hk] at hq
  cases hq

theorem withTable_table_ne {m n : Model} (h : m ≠ n) (t : Table (Row m)) :
    (s.withTable m t).table n = s.table n := by
  simp [withTable, h]

/-- A store with the same zones. -/
theorem ZonesKept.congr (h : s.ZonesKept) (hz : s'.table .zone = s.table .zone) : s'.ZonesKept := by
  have hfind : ∀ id, s'.findUnique .zone id = s.findUnique .zone id := by
    intro id
    simp only [findUnique, hz]
  have hup : s'.parentOf = s.parentOf := by
    funext id
    simp only [parentOf, hfind]
  constructor
  · constructor
    · intro id z hid
      rw [hup]
      exact h.rooted id z (hfind id ▸ hid)
    · intro id z p hid hp
      rw [hfind]
      exact h.sameEvent id z p (hfind id ▸ hid) hp
  · rw [hfind]
    exact h.named
  · intro id z hid
    exact h.event id z (hfind id ▸ hid)

/-! ## One zone written -/

/-- The zone `id` is `row`, and the others are as before. -/
def Wrote (s s' : AdminStore) (id : Id) (row : Row .zone) : Prop :=
  ∀ k, s'.findUnique .zone k = if k = id then some row else s.findUnique .zone k

namespace Wrote

variable {id : Id} {row : Row .zone}

theorem self (h : s.Wrote s' id row) : s'.findUnique .zone id = some row := by
  rw [h id, if_pos rfl]

theorem of_ne (h : s.Wrote s' id row) {k : Id} (hk : k ≠ id) :
    s'.findUnique .zone k = s.findUnique .zone k := by
  rw [h k, if_neg hk]

theorem parentOf_ne (h : s.Wrote s' id row) (k : Id) (hk : k ≠ id) :
    s'.parentOf k = s.parentOf k := by
  simp only [parentOf, h.of_ne hk]

theorem parentOf_self (h : s.Wrote s' id row) : s'.parentOf id = row.str? "parentId" :=
  parentOf_of_find h.self

end Wrote

/-- What a zone is written with: an event, a parent of that event that is not below the zone, and
children of that event. -/
structure Fits (s : AdminStore) (id : Id) (row : Row .zone) : Prop where
  named : id ≠ ""
  event : ∃ e, row.str? "eventId" = some e
  parent : ∀ p, row.str? "parentId" = some p → p ≠ id ∧ ¬ Below s.parentOf id p ∧
    ∃ q e, s.findUnique .zone p = some q ∧ q.str? "eventId" = some e ∧ row.str? "eventId" = some e
  children : ∀ k z, s.findUnique .zone k = some z → z.str? "parentId" = some id →
    z.str? "eventId" = row.str? "eventId"

/-- A zone that fits is written into a forest. -/
theorem ZonesKept.wrote {id : Id} {row : Row .zone} (h : s.ZonesKept) (hw : s.Wrote s' id row)
    (hfits : s.Fits id row) : s'.ZonesKept := by
  have hrooted : ∀ x, Rooted s.parentOf x → Rooted s'.parentOf x := by
    intro x hx
    cases hp : row.str? "parentId" with
    | none =>
        refine hx.cut fun y => ?_
        by_cases hy : y = id
        · exact .inl (hy ▸ hw.parentOf_self.trans hp)
        · exact .inr (hw.parentOf_ne y hy)
    | some p =>
        obtain ⟨-, hbelow, q, -, hq, -⟩ := hfits.parent p hp
        exact .move (hw.parentOf_self.trans hp) hw.parentOf_ne (h.rooted p q hq) hbelow hx
  have hup : ∀ k, s.findUnique .zone k = none → Rooted s.parentOf k := by
    intro k hk
    exact .root (by simp [parentOf, hk])
  constructor
  · constructor
    · intro k z hk
      apply hrooted
      cases hold : s.findUnique .zone k with
      | none => exact hup k hold
      | some z₀ => exact h.rooted k z₀ hold
    · intro k z p hk hp
      by_cases heq : k = id
      · subst heq
        rw [hw.self] at hk
        cases hk
        obtain ⟨hne, -, q, e, hq, hqe, he⟩ := hfits.parent p hp
        exact ⟨q, e, by rw [hw.of_ne hne, hq], hqe, he⟩
      · rw [hw.of_ne heq] at hk
        obtain ⟨q, e, hq, hqe, hze⟩ := h.sameEvent k z p hk hp
        by_cases hpid : p = id
        · subst hpid
          exact ⟨row, e, hw.self, by rw [← hfits.children k z hk hp, hze], hze⟩
        · exact ⟨q, e, by rw [hw.of_ne hpid, hq], hqe, hze⟩
  · rw [hw.of_ne (Ne.symm hfits.named)]
    exact h.named
  · intro k z hk
    by_cases heq : k = id
    · subst heq
      rw [hw.self] at hk
      cases hk
      exact hfits.event
    · rw [hw.of_ne heq] at hk
      exact h.event k z hk

/-! ## Zones deleted -/

theorem findUnique_deleteZones (ids : List Id) (id : Id) :
    (s.deleteZones ids).findUnique .zone id =
      ((s.findUnique .zone id).filter fun z => z.id ∉ ids).map (Row.clear "parentId" ids) := by
  unfold deleteZones
  simp only [clearColumn, findUnique]
  rw [withTable_table_ne (by decide), withTable_table, Table.find?_mapRows, deleteMany,
    withTable_table, Table.find?_deleteMany]
  simp

/-- What deleted zones leave of the pointers. -/
theorem parentOf_deleteZones (ids : List Id) (id : Id) :
    (s.deleteZones ids).parentOf id = none ∨ (s.deleteZones ids).parentOf id = s.parentOf id := by
  simp only [parentOf, findUnique_deleteZones]
  cases hz : s.findUnique .zone id with
  | none => exact .inl rfl
  | some z =>
      by_cases hid : z.id ∈ ids
      · simp [Option.filter, hid]
      · simp only [Option.filter, hid, not_false_eq_true, decide_true, if_true, Option.map_some,
          Option.bind_some, Row.clear_str?]
        split
        · exact .inl rfl
        · exact .inr rfl

theorem find_of_deleteZones {ids : List Id} {id : Id} {z : Row .zone}
    (h : (s.deleteZones ids).findUnique .zone id = some z) :
    ∃ z₀, s.findUnique .zone id = some z₀ ∧ z₀.id ∉ ids ∧ z = z₀.clear "parentId" ids := by
  rw [findUnique_deleteZones] at h
  obtain ⟨z₀, hz₀, rfl⟩ := Option.map_eq_some_iff.mp h
  obtain ⟨hfind, hnot⟩ := Option.filter_eq_some_iff.mp hz₀
  exact ⟨z₀, hfind, by simpa using hnot, rfl⟩

theorem ZonesKept.deleteZones (h : s.ZonesKept) (ids : List Id) :
    (s.deleteZones ids).ZonesKept := by
  have hne : "eventId" ≠ "parentId" := by decide
  constructor
  · constructor
    · intro id z hz
      obtain ⟨z₀, hz₀, -, -⟩ := find_of_deleteZones hz
      exact (h.rooted id z₀ hz₀).cut fun y => parentOf_deleteZones ids y
    · intro id z p hz hp
      obtain ⟨z₀, hz₀, -, rfl⟩ := find_of_deleteZones hz
      rw [Row.clear_str?] at hp
      split at hp
      · cases hp
      · next hkept =>
          obtain ⟨q, e, hq, hqe, hze⟩ := h.sameEvent id z₀ p hz₀ hp
          have hpq : q.id = p := (Table.find?_eq_some_iff.mp hq).2
          have hpids : p ∉ ids := by simpa [hp] using hkept
          refine ⟨q.clear "parentId" ids, e, ?_, ?_, ?_⟩
          · rw [findUnique_deleteZones, hq]
            simp [Option.filter, hpq, hpids]
          · rw [Row.clear_str?_of_ne hne, hqe]
          · rw [Row.clear_str?_of_ne hne, hze]
  · rw [findUnique_deleteZones, h.named]
    rfl
  · intro id z hz
    obtain ⟨z₀, hz₀, -, rfl⟩ := find_of_deleteZones hz
    rw [Row.clear_str?_of_ne hne]
    exact h.event id z₀ hz₀

end AdminStore

/-! ## The checks -/

variable {p : Platform} {s s' : AdminStore} {body : List (String × Json)} {dto : Columns}

namespace ZonesService

theorem parent_of_ensureParentBelongsToEvent {parentId : Option Id} {eventId currentZoneId : Id}
    (h : ensureParentBelongsToEvent s parentId eventId currentZoneId = .ok ()) {parent : Id}
    (hp : parentId = some parent) (hne : parent ≠ "") :
    parent ≠ currentZoneId ∧
      ∃ q, s.findUnique .zone parent = some q ∧ q.str? "eventId" = some eventId := by
  have htruthy : truthy parentId = some parent := truthy_eq_some_iff.mpr ⟨hp, hne⟩
  unfold ensureParentBelongsToEvent at h
  rw [htruthy] at h
  dsimp only at h
  split at h
  · cases h
  · next q hq =>
      split at h
      · cases h
      · next hevent =>
          split at h
          · cases h
          · next hcurrent =>
              have hid : q.id = parent := (Table.find?_eq_some_iff.mp hq).2
              exact ⟨hid ▸ hcurrent, q, hq, not_not.mp hevent⟩

/-- A zone that may move has no children. -/
theorem childless_of_ensureZoneCanMove {id : Id} (h : ensureZoneCanMove s id = .ok ()) {k : Id}
    {z : Row .zone} (hz : s.findUnique .zone k = some z) : z.str? "parentId" ≠ some id := by
  intro hp
  have hmem : z ∈ (s.table .zone).rows := (Table.find?_eq_some_iff.mp hz).1
  have hcount : s.count .zone (fun z => z.str? "parentId" = some id) > 0 := by
    apply List.length_pos_of_mem (a := z)
    exact List.mem_filter.mpr ⟨hmem, by simpa using hp⟩
  unfold ensureZoneCanMove at h
  rw [if_pos (.inl hcount)] at h
  cases h

end ZonesService

/-- What the validation pipe lets through passes the checks of its class. -/
theorem ValidationPipe.valid_of_transform {c : DtoClass}
    (h : ValidationPipe.transform p c body = .ok dto) {property : Property} (hc : property ∈ c) :
    ValidationPipe.valid p dto property = true := by
  have hdto := ValidationPipe.transform_eq_ok h
  unfold ValidationPipe.transform at h
  split at h
  · split at h
    · next hall => exact hdto ▸ List.all_eq_true.mp hall property hc
    · cases h
  · cases h

theorem eventId_of_create (h : ValidationPipe.transform p CreateZoneDto body = .ok dto) :
    ∃ e, dto "eventId" = some (.json (.str e)) := by
  have hmem : stringProperty "eventId" ∈ CreateZoneDto := List.mem_cons_self
  have hvalid := ValidationPipe.valid_of_transform h hmem
  simp only [ValidationPipe.valid, stringProperty] at hvalid
  split at hvalid
  · cases hvalid
  · cases hvalid
  · next v _ hv =>
      cases v with
      | str e => exact ⟨e, hv⟩
      | _ => cases hvalid
  · cases hvalid

theorem eventId_of_update (h : ValidationPipe.transform p UpdateZoneDto body = .ok dto) :
    dto "eventId" = none ∨ dto "eventId" = some (.json .null) ∨
      ∃ e, dto "eventId" = some (.json (.str e)) := by
  have hmem : { stringProperty "eventId" with isOptional := true } ∈ UpdateZoneDto :=
    List.mem_cons_self
  have hvalid := ValidationPipe.valid_of_transform h hmem
  simp only [ValidationPipe.valid, stringProperty] at hvalid
  split at hvalid
  · next hnone => exact .inl hnone
  · next hnull => exact .inr (.inl hnull)
  · next v _ hv =>
      cases v with
      | str e => exact .inr (.inr ⟨e, hv⟩)
      | _ => cases hvalid
  · cases hvalid

theorem parentId_of_update (h : ValidationPipe.transform p UpdateZoneDto body = .ok dto) :
    dto "parentId" = (body.lookup "parentId").map .json := by
  rw [ValidationPipe.transform_eq_ok h]
  cases hbody : body.lookup "parentId" with
  | none =>
      rw [ValidationPipe.instantiate_of_lookup_eq_none hbody]
      rfl
  | some v =>
      rw [ValidationPipe.instantiate_of_lookup_eq_some rfl hbody]
      rfl

/-- A foreign key to a parent refers to a zone. -/
theorem AdminStore.parent_of_refersAll (h : s.refersAll .zone dto = true) {parent : Id}
    (hp : dto.str? "parentId" = some parent) : (s.findUnique .zone parent).isSome := by
  have hmem : ("parentId", Model.zone) ∈ Model.zone.references := by decide
  have href := List.all_eq_true.mp h _ hmem
  dsimp only [Columns.str?] at hp href
  rw [hp] at href
  exact href

/-! ## The requests -/

theorem fresh_ne_empty (n : Nat) : (fresh n : Id) ≠ "" := by
  intro h
  have hlist : ("c" ++ Nat.repr n).toList = [] := congrArg String.toList h
  rw [String.toList_append] at hlist
  cases hlist

namespace AdminStore

/-- A column of a new row that the database gives no default. -/
theorem newRow_str? {m : Model} {defaults : String → Cell} {column : String}
    (hc : column ≠ "createdAt") (hu : column ≠ "updatedAt")
    (hnull : defaults column = .json .null) :
    (s.newRow defaults dto : Row m).str? column = dto.str? column := by
  simp only [Row.str?, newRow, hc, hu, or_self, if_false, hnull, Columns.str?]
  cases dto column <;> rfl

/-- What a creation leaves. -/
theorem create_cases {m : Model} {required : List String} {defaults : String → Cell}
    {x : Except Exn (Row m)} (h : s.create m required defaults dto = (x, s')) :
    s' = s ∨ ∃ row t, s.refersAll m dto = true ∧
      (s.table m).create (s.newRow defaults dto) = some (row, t) ∧ s' = s.withTable m t := by
  unfold AdminStore.create at h
  split at h
  · cases h
    exact .inl rfl
  · split at h
    · cases h
      exact .inl rfl
    · next hrefers =>
        split at h
        · cases h
          exact .inl rfl
        · next row t hcreate =>
            cases h
            exact .inr ⟨row, t, by simpa using hrefers, hcreate, rfl⟩

theorem ZonesKept.create (h : s.ZonesKept)
    (hdto : ValidationPipe.transform p CreateZoneDto body = .ok dto) :
    (ZonesService.create s dto).2.ZonesKept := by
  unfold ZonesService.create
  split
  · exact h
  · next hchecks =>
      obtain ⟨-, -, hchecks⟩ := Except.exists_of_bind_eq_ok hchecks
      obtain ⟨-, -, hchecks⟩ := Except.exists_of_bind_eq_ok hchecks
      obtain ⟨_, hparent, -⟩ := Except.exists_of_bind_eq_ok hchecks
      rcases hcreated : s.create .zone ["eventId", "nameAr"] ZonesService.defaults dto with ⟨x, s'⟩
      rcases create_cases hcreated with rfl | ⟨row, t, hrefers, hcreate, rfl⟩
      · exact h
      obtain ⟨e, he⟩ := eventId_of_create hdto
      have hde : dto.str? "eventId" = some e := by simp [Columns.str?, he, Cell.str?]
      have hrow : row =
          withKey (fresh (s.table .zone).serial) (s.newRow ZonesService.defaults dto) :=
        (Table.create_eq_some hcreate).1
      have hcolumn : ∀ column, column ≠ "createdAt" → column ≠ "updatedAt" →
          ZonesService.defaults column = .json .null → row.str? column = dto.str? column := by
        intro column hc hu hnull
        rw [hrow]
        exact newRow_str? (s := s) (m := .zone) hc hu hnull
      have hevent : row.str? "eventId" = some e :=
        (hcolumn "eventId" (by decide) (by decide) rfl).trans hde
      have hrowParent : row.str? "parentId" = dto.str? "parentId" :=
        hcolumn "parentId" (by decide) (by decide) rfl
      have hw : s.Wrote (s.withTable .zone t) (fresh (s.table .zone).serial) row := by
        intro k
        simp only [findUnique, withTable_table]
        exact Table.find?_create hcreate k
      have hnew : s.findUnique .zone (fresh (s.table .zone).serial) = none :=
        Table.find?_eq_none_iff.mpr fun z hz => Table.key_ne_fresh _ hz (Nat.le_refl _)
      have hchildless := h.childless hnew
      apply h.wrote hw
      constructor
      · exact fresh_ne_empty _
      · exact ⟨e, hevent⟩
      · intro parent hp
        rw [hrowParent] at hp
        have hne : parent ≠ "" := by
          rintro rfl
          have hsome := parent_of_refersAll hrefers hp
          rw [h.named] at hsome
          cases hsome
        obtain ⟨-, q, hq, hqe⟩ := ZonesService.parent_of_ensureParentBelongsToEvent hparent hp hne
        rw [hde, Option.getD_some] at hqe
        have hneNew : parent ≠ fresh (s.table .zone).serial := by
          rintro rfl
          rw [hnew] at hq
          cases hq
        have hnot : ¬ Below s.parentOf (fresh (s.table .zone).serial) parent :=
          fun hbelow => hneNew (hbelow.eq_of_childless hchildless)
        exact ⟨hneNew, hnot, q, e, hq, hqe, hevent⟩
      · intro k z hz hp
        exact absurd ((parentOf_of_find hz).trans hp) (hchildless k)

/-- What a write of the columns of a zone leaves of its event and its parent. -/
theorem applyColumns_str? {m : Model} (row : Row m) {column : String} (h : column ≠ "updatedAt") :
    (s.applyColumns dto row).str? column =
      match dto column with
      | none => row.str? column
      | some v => v.str? := by
  simp only [Row.str?, cell_applyColumns dto row h]
  cases dto column <;> rfl

/-- What an update leaves. -/
theorem update_cases {m : Model} {id : Id} {x : Except Exn (Row m)}
    (h : s.update m id dto = (x, s')) :
    s' = s ∨ ∃ z row t, m.columns.all (fits dto) = true ∧ s.refersAll m dto = true ∧
      s.findUnique m id = some z ∧ (s.table m).update id (s.applyColumns dto) = .done row t ∧
      row = withKey id (s.applyColumns dto z) ∧ s' = s.withTable m t := by
  unfold AdminStore.update at h
  split at h
  · cases h
    exact .inl rfl
  · next hfits =>
      split at h
      · cases h
        exact .inl rfl
      · next hrefers =>
          split at h
          · cases h
            exact .inl rfl
          · cases h
            exact .inl rfl
          · next row t hupdate =>
              cases h
              obtain ⟨z, hz, hkey, hrow, -⟩ := Table.update_eq_done hupdate
              exact .inr ⟨z, row, t, by simpa using hfits, by simpa using hrefers,
                Table.find?_eq_some_iff.mpr ⟨hz, hkey⟩, hupdate, hrow, rfl⟩

/-- A request that gives a zone a parent from its own subtree. -/
def MovesBelow (s : AdminStore) : ZoneRequest → Prop
  | .update id body => ∃ parent, body.lookup "parentId" = some (.str parent) ∧
      Below s.parentOf id parent
  | _ => False

theorem ZonesKept.update {id : Id} (h : s.ZonesKept)
    (hdto : ValidationPipe.transform p UpdateZoneDto body = .ok dto)
    (hbelow : ¬ s.MovesBelow (.update id body)) : (ZonesService.update s id dto).2.ZonesKept := by
  unfold ZonesService.update
  split
  · exact h
  · next data hdata =>
      obtain rfl := ZonesService.updateData_eq_ok hdata
      obtain ⟨z₀, hz₀, hdata⟩ := Except.exists_of_bind_eq_ok hdata
      obtain ⟨-, -, hdata⟩ := Except.exists_of_bind_eq_ok hdata
      obtain ⟨-, -, hdata⟩ := Except.exists_of_bind_eq_ok hdata
      obtain ⟨_, hmove, hdata⟩ := Except.exists_of_bind_eq_ok hdata
      obtain ⟨-, -, hdata⟩ := Except.exists_of_bind_eq_ok hdata
      obtain ⟨-, -, hdata⟩ := Except.exists_of_bind_eq_ok hdata
      obtain ⟨_, hparent, -⟩ := Except.exists_of_bind_eq_ok hdata
      rcases hupdated : s.update .zone id data with ⟨x, s'⟩
      rcases update_cases hupdated with rfl | ⟨z, row, t, hfits, hrefers, hz, hdone, hrow, rfl⟩
      · exact h
      have hsame : z₀ = z := by
        rw [findUnique_of_findOne hz₀] at hz
        exact Option.some.inj hz
      subst hsame
      obtain ⟨e, he⟩ := h.event id z₀ hz
      rw [he, Option.getD_some] at hmove hparent
      have hcolumn : ∀ column, column ≠ "updatedAt" → row.str? column =
          match data column with
          | none => z₀.str? column
          | some v => v.str? := by
        intro column hc
        rw [hrow]
        exact applyColumns_str? (s := s) (m := .zone) z₀ hc
      have hevent : row.str? "eventId" = some ((data.str? "eventId").getD e) := by
        rw [hcolumn "eventId" (by decide)]
        rcases eventId_of_update hdto with hnone | hnull | ⟨e', he'⟩
        · simp [Columns.str?, hnone, he]
        · have hfit := List.all_eq_true.mp hfits ⟨"eventId", false⟩ List.mem_cons_self
          simp [fits, hnull] at hfit
        · simp [Columns.str?, he', Cell.str?]
      have hw : s.Wrote (s.withTable .zone t) id row := by
        intro k
        simp only [findUnique, withTable_table]
        exact Table.find?_update hdone k
      have hid : id ≠ "" := by
        rintro rfl
        rw [h.named] at hz
        cases hz
      apply h.wrote hw
      constructor
      · exact hid
      · exact ⟨_, hevent⟩
      · intro parent hp
        rw [hcolumn "parentId" (by decide), parentId_of_update hdto] at hp
        -- The parent that was checked is the parent that is written.
        have hchecked : (data.str? "parentId").or (z₀.str? "parentId") = some parent ∧
            parent ≠ "" ∧ ¬ Below s.parentOf id parent := by
          cases hgiven : body.lookup "parentId" with
          | none =>
              have hkept : z₀.str? "parentId" = some parent := by simpa [hgiven] using hp
              have hup : s.parentOf id = some parent := (parentOf_of_find hz).trans hkept
              refine ⟨?_, h.parent_ne hup, fun hb => ?_⟩
              · simp [Columns.str?, parentId_of_update hdto, hgiven, hkept]
              · exact Below.not_rooted hup hb .self (h.rooted id z₀ hz)
          | some v =>
              have hv : v = .str parent := by
                rw [hgiven] at hp
                cases v <;> simp_all [Cell.str?]
              subst hv
              have hstr : data.str? "parentId" = some parent := by
                simp [Columns.str?, parentId_of_update hdto, hgiven, Cell.str?]
              refine ⟨by simp [hstr], ?_, fun hb => hbelow ⟨parent, hgiven, hb⟩⟩
              rintro rfl
              have hsome := parent_of_refersAll hrefers hstr
              rw [h.named] at hsome
              cases hsome
        obtain ⟨hor, hne, hnot⟩ := hchecked
        obtain ⟨hneId, q, hq, hqe⟩ :=
          ZonesService.parent_of_ensureParentBelongsToEvent hparent hor hne
        exact ⟨hneId, hnot, q, _, hq, hqe, hevent⟩
      · intro k z hk hp
        obtain ⟨q, e', hq, hqe, hze⟩ := h.sameEvent k z id hk hp
        have hqz : q = z₀ := by
          rw [hz] at hq
          exact (Option.some.inj hq).symm
        rw [hqz, he] at hqe
        rw [hze, hevent, ← hqe]
        by_cases hsame : (data.str? "eventId").getD e = e
        · rw [hsame]
        · unfold checkIf at hmove
          rw [if_pos hsame] at hmove
          exact absurd hp (ZonesService.childless_of_ensureZoneCanMove hmove hk)

theorem ZonesKept.remove (h : s.ZonesKept) (held : Id → Bool) (id : Id) :
    (ZonesService.remove s held id).2.ZonesKept := by
  unfold ZonesService.remove
  split
  · exact h
  · unfold ZonesService.removeSubtree
    dsimp only
    split
    · exact h
    · refine List.foldlRecOn _ _ ?_ fun u hu ids _ => hu.deleteZones ids
      exact h.congr (withTable_table_ne (by decide) _)

/-- The requests keep the zones a forest, except for moves below the zone itself. -/
theorem ZonesKept.perform (h : s.ZonesKept) {r : ZoneRequest} (hr : ¬ s.MovesBelow r) :
    (r.perform p s).2.ZonesKept := by
  cases r with
  | create body =>
      unfold ZoneRequest.perform
      dsimp only
      split
      · exact h
      · next hdto => exact h.create hdto
  | update id body =>
      unfold ZoneRequest.perform Resource.patch
      dsimp only
      split
      · exact h
      · next hdto => exact h.update hdto hr
  | remove id held => exact h.remove held id

theorem zonesKept_of_empty (h : (s.table .zone).rows = []) : s.ZonesKept := by
  have hnone : ∀ id, s.findUnique .zone id = none := by
    intro id
    rw [findUnique, Table.find?_eq_none_iff, h]
    exact fun _ ha => absurd ha List.not_mem_nil
  constructor
  · constructor
    · intro id z hz
      rw [hnone] at hz
      cases hz
    · intro id z p hz
      rw [hnone] at hz
      cases hz
  · exact hnone ""
  · intro id z hz
    rw [hnone] at hz
    cases hz

/-- An accepted update that moves a zone below itself closes a cycle. -/
theorem not_zoneForest_of_movesBelow {id : Id} {row : Row .zone}
    (h : s.MovesBelow (.update id body)) (hdone : Resource.zone.patch p s id body = (.ok row, s')) :
    ¬ s'.ZoneForest := by
  obtain ⟨parent, hgiven, hbelow⟩ := h
  unfold Resource.patch at hdone
  split at hdone
  · cases hdone
  · next dto hdto =>
      dsimp only [Resource.update] at hdone
      unfold ZonesService.update at hdone
      split at hdone
      · cases hdone
      · next data hdata =>
          obtain rfl := ZonesService.updateData_eq_ok hdata
          obtain ⟨z, hz, hz'⟩ := update_eq_ok hdone
          have hup : s'.parentOf id = some parent := by
            rw [parentOf_of_find hz', applyColumns_str? z (by decide), parentId_of_update hdto,
              hgiven]
            rfl
          have hw : ∀ y, y ≠ id → s'.parentOf y = s.parentOf y := by
            rcases update_cases hdone with rfl | ⟨z₀, new, t, -, -, -, hnew, -, rfl⟩
            · exact fun _ _ => rfl
            · have hwrote : s.Wrote (s.withTable .zone t) id new := by
                intro k
                simp only [findUnique, withTable_table]
                exact Table.find?_update hnew k
              exact hwrote.parentOf_ne
          intro hforest
          exact Below.not_rooted hup (hbelow.move hw) .self (hforest.rooted id _ hz')

/-- A request that closes a cycle: an update that is accepted and moves a zone below itself. -/
def Tangles (p : Platform) (s : AdminStore) (r : ZoneRequest) : Prop :=
  s.MovesBelow r ∧ (r.perform p s).1.isOk = true

/-- A refused update leaves the zones as they are. -/
theorem patch_error {id : Id} {body : List (String × Json)} {e : Exn}
    (h : Resource.zone.patch p s id body = (.error e, s')) : s' = s := by
  unfold Resource.patch at h
  split at h
  · cases h
    rfl
  · next dto _ =>
      dsimp only [Resource.update] at h
      unfold ZonesService.update at h
      split at h
      · cases h
        rfl
      · rcases update_cases h with hsame | ⟨z, row, t, hfits, hrefers, hz, hdone, -, rfl⟩
        · exact hsame
        · unfold AdminStore.update at h
          simp [hfits, hrefers, hdone] at h

theorem ZonesKept.next (h : s.ZonesKept) {r : ZoneRequest} (hr : ¬ s.Tangles p r) :
    (r.perform p s).2.ZonesKept := by
  by_cases hbelow : s.MovesBelow r
  · cases r with
    | update id body =>
        rcases hpatch : Resource.zone.patch p s id body with ⟨x, s'⟩
        have hperform : (ZoneRequest.update id body).perform p s = (x.map fun _ => (), s') := by
          rw [ZoneRequest.perform, hpatch]
        cases x with
        | ok row => exact absurd ⟨hbelow, by rw [hperform]; rfl⟩ hr
        | error e =>
            rw [hperform, patch_error hpatch]
            exact h
    | _ => exact hbelow.elim
  · exact h.perform hbelow

end AdminStore

open AdminStore

/-- The zones of each event are a forest in every run in which no zone is moved below itself. -/
theorem zones_forest_of_run {p : Platform} {s₀ s : AdminStore} (h₀ : (s₀.table .zone).rows = [])
    (h : ZoneRun p (fun s r => ¬ s.MovesBelow r) s₀ s) : s.ZoneForest := by
  have hkept : s.ZonesKept := by
    induction h with
    | start => exact zonesKept_of_empty h₀
    | next _ hr ih => exact ih.perform hr
  exact hkept.toZoneForest

namespace ZonesService

/-- A hall of the event. -/
def hall : List (String × Json) := [("eventId", .str "c0"), ("nameAr", .str "Hall")]

/-- A room in a zone of the event. -/
def room (parent : Id) : List (String × Json) :=
  [("eventId", .str "c0"), ("nameAr", .str "Room"), ("parentId", .str parent)]

/-- The stores after a hall, a room in it, and a request on them. -/
def afterRoom (r : ZoneRequest) : AdminStore :=
  (r.perform Resource.samplePlatform ((ZoneRequest.create (room "c0")).perform
    Resource.samplePlatform ((ZoneRequest.create hall).perform Resource.samplePlatform
      (Resource.sampleAdmin true)).2).2).2

end ZonesService

open ZonesService

/-- A room leaves its hall. -/
theorem room_leaves_hall :
    (afterRoom (.update "c1" [("parentId", .null)])).ZoneForest ∧
      (afterRoom (.update "c1" [("parentId", .null)])).parentOf "c1" = none := by
  have hempty : ((Resource.sampleAdmin true).table .zone).rows = [] := rfl
  refine ⟨zones_forest_of_run (p := Resource.samplePlatform) hempty ?_, rfl⟩
  refine .next (.next (.next .start ?_) ?_) ?_
  · exact id
  · exact id
  · rintro ⟨parent, hgiven, -⟩
    cases hgiven

/-- A hall that is moved into its own room is below itself. -/
theorem hall_moves_into_room :
    ¬ ∀ (p : Platform) (s₀ s : AdminStore), (s₀.table .zone).rows = [] →
      ZoneRun p (fun _ _ => True) s₀ s → s.ZoneForest := by
  intro hall
  have hforest := hall Resource.samplePlatform (Resource.sampleAdmin true)
    (afterRoom (.update "c0" [("parentId", .str "c1")])) rfl
    (.next (.next (.next .start trivial) trivial) trivial)
  have h₀ : (afterRoom (.update "c0" [("parentId", .str "c1")])).parentOf "c0" = some "c1" := rfl
  have h₁ : (afterRoom (.update "c0" [("parentId", .str "c1")])).parentOf "c1" = some "c0" := rfl
  obtain ⟨z, hz, -⟩ := parentOf_eq_some h₀
  exact Below.not_rooted h₀ (.step h₁ .self) .self (hforest.rooted "c0" z hz)

/-- The zones are a forest until an accepted update moves a zone below itself, and no longer. -/
theorem zones_forest_until_tangled {p : Platform} {s₀ s : AdminStore}
    (h₀ : (s₀.table .zone).rows = []) (h : ZoneRun p (fun s r => ¬ s.Tangles p r) s₀ s) :
    s.ZoneForest ∧ ∀ r : ZoneRequest, (r.perform p s).2.ZoneForest ↔ ¬ s.Tangles p r := by
  have hkept : s.ZonesKept := by
    induction h with
    | start => exact zonesKept_of_empty h₀
    | next _ hr ih => exact ih.next hr
  refine ⟨hkept.toZoneForest, fun r => ⟨?_, fun hr => (hkept.next hr).toZoneForest⟩⟩
  rintro hforest ⟨hbelow, hok⟩
  cases r with
  | update id body =>
      rcases hpatch : Resource.zone.patch p s id body with ⟨x, s'⟩
      have hperform : (ZoneRequest.update id body).perform p s = (x.map fun _ => (), s') := by
        rw [ZoneRequest.perform, hpatch]
      rw [hperform] at hforest hok
      cases x with
      | ok row => exact not_zoneForest_of_movesBelow hbelow hpatch hforest
      | error e => cases hok
  | _ => exact hbelow

theorem hall_tangles : ¬ (afterRoom (.update "c0" [("parentId", .str "c1")])).ZoneForest := by
  have hrun : ZoneRun Resource.samplePlatform (fun s r => ¬ s.Tangles Resource.samplePlatform r)
      (Resource.sampleAdmin true) _ :=
    .next (r := .create (room "c0")) (.next (r := .create hall) .start fun h => h.1) fun h => h.1
  have hbelow : Below ((((ZoneRequest.create (room "c0")).perform Resource.samplePlatform
    ((ZoneRequest.create hall).perform Resource.samplePlatform
      (Resource.sampleAdmin true)).2).2).parentOf) "c0" "c1" := .step rfl .self
  intro hforest
  exact ((zones_forest_until_tangled rfl hrun).2 _).mp hforest ⟨⟨"c1", rfl, hbelow⟩, rfl⟩

end CreativeBackend
