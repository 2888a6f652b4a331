import CreativeBackend.Dashboard.Figures
import CreativeBackend.Dashboard.Pagination
import CreativeBackend.Storage.LiveImages

/-!
# Agreement of the figures of attendance

With keys and an event-consistent history, the summary, the analytics and the reports count the same
registrations as checked in, which are those that the list shows so. A rate of attendance compares
them with the active registrations, so it stays within 100 percent exactly where not too many of
them are not active any more.
-/

namespace CreativeBackend

/-! ## Counts -/

section Counts

variable {α κ : Type} [DecidableEq κ]

theorem getStatusCount_groupCounts (key : α → κ) (rows : List α) (status : κ) :
    getStatusCount (groupCounts key rows) status = rows.countP fun a => key a = status := by
  unfold getStatusCount groupCounts
  rw [List.find?_map]
  cases hfind : (rows.map key).eraseDups.find?
      ((fun item : κ × Nat => decide (item.1 = status)) ∘
        fun k => (k, rows.countP fun a => key a = k)) with
  | none =>
      have hnone : ∀ a ∈ rows, key a ≠ status := by
        intro a ha hkey
        have hmem : status ∈ (rows.map key).eraseDups :=
          List.mem_eraseDups.mpr (List.mem_map.mpr ⟨a, ha, hkey⟩)
        have hmiss := List.find?_eq_none.mp hfind status hmem
        simp at hmiss
      exact (List.countP_eq_zero.mpr fun a ha => by simpa using hnone a ha).symm
  | some k =>
      have hk : k = status := by simpa using List.find?_some hfind
      subst hk
      rfl

theorem percentage_le_iff {part whole : Nat} (hwhole : 0 < whole) :
    percentage part whole ≤ 10000 ↔ 20000 * part < 20001 * whole := by
  have hlt : percentage part whole < 10001 ↔
      200 * (100 * part) + whole < 10001 * (2 * whole) :=
    Nat.div_lt_iff_lt_mul (by omega)
  omega

end Counts

/-! ## What the tables promise -/

section Consistent

variable {ρ : Type} [Ord ρ] (c : Collation ρ) (db : DashboardDb)

/-- The keys of the tables, and movements that happen at the event of their registration. -/
structure DashboardDb.Consistent : Prop extends db.PrimaryKeys c where
  eventOfRegistration : ∀ r ∈ db.registrations, ∃ e ∈ db.events, e.id = r.eventId
  registrationOfMovement : ∀ m ∈ db.movementLogs, ∃ r ∈ db.registrations,
    r.id = m.registrationId ∧ r.eventId = m.eventId

variable {c db} [Std.TransOrd ρ]

open ClientDashboardQueryService (hasAllowed)

theorem DashboardDb.PrimaryKeys.nodup_registrationIds (h : db.PrimaryKeys c) :
    (db.registrations.map (·.id)).Nodup := by
  refine List.pairwise_map.mpr (h.registrations.imp fun hne heq => ?_)
  rw [heq] at hne
  exact hne Std.ReflCmp.compare_self

theorem DashboardDb.PrimaryKeys.nodup_eventIds (h : db.PrimaryKeys c) :
    (db.events.map (·.id)).Nodup := by
  refine List.pairwise_map.mpr (h.events.imp fun hne heq => ?_)
  rw [heq] at hne
  exact hne Std.ReflCmp.compare_self

/-- Events with keys that compare equal are one event. -/
theorem DashboardDb.PrimaryKeys.same_iff (h : db.PrimaryKeys c) {e e' : ListedEvent}
    (he : e ∈ db.events) (he' : e' ∈ db.events) : c.same e.id e'.id = true ↔ e = e' := by
  rw [Collation.same, beq_iff_eq]
  constructor
  · intro heq
    by_contra hne
    have hsymm : Std.Symm fun a b : ListedEvent =>
        compare (c.collate a.id) (c.collate b.id) ≠ .eq :=
      ⟨fun x y hxy hyx => hxy (Std.OrientedCmp.eq_symm hyx)⟩
    exact h.events.forall he he' hne heq
  · rintro rfl
    exact Std.ReflCmp.compare_self

/-- A registration is counted once with its allowed movements, by its own event. -/
theorem DashboardDb.Consistent.length_uniqueRegistrationIds (h : db.Consistent c)
    (inEvent : Id → Bool) (type : MovementType) :
    (uniqueRegistrationIds db inEvent type).length =
      db.registrations.countP fun r => inEvent r.eventId && hasAllowed db type r := by
  have hids := h.nodup_registrationIds
  have hperm : (uniqueRegistrationIds db inEvent type).Perm
      ((db.registrations.filter fun r =>
        inEvent r.eventId && hasAllowed db type r).map (·.id)) := by
    refine (List.perm_ext_iff_of_nodup (Relational.nodup_eraseDups _)
      (hids.sublist (List.filter_sublist.map _))).mpr fun id => ?_
    simp only [hasAllowed, List.mem_eraseDups, List.mem_map, List.mem_filter,
      Bool.and_eq_true, decide_eq_true_eq, List.any_eq_true]
    constructor
    · rintro ⟨m, ⟨hm, ⟨hevent, htype⟩, hallowed⟩, rfl⟩
      obtain ⟨r, hr, hid, hsame⟩ := h.registrationOfMovement m hm
      exact ⟨r, ⟨hr, hsame ▸ hevent, m, hm, ⟨hid.symm, htype⟩, hallowed⟩, hid⟩
    · rintro ⟨r, ⟨hr, hevent, m, hm, ⟨hid, htype⟩, hallowed⟩, rfl⟩
      obtain ⟨r', hr', hid', hsame⟩ := h.registrationOfMovement m hm
      obtain rfl := List.inj_on_of_nodup_map hids hr' hr (hid'.trans hid)
      exact ⟨m, ⟨hm, ⟨hsame ▸ hevent, htype⟩, hallowed⟩, hid⟩
  rw [hperm.length_eq, List.length_map, List.countP_eq_length_filter]

/-! ## The registrations of a client -/

variable (db) in
/-- The registrations of some events that have checked in. -/
def checkedIn (inEvent : Id → Bool) : Nat :=
  db.registrations.countP fun r => inEvent r.eventId && hasAllowed db .ENTRY r

variable (db) in
/-- The active registrations of some events. -/
def activeOnes (inEvent : Id → Bool) : Nat :=
  db.registrations.countP fun r => inEvent r.eventId && r.status = .ACTIVE

variable (db) in
/-- The rate of the checked in registrations is not more than 100 percent. -/
def InRange (inEvent : Id → Bool) : Prop :=
  activeOnes db inEvent = 0 ∨ 20000 * checkedIn db inEvent < 20001 * activeOnes db inEvent

theorem attendanceRate_le_iff {part exited whole : Nat} :
    (attendanceFigures part exited whole).attendanceRate ≤ 10000 ↔
      whole = 0 ∨ 20000 * part < 20001 * whole := by
  unfold attendanceFigures
  by_cases hnone : whole = 0
  · simp [hnone]
  · simp only [hnone, if_false, false_or]
    exact percentage_le_iff (Nat.pos_of_ne_zero hnone)

theorem calculateRate_le_iff {part whole : Nat} :
    (∀ rate ∈ ClientAnalyticsService.calculateRate part whole, rate ≤ 10000) ↔
      whole = 0 ∨ 20000 * part < 20001 * whole := by
  unfold ClientAnalyticsService.calculateRate
  by_cases hnone : whole = 0
  · simp [hnone]
  · simp only [hnone, if_false, false_or, Option.mem_def, Option.some.injEq, forall_eq']
    exact percentage_le_iff (Nat.pos_of_ne_zero hnone)

theorem DashboardDb.Consistent.attendance_of_unique (h : db.Consistent c) (inEvent : Id → Bool) :
    attendanceFigures (uniqueRegistrationIds db inEvent .ENTRY).length
        (uniqueRegistrationIds db inEvent .EXIT).length
        (countByStatus (groupCounts Registration.status
          (db.registrations.filter fun r => inEvent r.eventId))).active =
      attendanceFigures (checkedIn db inEvent)
        (db.registrations.countP fun r => inEvent r.eventId && hasAllowed db .EXIT r)
        (activeOnes db inEvent) := by
  have hactive : (countByStatus (groupCounts Registration.status
      (db.registrations.filter fun r => inEvent r.eventId))).active = activeOnes db inEvent := by
    rw [countByStatus, getStatusCount_groupCounts, List.countP_filter]
    exact List.countP_congr fun r _ => by simp [and_comm]
  rw [hactive, h.length_uniqueRegistrationIds, h.length_uniqueRegistrationIds]
  rfl

/-- A registration belongs to a client by its event. -/
theorem DashboardDb.PrimaryKeys.isEventOf_eq_any (h : db.PrimaryKeys c) (clientId eventId : Id) :
    isEventOf c db clientId eventId =
      (db.events.filter fun e => c.same e.clientId clientId).any fun e => e.id = eventId := by
  rw [Bool.eq_iff_iff]
  simp only [isEventOf, Option.any_eq_true, List.any_eq_true, List.mem_filter, decide_eq_true_eq]
  constructor
  · rintro ⟨e, hfind, hclient⟩
    have hid : e.id = eventId := by simpa using List.find?_some hfind
    exact ⟨e, ⟨List.mem_of_find?_eq_some hfind, hclient⟩, hid⟩
  · rintro ⟨e, ⟨he, hclient⟩, rfl⟩
    obtain ⟨e', hfind⟩ : ∃ e', db.events.find? (fun x => decide (x.id = e.id)) = some e' := by
      rw [← Option.isSome_iff_exists, List.find?_isSome]
      exact ⟨e, he, by simp⟩
    have hid : e'.id = e.id := by simpa using List.find?_some hfind
    obtain rfl := List.inj_on_of_nodup_map h.nodup_eventIds (List.mem_of_find?_eq_some hfind) he hid
    exact ⟨e', hfind, hclient⟩

/-- Counts by the events of a list add up to the count by all of them. -/
theorem sum_countP_events (rows : List Registration) (p : Registration → Bool)
    {events : List ListedEvent} (hids : (events.map (·.id)).Nodup) :
    (events.map fun e => rows.countP fun r => decide (r.eventId = e.id) && p r).sum =
      rows.countP fun r => (events.any fun e => e.id = r.eventId) && p r := by
  induction events with
  | nil => simp
  | cons e events ih =>
      obtain ⟨hnot, hrest⟩ := List.nodup_cons.mp hids
      rw [List.map_cons, List.sum_cons, ih hrest]
      clear ih
      induction rows with
      | nil => rfl
      | cons r rows ih =>
          simp only [List.countP_cons]
          have hone : (if (decide (r.eventId = e.id) && p r) = true then 1 else 0) +
              (if ((events.any fun e => decide (e.id = r.eventId)) && p r) = true then 1 else 0) =
              if (((e :: events).any fun e => decide (e.id = r.eventId)) && p r) = true then 1
                else 0 := by
            by_cases hr : r.eventId = e.id
            · have hnone : (events.any fun e' => decide (e'.id = e.id)) = false := by
                rw [← Bool.not_eq_true, List.any_eq_true]
                rintro ⟨e', he', hsame⟩
                exact hnot (List.mem_map.mpr ⟨e', he', of_decide_eq_true hsame⟩)
              simp [hr, hnone]
            · simp [hr, Ne.symm hr]
          omega

/-- The report of an event counts its own registrations. -/
theorem DashboardDb.Consistent.same_eventId (h : db.Consistent c) {e : ListedEvent}
    (he : e ∈ db.events) {r : Registration} (hr : r ∈ db.registrations) :
    c.same r.eventId e.id = decide (r.eventId = e.id) := by
  obtain ⟨e', he', hid⟩ := h.eventOfRegistration r hr
  rw [Bool.eq_iff_iff, decide_eq_true_eq, ← hid, h.same_iff he' he]
  constructor
  · rintro rfl
    rfl
  · intro hsame
    exact List.inj_on_of_nodup_map h.nodup_eventIds he' he hsame

/-- The counts of the events of a client add up to the count of the client. -/
theorem DashboardDb.Consistent.sum_checkedIn (h : db.Consistent c) (clientId : Id) :
    ((db.events.filter fun e => c.same e.clientId clientId).map fun e =>
      checkedIn db (c.same · e.id)).sum = checkedIn db (isEventOf c db clientId) := by
  have hevent : ∀ e ∈ db.events.filter fun e => c.same e.clientId clientId,
      checkedIn db (c.same · e.id) = db.registrations.countP fun r =>
        decide (r.eventId = e.id) && hasAllowed db .ENTRY r := by
    intro e he
    refine List.countP_congr fun r hr => ?_
    simp only [h.same_eventId (List.mem_filter.mp he).1 hr]
  rw [List.map_congr_left hevent, sum_countP_events _ _
    (h.nodup_eventIds.sublist (List.filter_sublist.map _))]
  refine List.countP_congr fun r _ => ?_
  rw [h.isEventOf_eq_any]

/-! ## What the services report -/

variable (c db) in
/-- The registrations of a client are within the period. -/
def Covers (clientId : Id) (period : AnalyticsPeriod) : Prop :=
  ∀ r ∈ db.registrations, isEventOf c db clientId r.eventId = true →
    period.from_ ≤ r.registeredAt ∧ r.registeredAt ≤ period.to_

theorem DashboardDb.Consistent.summary_attendance (h : db.Consistent c) {user : AuthUser}
    {clientId : Id} (huser : ClientDashboardQueryService.getClientIdOrThrow user = .ok clientId)
    {s : ClientSummary} (hs : ClientDashboardService.summary c db user = .ok s) :
    s.attendance = attendanceFigures (checkedIn db (isEventOf c db clientId))
      (db.registrations.countP fun r => isEventOf c db clientId r.eventId && hasAllowed db .EXIT r)
      (activeOnes db (isEventOf c db clientId)) := by
  unfold ClientDashboardService.summary at hs
  rw [huser] at hs
  simp only [bind, Except.bind] at hs
  split at hs
  · cases hs
  · cases hs
    exact h.attendance_of_unique _

theorem DashboardDb.Consistent.overview_attendance (h : db.Consistent c) {viewer : AuthUser}
    {eventId : Id} {report : EventReport}
    (hreport : ReportsService.overview c db viewer eventId = .ok report) :
    report.attendance = attendanceFigures (checkedIn db (c.same · eventId))
      (db.registrations.countP fun r => c.same r.eventId eventId && hasAllowed db .EXIT r)
      (activeOnes db (c.same · eventId)) := by
  unfold ReportsService.overview at hreport
  obtain ⟨event, -, hok⟩ := Except.exists_of_bind_eq_ok hreport
  cases hok
  exact h.attendance_of_unique _

omit [Std.TransOrd ρ] in
/-- The matching registrations of analytics without filters. -/
theorem filter_buildRegistrationWhere {clientId : Id} {period : AnalyticsPeriod}
    (hperiod : Covers c db clientId period) :
    db.registrations.filter (ClientDashboardQueryService.buildRegistrationWhere c db clientId
        { from_ := some period.from_, to_ := some period.to_ }) =
      db.registrations.filter fun r => isEventOf c db clientId r.eventId := by
  refine List.filter_congr fun r hr => ?_
  rw [Bool.eq_iff_iff]
  simp only [ClientDashboardQueryService.buildRegistrationWhere, truthy_none, Option.all_none,
    Option.all_some, Bool.and_true, Bool.and_eq_true, decide_eq_true_eq]
  constructor
  · rintro ⟨⟨hclient, -⟩, -⟩
    exact hclient
  · intro hclient
    exact ⟨⟨hclient, (hperiod r hr hclient).1⟩, (hperiod r hr hclient).2⟩

omit [Std.TransOrd ρ] in
theorem getAnalytics_eq_ok {now : Time} {user : AuthUser} {clientId : Id}
    (huser : ClientDashboardQueryService.getClientIdOrThrow user = .ok clientId)
    {query : ClientAnalyticsQueryDto} (hfilters : query.filters = {}) {a : ClientAnalytics}
    (ha : ClientAnalyticsService.getAnalytics c db now user query = .ok a)
    (hperiod : Covers c db clientId a.period) :
    a.uniqueCheckedIn = checkedIn db (isEventOf c db clientId) ∧
      a.attendanceRate = ClientAnalyticsService.calculateRate
        (checkedIn db (isEventOf c db clientId)) (activeOnes db (isEventOf c db clientId)) := by
  unfold ClientAnalyticsService.getAnalytics at ha
  rw [huser] at ha
  obtain ⟨_, hclient, hrest⟩ := Except.exists_of_bind_eq_ok ha
  cases hclient
  obtain ⟨period, -, hok⟩ := Except.exists_of_bind_eq_ok hrest
  simp only [hfilters, Except.ok.injEq] at hok
  subst hok
  have hrows := filter_buildRegistrationWhere hperiod
  have hchecked : ((db.registrations.filter fun r => isEventOf c db clientId r.eventId).filter
      (hasAllowed db .ENTRY)).length = checkedIn db (isEventOf c db clientId) := by
    rw [List.filter_filter, ← List.countP_eq_length_filter]
    exact List.countP_congr fun r _ => by simp [and_comm]
  have hactive : getStatusCount (groupCounts Registration.status
      (db.registrations.filter fun r => isEventOf c db clientId r.eventId)) .ACTIVE =
        activeOnes db (isEventOf c db clientId) := by
    rw [getStatusCount_groupCounts, List.countP_filter]
    exact List.countP_congr fun r _ => by simp [and_comm]
  dsimp only at hrows ⊢
  rw [hrows, hchecked, hactive]
  exact ⟨rfl, rfl⟩

omit [Std.TransOrd ρ] in
/-- No event has more registrations that have checked in than registrations. -/
theorem topEvent_rate_le {now : Time} {user : AuthUser} {query : ClientAnalyticsQueryDto}
    {a : ClientAnalytics} (ha : ClientAnalyticsService.getAnalytics c db now user query = .ok a)
    {top : TopEvent} (htop : top ∈ a.topEvents) : ∀ rate ∈ top.attendanceRate, rate ≤ 10000 := by
  unfold ClientAnalyticsService.getAnalytics at ha
  obtain ⟨clientId, -, hrest⟩ := Except.exists_of_bind_eq_ok ha
  obtain ⟨period, -, hok⟩ := Except.exists_of_bind_eq_ok hrest
  cases hok
  generalize db.registrations.filter _ = rows at htop
  have hentry := List.mem_of_mem_take htop
  rw [List.mem_insertionSort] at hentry
  obtain ⟨group, hgroup, hentry⟩ := List.mem_filterMap.mp hentry
  obtain ⟨event, -, rfl⟩ := Option.map_eq_some_iff.mp hentry
  obtain ⟨eventId, -, rfl⟩ := List.mem_map.mp hgroup
  refine calculateRate_le_iff.mpr ?_
  dsimp only
  rw [getStatusCount_groupCounts]
  have hle : (rows.filter (hasAllowed db .ENTRY)).countP (fun r => decide (r.eventId = eventId)) ≤
      rows.countP fun r => decide (r.eventId = eventId) := List.filter_sublist.countP_le
  omega

/-! ## The attendance of a registration -/

theorem timesOf_filter_congr {logs : List MovementLog} {p q : MovementLog → Bool}
    {registrationId : Id} {type : MovementType}
    (h : ∀ m ∈ logs, m.registrationId = registrationId → p m = q m) :
    timesOf (logs.filter p) registrationId type = timesOf (logs.filter q) registrationId type := by
  unfold timesOf
  rw [List.filter_filter, List.filter_filter]
  congr 1
  refine List.filter_congr fun m hm => ?_
  by_cases hid : m.registrationId = registrationId
  · rw [h m hm hid]
  · simp [hid]

theorem isPassage_type {m : MovementLog} (h : isPassage m = true) :
    m.type = .ENTRY ∨ m.type = .EXIT := by
  simp only [isPassage, Bool.and_eq_true, Bool.or_eq_true, decide_eq_true_eq] at h
  exact h.1

omit [Std.TransOrd ρ] in
theorem ClientRegistrationsService.passages_type {clientId : Id} {ids : List Id} :
    ∀ m ∈ passages c db clientId ids, m.type = .ENTRY ∨ m.type = .EXIT := by
  intro m hm
  have hpassage := (List.mem_filter.mp hm).2
  simp only [Bool.and_eq_true] at hpassage
  exact isPassage_type hpassage.2

theorem RegistrationExcelExporter.passages_type {ids : List Id} :
    ∀ m ∈ passages db ids, m.type = .ENTRY ∨ m.type = .EXIT := by
  intro m hm
  have hpassage := (List.mem_filter.mp hm).2
  simp only [Bool.and_eq_true] at hpassage
  exact isPassage_type hpassage.2

variable (db) in
/-- The times of the allowed movements of a registration. -/
def passageTimes (registrationId : Id) (type : MovementType) : List Time :=
  timesOf (db.movementLogs.filter isPassage) registrationId type

theorem RegistrationExcelExporter.timesOf_passages {ids : List Id} {registrationId : Id}
    (hid : registrationId ∈ ids) (type : MovementType) :
    timesOf (passages db ids) registrationId type = passageTimes db registrationId type := by
  refine timesOf_filter_congr fun m _ hm => ?_
  simp [hm, hid]

/-- The movements of a registration are at an event of its client. -/
theorem DashboardDb.Consistent.timesOf_passages (h : db.Consistent c) {clientId : Id}
    {r : Registration} (hr : r ∈ db.registrations)
    (hclient : isEventOf c db clientId r.eventId = true) {ids : List Id} (hid : r.id ∈ ids)
    (type : MovementType) :
    timesOf (ClientRegistrationsService.passages c db clientId ids) r.id type =
      passageTimes db r.id type := by
  refine timesOf_filter_congr fun m hm hsame => ?_
  obtain ⟨r', hr', hid', hevent⟩ := h.registrationOfMovement m hm
  obtain rfl := List.inj_on_of_nodup_map h.nodup_registrationIds hr' hr (hid'.trans hsame)
  rw [isEventOf, hevent] at hclient
  simp [hsame, hid, hclient]

/-- A registration has an allowed movement where it has a time of one. -/
theorem passageTimes_ne_nil_iff {r : Registration} :
    passageTimes db r.id .ENTRY ≠ [] ↔ hasAllowed db .ENTRY r = true := by
  rw [passageTimes, timesOf_ne_nil_iff, hasAllowed, List.any_eq_true]
  constructor
  · rintro ⟨m, hm, hid, htype⟩
    obtain ⟨hm, hpassage⟩ := List.mem_filter.mp hm
    simp only [isPassage, Bool.and_eq_true, decide_eq_true_eq] at hpassage
    exact ⟨m, hm, by simp [hid, htype, hpassage.2]⟩
  · rintro ⟨m, hm, hallowed⟩
    simp only [Bool.and_eq_true, decide_eq_true_eq] at hallowed
    obtain ⟨⟨hid, htype⟩, hresult⟩ := hallowed
    exact ⟨m, List.mem_filter.mpr ⟨hm, by simp [isPassage, htype, hresult]⟩, hid, htype⟩

/-- The list of a client shows whether a registration has checked in. -/
theorem DashboardDb.Consistent.hasCheckedIn_eq (h : db.Consistent c) {clientId : Id}
    {r : Registration} (hr : r ∈ db.registrations)
    (hclient : isEventOf c db clientId r.eventId = true) {ids : List Id} (hid : r.id ∈ ids)
    {groups : List MovementGroup} (hgroups : groups.Perm
      (groupMovements (ClientRegistrationsService.passages c db clientId ids))) :
    ((ClientRegistrationsService.getAttendanceMap groups r.id).getD
      ClientRegistrationsService.createEmptyAttendance).hasCheckedIn = hasAllowed db .ENTRY r := by
  rw [ClientRegistrationsService.getAttendanceMap_getD
    ClientRegistrationsService.passages_type hgroups]
  dsimp only
  rw [h.timesOf_passages hr hclient hid, Bool.eq_iff_iff, decide_eq_true_eq]
  exact passageTimes_ne_nil_iff

/-- The export and the list read the same status off the times. -/
theorem DashboardDb.Consistent.status_eq (h : db.Consistent c) {clientId : Id}
    {r : Registration} (hr : r ∈ db.registrations)
    (hclient : isEventOf c db clientId r.eventId = true) {ids exported : List Id} (hid : r.id ∈ ids)
    (hexported : r.id ∈ exported) {groups groups' : List MovementGroup}
    (hgroups : groups.Perm
      (groupMovements (ClientRegistrationsService.passages c db clientId ids)))
    (hgroups' : groups'.Perm
      (groupMovements (RegistrationExcelExporter.passages db exported))) :
    ((RegistrationExcelExporter.getAttendanceMap groups' r.id).getD
      RegistrationExcelExporter.createEmptyAttendance).status =
    ((ClientRegistrationsService.getAttendanceMap groups r.id).getD
      ClientRegistrationsService.createEmptyAttendance).status := by
  rw [ClientRegistrationsService.getAttendanceMap_getD
    ClientRegistrationsService.passages_type hgroups,
    RegistrationExcelExporter.getAttendanceMap_getD
      RegistrationExcelExporter.passages_type hgroups']
  simp only [groupOf, h.timesOf_passages hr hclient hid,
    RegistrationExcelExporter.timesOf_passages hexported]
  generalize passageTimes db r.id .ENTRY = entries
  generalize (passageTimes db r.id .EXIT).max? = lastExit
  simp only [RegistrationExcelExporter.addGroup, RegistrationExcelExporter.resolveAttendanceStatus,
    ClientRegistrationsService.resolveAttendanceStatus]
  cases entries with
  | nil => rfl
  | cons entry rest =>
      cases lastExit with
      | none => simp
      | some exit => simp

/-! ## Agreement -/

open ClientDashboardQueryService (getClientIdOrThrow)

variable (c db) in
/-- All figures of a client count the registrations that have checked in. The list and the export
may show a registration among any others, and have their groups in any order. -/
structure FiguresAgree (clientId : Id) : Prop where
  summary : ∀ user s, getClientIdOrThrow user = .ok clientId →
    ClientDashboardService.summary c db user = .ok s →
      s.attendance.uniqueCheckedIn = checkedIn db (isEventOf c db clientId)
  analytics : ∀ now user query a, getClientIdOrThrow user = .ok clientId →
    query.filters = {} → ClientAnalyticsService.getAnalytics c db now user query = .ok a →
      Covers c db clientId a.period →
        a.uniqueCheckedIn = checkedIn db (isEventOf c db clientId)
  reports : ∀ viewer reports, (db.events.filter fun e => c.same e.clientId clientId).mapM
    (fun e => ReportsService.overview c db viewer e.id) = .ok reports →
      (reports.map (·.attendance.uniqueCheckedIn)).sum = checkedIn db (isEventOf c db clientId)
  list : ∀ (ids : Registration → List Id) (groups : Registration → List MovementGroup),
    (∀ r, r.id ∈ ids r) →
    (∀ r, (groups r).Perm
      (groupMovements (ClientRegistrationsService.passages c db clientId (ids r)))) →
      (db.registrations.countP fun r => isEventOf c db clientId r.eventId &&
        ((ClientRegistrationsService.getAttendanceMap (groups r) r.id).getD
          ClientRegistrationsService.createEmptyAttendance).hasCheckedIn) =
        checkedIn db (isEventOf c db clientId)
  filter : (ClientRegistrationsService.matching c db clientId
    { attendance := some .ATTENDED }).length = checkedIn db (isEventOf c db clientId)
  status : ∀ r ∈ db.registrations, isEventOf c db clientId r.eventId = true →
    ∀ (ids exported : List Id) (groups groups' : List MovementGroup), r.id ∈ ids →
      r.id ∈ exported →
      groups.Perm (groupMovements (ClientRegistrationsService.passages c db clientId ids)) →
      groups'.Perm (groupMovements (RegistrationExcelExporter.passages db exported)) →
        ((RegistrationExcelExporter.getAttendanceMap groups' r.id).getD
          RegistrationExcelExporter.createEmptyAttendance).status =
        ((ClientRegistrationsService.getAttendanceMap groups r.id).getD
          ClientRegistrationsService.createEmptyAttendance).status

variable (c db) in
/-- The rates of a client and of its events; `bound` is said of the events that a rate is about and
of the rate being null or not above 100 percent. -/
structure Rates (clientId : Id) (bound : (Id → Bool) → Prop → Prop) : Prop where
  summary : ∀ user s, getClientIdOrThrow user = .ok clientId →
    ClientDashboardService.summary c db user = .ok s →
      bound (isEventOf c db clientId) (s.attendance.attendanceRate ≤ 10000)
  analytics : ∀ now user query a, getClientIdOrThrow user = .ok clientId →
    query.filters = {} → ClientAnalyticsService.getAnalytics c db now user query = .ok a →
      Covers c db clientId a.period →
        bound (isEventOf c db clientId) (∀ rate ∈ a.attendanceRate, rate ≤ 10000)
  topEvents : ∀ now user query a,
    ClientAnalyticsService.getAnalytics c db now user query = .ok a →
      ∀ top ∈ a.topEvents, ∀ rate ∈ top.attendanceRate, rate ≤ 10000
  reports : ∀ e ∈ db.events, c.same e.clientId clientId = true → ∀ viewer report,
    ReportsService.overview c db viewer e.id = .ok report →
      bound (c.same · e.id) (report.attendance.attendanceRate ≤ 10000)

theorem DashboardDb.Consistent.figuresAgree (h : db.Consistent c) (clientId : Id) :
    FiguresAgree c db clientId := by
  refine ⟨fun user s huser hs => ?_, fun now user query a huser hfilters ha hperiod => ?_,
    fun viewer reports hreports => ?_, fun ids groups hids hgroups => ?_, ?_,
    fun r hr hclient ids exported groups groups' hid hexported hgroups hgroups' =>
      h.status_eq hr hclient hid hexported hgroups hgroups'⟩
  · rw [h.summary_attendance huser hs]
    rfl
  · exact (getAnalytics_eq_ok huser hfilters ha hperiod).1
  · rw [← h.sum_checkedIn clientId]
    congr 1
    have hall := StorageCleanupService.mapM_eq_ok_iff.mp hreports
    clear hreports
    generalize db.events.filter _ = events at hall
    induction hall with
    | nil => rfl
    | cons hreport _ ih =>
        rw [List.map_cons, List.map_cons, ih, h.overview_attendance hreport]
        rfl
  · refine List.countP_congr fun r hr => ?_
    cases hclient : isEventOf c db clientId r.eventId with
    | false => simp
    | true => simp [h.hasCheckedIn_eq hr hclient (hids r) (hgroups r)]
  · rw [ClientRegistrationsService.matching, ← List.countP_eq_length_filter]
    refine List.countP_congr fun r hr => ?_
    simp [ClientDashboardQueryService.buildRegistrationWhere, isEventOf, DashboardDb.eventOf]

/-- The rates are in range exactly where the registrations that have checked in are not too many
for the active ones. -/
theorem DashboardDb.Consistent.rates (h : db.Consistent c) (clientId : Id) :
    Rates c db clientId fun inEvent inRange => (inRange ↔ InRange db inEvent) := by
  refine ⟨fun user s huser hs => ?_, fun now user query a huser hfilters ha hperiod => ?_,
    fun now user query a ha top htop => topEvent_rate_le ha htop,
    fun e he hclient viewer report hreport => ?_⟩
  · rw [h.summary_attendance huser hs]
    exact attendanceRate_le_iff
  · rw [(getAnalytics_eq_ok huser hfilters ha hperiod).2]
    exact calculateRate_le_iff
  · rw [h.overview_attendance hreport]
    exact attendanceRate_le_iff

/-- The figures of a client agree, and a rate is null or not above 100 percent exactly where at most
that many of the registrations that have checked in are not active. -/
theorem figures_agree_and_rates_iff (h : db.Consistent c) (clientId : Id) :
    FiguresAgree c db clientId ∧
      Rates c db clientId fun inEvent inRange => (inRange ↔ InRange db inEvent) :=
  ⟨h.figuresAgree clientId, h.rates clientId⟩

end Consistent

/-! ## A visitor who cancels -/

def attended (id : Id) (status : RegistrationStatus) : Registration :=
  { imported id id with status }

def entryOf (registrationId : Id) : MovementLog where
  id := registrationId
  eventId := "fair"
  registrationId := registrationId
  scanEventRawId := registrationId
  deviceId := "gate"
  type := .ENTRY
  result := .ALLOWED
  occurredAt := 10

/-- Two visitors have checked in, and one of them has cancelled since. -/
def visitedDb : DashboardDb where
  clients := [{ id := "acme" }]
  events := [{ id := "fair", clientId := "acme", startsAt := 0, endsAt := 20 }]
  registrations := [attended "r1" .ACTIVE, attended "r2" .CANCELLED]
  movementLogs := [entryOf "r1", entryOf "r2"]

def acmeViewer : AuthUser where
  id := "viewer"
  role := .CLIENT_VIEWER
  clientId := some "acme"

theorem consistent_visitedDb : visitedDb.Consistent binary := by
  refine ⟨⟨by decide, by decide⟩, ?_, ?_⟩
  · decide
  · decide

theorem matching_attended_visitedDb : (ClientRegistrationsService.matching binary visitedDb "acme"
    { attendance := some .ATTENDED }).length = 2 :=
  (figures_agree_and_rates_iff consistent_visitedDb "acme").1.filter.trans (by decide)

/-- The rate of one active registration and two that have checked in is 200 percent. -/
theorem not_figures_agree_and_rates :
    ¬ ∀ (db : DashboardDb) (clientId : Id), db.Consistent binary →
      FiguresAgree binary db clientId ∧ Rates binary db clientId fun _ inRange => inRange := by
  intro hall
  obtain ⟨s, hs⟩ : ∃ s, ClientDashboardService.summary binary visitedDb acmeViewer = .ok s :=
    ⟨_, rfl⟩
  have hrate := (hall visitedDb "acme" consistent_visitedDb).2.summary acmeViewer s rfl hs
  have hbound := (consistent_visitedDb.rates "acme").summary acmeViewer s rfl hs
  have hnot : ¬ (activeOnes visitedDb (isEventOf binary visitedDb "acme") = 0 ∨
      20000 * checkedIn visitedDb (isEventOf binary visitedDb "acme") <
        20001 * activeOnes visitedDb (isEventOf binary visitedDb "acme")) := by decide
  exact hnot (hbound.mp hrate)

end CreativeBackend
