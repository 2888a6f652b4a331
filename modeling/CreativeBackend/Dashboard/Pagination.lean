import CreativeBackend.Dashboard.Lists
import Mathlib

/-!
# Exact lists

The pages of a list hold every matching row once, in whatever order the database has rows that
compare equal, exactly where no page ends between two such rows. The registrations of a client are
ordered by their keys in the end and so always listed exactly; the other lists are ordered by one
column.
-/

namespace CreativeBackend

open Relational Relational.Offset

/-! ## Pages of a list -/

section Pages

variable {α : Type} {total limit k : Nat}

theorem lt_ceilDiv_iff (hl : 0 < limit) : k < ceilDiv total limit ↔ k * limit < total := by
  rw [ceilDiv, Nat.lt_iff_add_one_le, Nat.le_div_iff_mul_le hl, Nat.succ_mul]
  omega

theorem le_ceilDiv_mul (hl : 0 < limit) : total ≤ ceilDiv total limit * limit :=
  Nat.not_lt.mp (mt (lt_ceilDiv_iff hl).mpr (Nat.lt_irrefl _))

/-- The responses to the requests for all pages hold every matching row once, and tell how many
pages are not empty. -/
structure ExactPages (rows : List α) (responses : Nat → PaginatedResponse α) : Prop where
  pages : ∀ k, (responses k).pages = (responses 0).pages
  exact : ((List.range (responses 0).pages).flatMap fun k => (responses k).items).Perm rows
  nonempty : ∀ k, (responses k).items ≠ [] ↔ k < (responses 0).pages

/-- A response is a page of an answer. -/
structure PageOf (rows : List α) (limit k : Nat) (answer : List α)
    (response : PaginatedResponse α) : Prop where
  items : response.items = window (k * limit) limit answer
  pages : response.pages = ceilDiv rows.length limit

variable {cmp : α → α → Ordering} {rows : List α}

theorem exactPages_iff_perm (hl : 0 < limit) {answers : Nat → List α}
    {responses : Nat → PaginatedResponse α} (h : ∀ k, Ordered cmp rows (answers k))
    (hpages : ∀ k, PageOf rows limit k (answers k) (responses k)) :
    ExactPages rows responses ↔
      (pages limit answers (ceilDiv rows.length limit)).Perm rows := by
  have hitems : (List.range (responses 0).pages).flatMap (fun k => (responses k).items) =
      pages limit answers (ceilDiv rows.length limit) := by
    rw [pages, (hpages 0).pages]
    exact congrArg (List.flatMap · _) (funext fun k => (hpages k).items)
  constructor
  · intro hexact
    rw [← hitems]
    exact hexact.exact
  · intro hperm
    refine ⟨fun k => ?_, by rwa [hitems], fun k => ?_⟩
    · rw [(hpages k).pages, (hpages 0).pages]
    · rw [(hpages 0).pages, lt_ceilDiv_iff hl, ← (h k).length_eq, (hpages k).items, window, ne_eq,
        List.take_eq_nil_iff, List.drop_eq_nil_iff]
      omega

theorem exactPages_iff [Std.TransCmp cmp] (hl : 0 < limit) (hrows : rows.Nodup)
    {respond : Nat → List α → PaginatedResponse α}
    (hpages : ∀ k answer, PageOf rows limit k answer (respond k answer)) :
    (∀ answers : Nat → List α, (∀ k, Ordered cmp rows (answers k)) →
      ExactPages rows fun k => respond k (answers k)) ↔
        ∀ k, Apart cmp rows (k * limit) := by
  rw [← pages_perm_iff hrows (le_ceilDiv_mul hl)]
  refine forall_congr' fun answers => forall_congr' fun h => ?_
  exact exactPages_iff_perm hl h fun k => hpages k (answers k)

end Pages

/-! ## Requests -/

def ListRegistrationsQueryDto.after (query : ListRegistrationsQueryDto) (k : Nat) :
    ListRegistrationsQueryDto :=
  { query with toPaginationQueryDto := query.toPaginationQueryDto.after k }

def ListVisitorsQueryDto.after (query : ListVisitorsQueryDto) (k : Nat) : ListVisitorsQueryDto :=
  { query with toPaginationQueryDto := query.toPaginationQueryDto.after k }

def ListAdminVisitorsQueryDto.after (query : ListAdminVisitorsQueryDto) (k : Nat) :
    ListAdminVisitorsQueryDto :=
  { query with toListVisitorsQueryDto := query.toListVisitorsQueryDto.after k }

def ClientRegistrationsQueryDto.after (query : ClientRegistrationsQueryDto) (k : Nat) :
    ClientRegistrationsQueryDto :=
  { query with toPaginationQueryDto := query.toPaginationQueryDto.after k }

def ClientEventsQueryDto.after (query : ClientEventsQueryDto) (k : Nat) : ClientEventsQueryDto :=
  { query with toPaginationQueryDto := query.toPaginationQueryDto.after k }

/-- The size of a page of the lists of the staff and the administrators. -/
def PaginationQueryDto.normalLimit (query : PaginationQueryDto) : Nat :=
  (normalizePagination query).limit

/-- The size of a page of the lists of a client. -/
def PaginationQueryDto.clientLimit (query : PaginationQueryDto) : Nat := query.limit.getD 20

theorem PaginationQueryDto.normalLimit_pos (query : PaginationQueryDto) :
    0 < query.normalLimit := by
  simp only [normalLimit, normalizePagination, MAX_LIMIT]
  omega

theorem PaginationQueryDto.clientLimit_pos (query : PaginationQueryDto) :
    0 < query.clientLimit := by
  unfold clientLimit
  cases h : query.limit with
  | none => exact Nat.succ_pos 19
  | some n => exact query.limit_pos n h

theorem pageOf_createPaginatedResponse {α : Type} (query : PaginationQueryDto)
    (rows answer : List α) (k : Nat) :
    let p := normalizePagination (query.after k)
    PageOf rows query.normalLimit k answer
      (createPaginatedResponse (window p.skip p.limit answer) rows.length p.page p.limit) := by
  refine ⟨?_, rfl⟩
  simp [createPaginatedResponse, normalizePagination, PaginationQueryDto.after,
    PaginationQueryDto.normalLimit, DEFAULT_PAGE]

theorem pageOf_clientPage {α : Type} (query : PaginationQueryDto) (rows answer : List α) (k : Nat) :
    PageOf rows query.clientLimit k answer (clientPage (query.after k) answer rows.length) := by
  refine ⟨by simp [clientPage, PaginationQueryDto.after, PaginationQueryDto.clientLimit], ?_⟩
  simp only [clientPage]
  split
  · next hnone =>
      have hl := query.clientLimit_pos
      rw [hnone, ceilDiv, Nat.zero_add, Nat.div_eq_of_lt (by omega)]
  · rfl

/-! ## The services -/

section Services

variable {ρ : Type} [Ord ρ] [Std.TransOrd ρ] (c : Collation ρ) (db : DashboardDb)

/-- The primary keys differ in the collation of the database. -/
structure DashboardDb.PrimaryKeys : Prop where
  registrations : db.registrations.Pairwise fun a b =>
    compare (c.collate a.id) (c.collate b.id) ≠ .eq
  events : db.events.Pairwise fun a b => compare (c.collate a.id) (c.collate b.id) ≠ .eq

def RegistrationsService.ListsExactly (query : ListRegistrationsQueryDto) : Prop :=
  ∀ answers : Nat → List Registration,
    (∀ k, Ordered listOrder (listMatching c db query) (answers k)) →
      ExactPages (listMatching c db query) fun k => findAll c db (query.after k) (answers k)

namespace VisitorsService

def ListsExactlyForAdmin (query : ListAdminVisitorsQueryDto) : Prop :=
  ∀ answers : Nat → List Registration,
    (∀ k, Ordered visitorOrder
      (visitorMatching c db query.toListVisitorsQueryDto query.eventId) (answers k)) →
      ExactPages (visitorMatching c db query.toListVisitorsQueryDto query.eventId) fun k =>
        findForAdmin c db (query.after k) (answers k)

/-- Every request is refused, or every one is answered for the same event. -/
def ListsExactlyForStaff (userId : Id) (query : ListVisitorsQueryDto) : Prop :=
  ∀ (assignments : Nat → List StaffAssignment) (answers : Nat → Id → List Registration),
    (∀ k, Ordered assignmentOrder (activeAssignments c db userId) (assignments k)) →
    (∀ k eventId, Ordered visitorOrder (visitorMatching c db query (some eventId))
      (answers k eventId)) →
      (∃ e, ∀ k, findForStaff c db (query.after k) (assignments k) (answers k) = .error e) ∨
        ∃ eventId responses, (∀ k, findForStaff c db (query.after k) (assignments k) (answers k) =
          .ok (eventId, responses k)) ∧
            ExactPages (visitorMatching c db query (some eventId)) responses

end VisitorsService

/-- The user may see the list of a client, and the dates of the query are in order. -/
def Allowed (user : AuthUser) (from_ to_ : Option Time) (clientId : Id) : Prop :=
  ClientDashboardQueryService.getClientIdOrThrow user = .ok clientId ∧
    ClientDashboardQueryService.validateDateRange from_ to_ = .ok ()

def ClientRegistrationsService.ListsExactly (user : AuthUser)
    (query : ClientRegistrationsQueryDto) : Prop :=
  ∀ clientId, Allowed user query.from_ query.to_ clientId → ∀ answers : Nat → List Registration,
    (∀ k, Ordered (ClientDashboardQueryService.buildRegistrationOrderBy c db query)
      (matching c db clientId query.toClientRegistrationFilterInput) (answers k)) →
      ∃ responses, (∀ k, findAll c db user (query.after k) (fun _ => answers k) =
        .ok (responses k)) ∧
          ExactPages (matching c db clientId query.toClientRegistrationFilterInput) responses

def ClientEventsService.ListsExactly (user : AuthUser) (query : ClientEventsQueryDto) : Prop :=
  ∀ clientId, Allowed user query.from_ query.to_ clientId → ∀ answers : Nat → List ListedEvent,
    (∀ k, Ordered (buildOrderBy c query) (matching c db clientId query) (answers k)) →
      ∃ responses, (∀ k, findAll c db user (query.after k) (fun _ => answers k) =
        .ok (responses k)) ∧ ExactPages (matching c db clientId query) responses

/-! ## Orders -/

omit [Std.TransOrd ρ] in
theorem sortedBy_eq_eq {α κ : Type} [Ord κ] [Std.OrientedOrd κ] {column : α → κ}
    {d : SortDirection} {a b : α} :
    sortedBy column d a b = .eq ↔ compare (column a) (column b) = .eq := by
  cases d with
  | asc => exact Iff.rfl
  | desc =>
      change compare (column b) (column a) = .eq ↔ compare (column a) (column b) = .eq
      exact Std.OrientedCmp.eq_comm

theorem transCmp_buildRegistrationOrderBy (query : ClientRegistrationsQueryDto) :
    Std.TransCmp (ClientDashboardQueryService.buildRegistrationOrderBy c db query) := by
  unfold ClientDashboardQueryService.buildRegistrationOrderBy
  cases query.sortBy <;> infer_instance

theorem transCmp_buildOrderBy (query : ClientEventsQueryDto) :
    Std.TransCmp (ClientEventsService.buildOrderBy c query) := by
  unfold ClientEventsService.buildOrderBy
  cases query.sortBy <;> infer_instance

/-- Every order of a client's registrations ends with the primary key. -/
theorem id_eq_of_buildRegistrationOrderBy {query : ClientRegistrationsQueryDto}
    {a b : Registration}
    (h : ClientDashboardQueryService.buildRegistrationOrderBy c db query a b = .eq) :
    compare (c.collate a.id) (c.collate b.id) = .eq := by
  unfold ClientDashboardQueryService.buildRegistrationOrderBy at h
  cases hsort : query.sortBy with
  | FULL_NAME =>
      simp only [hsort, compareLex, Ordering.then_eq_eq, sortedBy_eq_eq] at h
      exact h.2
  | STATUS =>
      simp only [hsort, compareLex, Ordering.then_eq_eq, sortedBy_eq_eq] at h
      exact h.2.2
  | EVENT_TITLE =>
      simp only [hsort, compareLex, Ordering.then_eq_eq, sortedBy_eq_eq] at h
      exact h.2.2
  | REGISTERED_AT =>
      simp only [hsort, compareLex, Ordering.then_eq_eq, sortedBy_eq_eq] at h
      exact h.2

theorem nodup_of_keys {α : Type} {rows : List α} {id : α → Id}
    (h : rows.Pairwise fun a b => compare (c.collate (id a)) (c.collate (id b)) ≠ .eq) :
    rows.Nodup := by
  refine h.imp fun hne heq => hne ?_
  rw [heq]
  exact Std.ReflCmp.compare_self

variable {c db} (h : db.PrimaryKeys c)
include h

theorem RegistrationsService.listsExactly_iff (query : ListRegistrationsQueryDto) :
    ListsExactly c db query ↔
      ∀ k, Apart listOrder (listMatching c db query) (k * query.normalLimit) := by
  have hrows : (listMatching c db query).Nodup :=
    (nodup_of_keys c h.registrations).sublist List.filter_sublist
  have : Std.TransCmp listOrder := transCmp_sortedBy _ _
  exact exactPages_iff query.normalLimit_pos hrows fun k answer =>
    pageOf_createPaginatedResponse query.toPaginationQueryDto _ answer k

namespace VisitorsService

theorem listsExactlyForAdmin_iff (query : ListAdminVisitorsQueryDto) :
    ListsExactlyForAdmin c db query ↔
      ∀ k, Apart visitorOrder (visitorMatching c db query.toListVisitorsQueryDto query.eventId)
        (k * query.normalLimit) := by
  have hrows : (visitorMatching c db query.toListVisitorsQueryDto query.eventId).Nodup :=
    (nodup_of_keys c h.registrations).sublist List.filter_sublist
  have : Std.TransCmp visitorOrder := transCmp_sortedBy _ _
  exact exactPages_iff query.normalLimit_pos hrows fun k answer =>
    pageOf_createPaginatedResponse query.toPaginationQueryDto _ answer k

omit [Std.TransOrd ρ] h in
theorem findForStaff_of_head? {query : ListVisitorsQueryDto} {assignments : List StaffAssignment}
    {answer : Id → List Registration} {a : StaffAssignment} (ha : assignments.head? = some a) :
    findForStaff c db query assignments answer = .ok (a.eventId,
      findVisitors c db query (some a.eventId) (answer a.eventId)) := by
  rw [findForStaff, ha]

/-- The pages of the list of the event of one assignment. -/
theorem visitors_exactPages_iff (query : ListVisitorsQueryDto) (eventId : Id) :
    (∀ answers : Nat → List Registration,
      (∀ k, Ordered visitorOrder (visitorMatching c db query (some eventId)) (answers k)) →
        ExactPages (visitorMatching c db query (some eventId)) fun k =>
          findVisitors c db (query.after k) (some eventId) (answers k)) ↔
      ∀ k, Apart visitorOrder (visitorMatching c db query (some eventId))
        (k * query.normalLimit) := by
  have hrows : (visitorMatching c db query (some eventId)).Nodup :=
    (nodup_of_keys c h.registrations).sublist List.filter_sublist
  have : Std.TransCmp visitorOrder := transCmp_sortedBy _ _
  exact exactPages_iff query.normalLimit_pos hrows fun k answer =>
    pageOf_createPaginatedResponse query.toPaginationQueryDto _ answer k

theorem listsExactlyForStaff_iff (userId : Id) (query : ListVisitorsQueryDto) :
    ListsExactlyForStaff c db userId query ↔
      ∀ a, First assignmentOrder (activeAssignments c db userId) a →
        (∀ b, First assignmentOrder (activeAssignments c db userId) b → b.eventId = a.eventId) ∧
          ∀ k, Apart visitorOrder (visitorMatching c db query (some a.eventId))
            (k * query.normalLimit) := by
  have hassignment : Std.TransCmp assignmentOrder := transCmp_sortedBy _ _
  have hvisitor : Std.TransCmp visitorOrder := transCmp_sortedBy _ _
  constructor
  · intro hexact a ha
    obtain ⟨front, hfront, hhead⟩ := exists_ordered_of_first ha
    choose other hother using fun eventId =>
      exists_ordered visitorOrder (visitorMatching c db query (some eventId))
    refine ⟨fun b hb => ?_,
      (visitors_exactPages_iff h query a.eventId).mp fun answers hanswers => ?_⟩
    · -- The first request is answered for one of the two, the others for the other one.
      obtain ⟨back, hback, hlast⟩ := exists_ordered_of_first hb
      have hmixed := hexact (fun k => if k = 0 then front else back) (fun _ => other)
        (fun k => by split <;> assumption) (fun _ => hother)
      rcases hmixed with ⟨e, hrefused⟩ | ⟨eventId, responses, hok, -⟩
      · have hzero := hrefused 0
        rw [if_pos rfl, findForStaff_of_head? hhead] at hzero
        cases hzero
      · have hzero := hok 0
        have hone := hok 1
        rw [if_pos rfl, findForStaff_of_head? hhead] at hzero
        rw [if_neg Nat.one_ne_zero, findForStaff_of_head? hlast] at hone
        simp only [Except.ok.injEq, Prod.mk.injEq] at hzero hone
        rw [hzero.1, hone.1]
    · have hone := hexact (fun _ => front)
        (fun k eventId => if eventId = a.eventId then answers k else other eventId)
        (fun _ => hfront) (fun k eventId => by
          split
          · next heq =>
              rw [heq]
              exact hanswers k
          · exact hother eventId)
      simp only [findForStaff_of_head? hhead, if_true] at hone
      rcases hone with ⟨e, hrefused⟩ | ⟨eventId, responses, hok, hpages⟩
      · cases hrefused 0
      · simp only [Except.ok.injEq, Prod.mk.injEq] at hok
        obtain rfl := (hok 0).1
        rwa [funext fun k => (hok k).2]
  · intro hall assignments answers hassignments hanswers
    cases hhead : (assignments 0).head? with
    | none =>
        have hnone : activeAssignments c db userId = [] := by
          have hzero := (hassignments 0).perm
          rw [List.head?_eq_none_iff.mp hhead] at hzero
          exact hzero.nil_eq.symm
        refine .inl ⟨.notFound "No active staff assignment found", fun k => ?_⟩
        have hk := (hassignments k).perm
        rw [hnone] at hk
        rw [hk.eq_nil]
        rfl
    | some a =>
        have ha := (hassignments 0).first_of_head? hhead
        obtain ⟨hsame, hapart⟩ := hall a ha
        refine .inr ⟨a.eventId,
          fun k => findVisitors c db (query.after k) (some a.eventId) (answers k a.eventId),
          fun k => ?_, ?_⟩
        · obtain ⟨b, hb⟩ : ∃ b, (assignments k).head? = some b := by
            cases hk : assignments k with
            | nil =>
                have hmem := (hassignments k).mem_iff.mpr ha.1
                rw [hk] at hmem
                cases hmem
            | cons b rest => exact ⟨b, rfl⟩
          rw [findForStaff_of_head? hb, hsame b ((hassignments k).first_of_head? hb)]
        · exact (visitors_exactPages_iff h query a.eventId).mpr hapart _ fun k =>
            hanswers k a.eventId

end VisitorsService

theorem ClientRegistrationsService.listsExactly (user : AuthUser)
    (query : ClientRegistrationsQueryDto) : ListsExactly c db user query := by
  intro clientId hallowed answers hanswers
  have htrans := transCmp_buildRegistrationOrderBy c db query
  have hkeys := h.registrations.sublist (List.filter_sublist
    (p := ClientDashboardQueryService.buildRegistrationWhere c db clientId
      query.toClientRegistrationFilterInput))
  refine ⟨fun k => clientPage (query.after k).toPaginationQueryDto (answers k)
    (matching c db clientId query.toClientRegistrationFilterInput).length, fun k => ?_, ?_⟩
  · obtain ⟨hclient, hrange⟩ := hallowed
    simp only [findAll, ClientRegistrationsQueryDto.after, hclient, hrange]
    rfl
  · refine (exactPages_iff query.clientLimit_pos (nodup_of_keys c hkeys) fun k answer =>
      pageOf_clientPage query.toPaginationQueryDto _ answer k).mpr ?_ answers hanswers
    intro k
    apply apart_of_pairwise
    exact hkeys.imp fun hne heq => hne (id_eq_of_buildRegistrationOrderBy c db heq)

theorem ClientEventsService.listsExactly_iff (user : AuthUser) (query : ClientEventsQueryDto) :
    ListsExactly c db user query ↔
      ∀ clientId, Allowed user query.from_ query.to_ clientId →
        ∀ k, Apart (buildOrderBy c query) (matching c db clientId query)
          (k * query.clientLimit) := by
  have htrans := transCmp_buildOrderBy c query
  refine forall_congr' fun clientId => forall_congr' fun hallowed => ?_
  have hrows : (matching c db clientId query).Nodup :=
    (nodup_of_keys c h.events).sublist List.filter_sublist
  refine Iff.trans ?_ (exactPages_iff query.clientLimit_pos hrows fun k answer =>
    pageOf_clientPage query.toPaginationQueryDto _ answer k)
  refine forall_congr' fun answers => forall_congr' fun hanswers => ?_
  obtain ⟨hclient, hrange⟩ := hallowed
  have hok : ∀ k, findAll c db user (query.after k) (fun _ => answers k) =
      .ok (clientPage (query.after k).toPaginationQueryDto (answers k)
        (matching c db clientId query).length) := by
    intro k
    simp only [findAll, ClientEventsQueryDto.after, hclient, hrange]
    rfl
  constructor
  · rintro ⟨responses, hresponses, hexact⟩
    simp only [hok, Except.ok.injEq] at hresponses
    rwa [← funext hresponses] at hexact
  · intro hexact
    exact ⟨_, hok, hexact⟩

/-- A list is exact where no page ends between two matching rows that compare equal in its order,
and the list of the staff where besides all the latest assignments are to one event. The list of a
client's registrations is always exact. -/
theorem lists_exactly_iff :
    (∀ query, RegistrationsService.ListsExactly c db query ↔
      ∀ k, Apart RegistrationsService.listOrder (RegistrationsService.listMatching c db query)
        (k * query.normalLimit)) ∧
    (∀ query, VisitorsService.ListsExactlyForAdmin c db query ↔
      ∀ k, Apart VisitorsService.visitorOrder
        (VisitorsService.visitorMatching c db query.toListVisitorsQueryDto query.eventId)
        (k * query.normalLimit)) ∧
    (∀ userId query, VisitorsService.ListsExactlyForStaff c db userId query ↔
      ∀ a, First VisitorsService.assignmentOrder (VisitorsService.activeAssignments c db userId) a →
        (∀ b, First VisitorsService.assignmentOrder
          (VisitorsService.activeAssignments c db userId) b → b.eventId = a.eventId) ∧
        ∀ k, Apart VisitorsService.visitorOrder
          (VisitorsService.visitorMatching c db query (some a.eventId)) (k * query.normalLimit)) ∧
    (∀ user query, ClientRegistrationsService.ListsExactly c db user query) ∧
    ∀ user query, ClientEventsService.ListsExactly c db user query ↔
      ∀ clientId, Allowed user query.from_ query.to_ clientId →
        ∀ k, Apart (ClientEventsService.buildOrderBy c query)
          (ClientEventsService.matching c db clientId query) (k * query.clientLimit) :=
  ⟨RegistrationsService.listsExactly_iff h, VisitorsService.listsExactlyForAdmin_iff h,
    VisitorsService.listsExactlyForStaff_iff h, ClientRegistrationsService.listsExactly h,
    ClientEventsService.listsExactly_iff h⟩

end Services

/-! ## Two visitors registered at once -/

/-- Texts compared by their characters. -/
def binary : Collation String where
  collate := id
  contains text value := value.toList <:+: text.toList

def imported (id fullName : String) : Registration where
  id := id
  publicId := id
  eventId := "fair"
  attendeeTypeId := "visitor"
  source := .EXCEL_IMPORT
  fullName := fullName
  registeredAt := 9

def importedDb : DashboardDb where
  registrations := [imported "r1" "Huda", imported "r2" "Sami"]

theorem primaryKeys_importedDb : importedDb.PrimaryKeys binary := by
  constructor
  · decide
  · decide

/-- With two visitors on a page no page ends between them. -/
theorem lists_exactly_imported :
    RegistrationsService.ListsExactly binary importedDb { limit := some 2 } := by
  refine ((lists_exactly_iff primaryKeys_importedDb).1 _).mpr ?_
  rintro k a - ⟨hbefore, hupTo⟩
  have hlimit : PaginationQueryDto.normalLimit { limit := some 2 } = 2 := by decide
  have hroom : upTo RegistrationsService.listOrder
      (RegistrationsService.listMatching binary importedDb { limit := some 2 }) a ≤ 2 :=
    Nat.le_trans List.countP_le_length (List.length_filter_le _ importedDb.registrations)
  simp only [hlimit] at hbefore hupTo
  omega

theorem not_listsExactly_imported :
    ¬ RegistrationsService.ListsExactly binary importedDb { limit := some 1 } := by
  rw [RegistrationsService.listsExactly_iff primaryKeys_importedDb]
  intro hapart
  exact hapart 1 (imported "r1" "Huda") (List.mem_filter.mpr ⟨List.mem_cons_self, by decide⟩)
    (by decide)

/-- With one visitor on a page, the database may show one of the two twice and the other never. -/
theorem not_lists_exactly :
    ¬ ∀ (db : DashboardDb), db.PrimaryKeys binary →
      (∀ query, RegistrationsService.ListsExactly binary db query) ∧
      (∀ query, VisitorsService.ListsExactlyForAdmin binary db query) ∧
      (∀ userId query, VisitorsService.ListsExactlyForStaff binary db userId query) ∧
      (∀ user query, ClientRegistrationsService.ListsExactly binary db user query) ∧
      ∀ user query, ClientEventsService.ListsExactly binary db user query := by
  intro hexact
  exact not_listsExactly_imported ((hexact importedDb primaryKeys_importedDb).1 _)

end CreativeBackend
