import CreativeBackend.Scans.Service
import CreativeBackend.Visitors.Snapshot
import Mathlib.Data.Set.Finite.Basic
import Mathlib.Data.Set.Finite.Range
import Mathlib.Data.String.Basic

/-!
# Exact snapshot pages

A request of a download is answered with a page of the registrations up to the time of the
snapshot, in the order of their positions, and its cursor asks for the page after the last one. A
download is therefore a run of keyset pages: it ends where finitely many registrations are up to
that time, and reads each of them that is there throughout exactly once.
-/

namespace CreativeBackend

open Interaction Relational

namespace SnapshotRequests

open VisitorsService

variable {ρ : Type} [LinearOrder ρ] {rt : Runtime} {lib : TextLibrary} {collate : Id → ρ}
  {R : SnapshotRequests} {eventId : Id} {n : Nat} {cursor : Option String} {snapshotAsOf : Time}
  {latest : String} {start : Option (Time × Id)}

/-! ## Positions -/

variable (collate) in
/-- The position in the order of the pages. -/
def position (s : Time × Id) : Time ×ₗ ρ := toLex (s.1, collate s.2)

variable (collate) in
def positionOf (x : VisitorRegistration) : Time ×ₗ ρ := position collate (x.createdAt, x.id)

theorem orderedAfter_eq (rows : List VisitorRegistration) :
    VisitorDb.orderedAfter collate rows start =
      Keyset.rowsAfter (positionOf collate) rows (start.map (position collate)) := by
  have hfilter : (fun x : VisitorRegistration => start.all fun s => decide
      (s.1 < x.createdAt ∨ x.createdAt = s.1 ∧ collate s.2 < collate x.id)) =
        fun x => (start.map (position collate)).all fun k => decide (k < positionOf collate x) := by
    funext x
    cases start with
    | none => rfl
    | some s => simp [positionOf, position, Prod.Lex.toLex_lt_toLex, eq_comm]
  have horder : ∀ x y : VisitorRegistration, (x.createdAt < y.createdAt ∨
      x.createdAt = y.createdAt ∧ collate x.id ≤ collate y.id) =
        (positionOf collate x ≤ positionOf collate y) := by
    intro x y
    simp [positionOf, position, Prod.Lex.toLex_le_toLex]
  unfold VisitorDb.orderedAfter Keyset.rowsAfter
  simp only [hfilter, horder]

/-! ## One page -/

variable (rt collate R eventId) in
/-- What the tables promise: the primary keys differ in the collation, no key is blank, and a
registration keeps its time of creation, which a cursor can carry. -/
structure Stored : Prop where
  eventId : trim eventId ≠ ""
  primaryKeys : ∀ n, ((R.rows n).rows.registrations.map fun x => collate x.id).Nodup
  ids : ∀ n, ∀ x ∈ (R.rows n).rows.registrations, trim x.id ≠ ""
  tokens : ∀ n, ∀ t ∈ (R.rows n).rows.qrTokens, trim t.tokenId ≠ ""
  created : ∀ m n, ∀ x ∈ (R.rows m).rows.registrations, ∀ y ∈ (R.rows n).rows.registrations,
    x.id = y.id → x.createdAt = y.createdAt
  createdDates : ∀ n, ∀ x ∈ (R.rows n).rows.registrations,
    rt.parseDate (rt.toISOString x.createdAt) = some x.createdAt
  snapshotDate : rt.parseDate (rt.toISOString (R.now 0)) = some (R.now 0)

variable (R eventId snapshotAsOf) in
/-- The registrations of the event up to the time of the snapshot, when a page is read. -/
def available (n : Nat) : List VisitorRegistration :=
  (R.rows n).registrationsUntil eventId snapshotAsOf

theorem mem_available {x : VisitorRegistration} : x ∈ R.available eventId snapshotAsOf n ↔
    x ∈ (R.rows n).rows.registrations ∧ x.eventId = eventId ∧ x.createdAt ≤ snapshotAsOf := by
  simp [available, VisitorDb.registrationsUntil]

omit [LinearOrder ρ] in
theorem nodup_positions (h : Stored rt collate R eventId) (snapshotAsOf : Time) (n : Nat) :
    ((R.available eventId snapshotAsOf n).map (positionOf collate)).Nodup := by
  have hkeys : ((R.available eventId snapshotAsOf n).map fun x => collate x.id).Nodup :=
    (h.primaryKeys n).sublist (List.filter_sublist.map _)
  have hsecond : ((R.available eventId snapshotAsOf n).map fun x => collate x.id) =
      ((R.available eventId snapshotAsOf n).map (positionOf collate)).map fun k => (ofLex k).2 := by
    rw [List.map_map]
    rfl
  rw [hsecond] at hkeys
  exact hkeys.of_map _

variable (rt lib R eventId) in
/-- The request asks for the page after a position of a snapshot. -/
structure Asks (n : Nat) (cursor : Option String) (snapshotAsOf : Time) (latest : String)
    (start : Option (Time × Id)) : Prop where
  request : ∃ request, snapshotRequest rt lib eventId (R.now n) cursor = .ok request ∧
    request.snapshotAsOf = snapshotAsOf ∧ request.start = start ∧
      (request.changeCursor = some (.str latest) ∨ request.changeCursor = none ∧
        toString (((R.changes n).latestChangeAt eventId snapshotAsOf).getD 0) = latest)

/-- A first request begins a snapshot. -/
theorem asks_first : Asks rt lib R eventId n none (R.now n)
    (toString (((R.changes n).latestChangeAt eventId (R.now n)).getD 0)) none :=
  ⟨_, rfl, rfl, rfl, .inr ⟨rfl, rfl⟩⟩

variable (rt eventId snapshotAsOf latest) in
/-- The cursor after a registration. -/
def nextOf (last : VisitorRegistration) : StaffOfflineSnapshotCursor :=
  cursorAfter rt eventId snapshotAsOf (.str latest) last

theorem produced_nextOf (hevent : trim eventId ≠ "") (hlatest : isDecimal latest = true)
    {last : VisitorRegistration} (hid : trim last.id ≠ "") :
    Produced (nextOf rt eventId snapshotAsOf latest last) :=
  ⟨rfl, hevent, hid, latest, rfl, hlatest⟩

/-- The cursor after a registration asks for the next page of the same snapshot. -/
theorem asks_next (hevent : trim eventId ≠ "") (hlatest : isDecimal latest = true)
    (hdate : rt.parseDate (rt.toISOString snapshotAsOf) = some snapshotAsOf)
    {last : VisitorRegistration} (hid : trim last.id ≠ "")
    (hcreated : rt.parseDate (rt.toISOString last.createdAt) = some last.createdAt) :
    Asks rt lib R eventId n
      (some (encodeOfflineSnapshotCursor rt (nextOf rt eventId snapshotAsOf latest last)))
      snapshotAsOf latest (some (last.createdAt, last.id)) := by
  have hproduced : Produced (nextOf rt eventId snapshotAsOf latest last) :=
    produced_nextOf hevent hlatest hid
  have hread : decodeOfflineSnapshotCursor rt lib (encodeOfflineSnapshotCursor rt
      (nextOf rt eventId snapshotAsOf latest last)) =
        .ok (nextOf rt eventId snapshotAsOf latest last) := decode_encode lib hproduced
  have htext : truthy (some (encodeOfflineSnapshotCursor rt
      (nextOf rt eventId snapshotAsOf latest last))) =
        some (encodeOfflineSnapshotCursor rt (nextOf rt eventId snapshotAsOf latest last)) :=
    truthy_eq_some_iff.mpr ⟨rfl, encode_ne_empty rt _⟩
  have hasOf : parseCursorDate rt (nextOf rt eventId snapshotAsOf latest last).snapshotAsOf
      "Invalid snapshotAsOf inside offline snapshot cursor" = .ok snapshotAsOf := by
    simp only [nextOf, cursorAfter, parseCursorDate, hdate]
  have hafter : parseCursorDate rt (nextOf rt eventId snapshotAsOf latest last).createdAt
      "Invalid createdAt inside offline snapshot cursor" = .ok last.createdAt := by
    simp only [nextOf, cursorAfter, parseCursorDate, hcreated]
  have hsame : ¬ (nextOf rt eventId snapshotAsOf latest last).eventId ≠ eventId := fun h => h rfl
  refine ⟨⟨⟨snapshotAsOf, some (.str latest), some (last.createdAt, last.id)⟩, ?_, rfl, rfl,
    .inl rfl⟩⟩
  simp only [snapshotRequest, htext, hread, bind, Except.bind, if_neg hsame, hasOf, hafter]
  rfl

/-- Rows with proper tokens are formatted, and keep their registrations. -/
theorem exists_formatted (rt : Runtime) {rows : List VisitorRow}
    (h : ∀ row ∈ rows, ∀ t ∈ row.qrToken, trim t.tokenId ≠ "") :
    ∃ visitors, rows.mapM (formatOfflineVisitor rt) = .ok visitors ∧
      visitors.map (·.registration) = rows.map (·.registration) := by
  have hone : ∀ row : VisitorRow, (∀ t ∈ row.qrToken, trim t.tokenId ≠ "") →
      ∃ visitor, formatOfflineVisitor rt row = .ok visitor ∧
        visitor.registration = row.registration := by
    intro row hrow
    obtain ⟨qr, hqr⟩ : ∃ qr, row.qrToken.mapM (formatOfflineQr rt) = .ok qr := by
      cases htoken : row.qrToken with
      | none => exact ⟨none, rfl⟩
      | some t =>
          have hne : trim t.tokenId ≠ "" := hrow t htoken
          have hcompact : createCompactTokenForOffline rt t.tokenId =
              .ok (COMPACT_QR_PREFIX ++ "." ++ trim t.tokenId ++ "." ++
                signCompactTokenId rt (trim t.tokenId)) := by
            simp only [createCompactTokenForOffline, if_neg hne, createCompactQrToken, trim_trim]
          obtain ⟨qr, hqr⟩ : ∃ qr, formatOfflineQr rt t = .ok qr := by
            rw [formatOfflineQr, hcompact]
            exact ⟨_, rfl⟩
          exact ⟨some qr, by rw [Option.mapM_some, hqr]; rfl⟩
    exact ⟨⟨row.registration, row.attendeeType, row.registration.customFields.getD (.obj []),
      qr.map (·.qrToken), qr.map (·.qrToken), qr⟩, by rw [formatOfflineVisitor, hqr]; rfl, rfl⟩
  induction rows with
  | nil => exact ⟨[], rfl, rfl⟩
  | cons row rows ih =>
      obtain ⟨hrow, hrows⟩ := List.forall_mem_cons.mp h
      obtain ⟨visitor, hvisitor, hreg⟩ := hone row hrow
      obtain ⟨visitors, hvisitors, hregs⟩ := ih hrows
      refine ⟨visitor :: visitors, ?_, by rw [List.map_cons, List.map_cons, hreg, hregs]⟩
      rw [List.mapM_cons, hvisitor, hvisitors]
      rfl

variable (rt collate R eventId) in
/-- The reply has the items of a keyset page, and its cursor is that of the last one. -/
structure PageOf (n : Nat) (snapshotAsOf : Time) (latest : String) (start : Option (Time × Id))
    (reply : SnapshotReply) : Prop where
  id : reply.id = createSnapshotId rt eventId (rt.toISOString snapshotAsOf)
  asOf : reply.snapshotAsOf = rt.toISOString snapshotAsOf
  changeCursor : reply.changeCursor = .str latest
  registrations : reply.visitors.map (·.registration) = Keyset.items (positionOf collate)
    (R.available eventId snapshotAsOf n) (start.map (position collate)) (snapshotLimit (R.limit n))
  hasMore : reply.hasMore = Keyset.hasMore (positionOf collate) (R.available eventId snapshotAsOf n)
    (start.map (position collate)) (snapshotLimit (R.limit n))
  nextCursor : reply.nextCursor = if reply.hasMore then
      (reply.visitors.map (·.registration)).getLast?.map fun last =>
        encodeOfflineSnapshotCursor rt (nextOf rt eventId snapshotAsOf latest last)
    else none

/-- One row more than a page holds says whether there is more. -/
theorem take_lookahead {α : Type} (l : List α) (limit : Nat) :
    (if (l.take (limit + 1)).length > limit then (l.take (limit + 1)).take limit
      else l.take (limit + 1)) = l.take limit ∧
    ((l.take (limit + 1)).length > limit ↔ limit < l.length) := by
  have hiff : (l.take (limit + 1)).length > limit ↔ limit < l.length := by
    rw [List.length_take]
    omega
  refine ⟨?_, hiff⟩
  split
  · rw [List.take_take, Nat.min_eq_left (Nat.le_succ limit)]
  · next hshort =>
      rw [hiff] at hshort
      rw [List.take_of_length_le (by omega), List.take_of_length_le (by omega)]

/-- A request is answered with its page. -/
theorem reply_of_asks (h : Stored rt collate R eventId)
    (hasks : Asks rt lib R eventId n cursor snapshotAsOf latest start) :
    ∃ reply, R.reply rt lib collate eventId n cursor = .ok reply ∧
      PageOf rt collate R eventId n snapshotAsOf latest start reply := by
  obtain ⟨request, hrequest, rfl, rfl, hcursor⟩ := hasks.request
  have hchange : (readChangeCursor eventId request).run (R.machine collate n) () =
      (.ok (.str latest), ()) := by
    rcases hcursor with hsome | ⟨hnone, hlatest⟩
    · rw [readChangeCursor, hsome]
      rfl
    · rw [readChangeCursor, hnone, ← hlatest]
      rfl
  generalize hl : snapshotLimit (R.limit n) = limit
  generalize hordered : VisitorDb.orderedAfter collate
    (R.available eventId request.snapshotAsOf n) request.start = ordered
  obtain ⟨totalCount, hrows⟩ : ∃ totalCount, (readRows eventId request (limit + 1)).run
      (R.machine collate n) () =
        (.ok ((ordered.take (limit + 1)).map (R.rows n).withRelations, totalCount), ()) := by
    rw [← hordered]
    cases hstart : request.start with
    | none => exact ⟨_, by rw [readRows, hstart]; rfl⟩
    | some s => exact ⟨_, by rw [readRows, hstart]; rfl⟩
  obtain ⟨htake, hmore⟩ := take_lookahead ordered limit
  have hitems : (if decide (((ordered.take (limit + 1)).map
      (R.rows n).withRelations).length > limit) = true
        then ((ordered.take (limit + 1)).map (R.rows n).withRelations).take limit
        else (ordered.take (limit + 1)).map (R.rows n).withRelations) =
      (ordered.take limit).map (R.rows n).withRelations := by
    rw [← htake]
    simp only [List.length_map, decide_eq_true_eq, ← List.map_take, apply_ite (List.map _)]
  have htokens : ∀ row ∈ (ordered.take limit).map (R.rows n).withRelations, ∀ t ∈ row.qrToken,
      trim t.tokenId ≠ "" := by
    intro row hrow t ht
    obtain ⟨x, -, rfl⟩ := List.mem_map.mp hrow
    exact h.tokens n t (List.mem_of_find?_eq_some ht)
  obtain ⟨visitors, hvisitors, hregs⟩ := exists_formatted rt htokens
  refine ⟨snapshotReply rt eventId request.snapshotAsOf (.str latest) limit
    ((ordered.take limit).map (R.rows n).withRelations)
    (decide (((ordered.take (limit + 1)).map (R.rows n).withRelations).length > limit)) totalCount
    visitors, ?_, ?_⟩
  · have hrun : (findOfflineSnapshotForStaff rt lib eventId (R.now n)
        { cursor, limit := R.limit n }).run (R.machine collate n) () =
          (.ok (snapshotReply rt eventId request.snapshotAsOf (.str latest) limit
            ((ordered.take limit).map (R.rows n).withRelations)
            (decide (((ordered.take (limit + 1)).map (R.rows n).withRelations).length > limit))
            totalCount visitors), ()) := by
      simp only [findOfflineSnapshotForStaff, hl, hrequest, Prog.bind_eq, Prog.ofExcept_ok,
        Prog.bind_ret, Prog.run_bind_ok _ hchange, Prog.run_bind_ok _ hrows, hitems, hvisitors]
      rfl
    rw [reply, hrun]
  · have hregistrations : visitors.map (·.registration) = ordered.take limit := by
      rw [hregs, List.map_map]
      exact List.map_id _
    have hall : ordered = Keyset.rowsAfter (positionOf collate)
        (R.available eventId request.snapshotAsOf n) (request.start.map (position collate)) := by
      rw [← hordered, orderedAfter_eq]
    refine ⟨rfl, rfl, rfl, ?_, ?_, ?_⟩
    · rw [hl, Keyset.items, ← hall]
      exact hregistrations
    · rw [hl, Keyset.hasMore, ← hall]
      exact decide_eq_decide.mpr (by rwa [List.length_map])
    · have hlast : ((ordered.take limit).map (R.rows n).withRelations).getLast?.map
          (·.registration) = (ordered.take limit).getLast? := by
        rw [← List.getLast?_map, List.map_map]
        exact congrArg List.getLast? (List.map_id _)
      simp only [snapshotReply, hregistrations, ← hlast, Option.map_map]
      rfl

/-! ## The download -/

theorem pos_snapshotLimit (limit : Int) : 0 < snapshotLimit limit := by
  unfold snapshotLimit
  omega

/-- What a following request finds: the last registration of a page was read from the tables. -/
theorem asks_after (h : Stored rt collate R eventId) (hlatest : isDecimal latest = true)
    (hdate : rt.parseDate (rt.toISOString snapshotAsOf) = some snapshotAsOf)
    {k : Option (Time ×ₗ ρ)} {limit : Nat} {last : VisitorRegistration}
    (hlast : (Keyset.items (positionOf collate) (R.available eventId snapshotAsOf n) k
      limit).getLast? = some last) :
    Asks rt lib R eventId (n + 1)
      (some (encodeOfflineSnapshotCursor rt (nextOf rt eventId snapshotAsOf latest last)))
      snapshotAsOf latest (some (last.createdAt, last.id)) := by
  have hmem := (Keyset.mem_of_mem_items (List.mem_of_getLast? hlast)).1
  obtain ⟨hstored, -⟩ := mem_available.mp hmem
  exact asks_next h.eventId hlatest hdate (h.ids n last hstored) (h.createdDates n last hstored)

variable (rt eventId) in
/-- The reply belongs to a snapshot, and its cursor is read back. -/
structure Belongs (lib : TextLibrary) (snapshotAsOf : Time) (latest : String)
    (reply : SnapshotReply) : Prop where
  id : reply.id = createSnapshotId rt eventId (rt.toISOString snapshotAsOf)
  asOf : reply.snapshotAsOf = rt.toISOString snapshotAsOf
  changeCursor : reply.changeCursor = .str latest
  nextCursor : ∀ next ∈ reply.nextCursor, ∃ c, Produced c ∧
    next = encodeOfflineSnapshotCursor rt c ∧ decodeOfflineSnapshotCursor rt lib next = .ok c

variable (collate R eventId snapshotAsOf) in
/-- The pages of the registrations up to the time of the snapshot. -/
abbrev Pages (n : Nat) (start : Option (Time × Id)) (pages : List (List VisitorRegistration)) :
    Prop :=
  Keyset.Pages (positionOf collate) (R.available eventId snapshotAsOf)
    (fun m => snapshotLimit (R.limit m)) n (start.map (position collate)) pages

theorem belongs_of_page (h : Stored rt collate R eventId) (hlatest : isDecimal latest = true)
    {reply : SnapshotReply}
    (hpage : PageOf rt collate R eventId n snapshotAsOf latest start reply) :
    Belongs rt eventId lib snapshotAsOf latest reply := by
  refine ⟨hpage.id, hpage.asOf, hpage.changeCursor, fun next hnext => ?_⟩
  have hcursor := hpage.nextCursor
  rw [Option.mem_def.mp hnext] at hcursor
  split at hcursor
  · obtain ⟨last, hlast, rfl⟩ := Option.map_eq_some_iff.mp hcursor.symm
    rw [hpage.registrations] at hlast
    have hmem := (Keyset.mem_of_mem_items (List.mem_of_getLast? hlast)).1
    obtain ⟨hstored, -⟩ := mem_available.mp hmem
    have hproduced : Produced (nextOf rt eventId snapshotAsOf latest last) :=
      produced_nextOf h.eventId hlatest (h.ids n last hstored)
    exact ⟨_, hproduced, rfl, decode_encode lib hproduced⟩
  · cases hcursor

/-- A download reads keyset pages of one snapshot. -/
theorem pages_of_download (h : Stored rt collate R eventId) (hlatest : isDecimal latest = true)
    (hdate : rt.parseDate (rt.toISOString snapshotAsOf) = some snapshotAsOf)
    {replies : List SnapshotReply} (hd : R.Download rt lib collate eventId n cursor replies)
    (hasks : Asks rt lib R eventId n cursor snapshotAsOf latest start) :
    Pages collate R eventId snapshotAsOf n start
        (replies.map fun reply => reply.visitors.map (·.registration)) ∧
      ∀ reply ∈ replies, Belongs rt eventId lib snapshotAsOf latest reply := by
  induction hd generalizing start with
  | @last n cursor reply hreply hmore =>
      obtain ⟨reply', hreply', hpage⟩ := reply_of_asks h hasks
      obtain rfl := Except.ok.inj (hreply.symm.trans hreply')
      refine ⟨?_, by simpa using belongs_of_page h hlatest hpage⟩
      rw [List.map_singleton, hpage.registrations]
      exact .last (hpage.hasMore.symm.trans hmore)
  | @more n cursor reply next rest hreply hmore hnext hrest ih =>
      obtain ⟨reply', hreply', hpage⟩ := reply_of_asks h hasks
      obtain rfl := Except.ok.inj (hreply.symm.trans hreply')
      have hcursor := hpage.nextCursor
      rw [hnext, hmore, if_pos rfl, eq_comm, Option.map_eq_some_iff] at hcursor
      obtain ⟨last, hlast, rfl⟩ := hcursor
      rw [hpage.registrations] at hlast
      obtain ⟨hpages, hbelongs⟩ := ih (asks_after h hlatest hdate hlast)
      refine ⟨?_, List.forall_mem_cons.mpr ⟨belongs_of_page h hlatest hpage, hbelongs⟩⟩
      rw [List.map_cons, hpage.registrations]
      exact .more (hpage.hasMore.symm.trans hmore) hlast hpages

/-- Keyset pages are read by a download. -/
theorem exists_download (h : Stored rt collate R eventId) (hlatest : isDecimal latest = true)
    (hdate : rt.parseDate (rt.toISOString snapshotAsOf) = some snapshotAsOf)
    {pages : List (List VisitorRegistration)} {k : Option (Time ×ₗ ρ)}
    (hpages : Keyset.Pages (positionOf collate) (R.available eventId snapshotAsOf)
      (fun m => snapshotLimit (R.limit m)) n k pages)
    (hk : k = start.map (position collate))
    (hasks : Asks rt lib R eventId n cursor snapshotAsOf latest start) :
    ∃ replies, R.Download rt lib collate eventId n cursor replies := by
  induction hpages generalizing start cursor with
  | @last n k hmore =>
      subst hk
      obtain ⟨reply, hreply, hpage⟩ := reply_of_asks h hasks
      exact ⟨_, .last hreply (hpage.hasMore.trans hmore)⟩
  | @more n k last rest hmore hlast hrest ih =>
      subst hk
      obtain ⟨reply, hreply, hpage⟩ := reply_of_asks h hasks
      have hmore' := hpage.hasMore.trans hmore
      have hcursor := hpage.nextCursor
      rw [hmore', if_pos rfl, hpage.registrations, hlast, Option.map_some] at hcursor
      obtain ⟨replies, hd⟩ := ih rfl (asks_after h hlatest hdate hlast)
      exact ⟨_, .more hreply hmore' hcursor hd⟩

theorem Download.ne_nil {replies : List SnapshotReply}
    (h : R.Download rt lib collate eventId n cursor replies) : replies ≠ [] := by
  cases h with
  | last hreply hmore => exact List.cons_ne_nil _ _
  | more hreply hmore hnext hrest => exact List.cons_ne_nil _ _

variable (R eventId) in
/-- The ids of the registrations up to the time of the snapshot, whenever they are there. -/
def snapshotIds : Set Id :=
  {id | ∃ n, ∃ x ∈ R.available eventId (R.now 0) n, x.id = id}

omit [LinearOrder ρ] in
/-- Registrations of one id have one position. -/
theorem positionOf_eq (h : Stored rt collate R eventId) {m n : Nat} {x y : VisitorRegistration}
    (hx : x ∈ R.available eventId snapshotAsOf m) (hy : y ∈ R.available eventId snapshotAsOf n)
    (hid : x.id = y.id) : positionOf collate x = positionOf collate y := by
  have hcreated := h.created m n x (mem_available.mp hx).1 y (mem_available.mp hy).1 hid
  rw [positionOf, positionOf, hcreated, hid]

omit [LinearOrder ρ] in
/-- Registrations of one position, read at one time, are one. -/
theorem eq_of_positionOf (h : Stored rt collate R eventId) {x y : VisitorRegistration}
    (hx : x ∈ R.available eventId snapshotAsOf n) (hy : y ∈ R.available eventId snapshotAsOf n)
    (heq : positionOf collate x = positionOf collate y) : x = y :=
  List.inj_on_of_nodup_map (nodup_positions h snapshotAsOf n) hx hy heq

omit [LinearOrder ρ] in
theorem exists_positions (h : Stored rt collate R eventId)
    (hfinite : (R.snapshotIds eventId).Finite) :
    ∃ keys : Finset (Time ×ₗ ρ), ∀ m, ∀ x ∈ R.available eventId (R.now 0) m,
      positionOf collate x ∈ keys := by
  have hids : Finite (R.snapshotIds eventId) := hfinite.to_subtype
  choose request stored hstored using fun id : R.snapshotIds eventId => id.2
  refine ⟨(Set.finite_range fun id => positionOf collate (stored id)).toFinset, fun m x hx => ?_⟩
  have hx' : x.id ∈ R.snapshotIds eventId := ⟨m, x, hx, rfl⟩
  obtain ⟨hmem, hid⟩ := hstored ⟨x.id, hx'⟩
  rw [Set.Finite.mem_toFinset]
  exact ⟨⟨x.id, hx'⟩, positionOf_eq h hmem hx hid⟩

section Exact

variable {replies : List SnapshotReply} {pages : List (List VisitorRegistration)}

/-- What was read was there at its request. -/
theorem available_of_mem (hpages : Pages collate R eventId snapshotAsOf 0 start pages)
    {x : VisitorRegistration} (hx : x ∈ pages.flatten) :
    ∃ i < pages.length, x ∈ R.available eventId snapshotAsOf i := by
  obtain ⟨page, hpage, hmem⟩ := List.mem_flatten.mp hx
  obtain ⟨i, hi, rfl⟩ := List.mem_iff_getElem.mp hpage
  have hread := hpages.mem (List.getElem?_eq_getElem hi) hmem
  rw [Nat.zero_add] at hread
  exact ⟨i, hi, hread⟩

/-- No registration is read twice. -/
theorem nodup_ids (h : Stored rt collate R eventId)
    (hpages : Pages collate R eventId snapshotAsOf 0 start pages) :
    (pages.flatten.map (·.id)).Nodup := by
  have hsorted := hpages.pairwise (nodup_positions h snapshotAsOf)
  refine List.pairwise_map.mpr (hsorted.imp_of_mem fun {x y} hx hy hlt hid => ?_)
  obtain ⟨i, -, hx⟩ := available_of_mem hpages hx
  obtain ⟨j, -, hy⟩ := available_of_mem hpages hy
  exact hlt.ne (positionOf_eq h hx hy hid)

/-- A registration that is there throughout is read. -/
theorem mem_of_throughout (h : Stored rt collate R eventId) (hne : pages ≠ [])
    (hpages : Pages collate R eventId snapshotAsOf 0 none pages) {id : Id}
    (hid : ∀ i < pages.length, ∃ x ∈ R.available eventId snapshotAsOf i, x.id = id) :
    id ∈ pages.flatten.map (·.id) := by
  obtain ⟨first, hfirst, hfirstId⟩ := hid 0 (List.length_pos_iff.mpr hne)
  have hpresent : ∀ i < pages.length, ∃ x ∈ R.available eventId snapshotAsOf (0 + i),
      positionOf collate x = positionOf collate first := by
    intro i hi
    obtain ⟨x, hx, hxId⟩ := hid i hi
    rw [Nat.zero_add]
    exact ⟨x, hx, positionOf_eq h hx hfirst (hxId.trans hfirstId.symm)⟩
  obtain ⟨x, hx, hposition⟩ := hpages.mem_of_present (nodup_positions h snapshotAsOf)
    (fun j hj => by cases hj) hpresent
  obtain ⟨i, hi, hmem⟩ := available_of_mem hpages hx
  obtain ⟨y, hy, hyId⟩ := hid i hi
  have hsame : positionOf collate y = positionOf collate first :=
    positionOf_eq h hy hfirst (hyId.trans hfirstId.symm)
  obtain rfl := eq_of_positionOf h hmem hy (hposition.trans hsame.symm)
  exact List.mem_map.mpr ⟨x, hx, hyId⟩

end Exact

end SnapshotRequests

open SnapshotRequests VisitorsService in
/-- A download of the snapshot ends where finitely many registrations were created up to its time.
It goes through the registrations in the order of creation, reads each that is there throughout
exactly once, and none that was created later; the snapshot stays the same, and every cursor is read
back. -/
theorem snapshot_pages_exact {ρ : Type} [LinearOrder ρ] (rt : Runtime) (lib : TextLibrary)
    (collate : Id → ρ) (R : SnapshotRequests) (eventId : Id)
    (h : SnapshotRequests.Stored rt collate R eventId) :
    ((R.snapshotIds eventId).Finite → ∃ replies, R.Download rt lib collate eventId 0 none replies) ∧
    (∀ replies, R.Download rt lib collate eventId 0 none replies →
      (replies.flatMap (·.visitors)).Pairwise (fun a b =>
        a.registration.createdAt < b.registration.createdAt ∨
          a.registration.createdAt = b.registration.createdAt ∧
            collate a.registration.id < collate b.registration.id) ∧
      (∀ id, (∀ i < replies.length, ∃ x ∈ (R.rows i).rows.registrations,
          x.eventId = eventId ∧ x.createdAt ≤ R.now 0 ∧ x.id = id) →
        ((replies.flatMap (·.visitors)).map (·.registration.id)).count id = 1) ∧
      (∀ visitor ∈ replies.flatMap (·.visitors), visitor.registration.createdAt ≤ R.now 0 ∧
        ∃ i < replies.length, visitor.registration ∈ (R.rows i).rows.registrations ∧
          visitor.registration.eventId = eventId) ∧
      ∀ reply ∈ replies, reply.snapshotAsOf = rt.toISOString (R.now 0) ∧
        reply.changeCursor = .str (toString (((R.changes 0).latestChangeAt eventId
          (R.now 0)).getD 0)) ∧
        reply.id = createSnapshotId rt eventId (rt.toISOString (R.now 0)) ∧
        ∀ next ∈ reply.nextCursor, ∃ c, Produced c ∧ next = encodeOfflineSnapshotCursor rt c) ∧
    ∀ c, Produced c →
      decodeOfflineSnapshotCursor rt lib (encodeOfflineSnapshotCursor rt c) = .ok c := by
  have hlatest := isDecimal_repr (((R.changes 0).latestChangeAt eventId (R.now 0)).getD 0)
  refine ⟨fun hfinite => ?_, fun replies hd => ?_, fun c hc => decode_encode lib hc⟩
  · obtain ⟨keys, hkeys⟩ := exists_positions h hfinite
    obtain ⟨pages, hpages⟩ : ∃ pages, Pages collate R eventId (R.now 0) 0 none pages :=
      Keyset.exists_pages (fun m => pos_snapshotLimit (R.limit m)) keys fun m _ x hx => hkeys m x hx
    exact exists_download h hlatest h.snapshotDate hpages rfl asks_first
  · obtain ⟨hpages, hbelongs⟩ := pages_of_download h hlatest h.snapshotDate hd asks_first
    have hflat : (replies.map fun reply => reply.visitors.map (·.registration)).flatten =
        (replies.flatMap (·.visitors)).map (·.registration) := by
      rw [List.map_flatMap, List.flatMap_def]
    have hlength : (replies.map fun reply => reply.visitors.map (·.registration)).length =
        replies.length := List.length_map _
    have hids : (replies.flatMap (·.visitors)).map (·.registration.id) =
        ((replies.map fun reply => reply.visitors.map (·.registration)).flatten).map (·.id) := by
      rw [hflat, List.map_map]
      rfl
    refine ⟨?_, fun id hid => ?_, fun visitor hvisitor => ?_, fun reply hreply => ?_⟩
    · have hsorted := hpages.pairwise (nodup_positions h (R.now 0))
      rw [hflat, List.pairwise_map] at hsorted
      exact hsorted.imp fun hlt => Prod.Lex.toLex_lt_toLex.mp hlt
    · rw [hids]
      refine List.count_eq_one_of_mem (nodup_ids h hpages) (mem_of_throughout h ?_ hpages ?_)
      · exact mt List.map_eq_nil_iff.mp hd.ne_nil
      · intro i hi
        rw [hlength] at hi
        obtain ⟨x, hx, hevent, hcreated, hxId⟩ := hid i hi
        exact ⟨x, mem_available.mpr ⟨hx, hevent, hcreated⟩, hxId⟩
    · have hmem : visitor.registration ∈
          (replies.map fun reply => reply.visitors.map (·.registration)).flatten := by
        rw [hflat]
        exact List.mem_map_of_mem hvisitor
      obtain ⟨i, hi, havailable⟩ := available_of_mem hpages hmem
      obtain ⟨hstored, hevent, hcreated⟩ := mem_available.mp havailable
      exact ⟨hcreated, i, by rwa [hlength] at hi, hstored, hevent⟩
    · obtain ⟨hid, hasOf, hchange, hnext⟩ := hbelongs reply hreply
      refine ⟨hasOf, hchange, hid, fun next hmem => ?_⟩
      obtain ⟨c, hproduced, hencoded, -⟩ := hnext next hmem
      exact ⟨c, hproduced, hencoded⟩

/-! ## Two registrations of one moment -/

/-- The moment in which the two registrations and the snapshot were created. -/
def snapshotRuntime : Runtime :=
  { sampleRuntime with
    toISOString := fun _ => "2026-08-01T00:00:00.000Z"
    parseDate := fun _ => some 1785542400000 }

def textLibrary : TextLibrary := ⟨id, fun _ => ""⟩

theorem distinct_nil (a b : VisitorChange)
    (ha : a ∈ ([] : List VisitorChange) ∨ ∃ tx ∈ ([] : List Transaction), a ∈ tx.changes)
    (_ : b ∈ ([] : List VisitorChange) ∨ ∃ tx ∈ ([] : List Transaction), b ∈ tx.changes)
    (_ : a.id = b.id) : a = b := by
  simp at ha

theorem bounded_nil (a : VisitorChange)
    (ha : a ∈ ([] : List VisitorChange) ∨ ∃ tx ∈ ([] : List Transaction), a ∈ tx.changes) :
    a.id < 1 := by
  simp at ha

/-- Two registrations that differ in their ids only. -/
def twinDb : VisitorDb where
  journal := ⟨[], [], 1, distinct_nil, bounded_nil⟩
  rows := {
    registrations := [
      { id := "c1", publicId := "REG-1", eventId := "c0", attendeeTypeId := "c0",
        fullName := "Visitor", createdAt := 1785542400000 },
      { id := "c2", publicId := "REG-2", eventId := "c0", attendeeTypeId := "c0",
        fullName := "Visitor", createdAt := 1785542400000 }]
    qrTokens := []
    attendeeTypes := [] }

def twinRequests : SnapshotRequests := ⟨fun _ => 1785542400000, fun _ => 50, fun _ => twinDb,
  fun _ => twinDb⟩

theorem twins_stored : SnapshotRequests.Stored snapshotRuntime id twinRequests "c0" where
  eventId := by decide +kernel
  primaryKeys n := by
    change (twinDb.rows.registrations.map (·.id)).Nodup
    decide
  ids n := by
    change ∀ x ∈ twinDb.rows.registrations, trim x.id ≠ ""
    simp only [twinDb, List.forall_mem_cons]
    decide +kernel
  tokens n := by
    change ∀ t ∈ twinDb.rows.qrTokens, trim t.tokenId ≠ ""
    exact List.forall_mem_nil _
  created m n := by
    change ∀ x ∈ twinDb.rows.registrations, ∀ y ∈ twinDb.rows.registrations,
      x.id = y.id → x.createdAt = y.createdAt
    simp [twinDb]
  createdDates n := by
    change ∀ x ∈ twinDb.rows.registrations, some (1785542400000 : Time) = some x.createdAt
    simp [twinDb]
  snapshotDate := rfl

theorem snapshot_of_twins : ∃ replies,
    twinRequests.Download snapshotRuntime textLibrary id "c0" 0 none replies ∧
      ∀ x ∈ ["c1", "c2"],
        ((replies.flatMap (·.visitors)).map (·.registration.id)).count x = 1 := by
  have hexact := snapshot_pages_exact snapshotRuntime textLibrary id twinRequests "c0" twins_stored
  have hmem : ∀ n, ∀ x ∈ (twinRequests.rows n).rows.registrations, x.id = "c1" ∨ x.id = "c2" := by
    intro n
    change ∀ x ∈ twinDb.rows.registrations, x.id = "c1" ∨ x.id = "c2"
    simp [twinDb]
  have hfinite : (twinRequests.snapshotIds "c0").Finite := by
    refine (Set.toFinite {"c1", "c2"}).subset ?_
    rintro id ⟨n, x, hx, rfl⟩
    exact hmem n x (SnapshotRequests.mem_available.mp hx).1
  obtain ⟨replies, hd⟩ := hexact.1 hfinite
  refine ⟨replies, hd, fun x hx => (hexact.2.1 replies hd).2.1 x fun i _ => ?_⟩
  change ∃ y ∈ twinDb.rows.registrations,
    y.eventId = "c0" ∧ y.createdAt ≤ 1785542400000 ∧ y.id = x
  rcases List.mem_pair.mp hx with rfl | rfl
  · exact ⟨_, List.mem_cons_self, rfl, le_refl _, rfl⟩
  · exact ⟨_, List.mem_cons_of_mem _ List.mem_cons_self, rfl, le_refl _, rfl⟩

end CreativeBackend
