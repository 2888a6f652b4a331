import CreativeBackend.Visitors.VisitorsService
import CreativeBackend.Interaction.Concurrent
import CreativeBackend.Scans.Service

/-!
# Delta synchronization

A device reads the journal of its event page by page while transactions write it. The
invariant of all interleavings says that no pending row of the event lies at or below the
cursor, and that every committed row up to the cursor was on a page. It is kept where no
page passes over a pending row.

## Implementation notes

`read` and `asOf` record what the queries of the device saw: the rows of its last page, and
the rows that were committed when it last asked for the latest cursor. No step depends on
them. `start` is the cursor that the device begins with, which stands for the rows of its
snapshot.
-/

namespace CreativeBackend

open Interaction Relational

namespace Delta

open VisitorsService

/-! ## The system -/

/-- The database, and what the queries of the device saw. -/
structure World where
  db : VisitorDb
  read : List VisitorChange := []
  asOf : List VisitorChange := []

/-- The world after a query of the device. -/
def World.look (w : World) : VisitorCall → World
  | .changes eventId after take => { w with read := w.db.changesAfter eventId after take }
  | .latestChange _ => { w with asOf := w.db.journal.committed }
  | _ => w

/-- A reply that the device received, and what its queries saw. -/
structure Answer where
  reply : ChangesReply
  read : List VisitorChange
  asOf : List VisitorChange

/-- The device between the writers: the cursor it sends next, the replies it has, and its
request in progress. -/
structure State where
  world : World
  after : Option String
  answers : List Answer := []
  running : Option (VisitorSvc ChangesReply) := none

inductive Action where
  | database (act : DbAct)
  | request (countFirst : Bool) (limit : Int)
  | query
  | queryFails
  | finish

variable (rt : Runtime) (eventId : Id)

/-- One step. -/
def step (s : State) : Action → Option State
  | .database act => some { s with world := { s.world with db := s.world.db.act act } }
  | .request countFirst limit =>
      match s.running with
      | none => some { s with
          running := some (findChangesForStaff rt eventId countFirst { after := s.after, limit }) }
      | some _ => none
  | .query =>
      match s.running with
      | some (.ask c k) => some { s with
          world := s.world.look c
          running := some (k (.ok (s.world.db.answer c))) }
      | _ => none
  | .queryFails =>
      match s.running with
      | some (.ask _ k) => some { s with running := some (k (.error (.prisma .connection))) }
      | _ => none
  | .finish =>
      match s.running with
      | some (.ret reply) => some { s with
          after := some reply.nextCursor
          answers := s.answers ++ [⟨reply, s.world.read, s.world.asOf⟩]
          running := none }
      | some (.throw _) => some { s with running := none }
      | _ => none

/-- A page would reach the id of a row of the event that is not committed yet. -/
def Overtakes (db : VisitorDb) (eventId : Id) (after limit : Nat) : Prop :=
  ∃ tx ∈ db.journal.opens, ∃ p ∈ tx.changes, p.eventId = eventId ∧ after < p.id ∧
    ∃ c ∈ db.changesAfter eventId after limit, p.id ≤ c.id

instance (db : VisitorDb) (eventId : Id) (after limit : Nat) :
    Decidable (Overtakes db eventId after limit) :=
  inferInstanceAs (Decidable (∃ tx ∈ db.journal.opens, ∃ p ∈ tx.changes, p.eventId = eventId ∧
    after < p.id ∧ ∃ c ∈ db.changesAfter eventId after limit, p.id ≤ c.id))

/-- The page that the device asks for next. -/
def nextPage (s : State) : Option (Id × Nat × Nat) :=
  match s.running with
  | some (.ask (.changes eventId after take) _) => some (eventId, after, take)
  | _ => none

/-- The steps in which no page overtakes a pending row. -/
def InOrder (s : State) : Action → Prop
  | .query => ∀ page ∈ nextPage s, ¬ Overtakes s.world.db page.1 page.2.1 (page.2.2 - 1)
  | _ => True

/-- The states that a run reaches whose steps meet a condition. -/
def Reach (permits : State → Action → Prop) : State → State → Prop :=
  Relation.ReflTransGen fun s s' => ∃ a, permits s a ∧ step rt eventId s a = some s'

/-- A device that begins with a cursor. -/
def State.init (db : VisitorDb) (after : Option String) : State := { world := { db }, after }

/-! ## What the device has seen -/

/-- The reply has the row, or a newer one of its registration in its place, and the query of
the page saw the row. -/
def Answer.Covers (a : Answer) (c : VisitorChange) : Prop :=
  c ∈ a.read ∧ ∃ item ∈ a.reply.changes, item.registrationId = c.registrationId ∧
    ∃ n, item.cursor = toString n ∧ c.id ≤ n

/-- Some reply covers the row. -/
def State.Covered (s : State) (c : VisitorChange) : Prop := ∃ a ∈ s.answers, a.Covers c

/-- The last reply says that there is no more, and nothing was committed since. -/
def State.CaughtUp (s : State) : Prop :=
  ∃ a, s.answers.getLast? = some a ∧ a.reply.hasMore = false ∧
    a.asOf = s.world.db.journal.committed

/-- Once the device has caught up, it has seen every committed row of the event. -/
def MissesNothing (eventId : Id) (start : Nat) (s : State) : Prop :=
  s.CaughtUp → ∀ c ∈ s.world.db.journal.committed, c.eventId = eventId → start < c.id → s.Covered c

/-! ## The invariant of the journal -/

/-- The cursor `n` has passed no pending row, and `P` holds of what it has passed. -/
structure Passed (eventId : Id) (start n : Nat) (P : VisitorChange → Prop) (j : Journal) :
    Prop where
  start_le : start ≤ n
  pending : ∀ c, j.Pending c → c.eventId = eventId → c.id ≤ start ∨ n < c.id
  next : n ≤ start ∨ n < j.nextId
  seen : ∀ c ∈ j.committed, c.eventId = eventId → start < c.id → c.id ≤ n → P c

section Passed

variable {eventId : Id} {start n : Nat} {P P' : VisitorChange → Prop} {j j' : Journal}

theorem passed_start (P : VisitorChange → Prop) (j : Journal) :
    Passed eventId start start P j where
  start_le := Nat.le_refl _
  pending c _ _ := (Nat.lt_or_ge start c.id).symm
  next := .inl (Nat.le_refl _)
  seen _ _ _ hlt hle := absurd hlt (Nat.not_lt.mpr hle)

theorem Passed.mono (h : Passed eventId start n P j) (hp : ∀ c, P c → P' c) :
    Passed eventId start n P' j :=
  ⟨h.start_le, h.pending, h.next, fun c hc he hs hn => hp c (h.seen c hc he hs hn)⟩

/-- The writers keep it: a new row has an id past the cursor. -/
theorem Passed.later (h : Passed eventId start n P j) (hl : j.Later j') :
    Passed eventId start n P j' where
  start_le := h.start_le
  pending c hc he := by
    rcases hl.pending c hc with hc | hle
    · exact h.pending c hc he
    · have := h.start_le
      have := h.next
      omega
  next := by
    have := h.next
    have := hl.nextId
    omega
  seen c hc he hs hn := by
    rcases hl.committed c hc with (hc | hc) | hle
    · exact h.seen c hc he hs hn
    · have := h.pending c hc he
      omega
    · have := h.next
      omega

/-- What a transaction of another service does. -/
theorem later_act (db : VisitorDb) (act : DbAct) : db.journal.Later (db.act act).journal := by
  cases act with
  | begin => exact db.journal.later_begin
  | write i w now => exact db.journal.later_write i w now
  | skipId => exact db.journal.later_skipId
  | commit i => exact db.journal.later_commit i
  | rollback i => exact db.journal.later_rollback i

end Passed

/-! ## Pages -/

section Page

variable {db : VisitorDb} {eventId : Id} {n limit : Nat} {c : VisitorChange}

/-- The rows of the event after a cursor, in the order of their ids. -/
def sortedAfter (db : VisitorDb) (eventId : Id) (n : Nat) : List VisitorChange :=
  (db.journal.committed.filter fun c => c.eventId = eventId ∧ n < c.id).insertionSort
    fun a b => a.id ≤ b.id

theorem mem_sortedAfter : c ∈ sortedAfter db eventId n ↔
    c ∈ db.journal.committed ∧ c.eventId = eventId ∧ n < c.id := by
  rw [sortedAfter, List.mem_insertionSort, List.mem_filter, decide_eq_true_eq]

theorem pairwise_sortedAfter : (sortedAfter db eventId n).Pairwise fun a b => a.id ≤ b.id := by
  have : Std.Total fun a b : VisitorChange => a.id ≤ b.id := ⟨fun a b => Nat.le_total a.id b.id⟩
  have : IsTrans VisitorChange fun a b => a.id ≤ b.id := ⟨fun _ _ _ => Nat.le_trans⟩
  exact List.pairwise_insertionSort _ _

/-- The last id of a page, or the cursor where the page is empty. -/
def pageEnd (n : Nat) (pageRows : List VisitorChange) : Nat :=
  (pageRows.getLast?.map (·.id)).getD n

/-- A page leaves the cursor, or moves it to the id of one of its rows. -/
theorem pageEnd_cases (db : VisitorDb) (eventId : Id) (n limit : Nat) :
    pageEnd n (db.changesAfter eventId n limit) = n ∨
      ∃ x ∈ db.changesAfter eventId n limit,
        pageEnd n (db.changesAfter eventId n limit) = x.id := by
  cases hlast : (db.changesAfter eventId n limit).getLast? with
  | none => exact .inl (by rw [pageEnd, hlast]; rfl)
  | some x => exact .inr ⟨x, List.mem_of_getLast? hlast, by rw [pageEnd, hlast]; rfl⟩

theorem mem_of_changesAfter (h : c ∈ db.changesAfter eventId n limit) :
    c ∈ db.journal.committed ∧ c.eventId = eventId ∧ n < c.id :=
  mem_sortedAfter.mp (List.mem_of_mem_take h)

/-- A page has every committed row of the event up to its end. -/
theorem mem_changesAfter_of_le {x : VisitorChange} (hx : x ∈ db.changesAfter eventId n limit)
    (hc : c ∈ db.journal.committed) (he : c.eventId = eventId) (hn : n < c.id) (hle : c.id ≤ x.id) :
    c ∈ db.changesAfter eventId n limit := by
  have hmem : c ∈ sortedAfter db eventId n := mem_sortedAfter.mpr ⟨hc, he, hn⟩
  have hsplit : (sortedAfter db eventId n).take limit ++ (sortedAfter db eventId n).drop limit =
      sortedAfter db eventId n := List.take_append_drop limit _
  have hsorted : (sortedAfter db eventId n).Pairwise fun a b => a.id ≤ b.id := pairwise_sortedAfter
  rw [← hsplit] at hmem hsorted
  rcases List.mem_append.mp hmem with hmem | hmem
  · exact hmem
  · have hxc : x.id ≤ c.id := (List.pairwise_append.mp hsorted).2.2 x hx c hmem
    have heq : x = c := db.journal.distinct x c (.inl (mem_of_changesAfter hx).1) (.inl hc)
      (Nat.le_antisymm hxc hle)
    exact heq ▸ hx

/-- A page that overtakes no pending row moves the cursor past its rows alone. -/
theorem Passed.page {start : Nat} {P : VisitorChange → Prop}
    (h : Passed eventId start n P db.journal) (hin : ¬ Overtakes db eventId n limit) :
    Passed eventId start (pageEnd n (db.changesAfter eventId n limit))
      (fun c => P c ∨ c ∈ db.changesAfter eventId n limit) db.journal := by
  rcases pageEnd_cases db eventId n limit with hend | ⟨x, hx, hend⟩
  · rw [hend]
    exact h.mono fun _ => .inl
  · obtain ⟨hcommitted, hevent, hlt⟩ := mem_of_changesAfter hx
    rw [hend]
    constructor
    · exact h.start_le.trans (Nat.le_of_lt hlt)
    · rintro c ⟨tx, htx, hc⟩ he
      rcases h.pending c ⟨tx, htx, hc⟩ he with hle | hn
      · exact .inl hle
      · exact .inr (Nat.not_le.mp fun hle => hin ⟨tx, htx, c, hc, he, hn, x, hx, hle⟩)
    · exact .inr (db.journal.bounded x (.inl hcommitted))
    · intro c hc he hs hle
      by_cases hn : c.id ≤ n
      · exact .inl (h.seen c hc he hs hn)
      · exact .inr (mem_changesAfter_of_le hx hc he (Nat.not_le.mp hn) hle)

theorem le_latestChange (hc : c ∈ db.journal.committed) (he : c.eventId = eventId) :
    c.id ≤ (db.latestChange eventId).getD 0 := by
  unfold VisitorDb.latestChange
  have hmem : c.id ∈ (db.journal.committed.filter fun c => c.eventId = eventId).map (·.id) :=
    List.mem_map.mpr ⟨c, List.mem_filter.mpr ⟨hc, by simpa using he⟩, rfl⟩
  exact List.le_max?_getD_of_mem hmem

end Page

/-! ## One request -/

section Request

variable {rt : Runtime} {eventId : Id}

/-- The queries of a request, between the transactions of the other services. -/
def requestSystem (eventId : Id) : System VisitorResp Exn World where
  answers t c w r w' := t = 0 ∧
    (r = .error (.prisma .connection) ∧ w' = w ∨
      r = .ok (w.db.answer c) ∧ w' = w.look c ∧
        ∀ after take, c = .changes eventId after take → ¬ Overtakes w.db eventId after (take - 1))
  env w w' := ∃ act, w' = { w with db := w.db.act act }
  spawns _ _ _ := False

/-- What the other services leave: a later journal, and what the device saw. -/
structure Between (w w' : World) : Prop where
  journal : w.db.journal.Later w'.db.journal
  read : w'.read = w.read
  asOf : w'.asOf = w.asOf

theorem Between.refl (w : World) : Between w w := ⟨.refl _, rfl, rfl⟩

theorem Between.trans {w w' w'' : World} (h : Between w w') (h' : Between w' w'') :
    Between w w'' :=
  ⟨h.journal.trans h'.journal, h'.read.trans h.read, h'.asOf.trans h.asOf⟩

theorem between_act (w : World) (act : DbAct) : Between w { w with db := w.db.act act } :=
  ⟨later_act w.db act, rfl, rfl⟩

/-- The logic of a request from a cursor `n`. -/
def requestLogic (eventId : Id) (start n : Nat) (P : VisitorChange → Prop) :
    Logic (requestSystem eventId) where
  inv w := Passed eventId start n P w.db.journal
  rely t w w' := t = 0 → Between w w'
  rely_refl _ w _ := .refl w
  rely_trans h h' ht := (h ht).trans (h' ht)
  guar hut _ h hu := absurd (hu.trans h.1.symm) hut
  env_inv hi h := by
    obtain ⟨act, rfl⟩ := h
    exact hi.later (later_act _ act)
  env_rely _ h _ := by
    obtain ⟨act, rfl⟩ := h
    exact between_act _ act
  spawn_inv _ h := h.elim
  spawn_rely _ h := h.elim

variable {start n : Nat} {P : VisitorChange → Prop} {w : World} {α : Type}

/-- A page that was read: what the device saw of it, and the journal past it. -/
structure Paged (eventId : Id) (start n : Nat) (P : VisitorChange → Prop)
    (rows pageRows : List VisitorChange) (w : World) : Prop where
  read : w.read = rows
  passed : Passed eventId start (pageEnd n pageRows) (fun c => P c ∨ c ∈ pageRows) w.db.journal

theorem Paged.between {rows pageRows : List VisitorChange} {w w' : World}
    (h : Paged eventId start n P rows pageRows w) (hb : Between w w') :
    Paged eventId start n P rows pageRows w' :=
  ⟨hb.read.trans h.read, h.passed.later hb.journal⟩

theorem take_changesAfter (db : VisitorDb) (eventId : Id) (n limit : Nat) :
    (db.changesAfter eventId n (limit + 1)).take limit = db.changesAfter eventId n limit := by
  rw [VisitorDb.changesAfter, List.take_take, Nat.min_eq_left (Nat.le_succ limit)]
  rfl

/-- The rows of a query, without the one beyond the limit. -/
theorem pageRows_eq (db : VisitorDb) (eventId : Id) (n limit : Nat) :
    (if (db.changesAfter eventId n (limit + 1)).length > limit then
        (db.changesAfter eventId n (limit + 1)).take limit
      else db.changesAfter eventId n (limit + 1)) = db.changesAfter eventId n limit := by
  split
  · exact take_changesAfter db eventId n limit
  · next hlen =>
      rw [← take_changesAfter db eventId n limit, List.take_of_length_le (Nat.not_lt.mp hlen)]

/-- The query of the page. -/
theorem holds_changes (limit : Nat) :
    (requestLogic eventId start n P).Holds 0
      (fun r w => ∀ rows, r = .ok rows → ∃ db : VisitorDb,
        rows = db.changesAfter eventId n (limit + 1) ∧
        Paged eventId start n P rows (db.changesAfter eventId n limit) w)
      (visitorCall (.changes eventId n (limit + 1))) w := by
  refine Logic.holds_call fun w₁ _ hi r w₂ h => ?_
  obtain ⟨-, ⟨rfl, rfl⟩ | ⟨rfl, rfl, hin⟩⟩ := h
  · exact ⟨hi, fun v _ _ rows hr => by cases hr⟩
  · refine ⟨hi, fun v hv _ rows hr => ⟨w₁.db, (Except.ok.inj hr).symm, ?_⟩⟩
    have hpaged : Paged eventId start n P rows (w₁.db.changesAfter eventId n limit)
        (w₁.look (.changes eventId n (limit + 1))) :=
      ⟨Except.ok.inj hr, hi.page (hin n (limit + 1) rfl)⟩
    exact hpaged.between (hv rfl)

/-- A query of other tables leaves what the transactions leave. -/
theorem holds_other {c : VisitorCall} (hlook : ∀ w : World, w.look c = w) {F : World → Prop}
    (hF : ∀ w w', F w → Between w w' → F w') (h : F w) :
    (requestLogic eventId start n P).Holds 0 (fun _ w => F w) (visitorCall c) w := by
  refine Logic.holds_call fun w₁ hw hi r w₂ ha => ?_
  have hsame : w₂ = w₁ := by
    obtain ⟨-, ⟨-, hw⟩ | ⟨-, hw, -⟩⟩ := ha
    · exact hw
    · exact hw.trans (hlook w₁)
  rw [hsame]
  exact ⟨hi, fun v hv _ => hF _ _ (hF _ _ h (hw rfl)) (hv rfl)⟩

/-- What the query of the latest cursor saw. -/
def Latest (eventId : Id) (latest : Option Nat) (w : World) : Prop :=
  ∀ c ∈ w.asOf, c.eventId = eventId → c.id ≤ latest.getD 0

theorem Latest.between {latest : Option Nat} {w w' : World} (h : Latest eventId latest w)
    (hb : Between w w') : Latest eventId latest w' := by
  intro c hc he
  rw [hb.asOf] at hc
  exact h c hc he

theorem holds_latest {rows pageRows : List VisitorChange}
    (h : Paged eventId start n P rows pageRows w) :
    (requestLogic eventId start n P).Holds 0
      (fun r w => Paged eventId start n P rows pageRows w ∧
        ∀ latest, r = .ok latest → Latest eventId latest w)
      (visitorCall (.latestChange eventId)) w := by
  refine Logic.holds_call fun w₁ hw hi r w₂ ha => ?_
  have hpaged : Paged eventId start n P rows pageRows w₁ := h.between (hw rfl)
  obtain ⟨-, ⟨rfl, rfl⟩ | ⟨rfl, rfl, -⟩⟩ := ha
  · exact ⟨hi, fun v hv _ => ⟨hpaged.between (hv rfl), fun latest hr => by cases hr⟩⟩
  · refine ⟨hi, fun v hv _ => ⟨?_, fun latest hr => ?_⟩⟩
    · have hlook : Paged eventId start n P rows pageRows (w₁.look (.latestChange eventId)) :=
        ⟨hpaged.read, hpaged.passed⟩
      exact hlook.between (hv rfl)
    · have hlatest : Latest eventId (w₁.db.latestChange eventId) (w₁.look (.latestChange eventId)) :=
        fun c hc he => le_latestChange hc he
      cases hr
      exact hlatest.between (hv rfl)

/-- The two queries of `Promise.all`, in either order. -/
theorem holds_readLatest (countFirst : Bool) {rows pageRows : List VisitorChange}
    (hi : (requestLogic eventId start n P).inv w)
    (h : Paged eventId start n P rows pageRows w) :
    (requestLogic eventId start n P).Holds 0
      (fun r w => ∀ pair, r = .ok pair →
        Paged eventId start n P rows pageRows w ∧ Latest eventId pair.1 w)
      (readLatest countFirst eventId) w := by
  unfold readLatest
  split
  · refine Logic.holds_bind hi (holds_other (fun _ => rfl) (fun _ _ => Paged.between) h) ?_ ?_
    · intro visitorsCount w₁ hi₁ h₁
      refine Logic.holds_bind hi₁ (holds_latest h₁) ?_ ?_
      · rintro latest w₂ _ ⟨h₂, hlatest⟩
        refine Logic.holds_ret fun v hv _ pair hr => ?_
        cases hr
        exact ⟨h₂.between (hv rfl), (hlatest latest rfl).between (hv rfl)⟩
      · exact fun e w₂ _ _ pair hr => by cases hr
    · exact fun e w₁ _ _ pair hr => by cases hr
  · refine Logic.holds_bind hi (holds_latest h) ?_ ?_
    · rintro latest w₁ hi₁ ⟨h₁, hlatest⟩
      have hboth : ∀ w w', Paged eventId start n P rows pageRows w ∧ Latest eventId latest w →
          Between w w' → Paged eventId start n P rows pageRows w' ∧ Latest eventId latest w' :=
        fun _ _ h hb => ⟨h.1.between hb, h.2.between hb⟩
      refine Logic.holds_bind hi₁ (holds_other (fun _ => rfl) hboth ⟨h₁, hlatest latest rfl⟩) ?_ ?_
      · intro visitorsCount w₂ _ h₂
        refine Logic.holds_ret fun v hv _ pair hr => ?_
        cases hr
        exact hboth _ _ h₂ (hv rfl)
      · exact fun e w₂ _ _ pair hr => by cases hr
    · exact fun e w₁ _ _ pair hr => by cases hr

theorem holds_readRegistrations (ids : List Id) {rows pageRows : List VisitorChange}
    (h : Paged eventId start n P rows pageRows w) :
    (requestLogic eventId start n P).Holds 0 (fun _ w => Paged eventId start n P rows pageRows w)
      (readRegistrations eventId ids) w := by
  unfold readRegistrations
  split
  · exact holds_other (fun _ => rfl) (fun _ _ => Paged.between) h
  · exact Logic.holds_ret fun v hv _ => h.between (hv rfl)

/-- What holds of the device when it has a reply: the cursor has passed what it covers. -/
def Replied (eventId : Id) (start : Nat) (P : VisitorChange → Prop) (reply : ChangesReply)
    (w : World) : Prop :=
  ∃ m, reply.nextCursor = toString m ∧
    Passed eventId start m (fun c => P c ∨ (Answer.mk reply w.read w.asOf).Covers c) w.db.journal ∧
    (reply.hasMore = false → ∀ c ∈ w.asOf, c.eventId = eventId → c.id ≤ m)

theorem Replied.between {reply : ChangesReply} {w w' : World}
    (h : Replied eventId start P reply w) (hb : Between w w') :
    Replied eventId start P reply w' := by
  obtain ⟨m, hm, hpassed, hlatest⟩ := h
  refine ⟨m, hm, ?_, ?_⟩
  · rw [hb.read, hb.asOf]
    exact hpassed.later hb.journal
  · rw [hb.asOf]
    exact hlatest

theorem exists_of_mapM {γ δ : Type} {f : γ → Except Exn δ} {l : List γ} {items : List δ}
    (h : l.mapM f = .ok items) {x : γ} (hx : x ∈ l) : ∃ y ∈ items, f x = .ok y := by
  induction l generalizing items with
  | nil => cases hx
  | cons a rest ih =>
      rw [List.mapM_cons] at h
      cases ha : f a with
      | error e =>
          rw [ha] at h
          cases h
      | ok b =>
          cases hrest : rest.mapM f with
          | error e =>
              rw [ha, hrest] at h
              cases h
          | ok items' =>
              rw [ha, hrest] at h
              cases h
              rcases List.mem_cons.mp hx with rfl | hx
              · exact ⟨b, List.mem_cons_self, ha⟩
              · obtain ⟨y, hy, hfy⟩ := ih hrest hx
                exact ⟨y, List.mem_cons_of_mem _ hy, hfy⟩

/-- The entries of a reply cover the rows of its page. -/
theorem covers_of_page {rows : List VisitorChange} (hrows : rows.Pairwise fun a b => a.id ≤ b.id)
    {registrations : List VisitorRow} {items : List ChangeItem}
    (h : (effectiveRows rows).mapM (changeItem rt registrations) = .ok items) {c : VisitorChange}
    (hc : c ∈ rows) : ∃ item ∈ items, item.registrationId = c.registrationId ∧
      ∃ m, item.cursor = toString m ∧ c.id ≤ m := by
  obtain ⟨d, hd, hreg, hle⟩ := exists_effectiveRow hrows hc
  obtain ⟨item, hitem, hok⟩ := exists_of_mapM h hd
  obtain ⟨hcursor, -, hid⟩ := changeItem_eq_ok hok
  exact ⟨item, hitem, hid.trans hreg, d.id, hcursor, hle⟩

theorem pairwise_changesAfter {db : VisitorDb} {limit : Nat} :
    (db.changesAfter eventId n limit).Pairwise fun a b => a.id ≤ b.id :=
  pairwise_sortedAfter.sublist (List.take_sublist _ _)

theorem holds_findChangesForStaff (countFirst : Bool) {query : StaffVisitorChangesQueryDto}
    (hafter : parseVisitorChangeCursor query.after = .ok n)
    (hi : (requestLogic eventId start n P).inv w) :
    (requestLogic eventId start n P).Holds 0
      (fun r w => ∀ reply, r = .ok reply → Replied eventId start P reply w)
      (findChangesForStaff rt eventId countFirst query) w := by
  unfold findChangesForStaff
  simp only [hafter, Prog.ofExcept_ok, Prog.bind_eq, Prog.bind_ret]
  refine Logic.holds_bind hi (holds_changes _) ?_ fun e w₁ _ _ reply hr => by cases hr
  intro rows w₁ hi₁ hrows
  obtain ⟨db, rfl, hpaged⟩ := hrows rows rfl
  simp only [decide_eq_true_eq, pageRows_eq]
  refine Logic.holds_bind hi₁ (holds_readRegistrations _ hpaged) ?_
    fun e w₂ _ _ reply hr => by cases hr
  intro registrations w₂ hi₂ h₂
  refine Logic.holds_bind hi₂ (holds_readLatest countFirst hi₂ h₂) ?_
    fun e w₃ _ _ reply hr => by cases hr
  rintro ⟨latest, visitorsCount⟩ w₃ hi₃ hread
  obtain ⟨h₃, hlatest⟩ := hread _ rfl
  cases hitems : (effectiveRows (db.changesAfter eventId n (pageLimit query.limit))).mapM
      (changeItem rt registrations) with
  | error e => exact fun v _ _ reply hr => by cases hr
  | ok items =>
      refine Logic.holds_ret fun v hv _ reply hr => ?_
      cases hr
      refine Replied.between (w := w₃) ⟨_, rfl, h₃.passed.mono ?_, ?_⟩ (hv rfl)
      · rintro c (hc | hc)
        · exact .inl hc
        · refine .inr ⟨?_, covers_of_page pairwise_changesAfter hitems hc⟩
          rw [h₃.read]
          exact List.mem_of_mem_take (take_changesAfter db eventId n _ ▸ hc)
      · intro hmore c hc he
        have hreached := (Bool.or_eq_false_iff.mp hmore).2
        exact (hlatest c hc he).trans (Nat.not_lt.mp (of_decide_eq_false hreached))

end Request

/-! ## Every interleaving -/

section Runs

variable {rt : Runtime} {eventId : Id} {start : Nat} {s s' : State}

/-- The invariant: the cursor of the device has passed only what its replies cover, its last
reply is about what it saw, and so will be the one of the request in progress. -/
structure Synced (eventId : Id) (start n : Nat) (s : State) : Prop where
  cursor : parseVisitorChangeCursor s.after = .ok n
  passed : Passed eventId start n s.Covered s.world.db.journal
  last : ∀ a, s.answers.getLast? = some a → a.reply.hasMore = false →
    ∀ c ∈ a.asOf, c.eventId = eventId → c.id ≤ n
  running : ∀ p, s.running = some p → (requestLogic eventId start n s.Covered).Holds 0
    (fun r w => ∀ reply, r = .ok reply → Replied eventId start s.Covered reply w) p s.world

theorem synced_init {after : Option String} (h : parseVisitorChangeCursor after = .ok start)
    (db : VisitorDb) : Synced eventId start start (State.init db after) where
  cursor := h
  passed := passed_start _ _
  last _ ha := by cases ha
  running _ hp := by cases hp

variable {n : Nat}

theorem Synced.database (h : Synced eventId start n s) (act : DbAct) :
    Synced eventId start n { s with world := { s.world with db := s.world.db.act act } } where
  cursor := h.cursor
  passed := h.passed.later (later_act _ act)
  last := h.last
  running p hp := (h.running p hp).stable fun _ => between_act _ act

theorem Synced.request (h : Synced eventId start n s) (countFirst : Bool) (limit : Int) :
    Synced eventId start n { s with
      running := some (findChangesForStaff rt eventId countFirst { after := s.after, limit }) } where
  cursor := h.cursor
  passed := h.passed
  last := h.last
  running p hp := by
    cases hp
    exact holds_findChangesForStaff countFirst h.cursor h.passed

/-- A query of the device that is answered as the system allows it. -/
theorem Synced.query (h : Synced eventId start n s) {c : VisitorCall}
    {k : Except Exn (VisitorResp c) → VisitorSvc ChangesReply} (hrun : s.running = some (.ask c k))
    {r : Except Exn (VisitorResp c)} {w : World}
    (ha : (requestSystem eventId).answers 0 c s.world r w) :
    Synced eventId start n { s with world := w, running := some (k r) } := by
  obtain ⟨hi, hk⟩ := h.running _ hrun s.world (fun _ => .refl _) h.passed r w ha
  refine ⟨h.cursor, hi, h.last, fun p hp => ?_⟩
  cases hp
  exact hk

/-- A reply moves the cursor past what it covers. -/
theorem Synced.finish (h : Synced eventId start n s) {reply : ChangesReply}
    (hrun : s.running = some (.ret reply)) : ∃ m, Synced eventId start m { s with
      after := some reply.nextCursor
      answers := s.answers ++ [⟨reply, s.world.read, s.world.asOf⟩]
      running := none } := by
  obtain ⟨m, hm, hpassed, hlatest⟩ :=
    h.running _ hrun s.world (fun _ => .refl _) h.passed reply rfl
  refine ⟨m, ?_, hpassed.mono ?_, ?_, fun p hp => by cases hp⟩
  · show parseVisitorChangeCursor (some reply.nextCursor) = .ok m
    rw [hm, parse_toString]
  · rintro c (⟨a, ha, hc⟩ | hc)
    · exact ⟨a, List.mem_append_left _ ha, hc⟩
    · exact ⟨_, List.mem_append_right _ (List.mem_singleton.mpr rfl), hc⟩
  · intro a ha hmore
    rw [List.getLast?_concat] at ha
    cases ha
    exact hlatest hmore

/-- What one step preserves. -/
theorem Synced.step (h : Synced eventId start n s) {a : Action} (hin : InOrder s a)
    (hs : step rt eventId s a = some s') : ∃ m, Synced eventId start m s' := by
  cases a with
  | database act =>
      cases hs
      exact ⟨n, h.database act⟩
  | request countFirst limit =>
      simp only [Delta.step] at hs
      split at hs
      · cases hs
        exact ⟨n, h.request countFirst limit⟩
      · cases hs
  | query =>
      simp only [Delta.step] at hs
      split at hs
      · next c k hrun =>
          cases hs
          refine ⟨n, h.query hrun ⟨rfl, .inr ⟨rfl, rfl, ?_⟩⟩⟩
          rintro after take rfl
          exact hin (eventId, after, take) (by rw [nextPage, hrun]; rfl)
      · cases hs
  | queryFails =>
      simp only [Delta.step] at hs
      split at hs
      · next c k hrun =>
          cases hs
          exact ⟨n, h.query hrun ⟨rfl, .inl ⟨rfl, rfl⟩⟩⟩
      · cases hs
  | finish =>
      simp only [Delta.step] at hs
      split at hs
      · next reply hrun =>
          cases hs
          exact h.finish hrun
      · cases hs
        exact ⟨n, h.cursor, h.passed, h.last, fun p hp => by cases hp⟩
      · cases hs

/-- What a whole run preserves. -/
theorem synced_of_reach (h : Synced eventId start n s)
    (hr : Reach rt eventId InOrder s s') : ∃ m, Synced eventId start m s' := by
  induction hr with
  | refl => exact ⟨n, h⟩
  | tail _ hstep ih =>
      obtain ⟨m, hm⟩ := ih
      obtain ⟨a, hin, hs⟩ := hstep
      exact hm.step hin hs

end Runs

end Delta

open Delta VisitorsService in
/-- In every run in which no page overtakes a pending row, a device that has caught up has
seen every committed row of its event after the cursor it began with. -/
theorem delta_misses_nothing {rt : Runtime} {eventId : Id} {start : Nat} {after : Option String}
    (hstart : parseVisitorChangeCursor after = .ok start) {db : VisitorDb} {s : State}
    (hr : Reach rt eventId InOrder (State.init db after) s) : MissesNothing eventId start s := by
  obtain ⟨n, hn⟩ := synced_of_reach (synced_init hstart db) hr
  rintro ⟨a, ha, hmore, hasOf⟩ c hc he hs
  exact hn.passed.seen c hc he hs (hn.last a ha hmore c (hasOf ▸ hc) he)

namespace Delta

/-! ## Runs of two writers -/

/-- The state after a list of steps that meet a decidable condition. -/
def perform (rt : Runtime) (eventId : Id) (permits : State → Action → Prop)
    [∀ s a, Decidable (permits s a)] : List Action → State → Option State
  | [], s => some s
  | a :: rest, s =>
      if permits s a then (step rt eventId s a).bind (perform rt eventId permits rest) else none

theorem reach_of_perform {rt : Runtime} {eventId : Id} {permits : State → Action → Prop}
    [∀ s a, Decidable (permits s a)] {actions : List Action} {s s' : State}
    (h : perform rt eventId permits actions s = some s') : Reach rt eventId permits s s' := by
  induction actions generalizing s with
  | nil =>
      cases h
      exact .refl
  | cons a rest ih =>
      simp only [perform] at h
      split at h
      · next hpermits =>
          obtain ⟨s₁, hstep, hrest⟩ := Option.bind_eq_some_iff.mp h
          exact (ih hrest).head ⟨a, hpermits, hstep⟩
      · cases h

/-- A script that ends in a state with a decidable property reaches such a state. -/
theorem exists_reach_of_perform (rt : Runtime) (eventId : Id) (permits : State → Action → Prop)
    [∀ s a, Decidable (permits s a)] (actions : List Action) (s : State) (P : State → Bool)
    (h : (perform rt eventId permits actions s).any P = true) :
    ∃ s', Reach rt eventId permits s s' ∧ P s' = true := by
  cases hp : perform rt eventId permits actions s with
  | none => simp [hp] at h
  | some s' => exact ⟨s', reach_of_perform hp, by simpa [hp] using h⟩

instance (s : State) : (a : Action) → Decidable (InOrder s a)
  | .query => inferInstanceAs
      (Decidable (∀ page ∈ nextPage s, ¬ Overtakes s.world.db page.1 page.2.1 (page.2.2 - 1)))
  | .database _ | .request _ _ | .queryFails | .finish => .isTrue trivial

def emptyDb : VisitorDb where
  journal := {
    committed := []
    opens := []
    nextId := 1
    distinct := by simp
    bounded := by simp }
  rows := { registrations := [], qrTokens := [], attendeeTypes := [] }

/-- A registration of the event. -/
def sampleRegistration (id : Id) : VisitorRegistration where
  id
  publicId := id
  eventId := "event"
  attendeeTypeId := "type"
  fullName := "Visitor"

/-- Two transactions that insert a registration each, in the order of their starts. -/
def twoWriters : List Action :=
  [.database .begin, .database .begin,
    .database (.write 0 (.insertRegistration (sampleRegistration "first")) 5),
    .database (.write 1 (.insertRegistration (sampleRegistration "second")) 5)]

/-- A request with a number of queries. -/
def request (queries : Nat) : List Action :=
  [.request false 500] ++ List.replicate queries .query ++ [.finish]

/-- A device without a cursor, before the two writers. -/
def firstSync : State := State.init emptyDb none

/-- The device has caught up with two committed rows, and no transaction is open. -/
def caughtUpWithTwo (s : State) : Bool :=
  s.world.db.journal.opens.length = 0 && s.world.db.journal.committed.length = 2 &&
    s.answers.getLast?.any fun a => !a.reply.hasMore && a.asOf = s.world.db.journal.committed

theorem caughtUp_of_two {s : State} (h : caughtUpWithTwo s = true) :
    s.world.db.journal.opens = [] ∧ s.world.db.journal.committed.length = 2 ∧ s.CaughtUp := by
  simp only [caughtUpWithTwo, Bool.and_eq_true, decide_eq_true_eq, Option.any_eq_true,
    Bool.not_eq_true'] at h
  obtain ⟨⟨hopens, hlen⟩, a, ha, hmore, hasOf⟩ := h
  exact ⟨List.eq_nil_of_length_eq_zero hopens, hlen, a, ha, hmore, hasOf⟩

end Delta

open Delta in
/-- The two writers commit in the order of their ids, and the device sees both rows. -/
theorem both_writers_are_seen : ∃ s : State,
    s.CaughtUp ∧ s.world.db.journal.committed.length = 2 ∧ MissesNothing "event" 0 s := by
  obtain ⟨s, hr, htwo⟩ := exists_reach_of_perform sampleRuntime "event" InOrder
    (twoWriters ++ [.database (.commit 0), .database (.commit 0)] ++ request 4) firstSync
    caughtUpWithTwo (by decide +kernel)
  obtain ⟨-, hlen, hcaught⟩ := caughtUp_of_two htwo
  exact ⟨s, hcaught, hlen, delta_misses_nothing (by decide +kernel) hr⟩

open Delta VisitorsService in
/-- The second writer commits first, the device reads its row and moves past the id of the
other one, which it never sees. -/
theorem first_writer_is_missed :
    ¬ ∀ (rt : Runtime) (eventId : Id) (start : Nat) (after : Option String) (db : VisitorDb)
      (s : State), parseVisitorChangeCursor after = .ok start →
      Reach rt eventId (fun _ _ => True) (State.init db after) s →
      s.world.db.journal.opens = [] → MissesNothing eventId start s := by
  intro h
  obtain ⟨s, hr, hmissed⟩ := exists_reach_of_perform sampleRuntime "event" (fun _ _ => True)
    (twoWriters ++ [.database (.commit 1)] ++ request 4 ++ [.database (.commit 0)] ++ request 3)
    firstSync (fun s => caughtUpWithTwo s &&
      s.world.db.journal.committed.any fun c => c.eventId = "event" && decide (0 < c.id) &&
        s.answers.all fun a => decide (c ∉ a.read)) (by decide +kernel)
  rw [Bool.and_eq_true, List.any_eq_true] at hmissed
  obtain ⟨htwo, c, hc, hrow⟩ := hmissed
  simp only [Bool.and_eq_true, decide_eq_true_eq, List.all_eq_true] at hrow
  obtain ⟨⟨hevent, hid⟩, hunread⟩ := hrow
  obtain ⟨hopens, -, hcaught⟩ := caughtUp_of_two htwo
  obtain ⟨a, ha, hread, -⟩ := h sampleRuntime "event" 0 none emptyDb s (by decide +kernel)
    hr hopens hcaught c hc hevent hid
  exact hunread a ha hread

end CreativeBackend
