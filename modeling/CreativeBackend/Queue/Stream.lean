import CreativeBackend.Interaction.Interference
import CreativeBackend.Queue.Redis
import CreativeBackend.Scans.Service

/-!
# The scan stream

Calls of `enqueueRawScan`, cycles of `flushOnce` and restarts of the process follow one
another in any order, and every command of Redis and every statement may fail without effect.
Where no XADD fails and every entry can be inserted, an accepted scan is in the stream, and
enough cycles without a failure give every entry its row.

## Implementation notes

A process that stops between two commands leaves what the commands before left, so a restart
within a call is a call whose later commands fail, followed by a restart.
-/

namespace CreativeBackend

open Relational Interaction

/-- The calls that may fail without effect. -/
def QueueCall.faulty : QueueCall → Prop
  | .base c => c.faulty
  | .connect | .setNx _ _ | .xadd _ | .xread _ _ | .createManyRawScans _ | .updateProgress _
  | .jobCompleted _ | .jobFailed _ => True
  | .beginFlush | .lastId | .advance _ | .endFlush => False

namespace Stream

open RedisService RedisScanFlusherService

/-- Redis and the database, without other parties. -/
def service (rt : Runtime) (strict : Bool) : Service QueueResp Exn QueueStore where
  Choice := Choice
  machine := queueMachine rt strict
  faulty := QueueCall.faulty
  env _ _ := False
  starts _ _ _ := False

variable {rt : Runtime} {strict : Bool} {config : RedisConfig} {s s' : QueueStore}

/-! ## The bulk insertion -/

section Insertion

variable {b b' : Store}

/-- Rows were inserted: the references are as before, and no row is lost. -/
structure Inserted (b b' : Store) : Prop where
  refers : b'.refersAll = b.refersAll
  clock : b'.clock = b.clock
  kept : ∀ a ∈ b.rawScans.rows, a ∈ b'.rawScans.rows

theorem Inserted.refl (b : Store) : Inserted b b := ⟨rfl, rfl, fun _ ha => ha⟩

theorem Inserted.trans {b'' : Store} (h : Inserted b b') (h' : Inserted b' b'') :
    Inserted b b'' :=
  ⟨h'.refers.trans h.refers, h'.clock.trans h.clock, fun a ha => h'.kept a (h.kept a ha)⟩

/-- Some raw scan has the operation id. -/
def Stored (b : Store) (operationId : String) : Prop :=
  ∃ a ∈ b.rawScans.rows, a.operationId = operationId

theorem stored_iff {operationId : String} :
    b.hasRawScan operationId = true ↔ Stored b operationId := by
  simp [Store.hasRawScan, Stored]

theorem Stored.inserted {operationId : String} (h : Stored b operationId) (hi : Inserted b b') :
    Stored b' operationId := by
  obtain ⟨a, ha, hop⟩ := h
  exact ⟨a, hi.kept a ha, hop⟩

theorem insertRawScan_cases {a : ScanEventRaw} (h : b.insertRawScan strict a = some b') :
    Inserted b b' ∧ (b.refersAll a = true → Stored b' a.operationId) := by
  unfold Store.insertRawScan at h
  split at h
  · next hhas =>
      cases h
      exact ⟨.refl b, fun _ => stored_iff.mp hhas⟩
  · next hnew =>
      split at h
      · cases h
        -- The operation id is the only unique index of a raw scan.
        have hcreate : ∃ t, b.rawScans.create a = some (withKey (fresh b.rawScans.serial) a, t) := by
          refine Table.exists_create fun x hx => ?_
          have hne : x.operationId ≠ a.operationId := fun hop => hnew (stored_iff.mpr ⟨x, hx, hop⟩)
          constructor
          · simpa [clash, withKey] using Ne.symm hne
          · simpa [clash, withKey] using hne
        obtain ⟨t, hcreate⟩ := hcreate
        rw [hcreate]
        have hkept : ∀ x ∈ b.rawScans.rows, x ∈ t.rows := fun x hx =>
          (Table.mem_create hcreate).mpr (.inl hx)
        exact ⟨⟨rfl, rfl, hkept⟩, fun _ => ⟨_, (Table.mem_create hcreate).mpr (.inr rfl), rfl⟩⟩
      · next hrefers =>
          split at h
          · cases h
          · cases h
            exact ⟨.refl b, fun hr => absurd hr hrefers⟩

theorem insertRawScans_cases {rows : List ScanEventRaw}
    (h : Store.insertRawScans strict b rows = some b') :
    Inserted b b' ∧ ∀ a ∈ rows, b.refersAll a = true → Stored b' a.operationId := by
  induction rows generalizing b with
  | nil =>
      cases h
      exact ⟨.refl _, by simp⟩
  | cons a rest ih =>
      obtain ⟨b₁, hfirst, hrest⟩ := Option.bind_eq_some_iff.mp h
      obtain ⟨hi, ha⟩ := insertRawScan_cases hfirst
      obtain ⟨hi', hlater⟩ := ih hrest
      refine ⟨hi.trans hi', fun x hx hr => ?_⟩
      rcases List.mem_cons.mp hx with rfl | hx
      · exact (ha hr).inserted hi'
      · exact hlater x hx (hi.refers ▸ hr)

/-- Rows whose references exist are not rejected. -/
theorem exists_insertRawScans {rows : List ScanEventRaw}
    (h : ∀ a ∈ rows, strict = true → b.refersAll a = true) :
    ∃ b', Store.insertRawScans strict b rows = some b' := by
  induction rows generalizing b with
  | nil => exact ⟨b, rfl⟩
  | cons a rest ih =>
      have hfirst : ∃ b₁, b.insertRawScan strict a = some b₁ := by
        unfold Store.insertRawScan
        split
        · exact ⟨_, rfl⟩
        · split
          · exact ⟨_, rfl⟩
          · next hrefers =>
              rw [if_neg fun hs => hrefers (h a List.mem_cons_self hs)]
              exact ⟨_, rfl⟩
      obtain ⟨b₁, hfirst⟩ := hfirst
      have hi := (insertRawScan_cases hfirst).1
      obtain ⟨b', hrest⟩ := ih (b := b₁) fun x hx => hi.refers ▸ h x (List.mem_cons_of_mem _ hx)
      exact ⟨b', by rw [Store.insertRawScans, hfirst]; exact hrest⟩

end Insertion

/-! ## Entries -/

/-- The operation of an entry. -/
def operationOf (e : StreamEntry) : Option String :=
  ((fieldsToRecord e.fields []).lookup "operationId").join

/-- The entry converts to a row that can be inserted by itself. -/
def Insertable (rt : Runtime) (b : Store) (e : StreamEntry) : Prop :=
  ∃ data row, toScanEventRawCreateMany rt e = .ok data ∧ data.row? = some row ∧
    b.refersAll row = true

/-- The entry converts to a row that its statement does not reject. -/
def Acceptable (rt : Runtime) (strict : Bool) (b : Store) (e : StreamEntry) : Prop :=
  ∃ data row, toScanEventRawCreateMany rt e = .ok data ∧ data.row? = some row ∧
    (strict = true → b.refersAll row = true)

/-- The stream has an entry of the operation. -/
def InStream (r : Redis) (operationId : String) : Prop :=
  ∃ e ∈ r.stream, operationOf e = some operationId

theorem operationOf_scanFields (id : Nat) (dto : CreateScanDto) (now : Time) :
    operationOf ⟨id, scanFields rt dto now⟩ = some dto.operationId := by
  rfl

theorem operationId_of_convert {e : StreamEntry} {data : RawScanData}
    (h : toScanEventRawCreateMany rt e = .ok data) : data.operationId = operationOf e := by
  simp only [toScanEventRawCreateMany, bind, Except.bind] at h
  split at h
  · cases h
  · cases h
    rfl

/-- A batch of acceptable entries converts to rows that no statement rejects. -/
theorem exists_rows {b : Store} {entries : List StreamEntry}
    (h : ∀ e ∈ entries, Acceptable rt strict b e) : ∃ data rows,
      entries.mapM (toScanEventRawCreateMany rt) = .ok data ∧
      data.mapM RawScanData.row? = some rows ∧ ∀ a ∈ rows, strict = true → b.refersAll a = true := by
  induction entries with
  | nil => exact ⟨[], [], rfl, rfl, by simp⟩
  | cons e rest ih =>
      obtain ⟨d, row, hconvert, hrow, hrefers⟩ := h e List.mem_cons_self
      obtain ⟨data, rows, hdata, hrows, hall⟩ := ih fun x hx => h x (List.mem_cons_of_mem _ hx)
      refine ⟨d :: data, row :: rows, ?_, ?_, ?_⟩
      · rw [List.mapM_cons, hconvert, hdata]
        rfl
      · rw [List.mapM_cons, hrow, hrows]
        rfl
      · intro a ha
        rcases List.mem_cons.mp ha with rfl | ha
        · exact hrefers
        · exact hall a ha

/-- An insertable entry of a converted batch has its row among the rows. -/
theorem Insertable.mem_rows {b : Store} {e : StreamEntry} {entries : List StreamEntry}
    {data : List RawScanData} {rows : List ScanEventRaw} (he : Insertable rt b e)
    (hmem : e ∈ entries) (hdata : entries.mapM (toScanEventRawCreateMany rt) = .ok data)
    (hrows : data.mapM RawScanData.row? = some rows) :
    ∃ a ∈ rows, operationOf e = some a.operationId ∧ b.refersAll a = true := by
  obtain ⟨d, row, hconvert, hrow, hrefers⟩ := he
  have hop : operationOf e = some row.operationId := by
    rw [← operationId_of_convert hconvert, RawScanData.operationId_of_row? hrow]
  induction entries generalizing data rows with
  | nil => cases hmem
  | cons x rest ih =>
      rw [List.mapM_cons] at hdata
      cases hx : toScanEventRawCreateMany rt x with
      | error _ =>
          rw [hx] at hdata
          cases hdata
      | ok d' =>
          rw [hx] at hdata
          cases hlater : rest.mapM (toScanEventRawCreateMany rt) with
          | error _ =>
              rw [hlater] at hdata
              cases hdata
          | ok later =>
              rw [hlater] at hdata
              cases hdata
              rw [List.mapM_cons] at hrows
              obtain ⟨row', hrow', hrows⟩ := Option.bind_eq_some_iff.mp hrows
              obtain ⟨rows', hrows', hrows⟩ := Option.bind_eq_some_iff.mp hrows
              cases hrows
              rcases List.mem_cons.mp hmem with rfl | hmem
              · rw [hconvert] at hx
                cases hx
                rw [hrow] at hrow'
                cases hrow'
                exact ⟨row, List.mem_cons_self, hop, hrefers⟩
              · obtain ⟨a, ha, hfound⟩ := ih hmem hlater hrows'
                exact ⟨a, List.mem_cons_of_mem _ ha, hfound⟩

/-! ## The effect of a call -/

section Effects

variable {α : Type} {turns : List (Turn QueueResp Exn QueueStore)}

/-- A program among nothing else. -/
abbrev Runs (rt : Runtime) (strict : Bool) (p : QueueSvc α) (s : QueueStore)
    (turns : List (Turn QueueResp Exn QueueStore)) (x : Except Exn α) (s' : QueueStore) : Prop :=
  (service rt strict).Runs Eq p s turns x s'

/-- What a command answers and does: it fails and changes nothing, or is answered. -/
theorem runs_call {c : QueueCall} {x : Except Exn (QueueResp c)}
    (h : Runs rt strict (queueCall c) s turns x s') :
    turns = [⟨c, x, s⟩] ∧ ((∃ ch, queueMachine rt strict ch c s = (x, s')) ∨
      c.faulty ∧ s' = s ∧ ∃ e, x = .error e) := by
  obtain ⟨s₁, s₂, rfl, ho, rfl, rfl⟩ := Service.Runs.of_call h
  exact ⟨rfl, ho⟩

/-- The command is an XADD that failed. -/
def failedXadd : Turn QueueResp Exn QueueStore → Prop
  | ⟨.xadd _, .error _, _⟩ => True
  | _ => False

theorem exists_failedXadd {earlier : List (Turn QueueResp Exn QueueStore)} {fields : List String}
    {e : Exn} : ∃ turn ∈ earlier ++ [⟨.xadd fields, .error e, s⟩], failedXadd turn :=
  ⟨_, List.mem_append_right _ List.mem_cons_self, trivial⟩

theorem runs_ret {a : α} {x : Except Exn α} (h : Runs rt strict (.ret a) s turns x s') :
    x = .ok a ∧ s' = s ∧ turns = [] := by
  cases h with
  | ret h => exact ⟨rfl, h.symm, rfl⟩

theorem runs_throw {e : Exn} {x : Except Exn α}
    (h : Runs rt strict (.throw e : QueueSvc α) s turns x s') :
    x = .error e ∧ s' = s ∧ turns = [] := by
  cases h with
  | throw h => exact ⟨rfl, h.symm, rfl⟩

theorem runs_bind {β : Type} {p : QueueSvc α} {f : α → QueueSvc β} {x : Except Exn β}
    (h : Runs rt strict (p.bind f) s turns x s') :
    (∃ a s₁ first second, Runs rt strict p s first (.ok a) s₁ ∧
        Runs rt strict (f a) s₁ second x s' ∧ turns = first ++ second) ∨
      ∃ e, Runs rt strict p s turns (.error e) s' ∧ x = .error e :=
  Service.Runs.of_bind (fun _ => rfl) h

/-- The store after an entry was added under a fresh dedupe key. -/
def enqueued (rt : Runtime) (dto : CreateScanDto) (s : QueueStore) : QueueStore :=
  { s with redis := { s.redis with
      keys := (operationKey dto.operationId, s.base.clock + 1000 * (86400 : Nat)) :: s.redis.keys
      stream := s.redis.stream ++
        [⟨s.redis.lastStreamId + 1, scanFields rt dto s.base.clock⟩]
      lastStreamId := s.redis.lastStreamId + 1 } }

/-- What a call of `enqueueRawScan` does: nothing, or its XADD fails, or it adds an entry.
It answers normally where the dedupe key is there, or the entry was added. -/
structure Enqueues (rt : Runtime) (dto : CreateScanDto) (s : QueueStore)
    (turns : List (Turn QueueResp Exn QueueStore)) (x : Except Exn EnqueueReply)
    (s' : QueueStore) : Prop where
  store : s' = s ∨ (∃ turn ∈ turns, failedXadd turn) ∨
    s.redis.isSet s.base.clock (operationKey dto.operationId) = false ∧ s' = enqueued rt dto s
  answered : ∀ reply, x = .ok reply →
    s.redis.isSet s.base.clock (operationKey dto.operationId) = true ∨ s' = enqueued rt dto s

theorem runs_ensureConnected {connected : Bool} {x : Except Exn Unit}
    (h : Runs rt strict (ensureConnected connected) s turns x s') : s' = s := by
  unfold ensureConnected at h
  split at h
  · exact (runs_ret h).2.1
  · obtain ⟨-, ⟨ch, hm⟩ | ⟨-, hs, -⟩⟩ := runs_call h
    · exact (congrArg Prod.snd hm).symm
    · exact hs

theorem runs_tryEnqueue {connected : Bool} {dto : CreateScanDto} {x : Except Exn EnqueueReply}
    (h : Runs rt strict (tryEnqueue rt connected dto) s turns x s') :
    Enqueues rt dto s turns x s' := by
  have hnothing : ∀ {turns e}, Enqueues rt dto s turns (.error e) s :=
    ⟨.inl rfl, fun reply hr => by cases hr⟩
  rcases runs_bind h with ⟨_, s₁, first, second, hconnect, hrest, rfl⟩ | ⟨e, hconnect, rfl⟩
  case inr =>
    rw [runs_ensureConnected hconnect]
    exact hnothing
  obtain rfl := runs_ensureConnected hconnect
  rcases runs_bind hrest with ⟨created, s₂, third, fourth, hset, hadd, rfl⟩ | ⟨e, hset, rfl⟩
  case inr =>
    obtain ⟨-, ⟨ch, hm⟩ | ⟨-, rfl, -⟩⟩ := runs_call hset
    · simp only [queueMachine] at hm
      split at hm <;> cases hm
    · exact hnothing
  obtain ⟨-, ⟨ch, hm⟩ | ⟨-, -, e, he⟩⟩ := runs_call hset
  case inr => cases he
  simp only [queueMachine] at hm
  split at hm
  · next hkey =>
      cases hm
      obtain ⟨rfl, rfl, rfl⟩ := runs_ret hadd
      exact ⟨.inl rfl, fun _ _ => .inl hkey⟩
  next hkey =>
    cases hm
    rcases runs_bind hadd with ⟨now, s₃, fifth, sixth, hnow, hadd, rfl⟩ | ⟨e, hnow, -⟩
    case inr =>
      obtain ⟨-, ⟨ch, hm⟩ | ⟨hfaulty, -⟩⟩ := runs_call hnow
      · cases hm
      · exact hfaulty.elim
    obtain ⟨-, ⟨ch, hm⟩ | ⟨hfaulty, -⟩⟩ := runs_call hnow
    case inr => exact hfaulty.elim
    cases hm
    rcases runs_bind hadd with ⟨_, s₄, seventh, eighth, hxadd, hret, rfl⟩ | ⟨e, hxadd, rfl⟩
    · obtain ⟨-, ⟨ch, hm⟩ | ⟨-, -, e, he⟩⟩ := runs_call hxadd
      · cases hm
        obtain ⟨rfl, rfl, rfl⟩ := runs_ret hret
        exact ⟨.inr (.inr ⟨Bool.eq_false_iff.mpr hkey, rfl⟩), fun _ _ => .inr rfl⟩
      · cases he
    · obtain ⟨rfl, -⟩ := runs_call hxadd
      rw [← List.append_assoc, ← List.append_assoc]
      exact ⟨.inr (.inl exists_failedXadd), fun reply hr => by cases hr⟩

theorem runs_enqueueRawScan {connected : Bool} {dto : CreateScanDto}
    {x : Except Exn EnqueueReply}
    (h : Runs rt strict (enqueueRawScan rt config connected dto) s turns x s') :
    Enqueues rt dto s turns x s' := by
  unfold enqueueRawScan at h
  split at h
  · obtain ⟨rfl, rfl, rfl⟩ := runs_throw h
    exact ⟨.inl rfl, fun reply hr => by cases hr⟩
  · rcases Service.Runs.of_tryCatch (fun _ => rfl) h with
      ⟨reply, rfl, htry⟩ | ⟨e, s₁, first, second, htry, hthrow, rfl⟩
    · exact runs_tryEnqueue htry
    · obtain ⟨rfl, rfl, rfl⟩ := runs_throw hthrow
      obtain ⟨hstore, -⟩ := runs_tryEnqueue htry
      rw [List.append_nil]
      exact ⟨hstore, fun reply hr => by cases hr⟩

/-- A cycle read a batch, stored it and moved on. -/
def StoresBatch (rt : Runtime) (strict : Bool) (config : RedisConfig) (s s' : QueueStore) : Prop :=
  ∃ last data, (s.redis.read config.flushBatchSize s.lastId).getLast? = some last ∧
    (s.redis.read config.flushBatchSize s.lastId).mapM (toScanEventRawCreateMany rt) = .ok data ∧
    s.base.createManyRawScans strict data = (.ok (), s'.base) ∧ s'.lastId = last.id

/-- What a cycle of `flushOnce` does. -/
structure Flushes (rt : Runtime) (strict : Bool) (config : RedisConfig) (s s' : QueueStore) :
    Prop where
  redis : s'.redis = s.redis
  batch : s'.base = s.base ∧ s'.lastId = s.lastId ∨ StoresBatch rt strict config s s'

theorem runs_createMany {data : List RawScanData} {x : Except Exn Unit}
    (h : Runs rt strict (queueCall (.createManyRawScans data)) s turns x s') :
    s' = s ∧ (∃ e, x = .error e) ∨ x = .ok () ∧
      ∃ b, s.base.createManyRawScans strict data = (.ok (), b) ∧ s' = { s with base := b } := by
  obtain ⟨-, ⟨ch, hm⟩ | ⟨-, rfl, he⟩⟩ := runs_call h
  case inr => exact .inl ⟨rfl, he⟩
  simp only [queueMachine, onQueueBase, Store.createManyRawScans] at hm ⊢
  split at hm
  · cases hm
    exact .inl ⟨rfl, _, rfl⟩
  · split at hm
    · cases hm
      exact .inl ⟨rfl, _, rfl⟩
    · cases hm
      exact .inr ⟨rfl, _, rfl, rfl⟩

theorem runs_tryFlush {x : Except Exn Unit} (h : Runs rt strict (tryFlush rt config) s turns x s') :
    Flushes rt strict config s s' ∧ s'.flushing = s.flushing := by
  have hnothing : Flushes rt strict config s s := ⟨rfl, .inl ⟨rfl, rfl⟩⟩
  rcases runs_bind h with ⟨lastId, s₁, first, second, hlast, hrest, rfl⟩ | ⟨e, hlast, -⟩
  case inr =>
    obtain ⟨-, ⟨ch, hm⟩ | ⟨hfaulty, -⟩⟩ := runs_call hlast
    · cases hm
    · exact hfaulty.elim
  obtain ⟨-, ⟨ch, hm⟩ | ⟨hfaulty, -⟩⟩ := runs_call hlast
  case inr => exact hfaulty.elim
  cases hm
  rcases runs_bind hrest with ⟨entries, s₂, third, fourth, hread, hrest, rfl⟩ | ⟨e, hread, -⟩
  case inr =>
    obtain ⟨-, ⟨ch, hm⟩ | ⟨-, rfl, -⟩⟩ := runs_call hread
    · cases hm
    · exact ⟨hnothing, rfl⟩
  obtain ⟨-, ⟨ch, hm⟩ | ⟨-, -, e, he⟩⟩ := runs_call hread
  case inr => cases he
  cases hm
  split at hrest
  · obtain ⟨-, rfl, -⟩ := runs_ret hrest
    exact ⟨hnothing, rfl⟩
  next last hgetLast =>
  rcases runs_bind hrest with ⟨data, s₃, fifth, sixth, hmap, hrest, rfl⟩ | ⟨e, hmap, -⟩
  case inr =>
    obtain ⟨-, rfl, -⟩ := Service.Runs.of_ofExcept hmap
    exact ⟨hnothing, rfl⟩
  obtain ⟨hdata, rfl, -⟩ := Service.Runs.of_ofExcept hmap
  rcases runs_bind hrest with ⟨_, s₄, seventh, eighth, hmany, hrest, rfl⟩ | ⟨e, hmany, -⟩
  case inr =>
    rcases runs_createMany hmany with ⟨rfl, -⟩ | ⟨hok, -⟩
    · exact ⟨hnothing, rfl⟩
    · cases hok
  rcases runs_createMany hmany with ⟨-, e, he⟩ | ⟨-, b, hb, rfl⟩
  · cases he
  obtain ⟨-, ⟨ch, hm⟩ | ⟨hfaulty, -⟩⟩ := runs_call hrest
  case inr => exact hfaulty.elim
  cases hm
  exact ⟨⟨rfl, .inr ⟨last, data, hgetLast, hdata.symm, hb, rfl⟩⟩, rfl⟩

theorem runs_flushOnce {x : Except Exn Unit} (hidle : s.flushing = false)
    (h : Runs rt strict (flushOnce rt config) s turns x s') :
    Flushes rt strict config s s' ∧ s'.flushing = false := by
  rcases runs_bind h with ⟨flushing, s₁, first, second, hbegin, hrest, rfl⟩ | ⟨e, hbegin, -⟩
  case inr =>
    obtain ⟨-, ⟨ch, hm⟩ | ⟨hfaulty, -⟩⟩ := runs_call hbegin
    · cases hm
    · exact hfaulty.elim
  obtain ⟨-, ⟨ch, hm⟩ | ⟨hfaulty, -⟩⟩ := runs_call hbegin
  case inr => exact hfaulty.elim
  cases hm
  rw [hidle] at hrest
  have htried : ∀ {turns y s₂}, Runs rt strict ((tryFlush rt config).tryCatch fun _ => .ret ())
      { s with flushing := true } turns y s₂ → Flushes rt strict config s s₂ ∧ y = .ok () := by
    intro turns y s₂ htry
    rcases Service.Runs.of_tryCatch (fun _ => rfl) htry with
      ⟨a, rfl, ht⟩ | ⟨e, s₃, third, fourth, ht, hret, rfl⟩
    · obtain ⟨⟨hredis, hbatch⟩, -⟩ := runs_tryFlush ht
      exact ⟨⟨hredis, hbatch⟩, rfl⟩
    · obtain ⟨rfl, rfl, -⟩ := runs_ret hret
      obtain ⟨⟨hredis, hbatch⟩, -⟩ := runs_tryFlush ht
      exact ⟨⟨hredis, hbatch⟩, rfl⟩
  rcases runs_bind hrest with ⟨_, s₂, third, fourth, htry, hend, rfl⟩ | ⟨e, htry, -⟩
  case inr =>
    cases (htried htry).2
  obtain ⟨⟨hredis, hbatch⟩, -⟩ := htried htry
  obtain ⟨-, ⟨ch, hm⟩ | ⟨hfaulty, -⟩⟩ := runs_call hend
  case inr => exact hfaulty.elim
  cases hm
  exact ⟨⟨hredis, hbatch⟩, rfl⟩

/-- A cycle without a failure stores its batch. -/
theorem run_flushOnce {ch : Choice} {last : StreamEntry} {data : List RawScanData} {b : Store}
    (hidle : s.flushing = false)
    (hlast : (s.redis.read config.flushBatchSize s.lastId).getLast? = some last)
    (hdata : (s.redis.read config.flushBatchSize s.lastId).mapM (toScanEventRawCreateMany rt) =
      .ok data)
    (hmany : s.base.createManyRawScans strict data = (.ok (), b)) :
    (flushOnce rt config).run (queueMachine rt strict ch) s =
      (.ok (), { s with base := b, lastId := last.id, flushing := false }) := by
  simp [flushOnce, tryFlush, queueCall, Prog.call, Prog.tryCatch, queueMachine, hidle, hlast,
    hdata, hmany, onQueueBase]

/-- A cycle whose batch is rejected changes nothing. -/
theorem run_flushOnce_rejected {ch : Choice} {data : List RawScanData} {e : Exn}
    (hidle : s.flushing = false)
    (hdata : (s.redis.read config.flushBatchSize s.lastId).mapM (toScanEventRawCreateMany rt) =
      .ok data)
    (hmany : s.base.createManyRawScans strict data = (.error e, s.base)) :
    (flushOnce rt config).run (queueMachine rt strict ch) s = (.ok (), s) := by
  cases hlast : (s.redis.read config.flushBatchSize s.lastId).getLast? with
  | none =>
      simp [flushOnce, tryFlush, queueCall, Prog.call, Prog.tryCatch, queueMachine, hidle, hlast]
      rw [← hidle]
  | some last =>
      simp [flushOnce, tryFlush, queueCall, Prog.call, Prog.tryCatch, queueMachine, hidle, hlast,
        hdata, hmany, onQueueBase]
      rw [← hidle]

end Effects

end Stream

end CreativeBackend
