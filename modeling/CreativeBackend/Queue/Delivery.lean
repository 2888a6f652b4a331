import CreativeBackend.Queue.Stream

/-!
# Delivery of accepted scans

An accepted scan whose XADD does not fail is in the stream, and a stream of acceptable entries
is stored, whatever fails in between. One failed XADD, or one entry that no statement accepts,
is enough to lose a scan.

## Implementation notes

The backlog of an entry counts the entries up to it that the flusher has not passed. A cycle
without a failure lowers it, and further entries leave it alone.
-/

namespace CreativeBackend

open Relational Interaction Relation

namespace Stream

open RedisService RedisScanFlusherService

/-! ## Runs -/

/-- Which calls of `enqueueRawScan` a run may have. -/
abbrev Permits := QueueStore → CreateScanDto → List (Turn QueueResp Exn QueueStore) → Prop

/-- One step of the ingest: a call, a cycle, a restart, or time passes. -/
inductive Step (rt : Runtime) (strict : Bool) (permits : Permits) : QueueStore → QueueStore → Prop
  | enqueue {s config connected dto turns x s'}
      (h : Runs rt strict (enqueueRawScan rt config connected dto) s turns x s')
      (hp : permits s dto turns) : Step rt strict permits s s'
  | flush {s config turns x s'} (h : Runs rt strict (flushOnce rt config) s turns x s') :
      Step rt strict permits s s'
  | restart {s} : Step rt strict permits s { s with lastId := 0, flushing := false }
  | elapse {s} (d : Nat) : Step rt strict permits s
      { s with base := { s.base with clock := s.base.clock + d } }

/-- `n` cycles without a failure, with calls and time in between. -/
inductive Cycles (rt : Runtime) (strict : Bool) (config : RedisConfig) (permits : Permits) :
    Nat → QueueStore → QueueStore → Prop
  | none {s} : Cycles rt strict config permits 0 s s
  | flush {n s s'} (ch : Choice) (h : Cycles rt strict config permits n s s') :
      Cycles rt strict config permits (n + 1) s
        ((flushOnce rt config).run (queueMachine rt strict ch) s').2
  | enqueue {n s s' config' connected dto turns x s''}
      (h : Cycles rt strict config permits n s s')
      (hr : Runs rt strict (enqueueRawScan rt config' connected dto) s' turns x s'')
      (hp : permits s' dto turns) : Cycles rt strict config permits n s s''
  | elapse {n s s'} (d : Nat) (h : Cycles rt strict config permits n s s') :
      Cycles rt strict config permits n s
        { s' with base := { s'.base with clock := s'.base.clock + d } }

/-- The entry has exactly one row. -/
def HasOneRow (b : Store) (e : StreamEntry) : Prop :=
  ∃ operationId, operationOf e = some operationId ∧
    ∃! a, a ∈ b.rawScans.rows ∧ a.operationId = operationId

/-- Every accepted scan is in the stream, and enough cycles give every insertable entry
exactly one row. -/
structure Delivers (rt : Runtime) (strict : Bool) (config : RedisConfig) (permits : Permits)
    (s : QueueStore) : Prop where
  accepted : ∀ {config connected dto turns reply s'},
    Runs rt strict (enqueueRawScan rt config connected dto) s turns (.ok reply) s' →
    permits s dto turns → reply.accepted = true → InStream s'.redis dto.operationId
  stored : ∃ enough, ∀ n s', enough ≤ n → Cycles rt strict config permits n s s' →
    ∀ e ∈ s.redis.stream, Insertable rt s.base e → HasOneRow s'.base e

/-- No scan is lost in any run from an empty stream. -/
def NoneLost (rt : Runtime) (strict : Bool) (config : RedisConfig) (permits : Permits) : Prop :=
  ∀ base s, ReflTransGen (Step rt strict permits) { base } s → Delivers rt strict config permits s

variable {rt : Runtime} {strict : Bool} {config : RedisConfig} {s s' : QueueStore}

/-! ## The invariant -/

/-- No XADD of the call fails. -/
def AddsWhole : Permits := fun _ _ turns => ∀ turn ∈ turns, ¬ failedXadd turn

/-- The entry that the call adds is acceptable. -/
def AddsAcceptable (rt : Runtime) (strict : Bool) : Permits := fun s dto _ =>
  s.redis.isSet s.base.clock (operationKey dto.operationId) = false →
    Acceptable rt strict s.base ⟨s.redis.lastStreamId + 1, scanFields rt dto s.base.clock⟩

/-- Both hold of the call. -/
def AddsSoundly (rt : Runtime) (strict : Bool) : Permits := fun s dto turns =>
  AddsWhole s dto turns ∧ AddsAcceptable rt strict s dto turns

/-- The entries are in order, every key has its entry, and what the flusher passed is stored. -/
structure Sound (rt : Runtime) (strict : Bool) (s : QueueStore) : Prop where
  idle : s.flushing = false
  sorted : s.redis.stream.Pairwise fun e e' => e.id < e'.id
  numbered : ∀ e ∈ s.redis.stream, 0 < e.id ∧ e.id ≤ s.redis.lastStreamId
  behind : s.lastId ≤ s.redis.lastStreamId
  keyed : ∀ k ∈ s.redis.keys, ∃ operationId,
    k.1 = operationKey operationId ∧ InStream s.redis operationId
  acceptable : ∀ e ∈ s.redis.stream, Acceptable rt strict s.base e
  stored : ∀ e ∈ s.redis.stream, e.id ≤ s.lastId → Insertable rt s.base e →
    ∃ operationId, operationOf e = some operationId ∧ Stored s.base operationId

theorem sound_initial (base : Store) : Sound rt strict { base } := by
  constructor <;> simp

theorem Acceptable.congr {b b' : Store} {e : StreamEntry} (h : b'.refersAll = b.refersAll) :
    Acceptable rt strict b' e ↔ Acceptable rt strict b e := by
  unfold Acceptable
  rw [h]

theorem Insertable.congr {b b' : Store} {e : StreamEntry} (h : b'.refersAll = b.refersAll) :
    Insertable rt b' e ↔ Insertable rt b e := by
  unfold Insertable
  rw [h]

theorem operationKey_injective : Function.Injective operationKey := by
  intro a b h
  have hlists : ("scan:op:" ++ a).toList = ("scan:op:" ++ b).toList := congrArg String.toList h
  rw [String.toList_append, String.toList_append] at hlists
  exact String.toList_injective (List.append_cancel_left hlists)

theorem inStream_enqueued (dto : CreateScanDto) (s : QueueStore) :
    InStream (enqueued rt dto s).redis dto.operationId :=
  ⟨_, List.mem_append_right _ List.mem_cons_self, operationOf_scanFields _ dto _⟩

/-- A dedupe key that is set stands for an entry. -/
theorem Sound.inStream_of_isSet (h : Sound rt strict s) {operationId : String}
    (hset : s.redis.isSet s.base.clock (operationKey operationId) = true) :
    InStream s.redis operationId := by
  obtain ⟨k, hk, hkey⟩ := List.any_eq_true.mp hset
  obtain ⟨operationId', hk', hin⟩ := h.keyed k hk
  have hsame : operationKey operationId' = operationKey operationId := by
    rw [← hk']
    exact (of_decide_eq_true hkey).1
  rw [← operationKey_injective hsame]
  exact hin

theorem Sound.enqueued {dto : CreateScanDto} (h : Sound rt strict s)
    (ha : Acceptable rt strict s.base
      ⟨s.redis.lastStreamId + 1, scanFields rt dto s.base.clock⟩) :
    Sound rt strict (enqueued rt dto s) := by
  constructor
  case idle => exact h.idle
  case sorted =>
    apply List.pairwise_append.mpr
    refine ⟨h.sorted, List.pairwise_singleton _ _, fun e he e' he' => ?_⟩
    rw [List.mem_singleton.mp he']
    exact Nat.lt_succ_of_le (h.numbered e he).2
  case numbered =>
    intro e he
    rcases List.mem_append.mp he with he | he
    · exact ⟨(h.numbered e he).1, Nat.le_succ_of_le (h.numbered e he).2⟩
    · rw [List.mem_singleton.mp he]
      exact ⟨Nat.succ_pos _, Nat.le_refl _⟩
  case behind => exact Nat.le_succ_of_le h.behind
  case keyed =>
    intro k hk
    rcases List.mem_cons.mp hk with rfl | hk
    · exact ⟨_, rfl, inStream_enqueued dto s⟩
    · obtain ⟨operationId, hk, e, he, hop⟩ := h.keyed k hk
      exact ⟨operationId, hk, e, List.mem_append_left _ he, hop⟩
  case acceptable =>
    intro e he
    rcases List.mem_append.mp he with he | he
    · exact h.acceptable e he
    · rw [List.mem_singleton.mp he]
      exact ha
  case stored =>
    intro e he hpassed hi
    rcases List.mem_append.mp he with he | he
    · exact h.stored e he hpassed hi
    · rw [List.mem_singleton.mp he] at hpassed
      exact absurd (Nat.le_trans hpassed h.behind) (Nat.not_succ_le_self _)

theorem Sound.enqueue {config : RedisConfig} {connected : Bool} {dto : CreateScanDto}
    {turns : List (Turn QueueResp Exn QueueStore)} {x : Except Exn EnqueueReply}
    (h : Sound rt strict s) (hp : AddsSoundly rt strict s dto turns)
    (hr : Runs rt strict (enqueueRawScan rt config connected dto) s turns x s') :
    s' = s ∨ s' = Stream.enqueued rt dto s ∧ Sound rt strict s' := by
  rcases (runs_enqueueRawScan hr).store with rfl | ⟨turn, hturn, hfailed⟩ | ⟨hnew, rfl⟩
  · exact .inl rfl
  · exact absurd hfailed (hp.1 turn hturn)
  · exact .inr ⟨rfl, h.enqueued (hp.2 hnew)⟩

/-! ## Batches -/

theorem mem_later {r : Redis} {count i : Nat} {e : StreamEntry} (he : e ∈ r.read count i) :
    e ∈ r.stream ∧ i < e.id := by
  have hlater : e ∈ r.stream.filter fun e => decide (i < e.id) := by
    unfold Redis.read at he
    split at he
    · exact he
    · exact List.mem_of_mem_take he
  simpa using List.mem_filter.mp hlater

/-- A batch reaches from the position to its last entry without a gap. -/
theorem mem_read_of_le {r : Redis} {count i : Nat} {e last : StreamEntry}
    (hsorted : r.stream.Pairwise fun e e' => e.id < e'.id)
    (hlast : (r.read count i).getLast? = some last) (he : e ∈ r.stream) (hi : i < e.id)
    (hle : e.id ≤ last.id) : e ∈ r.read count i := by
  have hlater : e ∈ r.stream.filter fun e => decide (i < e.id) :=
    List.mem_filter.mpr ⟨he, by simpa using hi⟩
  have hmem : last ∈ r.read count i := List.mem_of_getLast? hlast
  unfold Redis.read at hmem ⊢
  split
  · exact hlater
  · next hcount =>
      rw [if_neg hcount] at hmem
      have hpair := hsorted.filter fun e => decide (i < e.id)
      rw [← List.take_append_drop count (r.stream.filter fun e => decide (i < e.id))] at hlater hpair
      rcases List.mem_append.mp hlater with hin | hout
      · exact hin
      · have hlt := (List.pairwise_append.mp hpair).2.2 last hmem e hout
        exact absurd hlt (Nat.not_lt.mpr hle)

/-- Where an entry is ahead, a batch is not empty. -/
theorem exists_last {r : Redis} {i : Nat} {e : StreamEntry} (count : Nat) (he : e ∈ r.stream)
    (hi : i < e.id) : ∃ last, (r.read count i).getLast? = some last := by
  have hlater : e ∈ r.stream.filter fun e => decide (i < e.id) :=
    List.mem_filter.mpr ⟨he, by simpa using hi⟩
  have hne : r.read count i ≠ [] := by
    unfold Redis.read
    split
    · exact List.ne_nil_of_mem hlater
    · next hcount =>
        intro hnil
        rcases List.take_eq_nil_iff.mp hnil with hzero | hnil
        · exact hcount hzero
        · exact List.ne_nil_of_mem hlater hnil
  exact ⟨_, List.getLast?_eq_some_getLast hne⟩

theorem createMany_cases {b b' : Store} {data : List RawScanData}
    (h : b.createManyRawScans strict data = (.ok (), b')) :
    ∃ rows, data.mapM RawScanData.row? = some rows ∧
      Store.insertRawScans strict b rows = some b' := by
  unfold Store.createManyRawScans at h
  split at h
  · cases h
  · next rows hrows =>
      split at h
      · cases h
      · next hinsert =>
          cases h
          exact ⟨rows, hrows, hinsert⟩

theorem Sound.flushes (h : Sound rt strict s) (hf : Flushes rt strict config s s')
    (hidle : s'.flushing = false) :
    Sound rt strict s' ∧ s'.base.refersAll = s.base.refersAll := by
  obtain ⟨hredis, hbatch⟩ := hf
  have hpassed : s'.base.refersAll = s.base.refersAll ∧ s'.lastId ≤ s.redis.lastStreamId ∧
      ∀ e ∈ s.redis.stream, e.id ≤ s'.lastId → Insertable rt s.base e →
        ∃ operationId, operationOf e = some operationId ∧ Stored s'.base operationId := by
    rcases hbatch with ⟨hbase, hlastId⟩ | ⟨last, data, hlast, hdata, hmany, hlastId⟩
    · rw [hbase, hlastId]
      exact ⟨rfl, h.behind, h.stored⟩
    · obtain ⟨rows, hrows, hinsert⟩ := createMany_cases hmany
      obtain ⟨hi, hstored⟩ := insertRawScans_cases hinsert
      rw [hlastId]
      refine ⟨hi.refers, (h.numbered last (mem_later (List.mem_of_getLast? hlast)).1).2, ?_⟩
      intro e he hle hinsertable
      rcases Nat.lt_or_ge s.lastId e.id with hahead | hbehind
      · have hread := mem_read_of_le h.sorted hlast he hahead hle
        obtain ⟨a, ha, hop, hrefers⟩ := hinsertable.mem_rows hread hdata hrows
        exact ⟨_, hop, hstored a ha hrefers⟩
      · obtain ⟨operationId, hop, hold⟩ := h.stored e he hbehind hinsertable
        exact ⟨operationId, hop, hold.inserted hi⟩
  obtain ⟨hrefers, hbehind, hstored⟩ := hpassed
  refine ⟨?_, hrefers⟩
  constructor
  case idle => exact hidle
  case sorted => exact hredis ▸ h.sorted
  case numbered => exact hredis ▸ h.numbered
  case behind => exact hredis ▸ hbehind
  case keyed => exact hredis ▸ h.keyed
  case acceptable =>
    rw [hredis]
    exact fun e he => (Acceptable.congr hrefers).mpr (h.acceptable e he)
  case stored =>
    rw [hredis]
    exact fun e he hle hi => hstored e he hle ((Insertable.congr hrefers).mp hi)

theorem Flushes.forward (hf : Flushes rt strict config s s') : s.lastId ≤ s'.lastId := by
  rcases hf.batch with ⟨-, hlastId⟩ | ⟨last, data, hlast, -, -, hlastId⟩
  · exact Nat.le_of_eq hlastId.symm
  · rw [hlastId]
    exact Nat.le_of_lt (mem_later (List.mem_of_getLast? hlast)).2

/-- What a run reaches is sound. -/
theorem sound_of_reach {base : Store}
    (hr : ReflTransGen (Step rt strict (AddsSoundly rt strict)) { base } s) :
    Sound rt strict s := by
  induction hr with
  | refl => exact sound_initial base
  | tail _ hs ih =>
      cases hs with
      | enqueue h hp =>
          rcases ih.enqueue hp h with rfl | ⟨-, hsound⟩
          · exact ih
          · exact hsound
      | flush h =>
          obtain ⟨hf, hidle⟩ := runs_flushOnce ih.idle h
          exact (ih.flushes hf hidle).1
      | restart =>
          exact { ih with
            idle := rfl
            behind := Nat.zero_le _
            stored := fun e he hle _ => absurd hle (Nat.not_le.mpr (ih.numbered e he).1) }
      | elapse d =>
          exact ⟨ih.idle, ih.sorted, ih.numbered, ih.behind, ih.keyed, ih.acceptable, ih.stored⟩

/-! ## Progress -/

/-- The entries up to `e` that the flusher has not passed. -/
def backlog (s : QueueStore) (e : StreamEntry) : Nat :=
  (s.redis.stream.filter fun x => s.lastId < x.id && x.id ≤ e.id).length

theorem backlog_le_length (s : QueueStore) (e : StreamEntry) :
    backlog s e ≤ s.redis.stream.length :=
  List.length_filter_le _ _

/-- The position moved past an entry of the backlog. -/
theorem backlog_lt_of_passed {e x : StreamEntry} (hredis : s'.redis = s.redis)
    (hx : x ∈ s.redis.stream) (hahead : s.lastId < x.id) (hle : x.id ≤ e.id)
    (hpassed : x.id ≤ s'.lastId) : backlog s' e < backlog s e := by
  have hsub : (s.redis.stream.filter fun y => s'.lastId < y.id && y.id ≤ e.id) =
      (s.redis.stream.filter fun y => s.lastId < y.id && y.id ≤ e.id).filter
        fun y => s'.lastId < y.id := by
    rw [List.filter_filter]
    apply List.filter_congr
    intro y _
    rw [Bool.eq_iff_iff]
    simp only [Bool.and_eq_true, decide_eq_true_eq]
    omega
  unfold backlog
  rw [hredis, hsub]
  apply List.length_filter_lt_length_iff_exists.mpr
  refine ⟨x, List.mem_filter.mpr ⟨hx, ?_⟩, ?_⟩
  · simp [hahead, hle]
  · simp [hpassed]

theorem backlog_enqueued {dto : CreateScanDto} (h : Sound rt strict s) {e : StreamEntry}
    (he : e ∈ s.redis.stream) : backlog (enqueued rt dto s) e = backlog s e := by
  have hlater : ¬ s.redis.lastStreamId + 1 ≤ e.id :=
    Nat.not_le.mpr (Nat.lt_succ_of_le (h.numbered e he).2)
  unfold backlog
  apply congrArg List.length
  apply (List.filter_append _ _).trans
  rw [List.filter_cons_of_neg (by simp [hlater]), List.filter_nil, List.append_nil]
  rfl

/-- A cycle without a failure passes an entry, while there are entries ahead. -/
theorem Sound.backlog_lt (h : Sound rt strict s) (config : RedisConfig) (ch : Choice) {e : StreamEntry}
    (he : e ∈ s.redis.stream) (hahead : s.lastId < e.id) :
    backlog ((flushOnce rt config).run (queueMachine rt strict ch) s).2 e < backlog s e := by
  obtain ⟨last, hlast⟩ := exists_last config.flushBatchSize he hahead
  obtain ⟨hmem, hpast⟩ := mem_later (List.mem_of_getLast? hlast)
  have hacceptable : ∀ x ∈ s.redis.read config.flushBatchSize s.lastId,
      Acceptable rt strict s.base x := fun x hx => h.acceptable x (mem_later hx).1
  obtain ⟨data, rows, hdata, hrows, hrefers⟩ := exists_rows hacceptable
  obtain ⟨b, hinsert⟩ := exists_insertRawScans hrefers
  have hmany : s.base.createManyRawScans strict data = (.ok (), b) := by
    simp [Store.createManyRawScans, hrows, hinsert]
  rw [run_flushOnce h.idle hlast hdata hmany]
  rcases Nat.le_total last.id e.id with hle | hge
  · exact backlog_lt_of_passed rfl hmem hpast hle (Nat.le_refl _)
  · exact backlog_lt_of_passed rfl he hahead (Nat.le_refl _) hge

/-- What cycles without a failure keep and achieve. -/
structure Cycled (rt : Runtime) (strict : Bool) (n : Nat) (s s' : QueueStore) : Prop where
  sound : Sound rt strict s'
  refers : s'.base.refersAll = s.base.refersAll
  kept : ∀ e ∈ s.redis.stream, e ∈ s'.redis.stream
  progress : ∀ e ∈ s.redis.stream, e.id ≤ s'.lastId ∨ backlog s' e + n ≤ backlog s e

theorem Cycled.cycle {n : Nat} (h : Cycled rt strict n s s') (ch : Choice) :
    Cycled rt strict (n + 1) s ((flushOnce rt config).run (queueMachine rt strict ch) s').2 := by
  have hruns := (service rt strict).runs_of_run (fun _ => rfl) ch (flushOnce rt config) s'
  obtain ⟨hf, hidle⟩ := runs_flushOnce h.sound.idle hruns
  obtain ⟨hsound, hrefers⟩ := h.sound.flushes hf hidle
  constructor
  case sound => exact hsound
  case refers => exact hrefers.trans h.refers
  case kept => exact fun e he => hf.redis ▸ h.kept e he
  case progress =>
    intro e he
    rcases Nat.lt_or_ge s'.lastId e.id with hahead | hpassed
    · have hlt := h.sound.backlog_lt config ch (h.kept e he) hahead
      rcases h.progress e he with hpassed | hprogress
      · exact absurd hpassed (Nat.not_le.mpr hahead)
      · exact .inr (by omega)
    · exact .inl (Nat.le_trans hpassed hf.forward)

theorem cycled_of_cycles {n : Nat} (h : Sound rt strict s)
    (hc : Cycles rt strict config (AddsSoundly rt strict) n s s') : Cycled rt strict n s s' := by
  induction hc with
  | none => exact ⟨h, rfl, fun _ he => he, fun _ _ => .inr (Nat.le_refl _)⟩
  | flush ch _ ih => exact (ih h).cycle ch
  | enqueue _ hr hp ih =>
      obtain ⟨hsound, hrefers, hkept, hprogress⟩ := ih h
      rcases hsound.enqueue hp hr with rfl | ⟨rfl, hsound'⟩
      · exact ⟨hsound, hrefers, hkept, hprogress⟩
      · refine ⟨hsound', hrefers, fun e he => List.mem_append_left _ (hkept e he), ?_⟩
        intro e he
        rw [backlog_enqueued hsound (hkept e he)]
        exact hprogress e he
  | elapse d _ ih =>
      obtain ⟨hsound, hrefers, hkept, hprogress⟩ := ih h
      exact ⟨⟨hsound.idle, hsound.sorted, hsound.numbered, hsound.behind, hsound.keyed,
        hsound.acceptable, hsound.stored⟩, hrefers, hkept, hprogress⟩

/-! ## The result -/

theorem hasOneRow_of_stored {b : Store} {e : StreamEntry} {operationId : String}
    (hop : operationOf e = some operationId) (h : Stored b operationId) : HasOneRow b e := by
  obtain ⟨a, ha, hid⟩ := h
  refine ⟨operationId, hop, a, ⟨ha, hid⟩, ?_⟩
  rintro x ⟨hx, hxid⟩
  apply b.rawScans.eq_of_clash hx ha
  simp [clash, hxid, hid]

/-- The call passes the checks of `CreateScanDto`. -/
def PassesValidation (isDateString : String → Bool) : Permits := fun _ dto _ =>
  isDateString dto.scannedAtDevice = true ∧
    ∀ payload, dto.payload = some payload → ∃ fields, payload = .obj fields

/-- A call under a fresh key whose commands are all answered. -/
theorem exists_runs_fresh (rt : Runtime) (strict : Bool) (s : QueueStore) (dto : CreateScanDto)
    (hnew : s.redis.isSet s.base.clock (operationKey dto.operationId) = false) :
    ∃ turns, Runs rt strict (enqueueRawScan rt {} true dto) s turns (.ok {}) (enqueued rt dto s) ∧
      AddsWhole s dto turns := by
  have hset : queueMachine rt strict {} (.setNx (operationKey dto.operationId) 86400) s =
      (.ok true, { s with redis := { s.redis with
        keys := (operationKey dto.operationId, s.base.clock + 1000 * (86400 : Nat)) ::
          s.redis.keys } }) := by
    simp [queueMachine, hnew]
  refine ⟨_, .ask rfl (.inl ⟨{}, hset⟩) (.ask rfl (.inl ⟨{}, rfl⟩) (.ask rfl (.inl ⟨{}, rfl⟩)
    (.ret rfl))), ?_⟩
  intro turn hturn
  simp only [List.mem_cons, List.not_mem_nil, or_false] at hturn
  obtain rfl | rfl | rfl := hturn <;> exact id

/-- `new Date` does not parse the dates of the ISO week calendar. -/
def weekRuntime : Runtime :=
  { sampleRuntime with parseDate := fun text => if text = "2024-W10-1" then none else some 5 }

def acceptsDates (text : String) : Bool :=
  text = "2024-W10-1" || text = "2024-03-04T09:00:00Z"

def datedScan (operationId scannedAtDevice : String) : CreateScanDto :=
  { sampleScan operationId "Q2.T.s" with scannedAtDevice }

/-- Valid scans whose entries are acceptable. -/
def ValidAcceptable : Permits := fun s dto turns =>
  PassesValidation acceptsDates s dto turns ∧ AddsAcceptable weekRuntime true s dto turns

/-- Valid scans whose XADD does not fail. -/
def ValidWhole : Permits := fun s dto turns =>
  PassesValidation acceptsDates s dto turns ∧ AddsWhole s dto turns

theorem passesValidation_datedScan {s : QueueStore} {operationId date : String}
    {turns : List (Turn QueueResp Exn QueueStore)} (h : acceptsDates date = true) :
    PassesValidation acceptsDates s (datedScan operationId date) turns :=
  ⟨h, fun _ hp => by cases hp⟩

/-- A call is accepted whose operation was tried before and has no entry. -/
theorem accepted_without_entry : ¬ NoneLost weekRuntime true {} ValidAcceptable := by
  intro hnone
  let dto := datedScan "op-1" "2024-03-04T09:00:00Z"
  let s : QueueStore := { base := sampleStore, redis := { keys := [("scan:op:op-1", 86400005)] } }
  have hfirst : Runs weekRuntime true (enqueueRawScan weekRuntime {} true dto)
      { base := sampleStore } _ _ s :=
    .ask rfl (.inl ⟨{}, rfl⟩) (.ask rfl (.inl ⟨{}, rfl⟩)
      (.ask rfl (.inr ⟨trivial, rfl, .error "Connection is closed", rfl⟩) (.throw rfl)))
  have hretry : Runs weekRuntime true (enqueueRawScan weekRuntime {} true dto)
      s _ (.ok { duplicate := true }) s :=
    .ask rfl (.inl ⟨{}, rfl⟩) (.ret rfl)
  have hstep : Step weekRuntime true ValidAcceptable { base := sampleStore } s :=
    .enqueue hfirst ⟨passesValidation_datedScan (by decide),
      fun _ => ⟨_, _, rfl, rfl, fun _ => by decide⟩⟩
  have hset : ∀ turns, ValidAcceptable s dto turns := fun _ =>
    ⟨passesValidation_datedScan (by decide), fun hnew => absurd hnew (by decide)⟩
  obtain ⟨e, he, -⟩ := (hnone _ _ (.single hstep)).accepted hretry (hset _) rfl
  cases he

/-- A week date keeps the flusher from the entries behind it. -/
theorem blocked_by_week_date : ¬ NoneLost weekRuntime true {} ValidWhole := by
  intro hnone
  let bad := datedScan "op-1" "2024-W10-1"
  let good := datedScan "op-2" "2024-03-04T09:00:00Z"
  let s₀ : QueueStore := { base := sampleStore }
  let s₁ := enqueued weekRuntime bad s₀
  let s₂ := enqueued weekRuntime good s₁
  obtain ⟨first, hbad, hwhole⟩ := exists_runs_fresh weekRuntime true s₀ bad (by decide)
  obtain ⟨second, hgood, hwhole'⟩ := exists_runs_fresh weekRuntime true s₁ good (by decide)
  have hreach : ReflTransGen (Step weekRuntime true ValidWhole) s₀ s₂ :=
    .tail (.single (.enqueue hbad ⟨passesValidation_datedScan (by decide), hwhole⟩))
      (.enqueue hgood ⟨passesValidation_datedScan (by decide), hwhole'⟩)
  have hstuck : (flushOnce weekRuntime {}).run (queueMachine weekRuntime true {}) s₂ =
      (.ok (), s₂) :=
    run_flushOnce_rejected rfl rfl rfl
  have hcycles : ∀ n, Cycles weekRuntime true {} ValidWhole n s₂ s₂ := by
    intro n
    induction n with
    | zero => exact .none
    | succ n ih =>
        have hnext := ih.flush {}
        rw [hstuck] at hnext
        exact hnext
  obtain ⟨enough, hstored⟩ := (hnone _ _ hreach).stored
  have hmem : StreamEntry.mk 2 (scanFields weekRuntime good 5) ∈ s₂.redis.stream :=
    List.mem_append_right _ List.mem_cons_self
  have hinsertable : Insertable weekRuntime s₂.base ⟨2, scanFields weekRuntime good 5⟩ :=
    ⟨_, _, rfl, rfl, by decide⟩
  obtain ⟨-, -, a, ⟨ha, -⟩, -⟩ :=
    hstored enough s₂ (Nat.le_refl _) (hcycles enough) _ hmem hinsertable
  cases ha

end Stream

end CreativeBackend
