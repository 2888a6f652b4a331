import CreativeBackend.Sync.SyncEffects

/-!
# Who executes a sync operation

A run holds the operations that it created with its batch and those that it claimed,
until it has written how they ended. The invariant: a held operation is pending, no
two runs hold one, and whoever executes an operation holds it.
-/

namespace CreativeBackend

open Relational Interaction

abbrev SyncEvent := Interaction.Event SyncResp Exn SyncStore

abbrev SyncWorld := World SyncResp Exn SyncStore

namespace Ownership

/-- The operations held after one more call. -/
def heldAfter (held : List Id) : SyncEvent → List Id
  | ⟨_, .batchCreate _ _ _, .ok view, _⟩ => view.operations.map (·.id) ++ held
  | ⟨_, .operationClaim id, .ok count, _⟩ => if count = 1 then id :: held else held
  | ⟨_, .operationFinish id _, .ok _, _⟩ => held.filter (· ≠ id)
  | _ => held

/-- The operations that a log of calls, the latest first, leaves held. -/
def held : List SyncEvent → List Id
  | [] => []
  | e :: log => heldAfter (held log) e

/-- Thread `t` holds the operation with the key `id`. -/
def Holds (w : SyncWorld) (t : Nat) (id : Id) : Prop := id ∈ held (w.own t)

/-- Thread `t` holds the row of an operation id. -/
def HoldsOperation (w : SyncWorld) (t : Nat) (operationId : String) : Prop :=
  ∃ x ∈ w.store.operations.rows, x.operationId = operationId ∧ Holds w t x.id

/-- The processed operations of the earlier store are processed in the later one, with
the same output. -/
def KeepsProcessed (s s' : SyncStore) : Prop :=
  ∀ x ∈ s.operations.rows, x.status = .PROCESSED →
    ∃ y ∈ s'.operations.rows, y.id = x.id ∧ y.status = .PROCESSED ∧ y.output = x.output

theorem KeepsProcessed.trans {s₀ s₁ s₂ : SyncStore} (h : KeepsProcessed s₀ s₁)
    (h' : KeepsProcessed s₁ s₂) : KeepsProcessed s₀ s₂ := by
  intro x hx hstatus
  obtain ⟨y, hy, hid, hys, hout⟩ := h x hx hstatus
  obtain ⟨z, hz, hzid, hzs, hzout⟩ := h' y hy hys
  exact ⟨z, hz, hzid.trans hid, hzs, hzout.trans hout⟩

theorem KeepsProcessed.of_operations {s s' : SyncStore} (h : s'.operations = s.operations) :
    KeepsProcessed s s' :=
  fun x hx hstatus => ⟨x, h ▸ hx, rfl, hstatus, rfl⟩

/-- The invariant of all runs. -/
structure Owned (w : SyncWorld) : Prop where
  pending : ∀ t id, Holds w t id → ∃ x ∈ w.store.operations.rows, x.id = id ∧ x.status = .PENDING
  single : ∀ t u id, Holds w t id → Holds w u id → t = u
  runs : ∀ new e old, w.trace = new ++ e :: old → ∀ operationId c, e.call = .run operationId c →
    HoldsOperation ⟨e.before, old⟩ e.thread operationId
  kept : ∀ e ∈ w.trace, KeepsProcessed e.before w.store

variable {w : SyncWorld} {t : Nat} {s' : SyncStore}

theorem holds_log {c : SyncCall} {x : Except Exn (SyncResp c)} {u : Nat} {id : Id} :
    Holds (w.log t c x s') u id ↔
      if u = t then id ∈ heldAfter (held (w.own t)) ⟨t, c, x, w.store⟩ else Holds w u id := by
  unfold Holds
  split
  · next h =>
      subst h
      rw [World.own_log]
      rfl
  · next h => rw [World.own, World.log, List.filter_cons_of_neg (by simpa using Ne.symm h)]; rfl

/-- The call leaves what is held alone. -/
def Neutral (c : SyncCall) (x : Except Exn (SyncResp c)) (s : SyncStore) : Prop :=
  ∀ t ids, heldAfter ids ⟨t, c, x, s⟩ = ids

theorem Neutral.holds_log {c : SyncCall} {x : Except Exn (SyncResp c)} (h : Neutral c x w.store)
    {u : Nat} {id : Id} : Holds (w.log t c x s') u id ↔ Holds w u id := by
  rw [Ownership.holds_log, h]
  split
  · next hut => rw [hut, Holds]
  · exact Iff.rfl

theorem neutral_error {c : SyncCall} {e : Exn} {s : SyncStore} : Neutral c (.error e) s := by
  intro t ids
  cases c <;> rfl

/-- The part of the invariant about the operations that are held. -/
structure Held (w : SyncWorld) : Prop where
  pending : ∀ t id, Holds w t id → ∃ x ∈ w.store.operations.rows, x.id = id ∧ x.status = .PENDING
  single : ∀ t u id, Holds w t id → Holds w u id → t = u

theorem Owned.held (h : Owned w) : Held w := ⟨h.pending, h.single⟩

/-- A call that changes neither the operations nor what is held. -/
theorem Held.neutral (hi : Held w) {c : SyncCall} {x : Except Exn (SyncResp c)}
    (hc : Neutral c x w.store) (ho : s'.operations = w.store.operations) :
    Held (w.log t c x s') where
  pending u id h := by
    obtain ⟨y, hy, hid, hst⟩ := hi.pending u id (hc.holds_log.mp h)
    exact ⟨y, ho ▸ hy, hid, hst⟩
  single u v id hu hv := hi.single u v id (hc.holds_log.mp hu) (hc.holds_log.mp hv)

/-- A new batch with its operations. -/
theorem Held.create (hi : Held w) {dto : SubmitSyncBatchDto}
    {operations : List SubmitSyncOperationDto} {n : Nat} {ch : Choice} {row : SyncBatch}
    {batches : Table SyncBatch} {table : Table SyncOperation}
    (hc : w.store.batches.create (SyncStore.batchRow w.store.base.clock dto n) =
      some (row, batches))
    (hn : SyncStore.createOperations w.store.base.clock row.id operations w.store.operations =
      some table) (ho : s'.operations = table) :
    Held (w.log t (.batchCreate dto operations n) (.ok (s'.view ch row)) s') := by
  have hnew : ∀ id ∈ (s'.view ch row).operations.map (·.id), ∃ x ∈ table.rows, x.id = id ∧
      x.status = .PENDING ∧ ∀ y ∈ w.store.operations.rows, y.id ≠ id := by
    intro id hid
    obtain ⟨x, hx, rfl⟩ := List.mem_map.mp hid
    simp only [SyncStore.view, SyncStore.operationsWhere, List.mem_insertionSort, List.mem_filter,
      decide_eq_true_eq] at hx
    rcases SyncStore.new_of_createOperations hn (ho ▸ hx.1) with hold | ⟨⟨k, hk, hkey⟩, -, hst⟩
    · obtain ⟨b, hb, hbid⟩ := w.store.belong x hold
      have hrow : row.id = fresh w.store.batches.serial := by
        rw [(Table.create_eq_some hc).1]
        rfl
      exact absurd (hbid.trans (hx.2.trans hrow))
        (w.store.batches.key_ne_fresh hb (Nat.le_refl _))
    · exact ⟨x, ho ▸ hx.1, rfl, hst, fun y hy h => w.store.operations.key_ne_fresh hy hk (h.trans hkey)⟩
  have hcases : ∀ u id, Holds (w.log t (.batchCreate dto operations n) (.ok (s'.view ch row)) s')
      u id → u = t ∧ id ∈ (s'.view ch row).operations.map (·.id) ∨ Holds w u id := by
    intro u id h
    rw [holds_log] at h
    split at h
    · next hut =>
        rcases List.mem_append.mp h with h | h
        · exact .inl ⟨hut, h⟩
        · exact .inr (hut ▸ h)
    · exact .inr h
  constructor
  · intro u id h
    rcases hcases u id h with ⟨-, h⟩ | h
    · obtain ⟨x, hx, hid, hst, -⟩ := hnew id h
      exact ⟨x, ho ▸ hx, hid, hst⟩
    · obtain ⟨x, hx, hid, hst⟩ := hi.pending u id h
      exact ⟨x, ho ▸ SyncStore.mem_createOperations hn hx, hid, hst⟩
  · intro u v id hu hv
    rcases hcases u id hu with ⟨hut, hu'⟩ | hu' <;> rcases hcases v id hv with ⟨hvt, hv'⟩ | hv'
    · exact hut.trans hvt.symm
    · obtain ⟨x, hx, hid, -⟩ := hi.pending v id hv'
      obtain ⟨-, -, -, -, hfresh⟩ := hnew id hu'
      exact absurd hid (hfresh x hx)
    · obtain ⟨x, hx, hid, -⟩ := hi.pending u id hu'
      obtain ⟨-, -, -, -, hfresh⟩ := hnew id hv'
      exact absurd hid (hfresh x hx)
    · exact hi.single u v id hu' hv'

/-- A failed operation is held by nobody. -/
theorem Held.not_failed (hi : Held w) {x : SyncOperation} (hx : x ∈ w.store.operations.rows)
    (hstatus : x.status ≠ .PENDING) (u : Nat) : ¬ Holds w u x.id := by
  intro h
  obtain ⟨y, hy, hid, hst⟩ := hi.pending u x.id h
  rw [w.store.operations.eq_of_key hy hx hid] at hst
  exact hstatus hst

/-- An update of one operation leaves the pending rows of the others. -/
theorem Held.pending_update (hi : Held w) {id : Id} {f : SyncOperation → SyncOperation}
    {row : SyncOperation} {table : Table SyncOperation}
    (hu : w.store.operations.update id f = .done row table) {u : Nat} {k : Id} (hk : Holds w u k)
    (hne : k ≠ id) : ∃ x ∈ table.rows, x.id = k ∧ x.status = .PENDING := by
  obtain ⟨x, hx, hid, hst⟩ := hi.pending u k hk
  exact ⟨x, (Table.mem_update hu).mpr (.inl ⟨hx, by rw [key_syncOperation, hid]; exact hne⟩), hid, hst⟩

/-- A claimed operation. -/
theorem Held.claim (hi : Held w) {id : Id} {x row : SyncOperation} {table : Table SyncOperation}
    (hx : x ∈ w.store.operations.rows) (hid : x.id = id) (hstatus : x.status = .FAILED)
    (hu : w.store.operations.update id SyncStore.claimedRow = .done row table)
    (ho : s'.operations = table) : Held (w.log t (.operationClaim id) (.ok 1) s') := by
  have hfree : ∀ u, ¬ Holds w u id := fun u => hid ▸ hi.not_failed hx (by simp [hstatus]) u
  have hcases : ∀ u k, Holds (w.log t (.operationClaim id) (.ok 1) s') u k →
      u = t ∧ k = id ∨ Holds w u k ∧ k ≠ id := by
    intro u k h
    have hother : Holds w u k → Holds w u k ∧ k ≠ id :=
      fun h => ⟨h, fun heq => hfree u (heq ▸ h)⟩
    rw [holds_log] at h
    split at h
    · next hut =>
        rcases List.mem_cons.mp h with h | h
        · exact .inl ⟨hut, h⟩
        · exact .inr (hother (hut ▸ h))
    · exact .inr (hother h)
  constructor
  · intro u k h
    rcases hcases u k h with ⟨-, rfl⟩ | ⟨h, hne⟩
    · obtain ⟨old, hold, hkey, hrow, -, -⟩ := Table.update_eq_done hu
      refine ⟨row, ho ▸ (Table.mem_update hu).mpr (.inr rfl), ?_, ?_⟩
      · rw [hrow]
        rfl
      · rw [hrow]
        rfl
    · obtain ⟨y, hy, hyid, hst⟩ := hi.pending_update hu h hne
      exact ⟨y, ho ▸ hy, hyid, hst⟩
  · intro u v k hku hkv
    rcases hcases u k hku with ⟨hut, heq⟩ | ⟨hku', hne⟩ <;>
      rcases hcases v k hkv with ⟨hvt, heq'⟩ | ⟨hkv', hne'⟩
    · exact hut.trans hvt.symm
    · exact absurd heq hne'
    · exact absurd heq' hne
    · exact hi.single u v k hku' hkv'

/-- An operation whose end its holder has written. -/
theorem Held.finish (hi : Held w) {id : Id} {p : OperationPatch} {row : SyncOperation}
    {table : Table SyncOperation} (hheld : Holds w t id)
    (hu : w.store.operations.update id
      (fun x => SyncStore.applyOperationPatch w.store.base.clock x p) = .done row table)
    (ho : s'.operations = table) : Held (w.log t (.operationFinish id p) (.ok row) s') := by
  have hcases : ∀ u k, Holds (w.log t (.operationFinish id p) (.ok row) s') u k →
      Holds w u k ∧ k ≠ id := by
    intro u k h
    rw [holds_log] at h
    split at h
    · next hut =>
        obtain ⟨h, hne⟩ := List.mem_filter.mp h
        exact ⟨hut ▸ h, by simpa using hne⟩
    · next hut => exact ⟨h, fun heq => hut (hi.single u t id (heq ▸ h) hheld)⟩
  constructor
  · intro u k h
    obtain ⟨h, hne⟩ := hcases u k h
    obtain ⟨y, hy, hyid, hst⟩ := hi.pending_update hu h hne
    exact ⟨y, ho ▸ hy, hyid, hst⟩
  · exact fun u v k hku hkv => hi.single u v k (hcases u k hku).1 (hcases v k hkv).1

/-! ## What one call preserves -/

/-- An update of an operation that is not processed. -/
theorem keepsProcessed_update {id : Id} {f : SyncOperation → SyncOperation} {row : SyncOperation}
    {table : Table SyncOperation} (hu : w.store.operations.update id f = .done row table)
    (ho : s'.operations = table)
    (hid : ∀ y ∈ w.store.operations.rows, y.id = id → y.status ≠ .PROCESSED) :
    KeepsProcessed w.store s' := by
  intro y hy hstatus
  have hne : y.id ≠ id := fun heq => hid y hy heq hstatus
  exact ⟨y, ho ▸ (Table.mem_update hu).mpr (.inl ⟨hy, hne⟩), rfl, hstatus, rfl⟩

section Effect

variable {c : SyncCall} {x : Except Exn (SyncResp c)} (h : SyncEffect w.store c x s')
  (hfinish : ∀ id p, c = .operationFinish id p → Holds w t id)

include h hfinish

theorem Held.effect (hi : Held w) : Held (w.log t c x s') := by
  cases h with
  | base _ _ ho => exact hi.neutral (fun _ _ => rfl) ho
  | run _ _ ho => exact hi.neutral (fun _ _ => rfl) ho
  | read hc =>
      refine hi.neutral (fun _ _ => ?_) rfl
      cases c <;> first | rfl | cases hc
  | failed => exact hi.neutral neutral_error rfl
  | create hc hn _ _ ho => exact hi.create hc hn ho
  | processing _ _ _ ho => exact hi.neutral (fun _ _ => rfl) ho
  | close _ _ _ ho => exact hi.neutral (fun _ _ => rfl) ho
  | taken => exact hi.neutral (fun _ _ => rfl) rfl
  | claim hx hid hstatus hu _ _ ho => exact hi.claim hx hid hstatus hu ho
  | finish hu _ _ ho => exact hi.finish (hfinish _ _ rfl) hu ho

theorem keepsProcessed_of_effect (hi : Held w) : KeepsProcessed w.store s' := by
  cases h with
  | base _ _ ho => exact .of_operations ho
  | run _ _ ho => exact .of_operations ho
  | read => exact .of_operations rfl
  | failed => exact .of_operations rfl
  | create hc hn _ _ ho =>
      exact fun y hy hstatus =>
        ⟨y, ho ▸ SyncStore.mem_createOperations hn hy, rfl, hstatus, rfl⟩
  | processing _ _ _ ho => exact .of_operations ho
  | close _ _ _ ho => exact .of_operations ho
  | taken => exact .of_operations rfl
  | @claim id y row table _ hx hid hstatus hu _ _ ho =>
      refine keepsProcessed_update hu ho fun z hz hzid => ?_
      rw [w.store.operations.eq_of_key hz hx (hzid.trans hid.symm), hstatus]
      decide
  | @finish id p row table _ hu _ _ ho =>
      obtain ⟨y, hy, hid, hstatus⟩ := hi.pending t id (hfinish id p rfl)
      refine keepsProcessed_update hu ho fun z hz hzid => ?_
      rw [w.store.operations.eq_of_key hz hy (hzid.trans hid.symm), hstatus]
      decide

theorem Owned.log (hi : Owned w)
    (hrun : ∀ operationId c', c = .run operationId c' → HoldsOperation w t operationId) :
    Owned (w.log t c x s') where
  pending := (hi.held.effect h hfinish).pending
  single := (hi.held.effect h hfinish).single
  runs new e old htrace operationId c' hcall := by
    cases new with
    | nil =>
        obtain ⟨rfl, rfl⟩ := List.cons.inj htrace
        exact hrun operationId c' hcall
    | cons e' new => exact hi.runs new e old (List.cons.inj htrace).2 operationId c' hcall
  kept e he := by
    have hnew := keepsProcessed_of_effect h hfinish hi.held
    rcases List.mem_cons.mp he with rfl | he
    · exact hnew
    · exact (hi.kept e he).trans hnew

end Effect

/-- Others leave the sync tables alone. -/
theorem Owned.same (hi : Owned w) (ho : s'.operations = w.store.operations) :
    Owned { w with store := s' } where
  pending u id h := by
    obtain ⟨y, hy, hid, hst⟩ := hi.pending u id h
    exact ⟨y, ho ▸ hy, hid, hst⟩
  single := hi.single
  runs := hi.runs
  kept e he := (hi.kept e he).trans (.of_operations ho)

/-- Anything may happen to the scan store. -/
def discipline (rt : Runtime) : Discipline (syncService rt) (fun _ _ _ => True) where
  inv := Owned
  rely := SyncStore.Later
  rely_refl := .refl
  rely_trans := .trans
  call_rely _ _ h := (syncEffect_of_outcome h).later
  env_inv hi h := hi.same h.2
  env_rely _ h := .of_tables h.2 h.1
  start_inv hi h := h.2 ▸ hi
  start_rely _ h := h.2 ▸ .refl _

/-! ## The programs -/

variable {rt : Runtime}

/-- A call that neither ends nor is part of an execution. -/
def Free : SyncCall → Prop
  | .operationFinish _ _ => False
  | .run _ _ => False
  | _ => True

theorem keeps_free {c : SyncCall} (hc : Free c) : (discipline rt).Keeps t c w :=
  fun _ _ hi _ _ _ h => hi.log (syncEffect_of_outcome h) (fun _ _ he => by subst he; exact hc.elim)
    fun _ _ he => by subst he; exact hc.elim

theorem keeps_finish {id : Id} {p : OperationPatch} (hheld : Holds w t id) :
    (discipline rt).Keeps t (.operationFinish id p) w := by
  intro w' hw' hi _ x s' h
  refine hi.log (syncEffect_of_outcome h) (fun id' p' he => ?_) fun o c' he => by cases he
  cases he
  rw [Holds, hw'.own]
  exact hheld

/-- Other threads leave what a thread holds alone. -/
theorem holds_since {w' : SyncWorld} (h : (discipline rt).Since t w w') {id : Id} :
    Holds w' t id ↔ Holds w t id := by
  rw [Holds, Holds, h.own]

/-- The row of an operation is stored under its operation id. -/
def Known (s : SyncStore) (x : SyncOperation) : Prop :=
  ∃ y ∈ s.operations.rows, y.id = x.id ∧ y.operationId = x.operationId

theorem Known.later {s : SyncStore} {x : SyncOperation} (h : Known s x)
    (hl : SyncStore.Later s s') : Known s' x := by
  obtain ⟨y, hy, hid, hop⟩ := h
  obtain ⟨z, hz, hkey⟩ := hl.operationsKept y hy
  have hcore : SyncStore.operationIdentity y = SyncStore.operationIdentity z :=
    hl.operations.core_eq hy hz hkey.symm
  exact ⟨z, hz, hkey.trans hid, (congrArg Prod.fst hcore).symm.trans hop⟩

/-- Rows with one key have one operation id. -/
theorem Known.eq {s : SyncStore} {x y : SyncOperation} (hx : Known s x) (hy : Known s y)
    (h : x.id = y.id) : x.operationId = y.operationId := by
  obtain ⟨a, ha, haid, haop⟩ := hx
  obtain ⟨b, hb, hbid, hbop⟩ := hy
  have hab : a = b := s.operations.eq_of_key ha hb (haid.trans (h.trans hbid.symm))
  rw [← haop, ← hbop, hab]

/-- Whatever thread `t` held, except `id`, it holds later. -/
def Drops (t : Nat) (id : Id) (w w' : SyncWorld) : Prop :=
  ∀ k, k ≠ id → Holds w t k → Holds w' t k

/-- Whatever thread `t` held it holds later. -/
def HoldsOn (t : Nat) (w w' : SyncWorld) : Prop := ∀ k, Holds w t k → Holds w' t k

theorem HoldsOn.drops {w' : SyncWorld} (h : HoldsOn t w w') (id : Id) : Drops t id w w' :=
  fun k _ => h k

theorem HoldsOn.drops_trans {a b c : SyncWorld} {id : Id} (h : HoldsOn t a b)
    (h' : Drops t id b c) : Drops t id a c := fun k hne hk => h' k hne (h k hk)

theorem inOperation_all {α : Type} (operationId : String) (p : Svc α) :
    (inOperation operationId p).All fun c => ∃ c', c = .run operationId c' := by
  induction p with
  | ret a => trivial
  | throw e => trivial
  | ask c k ih => exact ⟨⟨c, rfl⟩, ih⟩

theorem onScanStore_all {α : Type} (p : Svc α) : (onScanStore p).All fun c => ∃ c', c = .base c' := by
  induction p with
  | ret a => trivial
  | throw e => trivial
  | ask c k ih => exact ⟨⟨c, rfl⟩, ih⟩

/-- An execution by the holder of its operation. -/
theorem holds_inOperation {α : Type} {x : SyncOperation} (hk : Known w.store x)
    (hheld : Holds w t x.id) (p : Svc α) :
    (discipline rt).logic.Holds t (fun _ w' => HoldsOn t w w') (inOperation x.operationId p) w := by
  refine Logic.Holds.mono (Discipline.holds_kept (D := discipline rt)
    (P := fun c => ∃ c', c = .run x.operationId c')
    (F := fun w' => Known w'.store x ∧ HoldsOn t w w') ?_ ?_ (inOperation_all _ p)
    ⟨hk, fun _ h => h⟩) fun _ _ _ h => h.2
  · rintro a b hab ⟨hka, hha⟩
    exact ⟨hka.later hab.1, fun k hk => (holds_since hab).mpr (hha k hk)⟩
  · rintro c ⟨c', rfl⟩ a ⟨hka, hha⟩ hi - r s' ho
    have heff := syncEffect_of_outcome ho
    obtain ⟨y, hy, hid, hop⟩ := hka
    refine ⟨hi.log heff (fun _ _ he => by cases he) fun o c'' he => ?_, ?_, ?_⟩
    · cases he
      exact ⟨y, hy, hop, hid ▸ hha x.id hheld⟩
    · exact Known.later ⟨y, hy, hid, hop⟩ heff.later
    · intro k hk
      have hneutral : Neutral (.run x.operationId c') r a.store := fun _ _ => rfl
      exact hneutral.holds_log.mpr (hha k hk)

/-- The holder has released an operation, or failed to. -/
def Released {α : Type} (t : Nat) (id : Id) (w : SyncWorld) : Except Exn α → SyncWorld → Prop
  | .ok _, w' => Drops t id w w'
  | .error _, w' => HoldsOn t w w'

/-- The end of an execution, written by the holder. -/
theorem holds_write {id : Id} {p : OperationPatch} (hheld : Holds w t id) :
    (discipline rt).logic.Holds t (Released t id w) (syncCall (.operationFinish id p)) w := by
  refine Logic.Holds.mono (Discipline.holds_performed (keeps_finish hheld)) fun r w' _ h => ?_
  obtain ⟨s, hown⟩ := h.own
  cases r with
  | ok row =>
      intro k hne hk
      rw [Holds, hown]
      exact List.mem_filter.mpr ⟨hk, by simpa using hne⟩
  | error e =>
      intro k hk
      rw [Holds, hown]
      exact hk

end Ownership

end CreativeBackend
