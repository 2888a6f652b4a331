import Mathlib.Tactic.Common
import Mathlib.Data.List.Pairwise

/-!
# Deletion under foreign keys

A schema names foreign keys between models, each with what the deletion of the row it refers to
does: the deletion is refused, or the reference is set to null. A transaction of deletions is a
list of statements. It commits exactly where no row that stays has a restricting reference to a
row that goes, and leaves the rows that stay, with their references to the others cleared.

## Implementation notes

A database carries the schema's constraints, so no statement leaves a reference to a missing row.
-/

namespace CreativeBackend.Relational

/-- What the deletion of a row does to a reference to it. -/
inductive OnDelete where
  | restrict | setNull
  deriving DecidableEq, Repr

/-- Foreign keys `K` between models `M`. A reference that restricts deletion is required. -/
structure Schema (M K : Type) where
  source : K → M
  target : K → M
  onDelete : K → OnDelete
  keys : List K
  mem_keys : ∀ k, k ∈ keys

/-- A row with its primary key, its references and its other columns. -/
@[ext] structure Tuple (K I D : Type) where
  id : I
  ref : K → Option I
  data : D

variable {M K I D : Type} (σ : Schema M K)

/-- Tables within the constraints of the schema. -/
structure Database (I D : Type) where
  rows : M → List (Tuple K I D)
  distinct : ∀ m, (rows m).Pairwise fun a b => a.id ≠ b.id
  required : ∀ k, σ.onDelete k = .restrict → ∀ r ∈ rows (σ.source k), (r.ref k).isSome = true
  sound : ∀ k, ∀ r ∈ rows (σ.source k), ∀ i, r.ref k = some i →
    ∃ t ∈ rows (σ.target k), t.id = i

/-! ## Rows that go -/

/-- A row without its references to rows that go. -/
def clear (gone : M → I → Bool) (r : Tuple K I D) : Tuple K I D :=
  { r with ref := fun k =>
      if σ.onDelete k = .setNull then (r.ref k).filter fun i => !gone (σ.target k) i else r.ref k }

/-- The rows that stay. -/
def erase (gone : M → I → Bool) (rows : M → List (Tuple K I D)) (m : M) : List (Tuple K I D) :=
  ((rows m).filter fun r => !gone m r.id).map (clear σ gone)

/-- The keys of the rows that are marked. -/
def ids [DecidableEq I] (rows : M → List (Tuple K I D)) (marked : M → Tuple K I D → Bool) (m : M)
    (i : I) : Bool :=
  (rows m).any fun r => decide (r.id = i) && marked m r

/-- A row that stays has a restricting reference to a row that goes. -/
def restricts (rows : M → List (Tuple K I D)) (gone : M → I → Bool) : Bool :=
  σ.keys.any fun k => decide (σ.onDelete k = .restrict) &&
    (rows (σ.source k)).any fun r => !gone (σ.source k) r.id && (r.ref k).any (gone (σ.target k))

variable {σ} {gone gone' : M → I → Bool} {rows : M → List (Tuple K I D)} {r : Tuple K I D} {k : K}
  {m : M} {i : I}

@[simp] theorem clear_id : (clear σ gone r).id = r.id := rfl

@[simp] theorem clear_data : (clear σ gone r).data = r.data := rfl

theorem clear_ref_restrict (h : σ.onDelete k = .restrict) : (clear σ gone r).ref k = r.ref k := by
  simp [clear, h]

/-- A reference into a table without rows that go. -/
theorem clear_ref_of_kept (h : ∀ i, gone (σ.target k) i = false) :
    (clear σ gone r).ref k = r.ref k := by
  simp only [clear, h, Bool.not_false]
  split
  · cases r.ref k <;> rfl
  · rfl

theorem clear_ref_eq_some :
    (clear σ gone r).ref k = some i ↔
      r.ref k = some i ∧ (σ.onDelete k = .setNull → gone (σ.target k) i = false) := by
  cases h : σ.onDelete k with
  | restrict => simp [clear, h]
  | setNull => simp [clear, h, Option.filter_eq_some_iff]

theorem mem_erase {x : Tuple K I D} :
    x ∈ erase σ gone rows m ↔ ∃ r ∈ rows m, gone m r.id = false ∧ clear σ gone r = x := by
  simp [erase, and_assoc]

theorem restricts_eq_true : restricts σ rows gone = true ↔
    ∃ k, σ.onDelete k = .restrict ∧ ∃ r ∈ rows (σ.source k), gone (σ.source k) r.id = false ∧
      ∃ i, r.ref k = some i ∧ gone (σ.target k) i = true := by
  simp only [restricts, List.any_eq_true, Bool.and_eq_true, decide_eq_true_eq,
    Bool.not_eq_true', Option.any_eq_true, σ.mem_keys, true_and]

theorem clear_clear : clear σ gone' (clear σ gone r) =
    clear σ (fun m i => gone m i || gone' m i) r := by
  have href : (clear σ gone' (clear σ gone r)).ref =
      (clear σ (fun m i => gone m i || gone' m i) r).ref := by
    funext k
    apply Option.ext
    intro i
    cases h : σ.onDelete k with
    | restrict => simp [clear_ref_eq_some, h]
    | setNull => simp [clear_ref_eq_some, h, and_assoc]
  exact Tuple.ext rfl href rfl

/-- What goes in two steps goes in one. -/
theorem erase_erase : erase σ gone' (erase σ gone rows) =
    erase σ (fun m i => gone m i || gone' m i) rows := by
  funext m
  simp only [erase, List.filter_map, List.map_map, List.filter_filter]
  have hclear : (clear σ gone' ∘ clear σ gone : Tuple K I D → Tuple K I D) =
      clear σ fun m i => gone m i || gone' m i := by
    funext r
    exact clear_clear
  rw [hclear]
  congr 1
  apply List.filter_congr
  intro r _
  simp [Bool.and_comm]

theorem ids_eq_true [DecidableEq I] {marked : M → Tuple K I D → Bool} :
    ids rows marked m i = true ↔ ∃ r ∈ rows m, r.id = i ∧ marked m r = true := by
  simp [ids]

/-- A key names one row. -/
theorem eq_of_id {xs : List (Tuple K I D)} (hdistinct : xs.Pairwise fun a b => a.id ≠ b.id)
    {a b : Tuple K I D} (ha : a ∈ xs) (hb : b ∈ xs) (h : a.id = b.id) : a = b := by
  by_contra hne
  have hsymm : Std.Symm fun a b : Tuple K I D => a.id ≠ b.id := ⟨fun _ _ h => h.symm⟩
  exact hdistinct.forall ha hb hne h

/-- Marking is the same on the rows and on their keys. -/
theorem ids_of_mem [DecidableEq I] {marked : M → Tuple K I D → Bool}
    (hdistinct : (rows m).Pairwise fun a b => a.id ≠ b.id) (hr : r ∈ rows m) :
    ids rows marked m r.id = marked m r := by
  rw [Bool.eq_iff_iff, ids_eq_true]
  constructor
  · rintro ⟨x, hx, hid, hmarked⟩
    rwa [eq_of_id hdistinct hx hr hid] at hmarked
  · intro hmarked
    exact ⟨r, hr, rfl, hmarked⟩

/-- Nothing goes where no row is gone. -/
theorem erase_none (h : ∀ m i, gone m i = false) : erase σ gone rows = rows := by
  have hclear : (clear σ gone : Tuple K I D → Tuple K I D) = id := by
    funext r
    refine Tuple.ext rfl ?_ rfl
    funext k
    exact clear_ref_of_kept (h (σ.target k))
  funext m
  have hfilter : ((rows m).filter fun r => !gone m r.id) = rows m :=
    List.filter_eq_self.mpr fun r _ => by simp [h]
  rw [erase, hclear, hfilter, List.map_id]

/-! ## Statements -/

namespace Database

/-- The database without rows that nothing restricts. -/
def erase (db : Database σ I D) (gone : M → I → Bool) (h : restricts σ db.rows gone = false) :
    Database σ I D where
  rows := Relational.erase σ gone db.rows
  distinct m := by
    refine List.Pairwise.map _ (fun a b hne => hne) ?_
    exact (db.distinct m).filter _
  required := by
    intro k hk r hr
    obtain ⟨x, hx, -, rfl⟩ := mem_erase.mp hr
    rw [clear_ref_restrict hk]
    exact db.required k hk x hx
  sound := by
    intro k r hr i href
    obtain ⟨x, hx, hkept, rfl⟩ := mem_erase.mp hr
    obtain ⟨href, hclear⟩ := clear_ref_eq_some.mp href
    obtain ⟨t, ht, rfl⟩ := db.sound k x hx i href
    refine ⟨clear σ gone t, mem_erase.mpr ⟨t, ht, ?_, rfl⟩, rfl⟩
    cases haction : σ.onDelete k with
    | setNull => exact hclear haction
    | restrict =>
        by_contra hgone
        have hrestricts : restricts σ db.rows gone = true :=
          restricts_eq_true.mpr ⟨k, haction, x, hx, hkept, t.id, href, by simpa using hgone⟩
        rw [h] at hrestricts
        cases hrestricts

variable [DecidableEq M] [DecidableEq I]

/-- The rows that a condition selects. -/
def selected (rows : M → List (Tuple K I D)) (m : M) (p : Tuple K I D → Bool) : M → I → Bool :=
  ids rows fun m' r => decide (m' = m) && p r

/-- `deleteMany`; without an answer a foreign key is violated. -/
def deleteMany (db : Database σ I D) (m : M) (p : Tuple K I D → Bool) : Option (Database σ I D) :=
  if h : restricts σ db.rows (selected db.rows m p) = false then some (db.erase _ h) else none

omit [DecidableEq M] [DecidableEq I] in
theorem eq_of_rows {db db' : Database σ I D} (h : db.rows = db'.rows) : db = db' := by
  cases db
  cases db'
  cases h
  rfl

/-- A deletion does the same on tables that differ only in the rows that go. -/
theorem deleteMany_congr {db db' : Database σ I D} {p : Tuple K I D → Bool}
    (hrestricts : restricts σ db.rows (selected db.rows m p) =
      restricts σ db'.rows (selected db'.rows m p))
    (herase : Relational.erase σ (selected db.rows m p) db.rows =
      Relational.erase σ (selected db'.rows m p) db'.rows) :
    db.deleteMany m p = db'.deleteMany m p := by
  unfold deleteMany
  by_cases h : restricts σ db.rows (selected db.rows m p) = false
  · rw [dif_pos h, dif_pos (hrestricts ▸ h)]
    exact congrArg some (eq_of_rows herase)
  · rw [dif_neg h, dif_neg (hrestricts ▸ h)]

/-- A deletion of a model, by a condition on the tables at that time. -/
structure Statement (M K I D : Type) where
  model : M
  cond : (M → List (Tuple K I D)) → Tuple K I D → Bool

/-- The statements of a transaction, in their order. -/
def runAll : List (Statement M K I D) → Database σ I D → Option (Database σ I D)
  | [], db => some db
  | s :: rest, db => (db.deleteMany s.model (s.cond db.rows)).bind (runAll rest)

/-- A statement, with the rows of its model that it is to delete. -/
structure Planned (M K I D : Type) extends Statement M K I D where
  marks : Tuple K I D → Bool

/-- The rows that a plan is to delete. -/
def marked (plan : List (Planned M K I D)) (m : M) (r : Tuple K I D) : Bool :=
  plan.any fun s => decide (s.model = m) && s.marks r

/-- The tables after a plan has deleted its rows. -/
def leaves (σ : Schema M K) (plan : List (Planned M K I D)) (rows : M → List (Tuple K I D)) :
    M → List (Tuple K I D) :=
  Relational.erase σ (ids rows (marked plan)) rows

/-- The statement selects what it is to delete among the rows that are left. -/
def SelectsNext (σ : Schema M K) (rows : M → List (Tuple K I D)) (before : List (Planned M K I D))
    (s : Planned M K I D) : Prop :=
  ∀ r ∈ rows s.model, marked before s.model r = false →
    s.cond (leaves σ before rows) (clear σ (ids rows (marked before)) r) = s.marks r

/-- Each statement, in its turn, selects the rows it is to delete among those that are left. -/
def Selects (σ : Schema M K) (rows : M → List (Tuple K I D)) (before : List (Planned M K I D)) :
    List (Planned M K I D) → Prop
  | [] => True
  | s :: rest => SelectsNext σ rows before s ∧ Selects σ rows (before ++ [s]) rest

/-- No statement comes before one for rows that restrict its own. -/
def Ordered (σ : Schema M K) (plan : List (Planned M K I D)) : Prop :=
  plan.Pairwise fun s s' => ∀ k, σ.onDelete k = .restrict → σ.target k = s.model →
    σ.source k ≠ s'.model

/-- No row that stays has a restricting reference to a marked one. -/
def Unblocked (σ : Schema M K) (rows : M → List (Tuple K I D)) (marked : M → Tuple K I D → Bool) :
    Prop :=
  ∀ k, σ.onDelete k = .restrict → ∀ r ∈ rows (σ.source k), marked (σ.source k) r = false →
    ∀ t ∈ rows (σ.target k), r.ref k = some t.id → marked (σ.target k) t = false

variable {db db' db₀ : Database σ I D} {before plan : List (Planned M K I D)}
  {s : Planned M K I D} {t : Tuple K I D}

omit [DecidableEq I] in
@[simp] theorem marked_nil : marked ([] : List (Planned M K I D)) m r = false := rfl

omit [DecidableEq I] in
theorem marked_append (plan rest : List (Planned M K I D)) (m : M) (r : Tuple K I D) :
    marked (plan ++ rest) m r = (marked plan m r || marked rest m r) := by
  simp [marked]

omit [DecidableEq I] in
theorem marked_singleton : marked [s] m r = (decide (s.model = m) && s.marks r) := by
  simp [marked]

theorem leaves_nil : leaves σ [] rows = rows := by
  refine erase_none fun m i => ?_
  rw [Bool.eq_false_iff]
  intro h
  obtain ⟨r, -, -, hmarked⟩ := ids_eq_true.mp h
  cases hmarked

/-- A row that is left was there and is not marked. -/
theorem mem_leaves {x : Tuple K I D} : x ∈ leaves σ plan db₀.rows m ↔
    ∃ r ∈ db₀.rows m, marked plan m r = false ∧ clear σ (ids db₀.rows (marked plan)) r = x := by
  rw [leaves, mem_erase]
  constructor
  · rintro ⟨r, hr, hkept, hx⟩
    rw [ids_of_mem (db₀.distinct m) hr] at hkept
    exact ⟨r, hr, hkept, hx⟩
  · rintro ⟨r, hr, hkept, hx⟩
    refine ⟨r, hr, ?_, hx⟩
    rw [ids_of_mem (db₀.distinct m) hr]
    exact hkept

/-- What a statement selects is added to what is gone. -/
theorem gone_append (hcond : SelectsNext σ db₀.rows before s) :
    (fun m i => ids db₀.rows (marked before) m i ||
      selected (leaves σ before db₀.rows) s.model (s.cond (leaves σ before db₀.rows)) m i) =
      ids db₀.rows (marked (before ++ [s])) := by
  funext m i
  rw [Bool.eq_iff_iff]
  simp only [Bool.or_eq_true, selected, ids_eq_true, marked_append, marked_singleton,
    Bool.and_eq_true, decide_eq_true_eq]
  constructor
  · rintro (⟨r, hr, hid, hmarked⟩ | ⟨x, hx, hid, rfl, hselect⟩)
    · exact ⟨r, hr, hid, .inl hmarked⟩
    · obtain ⟨r, hr, hkept, rfl⟩ := mem_leaves.mp hx
      rw [hcond r hr hkept] at hselect
      exact ⟨r, hr, hid, .inr ⟨rfl, hselect⟩⟩
  · rintro ⟨r, hr, hid, hmarked⟩
    by_cases hbefore : marked before m r = true
    · exact .inl ⟨r, hr, hid, hbefore⟩
    · obtain ⟨rfl, hmarks⟩ := hmarked.resolve_left hbefore
      have hkept : marked before s.model r = false := by simpa using hbefore
      refine .inr ⟨_, mem_leaves.mpr ⟨r, hr, hkept, rfl⟩, hid, rfl, ?_⟩
      rw [hcond r hr hkept]
      exact hmarks

/-- The tables after one statement. -/
theorem deleteMany_rows (hdb : db.rows = leaves σ before db₀.rows)
    (hcond : SelectsNext σ db₀.rows before s)
    (h : db.deleteMany s.model (s.cond db.rows) = some db') :
    db'.rows = leaves σ (before ++ [s]) db₀.rows := by
  unfold deleteMany at h
  split at h
  · cases h
    change Relational.erase σ _ db.rows = _
    rw [hdb, leaves, erase_erase]
    have hgone := gone_append hcond
    unfold leaves at hgone ⊢
    rw [hgone]
  · cases h

/-! ## Transactions -/

theorem runAll_append (ss ss' : List (Statement M K I D)) (db : Database σ I D) :
    runAll (ss ++ ss') db = (runAll ss db).bind (runAll ss') := by
  induction ss generalizing db with
  | nil => rfl
  | cons s rest ih =>
      simp only [List.cons_append, runAll, Option.bind_assoc]
      congr 1
      funext db₁
      exact ih db₁

/-- The tables after the statements. -/
theorem runAll_rows (hselects : Selects σ db₀.rows before plan)
    (hdb : db.rows = leaves σ before db₀.rows)
    (h : runAll (plan.map (·.toStatement)) db = some db') :
    db'.rows = leaves σ (before ++ plan) db₀.rows := by
  induction plan generalizing before db with
  | nil =>
      cases h
      rw [List.append_nil]
      exact hdb
  | cons s rest ih =>
      obtain ⟨hs, hrest⟩ := hselects
      simp only [List.map_cons, runAll, Option.bind_eq_some_iff] at h
      obtain ⟨db₁, hdelete, hrun⟩ := h
      have hrows := deleteMany_rows hdb hs hdelete
      have hlast := ih hrest hrows hrun
      rwa [List.append_assoc, List.singleton_append] at hlast

/-- A statement commits where the rows that restrict it are gone or go with it. -/
theorem exists_deleteMany (hdb : db.rows = leaves σ before db₀.rows)
    (hcond : SelectsNext σ db₀.rows before s) (hmem : s ∈ plan)
    (hunblocked : Unblocked σ db₀.rows (marked plan))
    (horder : ∀ k, σ.onDelete k = .restrict → σ.target k = s.model →
      ∀ r, marked plan (σ.source k) r = true → marked (before ++ [s]) (σ.source k) r = true) :
    ∃ db', db.deleteMany s.model (s.cond db.rows) = some db' := by
  unfold deleteMany
  split
  · exact ⟨_, rfl⟩
  · next hblocked =>
      exfalso
      rw [Bool.not_eq_false, restricts_eq_true] at hblocked
      obtain ⟨k, hk, x, hx, hstays, i, href, hgoes⟩ := hblocked
      obtain ⟨y, hy, hid, hselect⟩ := ids_eq_true.mp hgoes
      simp only [Bool.and_eq_true, decide_eq_true_eq] at hselect
      rw [hdb] at hx hy hselect
      obtain ⟨r, hr, hkept, rfl⟩ := mem_leaves.mp hx
      obtain ⟨t, ht, htkept, rfl⟩ := mem_leaves.mp hy
      rw [clear_ref_restrict hk, ← hid] at href
      -- The row that goes is marked, so the one that restricts it is.
      have hmarks : s.marks t = true := by
        rw [hselect.1] at ht htkept
        rw [← hcond t ht htkept]
        exact hselect.2
      have htarget : marked plan (σ.target k) t = true := by
        simp only [marked, List.any_eq_true, Bool.and_eq_true, decide_eq_true_eq]
        exact ⟨s, hmem, hselect.1.symm, hmarks⟩
      have hsource : marked plan (σ.source k) r = true := by
        by_contra hnot
        rw [hunblocked k hk r hr (by simpa using hnot) t ht href] at htarget
        cases htarget
      have hnow := horder k hk hselect.1 r hsource
      rw [marked_append, hkept, Bool.false_or, marked_singleton, Bool.and_eq_true,
        decide_eq_true_eq] at hnow
      -- It is one of the rows of this statement.
      have hgone : selected db.rows s.model (s.cond db.rows) (σ.source k) r.id = true := by
        refine ids_eq_true.mpr ⟨clear σ (ids db₀.rows (marked before)) r, ?_, rfl, ?_⟩
        · rw [hdb]
          exact mem_leaves.mpr ⟨r, hr, hkept, rfl⟩
        · rw [← hnow.1] at hr hkept
          rw [hdb, hcond r hr hkept, hnow.2, ← hnow.1]
          simp
      rw [clear_id, hgone] at hstays
      cases hstays

theorem exists_runAll {rest : List (Planned M K I D)}
    (hselects : Selects σ db₀.rows before rest) (hordered : Ordered σ (before ++ rest))
    (hunblocked : Unblocked σ db₀.rows (marked (before ++ rest)))
    (hdb : db.rows = leaves σ before db₀.rows) :
    ∃ db', runAll (rest.map (·.toStatement)) db = some db' := by
  induction rest generalizing before db with
  | nil => exact ⟨db, rfl⟩
  | cons s rest ih =>
      obtain ⟨hs, hrest⟩ := hselects
      have hassoc : before ++ s :: rest = before ++ [s] ++ rest := by simp
      have horder : ∀ k, σ.onDelete k = .restrict → σ.target k = s.model →
          ∀ r, marked (before ++ s :: rest) (σ.source k) r = true →
            marked (before ++ [s]) (σ.source k) r = true := by
        intro k hk htarget r hr
        rw [hassoc, marked_append, Bool.or_eq_true] at hr
        rcases hr with hdone | hlater
        · exact hdone
        · simp only [marked, List.any_eq_true, Bool.and_eq_true, decide_eq_true_eq] at hlater
          obtain ⟨s', hs', hmodel, -⟩ := hlater
          unfold Ordered at hordered
          rw [hassoc, List.append_assoc, List.pairwise_append] at hordered
          have hpair := (List.pairwise_append.mp hordered.2.1).2.2 s (by simp) s' hs'
          exact absurd hmodel.symm (hpair k hk htarget)
      obtain ⟨db₁, hdelete⟩ := exists_deleteMany hdb hs (by simp) hunblocked horder
      rw [hassoc] at hordered hunblocked
      obtain ⟨db', hrun⟩ := ih hrest hordered hunblocked (deleteMany_rows hdb hs hdelete)
      refine ⟨db', ?_⟩
      simp only [List.map_cons, runAll, hdelete, Option.bind_some]
      exact hrun

/-- After a commit no row that stays restricts one that went. -/
theorem unblocked_of_rows (h : db'.rows = leaves σ plan db₀.rows) :
    Unblocked σ db₀.rows (marked plan) := by
  intro k hk r hr hkept t ht href
  have hmem : clear σ (ids db₀.rows (marked plan)) r ∈ db'.rows (σ.source k) := by
    rw [h]
    exact mem_leaves.mpr ⟨r, hr, hkept, rfl⟩
  have href' : (clear σ (ids db₀.rows (marked plan)) r).ref k = some t.id := by
    rw [clear_ref_restrict hk]
    exact href
  obtain ⟨x, hx, hid⟩ := db'.sound k _ hmem t.id href'
  rw [h] at hx
  obtain ⟨y, hy, hykept, rfl⟩ := mem_leaves.mp hx
  have hgone : ids db₀.rows (marked plan) (σ.target k) y.id = marked plan (σ.target k) y :=
    ids_of_mem (db₀.distinct (σ.target k)) hy
  rw [hykept, show y.id = t.id from hid, ids_of_mem (db₀.distinct (σ.target k)) ht] at hgone
  exact hgone

/-- A transaction whose statements select what they are to delete, in an order that suits the
foreign keys, commits exactly where no row that stays restricts one that goes. -/
theorem runAll_commits_iff (hselects : Selects σ db.rows [] plan) (hordered : Ordered σ plan) :
    (∃ db', runAll (plan.map (·.toStatement)) db = some db') ↔
      Unblocked σ db.rows (marked plan) := by
  constructor
  · rintro ⟨db', hrun⟩
    exact unblocked_of_rows (runAll_rows hselects leaves_nil.symm hrun)
  · intro hunblocked
    exact exists_runAll hselects hordered hunblocked leaves_nil.symm

/-- It leaves the rows that are not marked, with their references to the others cleared. -/
theorem rows_of_runAll (hselects : Selects σ db.rows [] plan)
    (h : runAll (plan.map (·.toStatement)) db = some db') : db'.rows = leaves σ plan db.rows :=
  runAll_rows hselects leaves_nil.symm h

/-! ## What a transaction removes -/

/-- The row as it stays, with its references to the rows that go cleared. -/
structure Stays (σ : Schema M K) (rows : M → List (Tuple K I D)) (goes : M → Tuple K I D → Prop)
    (m : M) (r x : Tuple K I D) : Prop where
  id : x.id = r.id
  data : x.data = r.data
  ref : ∀ k, σ.source k = m → ∀ i, x.ref k = some i ↔
    r.ref k = some i ∧ ∀ t ∈ rows (σ.target k), t.id = i → ¬ goes (σ.target k) t

/-- The rows that go are gone, and the others stay. -/
structure Removes (db db' : Database σ I D) (goes : M → Tuple K I D → Prop) : Prop where
  kept : ∀ m, ∀ r ∈ db.rows m, ¬ goes m r → ∃ x ∈ db'.rows m, Stays σ db.rows goes m r x
  only : ∀ m, ∀ x ∈ db'.rows m, ∃ r ∈ db.rows m, ¬ goes m r ∧ Stays σ db.rows goes m r x

theorem removes_of_rows {goes : M → Tuple K I D → Prop} (h : db'.rows = leaves σ plan db.rows)
    (hgoes : ∀ m, ∀ r ∈ db.rows m, marked plan m r = true ↔ goes m r) : Removes db db' goes := by
  have hunblocked := unblocked_of_rows h
  have hstays : ∀ m, ∀ r ∈ db.rows m, marked plan m r = false →
      Stays σ db.rows goes m r (clear σ (ids db.rows (marked plan)) r) := by
    intro m r hr hkept
    refine ⟨rfl, rfl, fun k hk i => ?_⟩
    subst hk
    rw [clear_ref_eq_some]
    refine and_congr_right fun href => ?_
    constructor
    · rintro hclear t ht rfl hgo
      have hmarked := (hgoes _ t ht).mpr hgo
      cases haction : σ.onDelete k with
      | restrict =>
          rw [hunblocked k haction r hr hkept t ht href] at hmarked
          cases hmarked
      | setNull =>
          have hgone : ids db.rows (marked plan) (σ.target k) t.id = marked plan (σ.target k) t :=
            ids_of_mem (db.distinct _) ht
          rw [← hgone, hclear haction] at hmarked
          cases hmarked
    · intro hnone _
      rw [Bool.eq_false_iff]
      intro hgone
      obtain ⟨t, ht, hid, hmarked⟩ := ids_eq_true.mp hgone
      exact hnone t ht hid ((hgoes _ t ht).mp hmarked)
  constructor
  · intro m r hr hnot
    have hkept : marked plan m r = false := by
      rw [Bool.eq_false_iff]
      exact fun hmarked => hnot ((hgoes m r hr).mp hmarked)
    refine ⟨_, ?_, hstays m r hr hkept⟩
    rw [h]
    exact mem_leaves.mpr ⟨r, hr, hkept, rfl⟩
  · intro m x hx
    rw [h] at hx
    obtain ⟨r, hr, hkept, rfl⟩ := mem_leaves.mp hx
    refine ⟨r, hr, fun hgo => ?_, hstays m r hr hkept⟩
    rw [(hgoes m r hr).mpr hgo] at hkept
    cases hkept

omit [DecidableEq M] [DecidableEq I] in
theorem Removes.congr {goes goes' : M → Tuple K I D → Prop} (h : Removes db db' goes)
    (hsame : ∀ m, ∀ r ∈ db.rows m, goes m r ↔ goes' m r) : Removes db db' goes' := by
  have hstays : ∀ {m r x}, Stays σ db.rows goes m r x → Stays σ db.rows goes' m r x := by
    intro m r x hx
    refine ⟨hx.id, hx.data, fun k hk i => (hx.ref k hk i).trans (and_congr_right fun _ => ?_)⟩
    exact forall₂_congr fun t ht => by rw [hsame _ t ht]
  constructor
  · intro m r hr hnot
    obtain ⟨x, hx, hstay⟩ := h.kept m r hr fun hgo => hnot ((hsame m r hr).mp hgo)
    exact ⟨x, hx, hstays hstay⟩
  · intro m x hx
    obtain ⟨r, hr, hnot, hstay⟩ := h.only m x hx
    exact ⟨r, hr, fun hgo => hnot ((hsame m r hr).mpr hgo), hstays hstay⟩

/-! ## Ranked transactions -/

/-- A statement whose condition reads the row alone. -/
def Statement.fixed (m : M) (p : Tuple K I D → Bool) : Statement M K I D :=
  { model := m, cond := fun _ => p }

/-- The statements of a model and a condition on its rows each. -/
def statements (deletions : List (M × (Tuple K I D → Bool))) : List (Statement M K I D) :=
  deletions.map fun d => .fixed d.1 d.2

/-- A condition reads tables, and references into tables, of a higher rank only. -/
def ReadsAbove (σ : Schema M K) (rank : M → Nat) (s : Statement M K I D) : Prop :=
  ∀ (rows : M → List (Tuple K I D)) (gone : M → I → Bool) (r : Tuple K I D),
    (∀ m, rank s.model < rank m → ∀ i, gone m i = false) →
      s.cond (Relational.erase σ gone rows) (clear σ gone r) = s.cond rows r

/-- Statements in an order of the models that suits the foreign keys, each of which reads nothing
that it or an earlier one deletes. -/
structure Ranked (σ : Schema M K) (rank : M → Nat) (ss : List (Statement M K I D)) : Prop where
  suits : ∀ k, σ.onDelete k = .restrict → rank (σ.source k) < rank (σ.target k)
  sorted : ss.Pairwise fun s s' => rank s.model ≤ rank s'.model
  reads : ∀ s ∈ ss, ReadsAbove σ rank s

/-- The statements are to delete what they select at the start. -/
def planOf (rows : M → List (Tuple K I D)) (ss : List (Statement M K I D)) :
    List (Planned M K I D) :=
  ss.map fun s => { s with marks := s.cond rows }

section Ranks

variable {rank : M → Nat} {ss done rest : List (Statement M K I D)}

omit [DecidableEq M] [DecidableEq I] in
theorem map_planOf (rows : M → List (Tuple K I D)) (ss : List (Statement M K I D)) :
    (planOf rows ss).map (·.toStatement) = ss := by
  simp [planOf, Function.comp_def]

omit [DecidableEq I] in
theorem marked_planOf : marked (planOf rows ss) m r = true ↔
    ∃ s ∈ ss, s.model = m ∧ s.cond rows r = true := by
  simp [marked, planOf]

theorem selects_of_ranked (h : Ranked σ rank (done ++ rest)) :
    Selects σ rows (planOf rows done) (planOf rows rest) := by
  induction rest generalizing done with
  | nil => trivial
  | cons s rest ih =>
      have hassoc : done ++ s :: rest = done ++ [s] ++ rest := by simp
      constructor
      · intro r _ _
        apply h.reads s (by simp)
        intro m hm i
        rw [Bool.eq_false_iff]
        intro hgone
        obtain ⟨x, -, -, hmarked⟩ := ids_eq_true.mp hgone
        obtain ⟨s', hs', rfl, -⟩ := marked_planOf.mp hmarked
        have hle := (List.pairwise_append.mp h.sorted).2.2 s' hs' s (by simp)
        exact absurd hm (Nat.not_lt.mpr hle)
      · rw [hassoc] at h
        have hlast := ih h
        rwa [planOf, List.map_append] at hlast

omit [DecidableEq M] [DecidableEq I] in
/-- No statement comes before one for rows that restrict its own. -/
theorem Ranked.ordered (h : Ranked σ rank ss) : Ordered σ (planOf rows ss) := by
  rw [Ordered, planOf, List.pairwise_map]
  refine h.sorted.imp fun hle k hk htarget hsource => ?_
  have hlt := h.suits k hk
  rw [htarget, hsource] at hlt
  exact absurd hle (Nat.not_le.mpr hlt)

/-- A ranked transaction removes what its conditions select at the start, and commits exactly
where no row that stays restricts one that goes. -/
theorem Ranked.removes_iff {goes : M → Tuple K I D → Prop} (h : Ranked σ rank ss)
    (hgoes : ∀ m, ∀ r ∈ db.rows m,
      (∃ s ∈ ss, s.model = m ∧ s.cond db.rows r = true) ↔ goes m r) :
    (∀ db', runAll ss db = some db' → Removes db db' goes) ∧
      ((∃ db', runAll ss db = some db') ↔
        ∀ k, σ.onDelete k = .restrict → ∀ r ∈ db.rows (σ.source k), ¬ goes (σ.source k) r →
          ∀ t ∈ db.rows (σ.target k), r.ref k = some t.id → ¬ goes (σ.target k) t) := by
  have hselects : Selects σ db.rows [] (planOf db.rows ss) := by
    have hnil : Ranked σ rank ([] ++ ss) := h
    exact selects_of_ranked hnil
  have hmarked : ∀ m, ∀ r ∈ db.rows m, marked (planOf db.rows ss) m r = true ↔ goes m r := by
    intro m r hr
    rw [← hgoes m r hr, marked_planOf]
  rw [← map_planOf db.rows ss]
  constructor
  · intro db' hrun
    exact removes_of_rows (rows_of_runAll hselects hrun) hmarked
  · rw [runAll_commits_iff hselects h.ordered]
    have hfalse : ∀ m, ∀ r ∈ db.rows m, marked (planOf db.rows ss) m r = false ↔ ¬ goes m r := by
      intro m r hr
      rw [← hmarked m r hr, Bool.not_eq_true]
    constructor
    · intro h k hk r hr hstays t ht href
      exact (hfalse _ t ht).mp (h k hk r hr ((hfalse _ r hr).mpr hstays) t ht href)
    · intro h k hk r hr hstays t ht href
      exact (hfalse _ t ht).mpr (h k hk r hr ((hfalse _ r hr).mp hstays) t ht href)

/-! ## Deletions that read only the row -/

omit [DecidableEq M] [DecidableEq I] in
/-- Rows that are named by their keys. -/
theorem readsAbove_id (f : I → Bool) :
    ReadsAbove σ rank (.fixed m fun r : Tuple K I D => f r.id) := by
  intro _ gone r _
  rfl

omit [DecidableEq M] [DecidableEq I] in
theorem readsAbove_ref (f : Option I → Bool) (hk : rank m < rank (σ.target k)) :
    ReadsAbove σ rank (.fixed m fun r : Tuple K I D => f (r.ref k)) := by
  intro _ gone r hgone
  exact congrArg f (clear_ref_of_kept (hgone _ hk))

omit [DecidableEq M] [DecidableEq I] in
theorem readsAbove_refs (f : Option I → Option I → Bool) {k' : K}
    (hk : rank m < rank (σ.target k)) (hk' : rank m < rank (σ.target k')) :
    ReadsAbove σ rank (.fixed m fun r : Tuple K I D => f (r.ref k) (r.ref k')) := by
  intro _ gone r hgone
  exact congrArg₂ f (clear_ref_of_kept (hgone _ hk)) (clear_ref_of_kept (hgone _ hk'))

/-- Deletions in the order of the ranks. -/
def InOrder (rank : M → Nat) (deletions : List (M × (Tuple K I D → Bool))) : Prop :=
  deletions.Pairwise fun d d' => rank d.1 ≤ rank d'.1

variable {deletions : List (M × (Tuple K I D → Bool))}

omit [DecidableEq M] [DecidableEq I] in
theorem inOrder_append {before after : List (M × (Tuple K I D → Bool))} (n : Nat)
    (hbefore : InOrder rank before) (hafter : InOrder rank after)
    (hle : ∀ d ∈ before, rank d.1 ≤ n) (hge : ∀ d ∈ after, n ≤ rank d.1) :
    InOrder rank (before ++ after) := by
  refine List.pairwise_append.mpr ⟨hbefore, hafter, fun d hd d' hd' => ?_⟩
  exact Nat.le_trans (hle d hd) (hge d' hd')

omit [DecidableEq M] [DecidableEq I] in
theorem inOrder_of_model (h : ∀ d ∈ deletions, d.1 = m) : InOrder rank deletions := by
  refine List.pairwise_of_forall_mem_list fun d hd d' hd' => Nat.le_of_eq ?_
  rw [h d hd, h d' hd']

omit [DecidableEq M] [DecidableEq I] in
theorem ranked_statements
    (hsuits : ∀ k, σ.onDelete k = .restrict → rank (σ.source k) < rank (σ.target k))
    (hsorted : InOrder rank deletions)
    (hreads : ∀ d ∈ deletions, ReadsAbove σ rank (.fixed d.1 d.2)) :
    Ranked σ rank (statements deletions) := by
  refine ⟨hsuits, List.pairwise_map.mpr hsorted, fun s hs => ?_⟩
  obtain ⟨d, hd, rfl⟩ := List.mem_map.mp hs
  exact hreads d hd

omit [DecidableEq M] [DecidableEq I] in
theorem exists_statements_iff : (∃ s ∈ statements deletions, s.model = m ∧ s.cond rows r = true) ↔
    ∃ d ∈ deletions, d.1 = m ∧ d.2 r = true := by
  simp [statements, Statement.fixed]

end Ranks

end Database

end CreativeBackend.Relational
