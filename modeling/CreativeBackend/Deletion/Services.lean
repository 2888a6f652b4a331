import CreativeBackend.Deletion.Writes

/-!
# Services that delete

A service answers with a value or an exception, and leaves a database: that of its transaction, or
the one it found.
-/

namespace CreativeBackend.Deletion

open Relational Relational.Database

/-- What a service answers, and the database it leaves. -/
abbrev Answer (α : Type) := Except Exn α × Db

/-- `findUnique`. -/
def findUnique (db : Db) (m : Model) (id : Id) : Option Row := (db.rows m).find? fun r => r.id = id

def ensureEventCanBeModified (db : Db) (eventId : Option Id) : Except Exn Unit :=
  match eventId.bind (findUnique db .event) with
  | none => .error (.notFound "Event not found")
  | some event =>
      if event.data.status = some .ARCHIVED then
        .error (.badRequest "Archived events cannot be modified")
      else .ok ()

/-- `findOne` and `ensureEventCanBeModified`: a row of an event that is not archived. -/
def findModifiable (db : Db) (event : ForeignKey) (message : String) (id : Id) : Except Exn Row :=
  match findUnique db (schema.source event) id with
  | none => .error (.notFound message)
  | some r =>
      match ensureEventCanBeModified db (r.ref event) with
      | .error e => .error e
      | .ok _ => .ok r

/-- `BadRequestException`, `NotFoundException` or `ConflictException`. -/
def IsHttp : Exn → Prop
  | .badRequest _ | .notFound _ | .conflict _ => True
  | _ => False

/-- `{ in: ids }`. -/
def isIn (ids : List Id) (ref : Option Id) : Bool := ref.any ids.contains

/-- The ids of the rows that `findMany` returns. -/
def findIds (db : Db) (m : Model) (p : Row → Bool) : List Id := ((db.rows m).filter p).map (·.id)

/-- The statements of a transaction; a foreign key that is violated rolls it back. -/
def transaction {α : Type} (db : Db) (deletions : List (Model × (Row → Bool))) (a : α) : Answer α :=
  match runAll (statements deletions) db with
  | none => (.error (.prisma .foreignKey), db)
  | some db' => (.ok a, db')

/-- A reference to a row of the model with the property. -/
def RefersTo (db : Db) (m : Model) (P : Row → Prop) (ref : Option Id) : Prop :=
  ∃ t ∈ db.rows m, P t ∧ ref = some t.id

variable {db : Db} {m : Model} {r : Row} {ref : Option Id} {p : Row → Bool}

/-! ## What the queries find -/

theorem mem_findIds {id : Id} : id ∈ findIds db m p ↔ ∃ t ∈ db.rows m, p t = true ∧ t.id = id := by
  simp [findIds, and_assoc]

theorem isIn_findIds :
    isIn (findIds db m p) ref = true ↔ RefersTo db m (fun t => p t = true) ref := by
  unfold isIn RefersTo
  simp only [Option.any_eq_true, List.contains_iff_mem, mem_findIds]
  constructor
  · rintro ⟨i, rfl, t, ht, hp, rfl⟩
    exact ⟨t, ht, hp, rfl⟩
  · rintro ⟨t, ht, hp, rfl⟩
    exact ⟨t.id, rfl, t, ht, hp, rfl⟩

theorem contains_findIds (hr : r ∈ db.rows m) :
    (findIds db m p).contains r.id = true ↔ p r = true := by
  rw [List.contains_iff_mem, mem_findIds]
  constructor
  · rintro ⟨t, ht, hp, hid⟩
    rwa [eq_of_id (db.distinct m) ht hr hid] at hp
  · intro hp
    exact ⟨r, hr, hp, rfl⟩

theorem RefersTo.congr {P Q : Row → Prop} (h : ∀ t ∈ db.rows m, P t ↔ Q t) :
    RefersTo db m P ref ↔ RefersTo db m Q ref := by
  unfold RefersTo
  exact exists_congr fun t => and_congr_right fun ht => and_congr_left fun _ => h t ht

theorem mem_of_findUnique {id : Id} (h : findUnique db m id = some r) :
    r ∈ db.rows m ∧ r.id = id :=
  ⟨List.mem_of_find?_eq_some h, by simpa using List.find?_some h⟩

theorem findUnique_eq_some (hr : r ∈ db.rows m) : findUnique db m r.id = some r := by
  obtain ⟨found, hfound⟩ : ∃ found, findUnique db m r.id = some found := by
    rw [← Option.isSome_iff_exists, findUnique, List.find?_isSome]
    exact ⟨r, hr, by simp⟩
  obtain ⟨hmem, hid⟩ := mem_of_findUnique hfound
  rw [hfound, eq_of_id (db.distinct m) hmem hr hid]

/-- The event of a row, where it is not archived. -/
def NotArchived (db : Db) (eventId : Option Id) : Prop :=
  ∀ event ∈ db.rows .event, eventId = some event.id → event.data.status ≠ some .ARCHIVED

/-- A required reference names a row. -/
theorem exists_of_required {k : ForeignKey} (hk : schema.onDelete k = .restrict)
    (hr : r ∈ db.rows (schema.source k)) :
    ∃ t ∈ db.rows (schema.target k), r.ref k = some t.id := by
  obtain ⟨i, hi⟩ := Option.isSome_iff_exists.mp (db.required k hk r hr)
  obtain ⟨t, ht, rfl⟩ := db.sound k r hr i hi
  exact ⟨t, ht, hi⟩

theorem ensureEventCanBeModified_cases {k : ForeignKey} (hk : schema.onDelete k = .restrict)
    (htarget : schema.target k = .event) (hr : r ∈ db.rows (schema.source k)) :
    (NotArchived db (r.ref k) ∧ ensureEventCanBeModified db (r.ref k) = .ok ()) ∨
      ¬ NotArchived db (r.ref k) ∧
        ∃ e, IsHttp e ∧ ensureEventCanBeModified db (r.ref k) = .error e := by
  obtain ⟨event, hmem, href⟩ := exists_of_required hk hr
  rw [htarget] at hmem
  simp only [ensureEventCanBeModified, href, Option.bind_some, findUnique_eq_some hmem]
  by_cases harchived : event.data.status = some .ARCHIVED
  · rw [if_pos harchived]
    exact .inr ⟨fun h => h event hmem rfl harchived, .badRequest _, trivial, rfl⟩
  · rw [if_neg harchived]
    refine .inl ⟨fun event' hmem' hsame => ?_, rfl⟩
    rwa [eq_of_id (db.distinct .event) hmem' hmem (Option.some.inj hsame).symm]

/-- The row of the key, where it is there and its event is not archived. -/
theorem findModifiable_cases (db : Db) {k : ForeignKey} (message : String) (id : Id)
    (hk : schema.onDelete k = .restrict) (htarget : schema.target k = .event) :
    (∃ r ∈ db.rows (schema.source k), r.id = id ∧ NotArchived db (r.ref k) ∧
      findModifiable db k message id = .ok r) ∨
    (∀ r ∈ db.rows (schema.source k), r.id = id → ¬ NotArchived db (r.ref k)) ∧
      ∃ e, IsHttp e ∧ findModifiable db k message id = .error e := by
  unfold findModifiable
  cases hfound : findUnique db (schema.source k) id with
  | none =>
      refine .inr ⟨fun r hr hid => ?_, .notFound message, trivial, rfl⟩
      rw [← hid, findUnique_eq_some hr] at hfound
      cases hfound
  | some r =>
      obtain ⟨hmem, hid⟩ := mem_of_findUnique hfound
      rcases ensureEventCanBeModified_cases hk htarget hmem with
        ⟨hopen, hok⟩ | ⟨hclosed, e, he, herror⟩
      · exact .inl ⟨r, hmem, hid, hopen, by simp [hok]⟩
      · refine .inr ⟨fun r' hr' hid' => ?_, e, he, by simp [herror]⟩
        rwa [eq_of_id (db.distinct (schema.source k)) hr' hmem (hid'.trans hid.symm)]

theorem findModifiable_of_mem {k : ForeignKey} {message : String}
    (hk : schema.onDelete k = .restrict) (htarget : schema.target k = .event)
    (hr : r ∈ db.rows (schema.source k)) (hopen : NotArchived db (r.ref k)) :
    findModifiable db k message r.id = .ok r := by
  rcases findModifiable_cases db message r.id hk htarget with ⟨r', hr', hid, -, h⟩ | ⟨hclosed, -⟩
  · rw [h, eq_of_id (db.distinct (schema.source k)) hr' hr hid]
  · exact absurd hopen (hclosed r hr rfl)

/-- A row with the references that it has. -/
def row (id : Id) (refs : List (ForeignKey × Id)) (data : Fields := {}) : Row :=
  { id, ref := fun k => (refs.find? fun p => p.1 = k).map (·.2), data }

end CreativeBackend.Deletion
