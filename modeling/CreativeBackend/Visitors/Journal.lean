import CreativeBackend.Qr.Signing

/-!
# The journal of visitor changes

The triggers on `Registration` and `QrToken` insert a row into `VisitorChange` for
every write that a scanner has to see. The row takes the next value of the
AUTO_INCREMENT counter when the write is executed, and is visible to other queries
when its transaction commits; a transaction that rolls back leaves a gap.

## Implementation notes

A transaction holds its writes until it commits. The counter never moves back, also
where a statement fails after its trigger ran.
-/

namespace CreativeBackend

deriving instance BEq for Json

/-- The columns of `Registration` that the journal and its readers use. -/
structure VisitorRegistration extends Registration where
  syncedAt : Option Time := none

/-- The columns of `QrToken` that the journal and its readers use. -/
structure VisitorQrToken extends QrToken where
  updatedAt : Time := 0

inductive ChangeOperation where
  | UPSERT | DELETE
  deriving DecidableEq, Repr

structure VisitorChange where
  id : Nat
  eventId : Id
  registrationId : Id
  operation : ChangeOperation
  changedAt : Time
  deriving DecidableEq, Repr

/-- A write of a transaction, with the `OLD` and `NEW` rows of its triggers. -/
inductive VisitorWrite where
  | insertRegistration (new : VisitorRegistration)
  | updateRegistration (old new : VisitorRegistration)
  | deleteRegistration (old : VisitorRegistration)
  | insertQrToken (new : VisitorQrToken)
  | updateQrToken (old new : VisitorQrToken)

/-- The condition of `registration_visitor_change_after_update`. -/
def registrationDiffers (old new : VisitorRegistration) : Bool :=
  old.eventId != new.eventId || old.attendeeTypeId != new.attendeeTypeId ||
    old.status != new.status || old.source != new.source || old.fullName != new.fullName ||
    old.phone != new.phone || old.email != new.email || old.companyName != new.companyName ||
    old.jobTitle != new.jobTitle || old.externalId != new.externalId ||
    old.customFields != new.customFields || old.notes != new.notes ||
    old.registeredAt != new.registeredAt || old.syncedAt != new.syncedAt

/-- The condition of `qr_token_visitor_change_after_update`. -/
def qrTokenDiffers (old new : VisitorQrToken) : Bool :=
  old.tokenId != new.tokenId || old.status != new.status || old.validFrom != new.validFrom ||
    old.validUntil != new.validUntil || old.revokedAt != new.revokedAt

/-- The row that the triggers of a write insert, under an id and a time. -/
def VisitorWrite.change (id : Nat) (now : Time) : VisitorWrite → Option VisitorChange
  | .insertRegistration new => some ⟨id, new.eventId, new.id, .UPSERT, now⟩
  | .updateRegistration old new =>
      if registrationDiffers old new then some ⟨id, new.eventId, new.id, .UPSERT, now⟩ else none
  | .deleteRegistration old => some ⟨id, old.eventId, old.id, .DELETE, now⟩
  | .insertQrToken new => some ⟨id, new.eventId, new.registrationId, .UPSERT, now⟩
  | .updateQrToken old new =>
      if qrTokenDiffers old new then some ⟨id, new.eventId, new.registrationId, .UPSERT, now⟩
      else none

theorem VisitorWrite.id_of_change {id : Nat} {now : Time} {write : VisitorWrite}
    {c : VisitorChange} (h : write.change id now = some c) : c.id = id := by
  cases write with
  | insertRegistration new =>
      cases h
      rfl
  | updateRegistration old new =>
      simp only [change] at h
      split at h
      · cases h
        rfl
      · cases h
  | deleteRegistration old =>
      cases h
      rfl
  | insertQrToken new =>
      cases h
      rfl
  | updateQrToken old new =>
      simp only [change] at h
      split at h
      · cases h
        rfl
      · cases h

/-! ## Transactions -/

/-- An open transaction: its writes, and the journal rows of its triggers. -/
structure Transaction where
  writes : List VisitorWrite := []
  changes : List VisitorChange := []

/-- A transaction after one more write with the journal row of its trigger. -/
def Transaction.after (tx : Transaction) (write : VisitorWrite) (c : Option VisitorChange) :
    Transaction where
  writes := tx.writes ++ [write]
  changes := tx.changes ++ c.toList

/-- The committed rows, the open transactions and the AUTO_INCREMENT counter. No two rows
have one id, and the counter is past every id. -/
structure Journal where
  committed : List VisitorChange
  opens : List Transaction
  nextId : Nat
  distinct : ∀ a b, (a ∈ committed ∨ ∃ tx ∈ opens, a ∈ tx.changes) →
    (b ∈ committed ∨ ∃ tx ∈ opens, b ∈ tx.changes) → a.id = b.id → a = b
  bounded : ∀ a, (a ∈ committed ∨ ∃ tx ∈ opens, a ∈ tx.changes) → a.id < nextId

namespace Journal

/-- A row of an open transaction. -/
def Pending (j : Journal) (c : VisitorChange) : Prop := ∃ tx ∈ j.opens, c ∈ tx.changes

/-- A row that is committed or pending. -/
def Holds (j : Journal) (c : VisitorChange) : Prop := c ∈ j.committed ∨ j.Pending c

/-- The journal with other rows among those it holds. -/
def restrict (j : Journal) (committed : List VisitorChange) (opens : List Transaction)
    (h : ∀ a, (a ∈ committed ∨ ∃ tx ∈ opens, a ∈ tx.changes) → j.Holds a) : Journal where
  committed
  opens
  nextId := j.nextId
  distinct a b ha hb := j.distinct a b (h a ha) (h b hb)
  bounded a ha := j.bounded a (h a ha)

/-- `BEGIN`. -/
def begin (j : Journal) : Journal :=
  j.restrict j.committed (j.opens ++ [({} : Transaction)]) (by
    rintro a (ha | ⟨tx, htx, ha⟩)
    · exact .inl ha
    · rcases List.mem_append.mp htx with htx | htx
      · exact .inr ⟨tx, htx, ha⟩
      · rw [List.mem_singleton.mp htx] at ha
        cases ha)

/-- The counter moves on, and no row takes the id. -/
def skipId (j : Journal) : Journal where
  committed := j.committed
  opens := j.opens
  nextId := j.nextId + 1
  distinct := j.distinct
  bounded a ha := Nat.lt_succ_of_lt (j.bounded a ha)

/-- A write of the transaction at a position; its triggers take the next id. -/
def write (j : Journal) (i : Nat) (w : VisitorWrite) (now : Time) : Journal :=
  match ht : j.opens[i]? with
  | none => j
  | some tx =>
      have hold : ∀ a, (a ∈ j.committed ∨ ∃ other ∈ j.opens.set i
          (Transaction.after tx w (w.change j.nextId now)), a ∈ other.changes) →
          j.Holds a ∨ w.change j.nextId now = some a := by
        rintro a (ha | ⟨other, hother, ha⟩)
        · exact .inl (.inl ha)
        · rcases List.mem_or_eq_of_mem_set hother with hmem | rfl
          · exact .inl (.inr ⟨other, hmem, ha⟩)
          · rcases List.mem_append.mp ha with ha | ha
            · exact .inl (.inr ⟨tx, List.mem_of_getElem? ht, ha⟩)
            · exact .inr (Option.mem_toList.mp ha)
      { committed := j.committed
        opens := j.opens.set i (Transaction.after tx w (w.change j.nextId now))
        nextId := j.nextId + 1
        distinct := by
          intro a b ha hb hid
          rcases hold a ha with ha | ha <;> rcases hold b hb with hb | hb
          · exact j.distinct a b ha hb hid
          · have hlt := j.bounded a ha
            rw [hid, VisitorWrite.id_of_change hb] at hlt
            exact absurd hlt (Nat.lt_irrefl _)
          · have hlt := j.bounded b hb
            rw [← hid, VisitorWrite.id_of_change ha] at hlt
            exact absurd hlt (Nat.lt_irrefl _)
          · exact Option.some.inj (ha.symm.trans hb)
        bounded := by
          intro a ha
          rcases hold a ha with ha | ha
          · exact Nat.lt_succ_of_lt (j.bounded a ha)
          · rw [VisitorWrite.id_of_change ha]
            exact Nat.lt_succ_self _ }

/-- `COMMIT` of the transaction at a position. -/
def commit (j : Journal) (i : Nat) : Journal :=
  match ht : j.opens[i]? with
  | none => j
  | some tx => j.restrict (j.committed ++ tx.changes) (j.opens.eraseIdx i) (by
      rintro a (ha | ⟨other, hother, ha⟩)
      · rcases List.mem_append.mp ha with ha | ha
        · exact .inl ha
        · exact .inr ⟨tx, List.mem_of_getElem? ht, ha⟩
      · exact .inr ⟨other, List.mem_of_mem_eraseIdx hother, ha⟩)

/-- `ROLLBACK` of the transaction at a position. -/
def rollback (j : Journal) (i : Nat) : Journal :=
  j.restrict j.committed (j.opens.eraseIdx i) (by
    rintro a (ha | ⟨other, hother, ha⟩)
    · exact .inl ha
    · exact .inr ⟨other, List.mem_of_mem_eraseIdx hother, ha⟩)

/-! ## What the writers do -/

/-- A later journal: rows stay committed, and what is new had been pending or has a new id. -/
structure Later (j j' : Journal) : Prop where
  kept : ∀ c ∈ j.committed, c ∈ j'.committed
  committed : ∀ c ∈ j'.committed, j.Holds c ∨ j.nextId ≤ c.id
  pending : ∀ c, j'.Pending c → j.Pending c ∨ j.nextId ≤ c.id
  nextId : j.nextId ≤ j'.nextId

variable {j j' j'' : Journal}

theorem Later.refl (j : Journal) : Later j j where
  kept _ hc := hc
  committed _ hc := .inl (.inl hc)
  pending _ hc := .inl hc
  nextId := Nat.le_refl _

theorem Later.trans (h : Later j j') (h' : Later j' j'') : Later j j'' where
  kept c hc := h'.kept c (h.kept c hc)
  committed c hc := by
    rcases h'.committed c hc with (hc | hc) | hle
    · exact h.committed c hc
    · exact (h.pending c hc).imp_left .inr
    · exact .inr (h.nextId.trans hle)
  pending c hc := by
    rcases h'.pending c hc with hc | hle
    · exact h.pending c hc
    · exact .inr (h.nextId.trans hle)
  nextId := h.nextId.trans h'.nextId

theorem later_begin (j : Journal) : Later j j.begin where
  kept _ hc := hc
  committed _ hc := .inl (.inl hc)
  pending c := by
    rintro ⟨tx, htx, hc⟩
    rcases List.mem_append.mp htx with htx | htx
    · exact .inl ⟨tx, htx, hc⟩
    · rw [List.mem_singleton.mp htx] at hc
      cases hc
  nextId := Nat.le_refl _

theorem later_skipId (j : Journal) : Later j j.skipId where
  kept _ hc := hc
  committed _ hc := .inl (.inl hc)
  pending _ hc := .inl hc
  nextId := Nat.le_succ _

theorem later_write (j : Journal) (i : Nat) (w : VisitorWrite) (now : Time) :
    Later j (j.write i w now) := by
  unfold write
  split
  · exact .refl j
  · next tx ht =>
      constructor
      · exact fun _ hc => hc
      · exact fun _ hc => .inl (.inl hc)
      · rintro c ⟨other, hother, hc⟩
        rcases List.mem_or_eq_of_mem_set hother with hmem | rfl
        · exact .inl ⟨other, hmem, hc⟩
        · rcases List.mem_append.mp hc with hc | hc
          · exact .inl ⟨tx, List.mem_of_getElem? ht, hc⟩
          · have hid : c.id = j.nextId := VisitorWrite.id_of_change (Option.mem_toList.mp hc)
            exact .inr (Nat.le_of_eq hid.symm)
      · exact Nat.le_succ _

theorem later_commit (j : Journal) (i : Nat) : Later j (j.commit i) := by
  unfold commit
  split
  · exact .refl j
  · next tx ht =>
      constructor
      · exact fun c hc => List.mem_append_left _ hc
      · intro c hc
        rcases List.mem_append.mp hc with hc | hc
        · exact .inl (.inl hc)
        · exact .inl (.inr ⟨tx, List.mem_of_getElem? ht, hc⟩)
      · rintro c ⟨other, hother, hc⟩
        exact .inl ⟨other, List.mem_of_mem_eraseIdx hother, hc⟩
      · exact Nat.le_refl _

theorem later_rollback (j : Journal) (i : Nat) : Later j (j.rollback i) where
  kept _ hc := hc
  committed _ hc := .inl (.inl hc)
  pending c := by
    rintro ⟨tx, htx, hc⟩
    exact .inl ⟨tx, List.mem_of_mem_eraseIdx htx, hc⟩
  nextId := Nat.le_refl _

end Journal

end CreativeBackend
