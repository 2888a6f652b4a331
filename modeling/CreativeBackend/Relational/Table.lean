import Mathlib.Data.List.Nodup
import Mathlib.Logic.Function.Basic

/-!
# Tables with unique keys

A table is a list of rows with a primary key, drawn from an infinite supply and
never handed out twice, and unique indexes. Both kinds of uniqueness are fields
of the table, so a table that violates an index cannot be built: an insertion
or an update that would violate one answers so instead.

`Evolves` relates an earlier table to a later one. It says that a row that is
found under an old key still has the part `core` that updates leave alone, also
when rows were deleted in between.
-/

namespace CreativeBackend.Relational

/-- Rows with a primary key. `clash` holds when a further unique index of the two
rows has equal values. -/
class Record (ρ : Type) (κ : outParam Type) where
  key : ρ → κ
  withKey : κ → ρ → ρ
  key_withKey : ∀ k a, key (withKey k a) = k
  clash : ρ → ρ → Bool

/-- An endless supply of distinct keys. -/
class KeySupply (κ : Type) where
  fresh : Nat → κ
  fresh_injective : Function.Injective fresh

export Record (key withKey key_withKey clash)
export KeySupply (fresh fresh_injective)

attribute [simp] key_withKey

/-- Rows with distinct keys that respect every unique index; `serial` is the next
key to hand out. -/
structure Table (ρ : Type) {κ : Type} [Record ρ κ] [KeySupply κ] where
  rows : List ρ
  serial : Nat
  nodup : (rows.map key).Nodup
  distinct : ∀ a ∈ rows, ∀ b ∈ rows, clash a b = true → key a = key b
  bounded : ∀ a ∈ rows, ∀ n, key a = fresh n → n < serial

/-- The answers to an update by primary key. -/
inductive Updated (ρ : Type) {κ : Type} [Record ρ κ] [KeySupply κ] where
  | missing
  | duplicate
  | done (row : ρ) (table : Table ρ)

namespace Table

variable {ρ κ γ : Type} [Record ρ κ] [KeySupply κ]

/-- The empty table. -/
def empty : Table ρ where
  rows := []
  serial := 0
  nodup := by simp
  distinct := by simp
  bounded := by simp

/-- Two rows with one key are the same row. -/
theorem eq_of_key (t : Table ρ) {a b : ρ} (ha : a ∈ t.rows) (hb : b ∈ t.rows)
    (h : key a = key b) : a = b :=
  List.inj_on_of_nodup_map t.nodup ha hb h

/-- Two rows that share a unique index are the same row. -/
theorem eq_of_clash (t : Table ρ) {a b : ρ} (ha : a ∈ t.rows) (hb : b ∈ t.rows)
    (h : clash a b = true) : a = b :=
  t.eq_of_key ha hb (t.distinct a ha b hb h)

/-- The next key is not in use. -/
theorem key_ne_fresh (t : Table ρ) {a : ρ} (ha : a ∈ t.rows) {n : Nat} (hn : t.serial ≤ n) :
    key a ≠ fresh n :=
  fun h => absurd (t.bounded a ha n h) (Nat.not_lt.mpr hn)

/-- Insert a row under the next key, unless it violates a unique index. -/
def create (t : Table ρ) (data : ρ) : Option (ρ × Table ρ) :=
  let row := withKey (fresh t.serial) data
  if h : (t.rows.any fun b => clash row b || clash b row) = true then none
  else some (row, {
    rows := t.rows ++ [row]
    serial := t.serial + 1
    nodup := by
      rw [List.map_append, List.map_singleton, List.nodup_append]
      refine ⟨t.nodup, by simp, fun k hk k' hk' => ?_⟩
      obtain ⟨a, ha, rfl⟩ := List.mem_map.mp hk
      rw [List.mem_singleton.mp hk', key_withKey]
      exact t.key_ne_fresh ha (Nat.le_refl _)
    distinct := by
      have hno : ∀ b ∈ t.rows, clash row b = false ∧ clash b row = false := by
        intro b hb
        have := fun hc => h (List.any_eq_true.mpr ⟨b, hb, hc⟩)
        revert this
        cases clash row b <;> cases clash b row <;> simp
      intro a ha b hb hc
      rcases List.mem_append.mp ha with ha | ha <;> rcases List.mem_append.mp hb with hb | hb
      · exact t.distinct a ha b hb hc
      · rw [List.mem_singleton.mp hb, (hno a ha).2] at hc
        cases hc
      · rw [List.mem_singleton.mp ha, (hno b hb).1] at hc
        cases hc
      · rw [List.mem_singleton.mp ha, List.mem_singleton.mp hb]
    bounded := by
      intro a ha n hn
      rcases List.mem_append.mp ha with ha | ha
      · exact Nat.lt_succ_of_lt (t.bounded a ha n hn)
      · rw [List.mem_singleton.mp ha, key_withKey] at hn
        exact Nat.lt_succ_of_le (Nat.le_of_eq (fresh_injective hn).symm) })

variable [DecidableEq κ]

/-- The row under a primary key. -/
def find? (t : Table ρ) (k : κ) : Option ρ := t.rows.find? fun a => key a = k

theorem find?_eq_some_iff {t : Table ρ} {k : κ} {a : ρ} :
    t.find? k = some a ↔ a ∈ t.rows ∧ key a = k := by
  constructor
  · intro h
    exact ⟨List.mem_of_find?_eq_some h, by simpa using List.find?_some h⟩
  · rintro ⟨ha, rfl⟩
    cases hf : t.find? (key a) with
    | none => exact absurd (List.find?_eq_none.mp hf a ha) (by simp)
    | some b =>
        have hb : key b = key a := by simpa using List.find?_some hf
        rw [t.eq_of_key (List.mem_of_find?_eq_some hf) ha hb]

theorem find?_eq_none_iff {t : Table ρ} {k : κ} :
    t.find? k = none ↔ ∀ a ∈ t.rows, key a ≠ k := by
  simp [find?, List.find?_eq_none]

/-- Change the row under a key, keeping the key. -/
def update (t : Table ρ) (k : κ) (f : ρ → ρ) : Updated ρ :=
  match t.find? k with
  | none => .missing
  | some a =>
      let row := withKey k (f a)
      if h : (t.rows.any fun b => key b ≠ k && (clash row b || clash b row)) = true then .duplicate
      else .done row {
        rows := t.rows.map fun b => if key b = k then row else b
        serial := t.serial
        nodup := by
          have : (t.rows.map fun b => if key b = k then row else b).map key = t.rows.map key := by
            rw [List.map_map]
            refine List.map_congr_left fun b _ => ?_
            by_cases hb : key b = k <;> simp [hb, row]
          exact this ▸ t.nodup
        distinct := by
          have hno : ∀ b ∈ t.rows, key b ≠ k → clash row b = false ∧ clash b row = false := by
            intro b hb hk
            have := fun hc => h (List.any_eq_true.mpr ⟨b, hb, hc⟩)
            revert this
            cases clash row b <;> cases clash b row <;> simp [hk]
          intro a ha b hb hc
          obtain ⟨a₀, ha₀, rfl⟩ := List.mem_map.mp ha
          obtain ⟨b₀, hb₀, rfl⟩ := List.mem_map.mp hb
          by_cases hak : key a₀ = k <;> by_cases hbk : key b₀ = k <;>
            simp only [hak, hbk, if_true, if_false] at hc ⊢
          · rw [(hno b₀ hb₀ hbk).1] at hc
            cases hc
          · rw [(hno a₀ ha₀ hak).2] at hc
            cases hc
          · exact t.distinct a₀ ha₀ b₀ hb₀ hc
        bounded := by
          intro a ha n hn
          obtain ⟨b, hb, rfl⟩ := List.mem_map.mp ha
          by_cases hk : key b = k
          · exact t.bounded b hb n (by simpa [hk, row] using hn)
          · exact t.bounded b hb n (by simpa [hk] using hn) }

/-- Remove the row under a key. -/
def delete (t : Table ρ) (k : κ) : Table ρ where
  rows := t.rows.filter fun a => key a ≠ k
  serial := t.serial
  nodup := t.nodup.sublist (List.filter_sublist.map key)
  distinct := fun a ha b hb => t.distinct a (List.mem_of_mem_filter ha) b (List.mem_of_mem_filter hb)
  bounded := fun a ha => t.bounded a (List.mem_of_mem_filter ha)

/-- Remove the rows with a property. -/
def deleteMany (t : Table ρ) (p : ρ → Bool) : Table ρ where
  rows := t.rows.filter fun a => !p a
  serial := t.serial
  nodup := t.nodup.sublist (List.filter_sublist.map key)
  distinct := fun a ha b hb => t.distinct a (List.mem_of_mem_filter ha) b (List.mem_of_mem_filter hb)
  bounded := fun a ha => t.bounded a (List.mem_of_mem_filter ha)

/-- Change every row, keeping the keys, where no two rows come to clash. -/
def mapRows (t : Table ρ) (f : ρ → ρ) (hkey : ∀ a, key (f a) = key a)
    (hclash : ∀ a b, clash (f a) (f b) = true → clash a b = true) : Table ρ where
  rows := t.rows.map f
  serial := t.serial
  nodup := by
    have h : (t.rows.map f).map key = t.rows.map key := by
      rw [List.map_map]
      exact List.map_congr_left fun a _ => hkey a
    exact h ▸ t.nodup
  distinct := by
    intro a ha b hb hc
    obtain ⟨a₀, ha₀, rfl⟩ := List.mem_map.mp ha
    obtain ⟨b₀, hb₀, rfl⟩ := List.mem_map.mp hb
    rw [hkey, hkey]
    exact t.distinct a₀ ha₀ b₀ hb₀ (hclash a₀ b₀ hc)
  bounded := by
    intro a ha n hn
    obtain ⟨b, hb, rfl⟩ := List.mem_map.mp ha
    exact t.bounded b hb n (by rw [← hkey, hn])

theorem find?_mapRows (t : Table ρ) {f : ρ → ρ} (hkey : ∀ a, key (f a) = key a)
    (hclash : ∀ a b, clash (f a) (f b) = true → clash a b = true) (k : κ) :
    (t.mapRows f hkey hclash).find? k = (t.find? k).map f := by
  have hkeys : (fun a => decide (key a = k)) ∘ f = fun a => decide (key a = k) := by
    funext a
    simp [hkey]
  simp only [find?, mapRows, List.find?_map, hkeys]

/-- Insert rows in order, skipping those that violate a unique index. -/
def ofData (data : List ρ) : Table ρ :=
  data.foldl (fun t d => match t.create d with | some (_, t') => t' | none => t) empty

omit [DecidableEq κ] in
/-- What an insertion does. -/
theorem create_eq_some {t t' : Table ρ} {data row : ρ} (h : t.create data = some (row, t')) :
    row = withKey (fresh t.serial) data ∧ t'.rows = t.rows ++ [row] ∧
      t'.serial = t.serial + 1 := by
  simp only [create] at h
  split at h
  · cases h
  · cases h
    exact ⟨rfl, rfl, rfl⟩

omit [DecidableEq κ] in
theorem mem_create {t t' : Table ρ} {data row a : ρ} (h : t.create data = some (row, t')) :
    a ∈ t'.rows ↔ a ∈ t.rows ∨ a = row := by
  rw [(create_eq_some h).2.1]
  simp

omit [DecidableEq κ] in
/-- An inserted row agrees with no earlier row on a unique index. -/
theorem not_clash_of_create {t t' : Table ρ} {data row : ρ}
    (h : t.create data = some (row, t')) {b : ρ} (hb : b ∈ t.rows) : clash b row ≠ true := by
  intro hc
  have hk : key b = key row :=
    t'.distinct b ((mem_create h).mpr (.inl hb)) row ((mem_create h).mpr (.inr rfl)) hc
  rw [(create_eq_some h).1, key_withKey] at hk
  exact t.key_ne_fresh hb (Nat.le_refl _) hk

omit [DecidableEq κ] in
/-- A row that agrees with no earlier row on a unique index can be inserted. -/
theorem exists_create {t : Table ρ} {data : ρ}
    (h : ∀ b ∈ t.rows, clash (withKey (fresh t.serial) data) b = false ∧
      clash b (withKey (fresh t.serial) data) = false) :
    ∃ t', t.create data = some (withKey (fresh t.serial) data, t') := by
  have hno : ¬ (t.rows.any fun b => clash (withKey (fresh t.serial) data) b ||
      clash b (withKey (fresh t.serial) data)) = true := by
    intro hclash
    obtain ⟨b, hb, hc⟩ := List.any_eq_true.mp hclash
    rw [(h b hb).1, (h b hb).2] at hc
    cases hc
  exact ⟨_, dif_neg hno⟩

/-- An update after which the row agrees with no other row on a unique index succeeds. -/
theorem exists_update_of_free {t : Table ρ} {a : ρ} (ha : a ∈ t.rows) {f : ρ → ρ}
    (h : ∀ b ∈ t.rows, key b ≠ key a → clash (withKey (key a) (f a)) b = false ∧
      clash b (withKey (key a) (f a)) = false) :
    ∃ t', t.update (key a) f = .done (withKey (key a) (f a)) t' := by
  have hfind : t.find? (key a) = some a := find?_eq_some_iff.mpr ⟨ha, rfl⟩
  have hno : ¬ (t.rows.any fun b => key b ≠ key a && (clash (withKey (key a) (f a)) b ||
      clash b (withKey (key a) (f a)))) = true := by
    intro hclash
    obtain ⟨c, hc, hcc⟩ := List.any_eq_true.mp hclash
    simp only [Bool.and_eq_true, decide_eq_true_eq] at hcc
    rw [(h c hc hcc.1).1, (h c hc hcc.1).2] at hcc
    cases hcc.2
  simp only [update, hfind]
  rw [dif_neg hno]
  exact ⟨_, rfl⟩

/-- An update that leaves the unique indexes of a row alone succeeds. -/
theorem exists_update {t : Table ρ} {a : ρ} (ha : a ∈ t.rows) {f : ρ → ρ}
    (h : ∀ b ∈ t.rows, clash (withKey (key a) (f a)) b = clash a b ∧
      clash b (withKey (key a) (f a)) = clash b a) :
    ∃ t', t.update (key a) f = .done (withKey (key a) (f a)) t' := by
  apply exists_update_of_free ha
  intro b hb hne
  rw [(h b hb).1, (h b hb).2]
  constructor
  · exact Bool.eq_false_iff.mpr fun hab => hne (t.distinct a ha b hb hab).symm
  · exact Bool.eq_false_iff.mpr fun hba => hne (t.distinct b hb a ha hba)

/-- What an update does. -/
theorem update_eq_done {t t' : Table ρ} {k : κ} {f : ρ → ρ} {row : ρ}
    (h : t.update k f = .done row t') :
    ∃ a ∈ t.rows, key a = k ∧ row = withKey k (f a) ∧
      t'.rows = (t.rows.map fun b => if key b = k then row else b) ∧ t'.serial = t.serial := by
  simp only [update] at h
  split at h
  · cases h
  · next a ha =>
      obtain ⟨ham, hak⟩ := find?_eq_some_iff.mp ha
      split at h
      · cases h
      · cases h
        exact ⟨a, ham, hak, rfl, rfl, rfl⟩

theorem mem_update {t t' : Table ρ} {k : κ} {f : ρ → ρ} {row a : ρ}
    (h : t.update k f = .done row t') :
    a ∈ t'.rows ↔ (a ∈ t.rows ∧ key a ≠ k) ∨ a = row := by
  obtain ⟨a₀, ha₀, hk₀, -, hrows, -⟩ := update_eq_done h
  rw [hrows, List.mem_map]
  constructor
  · rintro ⟨b, hb, rfl⟩
    by_cases hk : key b = k
    · exact .inr (by simp [hk])
    · exact .inl (by simp [hk, hb])
  · rintro (⟨ha, hk⟩ | rfl)
    · exact ⟨a, ha, by simp [hk]⟩
    · exact ⟨a₀, ha₀, by simp [hk₀]⟩

theorem mem_delete {t : Table ρ} {k : κ} {a : ρ} :
    a ∈ (t.delete k).rows ↔ a ∈ t.rows ∧ key a ≠ k := by
  simp [delete]

omit [DecidableEq κ] in
theorem mem_deleteMany {t : Table ρ} {p : ρ → Bool} {a : ρ} :
    a ∈ (t.deleteMany p).rows ↔ a ∈ t.rows ∧ p a = false := by
  simp [deleteMany]

/-- The rows under the keys after an insertion. -/
theorem find?_create {t t' : Table ρ} {data row : ρ} (h : t.create data = some (row, t')) (k : κ) :
    t'.find? k = if k = fresh t.serial then some row else t.find? k := by
  obtain ⟨hrow, -, -⟩ := create_eq_some h
  have hkey : key row = fresh t.serial := by rw [hrow, key_withKey]
  split
  · next hk => exact find?_eq_some_iff.mpr ⟨(mem_create h).mpr (.inr rfl), hkey.trans hk.symm⟩
  · next hk =>
      apply Option.ext
      intro a
      rw [find?_eq_some_iff, find?_eq_some_iff, mem_create h]
      constructor
      · rintro ⟨ha | rfl, hak⟩
        · exact ⟨ha, hak⟩
        · exact absurd (hak.symm.trans hkey) hk
      · exact fun ⟨ha, hak⟩ => ⟨.inl ha, hak⟩

/-- The rows under the keys after an update. -/
theorem find?_update {t t' : Table ρ} {k : κ} {f : ρ → ρ} {row : ρ}
    (h : t.update k f = .done row t') (k' : κ) :
    t'.find? k' = if k' = k then some row else t.find? k' := by
  obtain ⟨_, _, _, hrow, _, _⟩ := update_eq_done h
  have hkey : key row = k := by rw [hrow, key_withKey]
  split
  · next hk => exact find?_eq_some_iff.mpr ⟨(mem_update h).mpr (.inr rfl), hkey.trans hk.symm⟩
  · next hk =>
      apply Option.ext
      intro a
      rw [find?_eq_some_iff, find?_eq_some_iff, mem_update h]
      constructor
      · rintro ⟨⟨ha, -⟩ | rfl, hak⟩
        · exact ⟨ha, hak⟩
        · exact absurd (hak.symm.trans hkey) hk
      · exact fun ⟨ha, hak⟩ => ⟨.inl ⟨ha, fun heq => hk (hak.symm.trans heq)⟩, hak⟩

/-- The rows under the keys after a deletion. -/
theorem find?_deleteMany (t : Table ρ) (p : ρ → Bool) (k : κ) :
    (t.deleteMany p).find? k = (t.find? k).filter fun a => !p a := by
  apply Option.ext
  intro a
  rw [find?_eq_some_iff, mem_deleteMany, Option.filter_eq_some_iff, find?_eq_some_iff]
  simp only [Bool.not_eq_true']
  constructor
  · exact fun ⟨⟨ha, hp⟩, hk⟩ => ⟨⟨ha, hk⟩, hp⟩
  · exact fun ⟨⟨ha, hk⟩, hp⟩ => ⟨⟨ha, hp⟩, hk⟩

/-- The later table holds, under keys of the earlier one, rows with the same core. -/
def Evolves (core : ρ → γ) (t t' : Table ρ) : Prop :=
  t.serial ≤ t'.serial ∧
    ∀ b ∈ t'.rows, (∃ a ∈ t.rows, key a = key b ∧ core a = core b) ∨
      ∃ n, t.serial ≤ n ∧ key b = fresh n

/-- No row of the earlier table has disappeared. -/
def Keeps (t t' : Table ρ) : Prop := ∀ a ∈ t.rows, ∃ b ∈ t'.rows, key b = key a

section Evolves

omit [DecidableEq κ]

variable {core : ρ → γ} {t t' t'' : Table ρ}

theorem Evolves.refl (t : Table ρ) : t.Evolves core t :=
  ⟨Nat.le_refl _, fun b hb => .inl ⟨b, hb, rfl, rfl⟩⟩

theorem Evolves.trans (h : t.Evolves core t') (h' : t'.Evolves core t'') :
    t.Evolves core t'' := by
  refine ⟨Nat.le_trans h.1 h'.1, fun c hc => ?_⟩
  rcases h'.2 c hc with ⟨b, hb, hkb, hcb⟩ | ⟨n, hn, hk⟩
  · rcases h.2 b hb with ⟨a, ha, hka, hca⟩ | ⟨n, hn, hk⟩
    · exact .inl ⟨a, ha, hka.trans hkb, hca.trans hcb⟩
    · exact .inr ⟨n, hn, hkb ▸ hk⟩
  · exact .inr ⟨n, Nat.le_trans h.1 hn, hk⟩

/-- A row found later under an old key has the old core. -/
theorem Evolves.core_eq (h : t.Evolves core t') {a b : ρ} (ha : a ∈ t.rows)
    (hb : b ∈ t'.rows) (hk : key a = key b) : core a = core b := by
  rcases h.2 b hb with ⟨a', ha', hka, hc⟩ | ⟨n, hn, hkb⟩
  · rw [t.eq_of_key ha ha' (hk.trans hka.symm)]
    exact hc
  · exact absurd (hk.trans hkb) (t.key_ne_fresh ha hn)

theorem Evolves.create {data row : ρ} (h : t.create data = some (row, t')) :
    t.Evolves core t' := by
  obtain ⟨hrow, -, hs⟩ := create_eq_some h
  refine ⟨by omega, fun b hb => ?_⟩
  rcases (mem_create h).mp hb with hb | rfl
  · exact .inl ⟨b, hb, rfl, rfl⟩
  · exact .inr ⟨t.serial, Nat.le_refl _, by rw [hrow, key_withKey]⟩

theorem Keeps.refl (t : Table ρ) : t.Keeps t := fun a ha => ⟨a, ha, rfl⟩

theorem Keeps.trans (h : t.Keeps t') (h' : t'.Keeps t'') : t.Keeps t'' := by
  intro a ha
  obtain ⟨b, hb, hkb⟩ := h a ha
  obtain ⟨c, hc, hkc⟩ := h' b hb
  exact ⟨c, hc, hkc.trans hkb⟩

theorem Keeps.create {data row : ρ} (h : t.create data = some (row, t')) : t.Keeps t' :=
  fun a ha => ⟨a, (mem_create h).mpr (.inl ha), rfl⟩

end Evolves

section Update

variable {core : ρ → γ} {t t' : Table ρ}

theorem Evolves.update {k : κ} {f : ρ → ρ} {row : ρ} (h : t.update k f = .done row t')
    (hf : ∀ a, core (withKey k (f a)) = core a) : t.Evolves core t' := by
  obtain ⟨a, ha, hka, hrow, -, hs⟩ := update_eq_done h
  refine ⟨Nat.le_of_eq hs.symm, fun b hb => ?_⟩
  rcases (mem_update h).mp hb with ⟨hb, -⟩ | rfl
  · exact .inl ⟨b, hb, rfl, rfl⟩
  · exact .inl ⟨a, ha, by rw [hrow, key_withKey, hka], by rw [hrow, hf]⟩

theorem Keeps.update {k : κ} {f : ρ → ρ} {row : ρ} (h : t.update k f = .done row t') :
    t.Keeps t' := by
  obtain ⟨_, _, _, hrow, _, _⟩ := update_eq_done h
  intro b hb
  by_cases hk : key b = k
  · exact ⟨row, (mem_update h).mpr (.inr rfl), by rw [hrow, key_withKey, hk]⟩
  · exact ⟨b, (mem_update h).mpr (.inl ⟨hb, hk⟩), rfl⟩

theorem Evolves.delete (t : Table ρ) (k : κ) : t.Evolves core (t.delete k) :=
  ⟨Nat.le_refl _, fun b hb => .inl ⟨b, (mem_delete.mp hb).1, rfl, rfl⟩⟩

end Update

/-! ## Values that rows keep -/

/-- The row under the key has the value. -/
def Has (t : Table ρ) (f : ρ → γ) (k : κ) (c : γ) : Prop := ∃ a ∈ t.rows, key a = k ∧ f a = c

/-- The rows stay, each with its value. -/
structure Retains (f : ρ → γ) (t t' : Table ρ) : Prop where
  evolves : t.Evolves f t'
  keeps : t.Keeps t'

section Retains

omit [DecidableEq κ]

variable {f : ρ → γ} {t t' t'' : Table ρ}

theorem Has.of_mem {a : ρ} (ha : a ∈ t.rows) : t.Has f (key a) (f a) := ⟨a, ha, rfl, rfl⟩

theorem Has.eq {k : κ} {c : γ} (h : t.Has f k c) {a : ρ} (ha : a ∈ t.rows) (hk : key a = k) :
    f a = c := by
  obtain ⟨b, hb, hbk, hbc⟩ := h
  rw [t.eq_of_key ha hb (hk.trans hbk.symm)]
  exact hbc

theorem Retains.refl (t : Table ρ) : t.Retains f t := ⟨.refl t, .refl t⟩

theorem Retains.of_eq (h : t' = t) : t.Retains f t' := by
  subst h
  exact .refl t'

theorem Retains.trans (h : t.Retains f t') (h' : t'.Retains f t'') : t.Retains f t'' :=
  ⟨h.evolves.trans h'.evolves, h.keeps.trans h'.keeps⟩

theorem Retains.create {data row : ρ} (h : t.create data = some (row, t')) : t.Retains f t' :=
  ⟨.create h, .create h⟩

theorem Retains.mapRows (t : Table ρ) {g : ρ → ρ} (hkey : ∀ a, key (g a) = key a)
    (hclash : ∀ a b, clash (g a) (g b) = true → clash a b = true) (hg : ∀ a, f (g a) = f a) :
    t.Retains f (t.mapRows g hkey hclash) := by
  constructor
  · refine ⟨Nat.le_refl _, fun b hb => ?_⟩
    obtain ⟨a, ha, rfl⟩ := List.mem_map.mp hb
    exact .inl ⟨a, ha, (hkey a).symm, (hg a).symm⟩
  · intro a ha
    exact ⟨g a, List.mem_map_of_mem ha, hkey a⟩

theorem Has.retained {k : κ} {c : γ} (h : t.Has f k c) (hr : t.Retains f t') : t'.Has f k c := by
  obtain ⟨a, ha, hk, hc⟩ := h
  obtain ⟨b, hb, hbk⟩ := hr.keeps a ha
  have hcore : f a = f b := hr.evolves.core_eq ha hb hbk.symm
  exact ⟨b, hb, hbk.trans hk, hcore.symm.trans hc⟩

end Retains

theorem Retains.update {f : ρ → γ} {t t' : Table ρ} {k : κ} {g : ρ → ρ} {row : ρ}
    (h : t.update k g = .done row t') (hg : ∀ a, f (withKey k (g a)) = f a) : t.Retains f t' :=
  ⟨.update h hg, .update h⟩

end Table

end CreativeBackend.Relational
