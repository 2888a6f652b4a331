import CreativeBackend.Relational.Table

/-!
# Rows that are alone in their group

`Alone live group t` says that the live rows of a table are told apart by `group`: one per group at
most. `Remains r t t'` says that no row of the later table is new, and that each is related to the
row that it was, and `Persists r t t'` that no row has gone. A row that is live no longer is
`Retired`, as its key is not handed out again.
-/

namespace CreativeBackend.Relational

namespace Table

variable {ρ κ γ : Type} [Record ρ κ] [KeySupply κ]

/-- A group has at most one live row. -/
def Alone (live : ρ → Prop) (group : ρ → γ) (t : Table ρ) : Prop :=
  ∀ a ∈ t.rows, ∀ b ∈ t.rows, live a → live b → group a = group b → a = b

/-- Every later row was there earlier, and is related to what it was. -/
structure Remains (r : ρ → ρ → Prop) (t t' : Table ρ) : Prop where
  serial : t.serial ≤ t'.serial
  rows : ∀ b ∈ t'.rows, ∃ a ∈ t.rows, key a = key b ∧ r a b

/-- The key has been handed out, and no live row is found under it. -/
structure Retired (live : ρ → Prop) (k : κ) (t : Table ρ) : Prop where
  used : ∀ n, k = fresh n → n < t.serial
  idle : ∀ b ∈ t.rows, key b = k → ¬ live b

variable {r : ρ → ρ → Prop} {live : ρ → Prop} {group : ρ → γ} {t t' t'' : Table ρ}

section Remains

theorem Remains.refl (hr : ∀ a, r a a) (t : Table ρ) : t.Remains r t :=
  ⟨Nat.le_refl _, fun b hb => ⟨b, hb, rfl, hr b⟩⟩

theorem Remains.trans (hr : ∀ a b c, r a b → r b c → r a c) (h : t.Remains r t')
    (h' : t'.Remains r t'') : t.Remains r t'' := by
  refine ⟨Nat.le_trans h.serial h'.serial, fun c hc => ?_⟩
  obtain ⟨b, hb, hkb, hbc⟩ := h'.rows c hc
  obtain ⟨a, ha, hka, hab⟩ := h.rows b hb
  exact ⟨a, ha, hka.trans hkb, hr a b c hab hbc⟩

theorem Remains.mono {r' : ρ → ρ → Prop} (h : t.Remains r t') (hr : ∀ a b, r a b → r' a b) :
    t.Remains r' t' := by
  refine ⟨h.serial, fun b hb => ?_⟩
  obtain ⟨a, ha, hk, hab⟩ := h.rows b hb
  exact ⟨a, ha, hk, hr a b hab⟩

theorem Remains.mapRows (t : Table ρ) {f : ρ → ρ} (hkey : ∀ a, key (f a) = key a)
    (hclash : ∀ a b, clash (f a) (f b) = true → clash a b = true) (hf : ∀ a, r a (f a)) :
    t.Remains r (t.mapRows f hkey hclash) := by
  refine ⟨Nat.le_refl _, fun b hb => ?_⟩
  obtain ⟨a, ha, rfl⟩ := List.mem_map.mp hb
  exact ⟨a, ha, (hkey a).symm, hf a⟩

theorem Remains.update [DecidableEq κ] {k : κ} {f : ρ → ρ} {row : ρ}
    (h : t.update k f = .done row t') (hr : ∀ a, r a a) (hf : ∀ a, r a (withKey k (f a))) :
    t.Remains r t' := by
  obtain ⟨a, ha, hka, hrow, -, hserial⟩ := update_eq_done h
  refine ⟨Nat.le_of_eq hserial.symm, fun b hb => ?_⟩
  rcases (mem_update h).mp hb with ⟨hb, -⟩ | rfl
  · exact ⟨b, hb, rfl, hr b⟩
  · exact ⟨a, ha, by rw [hrow, key_withKey, hka], hrow ▸ hf a⟩

end Remains

/-! ## The rows that stay -/

/-- Every earlier row is there later, and what it was is related to what it is. -/
def Persists (r : ρ → ρ → Prop) (t t' : Table ρ) : Prop :=
  ∀ a ∈ t.rows, ∃ b ∈ t'.rows, key b = key a ∧ r a b

section Persists

theorem Persists.refl (hr : ∀ a, r a a) (t : Table ρ) : t.Persists r t :=
  fun a ha => ⟨a, ha, rfl, hr a⟩

theorem Persists.trans (hr : ∀ a b c, r a b → r b c → r a c) (h : t.Persists r t')
    (h' : t'.Persists r t'') : t.Persists r t'' := by
  intro a ha
  obtain ⟨b, hb, hkb, hab⟩ := h a ha
  obtain ⟨c, hc, hkc, hbc⟩ := h' b hb
  exact ⟨c, hc, hkc.trans hkb, hr a b c hab hbc⟩

theorem Persists.create {data row : ρ} (hr : ∀ a, r a a) (h : t.create data = some (row, t')) :
    t.Persists r t' :=
  fun a ha => ⟨a, (mem_create h).mpr (.inl ha), rfl, hr a⟩

theorem Persists.mapRows (t : Table ρ) {f : ρ → ρ} (hkey : ∀ a, key (f a) = key a)
    (hclash : ∀ a b, clash (f a) (f b) = true → clash a b = true) (hf : ∀ a, r a (f a)) :
    t.Persists r (t.mapRows f hkey hclash) :=
  fun a ha => ⟨f a, List.mem_map_of_mem ha, hkey a, hf a⟩

theorem Persists.update [DecidableEq κ] {k : κ} {f : ρ → ρ} {row : ρ}
    (h : t.update k f = .done row t') (hr : ∀ a, r a a) (hf : ∀ a, r a (withKey k (f a))) :
    t.Persists r t' := by
  obtain ⟨a, ha, hka, hrow, -, -⟩ := update_eq_done h
  intro b hb
  by_cases hk : key b = k
  · obtain rfl : b = a := t.eq_of_key hb ha (hk.trans hka.symm)
    exact ⟨row, (mem_update h).mpr (.inr rfl), by rw [hrow, key_withKey, hk], hrow ▸ hf b⟩
  · exact ⟨b, (mem_update h).mpr (.inl ⟨hb, hk⟩), rfl, hr b⟩

end Persists

/-! ## Live rows -/

section Live

theorem Retired.of_mem {a : ρ} (ha : a ∈ t.rows) (hl : ¬ live a) : t.Retired live (key a) :=
  ⟨t.bounded a ha, fun b hb hk => by rwa [t.eq_of_key hb ha hk]⟩

theorem Retired.remains {k : κ} (h : t.Retired live k)
    (hr : t.Remains (fun a b => live b → live a) t') : t'.Retired live k := by
  refine ⟨fun n hn => Nat.lt_of_lt_of_le (h.used n hn) hr.serial, fun b hb hk hbl => ?_⟩
  obtain ⟨a, ha, hka, hab⟩ := hr.rows b hb
  exact h.idle a ha (hka.trans hk) (hab hbl)

/-- A key is not handed out again. -/
theorem Retired.create {k : κ} {data row : ρ} (h : t.Retired live k)
    (hc : t.create data = some (row, t')) : t'.Retired live k := by
  obtain ⟨hrow, -, hserial⟩ := create_eq_some hc
  refine ⟨fun n hn => hserial ▸ Nat.lt_succ_of_lt (h.used n hn), fun b hb hk => ?_⟩
  rcases (mem_create hc).mp hb with hb | rfl
  · exact h.idle b hb hk
  · rw [hrow, key_withKey] at hk
    exact absurd (h.used t.serial hk.symm) (Nat.lt_irrefl _)

/-- No row comes alive or changes its group. -/
theorem Alone.remains (h : t.Alone live group)
    (hr : t.Remains (fun a b => live b → live a ∧ group a = group b) t') :
    t'.Alone live group := by
  intro b hb c hc hbl hcl hg
  obtain ⟨a, ha, hka, hab⟩ := hr.rows b hb
  obtain ⟨d, hd, hkd, hdc⟩ := hr.rows c hc
  obtain ⟨hal, hga⟩ := hab hbl
  obtain ⟨hdl, hgd⟩ := hdc hcl
  have had : a = d := h a ha d hd hal hdl (hga.trans (hg.trans hgd.symm))
  apply t'.eq_of_key hb hc
  rw [← hka, ← hkd, had]

/-- A new row whose group has no live row. -/
theorem Alone.create {data row : ρ} (h : t.Alone live group) (hc : t.create data = some (row, t'))
    (hfree : ∀ a ∈ t.rows, live a → group a ≠ group row) : t'.Alone live group := by
  intro a ha b hb hal hbl hg
  rcases (mem_create hc).mp ha with ha | rfl
  · rcases (mem_create hc).mp hb with hb | rfl
    · exact h a ha b hb hal hbl hg
    · exact absurd hg (hfree a ha hal)
  · rcases (mem_create hc).mp hb with hb | rfl
    · exact absurd hg.symm (hfree b hb hbl)
    · rfl

/-- A row may come alive where the rest of its group is not. -/
theorem Alone.update [DecidableEq κ] {k : κ} {f : ρ → ρ} {row : ρ} (h : t.Alone live group)
    (hu : t.update k f = .done row t')
    (hfree : ∀ a ∈ t.rows, key a ≠ k → live a → group a ≠ group row) :
    t'.Alone live group := by
  intro a ha b hb hal hbl hg
  rcases (mem_update hu).mp ha with ⟨ha, hak⟩ | rfl
  · rcases (mem_update hu).mp hb with ⟨hb, -⟩ | rfl
    · exact h a ha b hb hal hbl hg
    · exact absurd hg (hfree a ha hak hal)
  · rcases (mem_update hu).mp hb with ⟨hb, hbk⟩ | rfl
    · exact absurd hg.symm (hfree b hb hbk hbl)
    · rfl

end Live

end Table

end CreativeBackend.Relational
