import CreativeBackend.Relational.Offset

/-!
# Offset pages of rows that others write

The rows are counted once, and then read page by page: each request skips as many rows as have been
read and takes at most `size` of the rest of the number that was counted. Each request has its own
answer, since others write between two requests. What was read is read once, and a row that is there
throughout is read, if the writes move no row across the place that was reached or behind the number
that was counted, and let no row return.
-/

namespace CreativeBackend.Relational.MovingPages

open Offset

variable {α κ : Type} (key : α → κ) (size : Nat) (answers : Nat → List α)

/-- The number of the rows of the first answer. -/
def total : Nat := (answers 0).length

/-- What the request after `k` others reads behind `offset` rows. -/
def page (k offset : Nat) : List α :=
  window offset (min size (total answers - offset)) (answers (k + 1))

/-- The rows that have been read by the first `k` requests after the count. -/
inductive HasRead : Nat → List α → Prop
  | count : HasRead 0 []
  | page {k : Nat} {read : List α} (h : HasRead k read) (hmore : read.length < total answers)
      (hpage : page size answers k read.length ≠ []) :
      HasRead (k + 1) (read ++ page size answers k read.length)

/-- The requests, the count with them. -/
inductive Asked : Nat → Prop
  | count : Asked 0
  | page {k : Nat} {read : List α} (h : HasRead size answers k read)
      (hmore : read.length < total answers) : Asked (k + 1)

/-- No request follows, or the next one finds nothing. -/
def Ended (k : Nat) (read : List α) : Prop :=
  total answers ≤ read.length ∨ page size answers k read.length = []

/-- The row is there whenever it is asked for. -/
def Throughout (a : α) : Prop := ∀ k, Asked size answers k → a ∈ answers k

/-- The writes between two requests, where `read` has been read before. -/
structure Undisturbed (k : Nat) (read : List α) : Prop where
  reached : ∀ x ∈ answers k, ∀ y ∈ answers (k + 1), key x = key y →
    (x ∈ (answers k).take read.length ↔ y ∈ (answers (k + 1)).take read.length)
  counted : ∀ x ∈ (answers k).take (total answers), ∀ y ∈ answers (k + 1), key x = key y →
    y ∈ (answers (k + 1)).take (total answers)
  back : ∀ x ∈ read, ∀ y ∈ answers (k + 1), key x = key y → (∀ z ∈ answers k, key z ≠ key y) →
    y ∈ (answers (k + 1)).take read.length

/-- The writes between any two requests. -/
def Calm : Prop :=
  ∀ k read, HasRead size answers k read → read.length < total answers →
    Undisturbed key answers k read

/-- What holds after each request. -/
structure Settled (k : Nat) (read : List α) : Prop where
  once : (read.map key).Nodup
  front : ∀ x ∈ read, ∀ y ∈ answers k, key x = key y → y ∈ (answers k).take read.length
  seen : ∀ x, Throughout size answers x → x ∈ (answers k).take read.length → x ∈ read
  within : ∀ x, Throughout size answers x → x ∈ (answers k).take (total answers)

variable {key size answers} {k : Nat} {read : List α} {x y : α}

theorem asked_of_hasRead (h : HasRead size answers k read) : Asked size answers k := by
  cases h with
  | count => exact .count
  | page h hmore _ => exact .page h hmore

theorem settled_count : Settled key size answers 0 [] := by
  refine ⟨List.nodup_nil, by simp, by simp, fun x hx => ?_⟩
  rw [total, List.take_length]
  exact hx 0 .count

/-- The rows up to the end of a page. -/
theorem take_append_page (offset : Nat) :
    (answers (k + 1)).take (offset + (page size answers k offset).length) =
      (answers (k + 1)).take offset ++ page size answers k offset := by
  have hpage : page size answers k offset <+: (answers (k + 1)).drop offset := List.take_prefix _ _
  rw [List.take_add, ← List.prefix_iff_eq_take.mp hpage]

theorem mem_of_mem_page {offset : Nat} (h : x ∈ page size answers k offset) :
    x ∈ answers (k + 1) :=
  List.mem_of_mem_drop (List.mem_of_mem_take h)

/-- Equal keys are of one row. -/
theorem eq_of_key (hkeys : ((answers k).map key).Nodup) (hx : x ∈ answers k) (hy : y ∈ answers k)
    (h : key x = key y) : x = y :=
  List.inj_on_of_nodup_map hkeys hx hy h

/-- One request. -/
theorem Settled.page (h : Settled key size answers k read) (hreads : HasRead size answers k read)
    (hmore : read.length < total answers)
    (hcalm : Undisturbed key answers k read)
    (hkeys : ((answers (k + 1)).map key).Nodup) :
    Settled key size answers (k + 1) (read ++ page size answers k read.length) := by
  have hnow := asked_of_hasRead hreads
  have hnext : Asked size answers (k + 1) := .page hreads hmore
  -- What was read before stands before the page.
  have hfront : ∀ x ∈ read, ∀ y ∈ answers (k + 1), key x = key y →
      y ∈ (answers (k + 1)).take read.length := by
    intro x hx y hy hxy
    by_cases hthere : ∃ z ∈ answers k, key z = key y
    · obtain ⟨z, hz, hzy⟩ := hthere
      exact (hcalm.reached z hz y hy hzy).mp (h.front x hx z hz (hxy.trans hzy.symm))
    · exact hcalm.back x hx y hy hxy fun z hz hzy => hthere ⟨z, hz, hzy⟩
  refine ⟨?_, ?_, ?_, ?_⟩
  · rw [List.map_append, List.nodup_append']
    have hsub : (MovingPages.page size answers k read.length).Sublist (answers (k + 1)) :=
      (List.take_sublist _ _).trans (List.drop_sublist _ _)
    refine ⟨h.once, hkeys.sublist (hsub.map key), ?_⟩
    intro key' hread hpage
    obtain ⟨x, hx, rfl⟩ := List.mem_map.mp hread
    obtain ⟨y, hy, hyx⟩ := List.mem_map.mp hpage
    have hbefore := hfront x hx y (mem_of_mem_page hy) hyx.symm
    exact List.disjoint_take_drop hkeys.of_map (Nat.le_refl read.length) hbefore
      (List.mem_of_mem_take hy)
  · intro x hx y hy hxy
    rw [List.length_append, take_append_page]
    apply List.mem_append.mpr
    rcases List.mem_append.mp hx with hread | hpage
    · exact .inl (hfront x hread y hy hxy)
    · exact .inr (eq_of_key hkeys (mem_of_mem_page hpage) hy hxy ▸ hpage)
  · intro x hx hplace
    rw [List.length_append, take_append_page] at hplace
    rcases List.mem_append.mp hplace with hbefore | hpage
    · have hold := (hcalm.reached x (hx k hnow) x (hx _ hnext) rfl).mpr hbefore
      exact List.mem_append_left _ (h.seen x hx hold)
    · exact List.mem_append_right _ hpage
  · intro x hx
    exact hcalm.counted x (h.within x hx) x (hx _ hnext) rfl

/-- Any number of requests. -/
theorem settled_of_hasRead (hkeys : ∀ k, ((answers k).map key).Nodup)
    (hcalm : Calm key size answers)
    (h : HasRead size answers k read) : Settled key size answers k read := by
  induction h with
  | count => exact settled_count
  | page hreads hmore _ ih => exact ih.page hreads hmore (hcalm _ _ hreads hmore) (hkeys _)

/-- In the end every row that was there throughout has been read. -/
theorem mem_of_ended (hsize : 0 < size) (hkeys : ∀ k, ((answers k).map key).Nodup)
    (hcalm : Calm key size answers) (h : HasRead size answers k read)
    (hended : Ended size answers k read) (hx : Throughout size answers x) : x ∈ read := by
  have hsettled := settled_of_hasRead hkeys hcalm h
  by_cases hall : total answers ≤ read.length
  · exact hsettled.seen x hx ((List.take_sublist_take_left hall).subset (hsettled.within x hx))
  · have hmore : read.length < total answers := Nat.lt_of_not_le hall
    have hnothing : MovingPages.page size answers k read.length = [] := hended.resolve_left hall
    have hshort : (answers (k + 1)).length ≤ read.length := by
      rw [MovingPages.page, window, List.take_eq_nil_iff, List.drop_eq_nil_iff] at hnothing
      omega
    have hlast := hx (k + 1) (.page h hmore)
    have hold := (hcalm k read h hmore).reached x (hx k (asked_of_hasRead h)) x hlast rfl
    exact hsettled.seen x hx (hold.mpr (by rwa [List.take_of_length_le hshort]))

/-! ## Without writes -/

theorem hasRead_eq_take (hsame : ∀ k, answers k = answers 0) (h : HasRead size answers k read) :
    read = (answers 0).take read.length := by
  induction h with
  | count => simp
  | @page k read hreads hmore hpage ih =>
      rw [List.length_append, ← hsame (k + 1), take_append_page, hsame (k + 1), ← ih]

/-- Without writes the rows are read in their order. -/
theorem hasRead_all (hsize : 0 < size) (hsame : ∀ k, answers k = answers 0)
    (h : HasRead size answers k read) (hended : Ended size answers k read) : read = answers 0 := by
  have hread := hasRead_eq_take hsame h
  suffices hall : total answers ≤ read.length by rwa [List.take_of_length_le hall] at hread
  by_contra hmore
  have hnothing : MovingPages.page size answers k read.length = [] := hended.resolve_left hmore
  rw [MovingPages.page, window, List.take_eq_nil_iff, List.drop_eq_nil_iff, hsame] at hnothing
  rw [total] at hmore hnothing
  omega

end CreativeBackend.Relational.MovingPages
