import Mathlib.Data.List.Forall2

/-!
# Texts that end themselves

A printer separates what it prints if its text shows what was printed, up to a relation, even when
a continuation follows, as long as the continuation begins with a symbol that ends a text. A list
printed with separators and a closing symbol inherits this from its items.
-/

namespace CreativeBackend.Delimited

variable {σ α β : Type}

/-- The continuation is empty or begins with a symbol that ends a text. -/
def Stops (stop : σ → Prop) (u : List σ) : Prop := ∀ c ∈ u.head?, stop c

/-- Where the text of `a` continues as the text of an admissible `b` does, `a` and `b` are related
and the continuations agree. -/
def Separates (stop : σ → Prop) (text : α → List σ) (admissible : α → Prop) (r : α → α → Prop)
    (a : α) : Prop :=
  ∀ b, admissible b → ∀ u v, Stops stop u → Stops stop v → text a ++ u = text b ++ v →
    r a b ∧ u = v

/-- Texts with a separator between them and a closing symbol after them. -/
def closed (sep close : σ) (texts : List (List σ)) : List σ := [sep].intercalate texts ++ [close]

variable {stop : σ → Prop} {sep close : σ} {text : α → List σ} {admissible : α → Prop}
  {r : α → α → Prop}

@[simp] theorem stops_nil : Stops stop [] := by simp [Stops]

@[simp] theorem stops_cons {c : σ} {u : List σ} : Stops stop (c :: u) ↔ stop c := by
  simp [Stops]

/-- What follows the first of several texts. -/
def following (sep close : σ) : List (List σ) → List σ
  | [] => [close]
  | t :: ts => sep :: closed sep close (t :: ts)

theorem closed_nil : closed sep close [] = [close] := rfl

theorem closed_cons (t : List σ) (ts : List (List σ)) :
    closed sep close (t :: ts) = t ++ following sep close ts := by
  cases ts with
  | nil => simp [closed, following]
  | cons t' ts => simp [closed, following, List.intercalate_cons_cons]

theorem stops_following (hsep : stop sep) (hclose : stop close) (ts : List (List σ)) (u : List σ) :
    Stops stop (following sep close ts ++ u) := by
  cases ts with
  | nil => simpa [following] using hclose
  | cons t ts => simpa [following] using hsep

/-- A closed list shows its items if they separate and none begins with the closing symbol. -/
theorem forall₂_of_closed (hsep : stop sep) (hclose : stop close) (hne : sep ≠ close)
    (hopen : ∀ a, admissible a → ∃ c rest, text a = c :: rest ∧ c ≠ close) {as bs : List α}
    (has : ∀ a ∈ as, admissible a ∧ Separates stop text admissible r a)
    (hbs : ∀ b ∈ bs, admissible b) {u v : List σ}
    (h : closed sep close (as.map text) ++ u = closed sep close (bs.map text) ++ v) :
    List.Forall₂ r as bs ∧ u = v := by
  induction as generalizing bs with
  | nil =>
      cases bs with
      | nil => exact ⟨.nil, by simpa [closed] using h⟩
      | cons b bs =>
          obtain ⟨c, rest, htext, hc⟩ := hopen b (hbs b List.mem_cons_self)
          rw [List.map_cons, closed_cons, htext] at h
          simp only [List.map_nil, closed_nil, List.cons_append, List.cons.injEq] at h
          exact absurd h.1.symm hc
  | cons a as ih =>
      obtain ⟨hadm, hseparates⟩ := has a List.mem_cons_self
      cases bs with
      | nil =>
          obtain ⟨c, rest, htext, hc⟩ := hopen a hadm
          rw [List.map_cons, closed_cons, htext] at h
          simp only [List.map_nil, closed_nil, List.cons_append, List.cons.injEq] at h
          exact absurd h.1 hc
      | cons b bs =>
          rw [List.map_cons, List.map_cons, closed_cons, closed_cons, List.append_assoc,
            List.append_assoc] at h
          obtain ⟨hab, hrest⟩ := hseparates b (hbs b List.mem_cons_self) _ _
            (stops_following hsep hclose _ u) (stops_following hsep hclose _ v) h
          have htail : ∀ x ∈ as, admissible x ∧ Separates stop text admissible r x :=
            fun x hx => has x (List.mem_cons_of_mem _ hx)
          have hbtail : ∀ x ∈ bs, admissible x := fun x hx => hbs x (List.mem_cons_of_mem _ hx)
          cases as with
          | nil =>
              cases bs with
              | nil => exact ⟨.cons hab .nil, by simpa [following] using hrest⟩
              | cons b' bs =>
                  simp only [List.map_nil, List.map_cons, following, List.cons_append,
                    List.cons.injEq] at hrest
                  exact absurd hrest.1.symm hne
          | cons a' as =>
              cases bs with
              | nil =>
                  simp only [List.map_nil, List.map_cons, following, List.cons_append,
                    List.cons.injEq] at hrest
                  exact absurd hrest.1 hne
              | cons b' bs =>
                  simp only [List.map_cons, following, List.cons_append, List.cons.injEq,
                    true_and] at hrest
                  obtain ⟨htails, huv⟩ := ih htail hbtail hrest
                  exact ⟨.cons hab htails, huv⟩

/-- Two texts with a mark between them separate what both of them show. -/
theorem Separates.pair {text' : β → List σ} {admissible' : β → Prop} {r' : β → β → Prop} {mark : σ}
    (hmark : stop mark) {a : α} {b : β} (ha : Separates stop text admissible r a)
    (hb : Separates stop text' admissible' r' b) :
    Separates stop (fun p : α × β => text p.1 ++ mark :: text' p.2)
      (fun p => admissible p.1 ∧ admissible' p.2) (fun p q => r p.1 q.1 ∧ r' p.2 q.2) (a, b) := by
  intro q hq u v hu hv h
  simp only [List.append_assoc, List.cons_append] at h
  obtain ⟨hfirst, hrest⟩ := ha q.1 hq.1 _ _ (stops_cons.mpr hmark) (stops_cons.mpr hmark) h
  obtain ⟨hsecond, huv⟩ := hb q.2 hq.2 u v hu hv (List.cons.inj hrest).2
  exact ⟨⟨hfirst, hsecond⟩, huv⟩

/-- Texts without a symbol that ends a text separate what they are different for. -/
theorem separates_of_not_stop (hinj : ∀ a b, admissible a → admissible b → text a = text b → a = b)
    (hno : ∀ a, admissible a → ∀ c ∈ text a, ¬ stop c) {a : α} (ha : admissible a) :
    Separates stop text admissible (· = ·) a := by
  have hcut : ∀ s t u v : List σ, (∀ c ∈ s, ¬ stop c) → (∀ c ∈ t, ¬ stop c) → Stops stop u →
      Stops stop v → s ++ u = t ++ v → s = t := by
    intro s
    induction s with
    | nil =>
        intro t u v _ ht hu _ h
        cases t with
        | nil => rfl
        | cons c t =>
            rw [List.nil_append, List.cons_append] at h
            rw [h, stops_cons] at hu
            exact absurd hu (ht c List.mem_cons_self)
    | cons c s ih =>
        intro t u v hs ht hu hv h
        cases t with
        | nil =>
            rw [List.nil_append, List.cons_append] at h
            rw [← h, stops_cons] at hv
            exact absurd hv (hs c List.mem_cons_self)
        | cons d t =>
            rw [List.cons_append, List.cons_append, List.cons.injEq] at h
            obtain ⟨rfl, hrest⟩ := h
            rw [ih t u v (fun x hx => hs x (List.mem_cons_of_mem _ hx))
              (fun x hx => ht x (List.mem_cons_of_mem _ hx)) hu hv hrest]
  intro b hb u v hu hv h
  have htext := hcut _ _ u v (hno a ha) (hno b hb) hu hv h
  refine ⟨hinj a b ha hb htext, ?_⟩
  rw [htext] at h
  exact List.append_cancel_left h

end CreativeBackend.Delimited
