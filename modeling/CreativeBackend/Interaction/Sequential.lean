import CreativeBackend.Interaction.Program

/-!
# Sequential executions

A machine answers every call from its state. Running a program against a
machine without interference is a function of the initial state. The rules here
follow the program tree: an invariant of every call is an invariant of the run,
and a map of states that every call respects is respected by the run.
-/

namespace CreativeBackend.Interaction

variable {C : Type} {R : C → Type} {E S α β : Type}

/-- A machine answers a call and moves to its next state. -/
abbrev Machine (R : C → Type) (E S : Type) := (c : C) → S → Except E (R c) × S

namespace Prog

/-- Run a program to its end, with no other party in between. -/
def run (m : Machine R E S) : Prog R E α → S → Except E α × S
  | ret a, s => (.ok a, s)
  | throw e, s => (.error e, s)
  | ask c k, s => (k (m c s).1).run m (m c s).2

variable (m : Machine R E S)

@[simp] theorem run_ret (a : α) (s : S) : (ret a : Prog R E α).run m s = (.ok a, s) := rfl

@[simp] theorem run_throw (e : E) (s : S) : (throw e : Prog R E α).run m s = (.error e, s) := rfl

@[simp] theorem run_ask (c : C) (k : Except E (R c) → Prog R E α) (s : S) :
    (ask c k).run m s = (k (m c s).1).run m (m c s).2 := rfl

@[simp] theorem run_ofExcept (x : Except E α) (s : S) :
    (ofExcept x : Prog R E α).run m s = (x, s) := by
  cases x <;> rfl

@[simp] theorem run_call (c : C) (s : S) : (call c : Prog R E (R c)).run m s = m c s := by
  simp [call]

/-- The run of a sequence is the run of its continuation after the first part. -/
theorem run_bind (p : Prog R E α) (f : α → Prog R E β) (s : S) :
    (p.bind f).run m s =
      match p.run m s with
      | (.ok a, s') => (f a).run m s'
      | (.error e, s') => (.error e, s') := by
  induction p generalizing s with
  | ret a => rfl
  | throw e => rfl
  | ask c k ih => simp only [bind_ask, run_ask, ih]

/-- The handler runs in the state in which the body threw. -/
theorem run_tryCatch (p : Prog R E α) (h : E → Prog R E α) (s : S) :
    (p.tryCatch h).run m s =
      match p.run m s with
      | (.ok a, s') => (.ok a, s')
      | (.error e, s') => (h e).run m s' := by
  induction p generalizing s with
  | ret a => rfl
  | throw e => rfl
  | ask c k ih => simp only [Prog.tryCatch, run_ask, ih]

theorem run_bind_ok {p : Prog R E α} {s s' : S} {a : α} (h : p.run m s = (.ok a, s'))
    (f : α → Prog R E β) : (p.bind f).run m s = (f a).run m s' := by
  rw [run_bind, h]

theorem run_bind_error {p : Prog R E α} {s s' : S} {e : E} (h : p.run m s = (.error e, s'))
    (f : α → Prog R E β) : (p.bind f).run m s = (.error e, s') := by
  rw [run_bind, h]

/-- Running a program for its effect has its effect. -/
theorem run_void (p : Prog R E α) (s : S) : (p.void.run m s).2 = (p.run m s).2 := by
  rw [void, run_bind]
  rcases p.run m s with ⟨x, s'⟩
  cases x <;> rfl

/-- A sequence returns where both parts do. -/
theorem run_bind_eq_ok {p : Prog R E α} {f : α → Prog R E β} {s s' : S} {b : β}
    (h : (p.bind f).run m s = (.ok b, s')) :
    ∃ a s₁, p.run m s = (.ok a, s₁) ∧ (f a).run m s₁ = (.ok b, s') := by
  rw [run_bind] at h
  split at h
  · next a s₁ hp => exact ⟨a, s₁, hp, h⟩
  · cases h

theorem run_ofExcept_eq_ok {x : Except E α} {s s' : S} {a : α}
    (h : (ofExcept x : Prog R E α).run m s = (.ok a, s')) : x = .ok a ∧ s' = s := by
  rw [run_ofExcept] at h
  obtain ⟨hx, hs⟩ := Prod.mk.inj h
  exact ⟨hx, hs.symm⟩

/-- A run returns what the program can return. -/
theorem Gives.of_run {P : α → Prop} {p : Prog R E α} (hp : p.Gives P) {s s' : S} {a : α}
    (h : p.run m s = (.ok a, s')) : P a := by
  induction p generalizing s with
  | ret b =>
      cases h
      exact hp
  | throw e => cases h
  | ask c k ih => exact ih _ (hp _) h

/-- A state property kept by every call of the program holds after the run. -/
theorem run_invariant {I : S → Prop} {P : C → Prop}
    (hm : ∀ c, P c → ∀ s, I s → I (m c s).2) {p : Prog R E α} (hp : p.All P) {s : S}
    (hs : I s) : I (p.run m s).2 := by
  induction p generalizing s with
  | ret a => exact hs
  | throw e => exact hs
  | ask c k ih => exact ih _ (hp.2 _) (hm c hp.1 s hs)

/-- A relation between states that every call of the program extends relates the
initial state of a run to its final one. -/
theorem run_relation {r : S → S → Prop} (hr : ∀ s, r s s) (ht : ∀ s t u, r s t → r t u → r s u)
    {P : C → Prop} (hm : ∀ c, P c → ∀ s, r s (m c s).2) {p : Prog R E α} (hp : p.All P)
    (s : S) : r s (p.run m s).2 := by
  induction p generalizing s with
  | ret a => exact hr s
  | throw e => exact hr s
  | ask c k ih => exact ht _ _ _ (hm c hp.1 s) (ih _ (hp.2 _) _)

/-- A map of states that every call of the program commutes with commutes with the run. -/
theorem run_map {f : S → S} {P : C → Prop}
    (hm : ∀ c, P c → ∀ s, m c (f s) = ((m c s).1, f (m c s).2)) {p : Prog R E α}
    (hp : p.All P) (s : S) : p.run m (f s) = ((p.run m s).1, f (p.run m s).2) := by
  induction p generalizing s with
  | ret a => rfl
  | throw e => rfl
  | ask c k ih =>
      simp only [run_ask, hm c hp.1 s]
      exact ih _ (hp.2 _) _

/-! ## Runs that return -/

/-- The run returns a value, and `Q` holds of the value and the state after it. -/
def Yields (p : Prog R E α) (s : S) (Q : α → S → Prop) : Prop :=
  ∃ a s', p.run m s = (.ok a, s') ∧ Q a s'

variable {m} {P Q : α → S → Prop} {Q' : β → S → Prop}

theorem Yields.mono {p : Prog R E α} {s : S} (h : p.Yields m s P) (hq : ∀ a s', P a s' → Q a s') :
    p.Yields m s Q := by
  obtain ⟨a, s', hrun, hp⟩ := h
  exact ⟨a, s', hrun, hq a s' hp⟩

/-- A run has one result. -/
theorem Yields.and {P' : α → S → Prop} {p : Prog R E α} {s : S} (h : p.Yields m s P)
    (h' : p.Yields m s P') : p.Yields m s fun a s' => P a s' ∧ P' a s' := by
  obtain ⟨a, s₁, hrun, hp⟩ := h
  obtain ⟨b, s₂, hrun', hp'⟩ := h'
  obtain ⟨hr, hs⟩ := Prod.mk.inj (hrun.symm.trans hrun')
  cases hr
  cases hs
  exact ⟨a, s₁, hrun, hp, hp'⟩

theorem yields_ret {a : α} {s : S} (h : Q a s) : (ret a : Prog R E α).Yields m s Q :=
  ⟨a, s, rfl, h⟩

theorem yields_call {c : C} {a : R c} {s s' : S} {Q : R c → S → Prop} (hc : m c s = (.ok a, s'))
    (h : Q a s') : (call c : Prog R E (R c)).Yields m s Q :=
  ⟨a, s', by rw [run_call, hc], h⟩

theorem yields_bind {p : Prog R E α} {f : α → Prog R E β} {s : S} (hp : p.Yields m s P)
    (hf : ∀ a s', P a s' → (f a).Yields m s' Q') : (p.bind f).Yields m s Q' := by
  obtain ⟨a, s₁, hrun, h₁⟩ := hp
  obtain ⟨b, s₂, hrun₂, h₂⟩ := hf a s₁ h₁
  exact ⟨b, s₂, by rw [run_bind_ok m hrun, hrun₂], h₂⟩

/-- A `try` block returns where its handler does. -/
theorem yields_tryCatch {p : Prog R E α} {h : E → Prog R E α} {s : S}
    (hok : ∀ a s', p.run m s = (.ok a, s') → Q a s')
    (herr : ∀ e s', p.run m s = (.error e, s') → (h e).Yields m s' Q) :
    (p.tryCatch h).Yields m s Q := by
  cases hrun : p.run m s with
  | mk r s' =>
      cases r with
      | ok a => exact ⟨a, s', by rw [run_tryCatch, hrun], hok a s' hrun⟩
      | error e =>
          obtain ⟨a, s₂, hrun₂, h₂⟩ := herr e s' hrun
          refine ⟨a, s₂, ?_, h₂⟩
          rw [run_tryCatch, hrun]
          exact hrun₂

/-- A body that returns does not reach its handler. -/
theorem Yields.tryCatch {p : Prog R E α} {h : E → Prog R E α} {s : S} (hp : p.Yields m s Q) :
    (p.tryCatch h).Yields m s Q := by
  obtain ⟨a, s', hrun, hq⟩ := hp
  exact ⟨a, s', by rw [run_tryCatch, hrun], hq⟩

/-! ## Postconditions of runs -/

/-- `Q` holds of the result of the run and of the state after it. -/
def After (m : Machine R E S) (p : Prog R E α) (s : S) (Q : Except E α → S → Prop) : Prop :=
  Q (p.run m s).1 (p.run m s).2

theorem After.mono {Q Q' : Except E α → S → Prop} {p : Prog R E α} {s : S} (h : p.After m s Q)
    (hq : ∀ x s', Q x s' → Q' x s') : p.After m s Q' :=
  hq _ _ h

theorem after_bind {Q : Except E α → S → Prop} {Q' : Except E β → S → Prop} {p : Prog R E α}
    {f : α → Prog R E β} {s : S} (hp : p.After m s Q)
    (hok : ∀ a s', Q (.ok a) s' → (f a).After m s' Q')
    (herr : ∀ e s', Q (.error e) s' → Q' (.error e) s') : (p.bind f).After m s Q' := by
  unfold After at hp ⊢
  rw [run_bind]
  rcases hrun : p.run m s with ⟨x, s'⟩
  rw [hrun] at hp
  cases x with
  | ok a => exact hok a s' hp
  | error e => exact herr e s' hp

theorem after_tryCatch {Q Q' : Except E α → S → Prop} {p : Prog R E α} {h : E → Prog R E α}
    {s : S} (hp : p.After m s Q) (hok : ∀ a s', Q (.ok a) s' → Q' (.ok a) s')
    (herr : ∀ e s', Q (.error e) s' → (h e).After m s' Q') : (p.tryCatch h).After m s Q' := by
  unfold After at hp ⊢
  rw [run_tryCatch]
  rcases hrun : p.run m s with ⟨x, s'⟩
  rw [hrun] at hp
  cases x with
  | ok a => exact hok a s' hp
  | error e => exact herr e s' hp

/-- A first part that returns. -/
theorem after_bind_of_ok {Q : Except E β → S → Prop} {p : Prog R E α} {f : α → Prog R E β}
    {s s' : S} {a : α} (h : p.run m s = (.ok a, s')) (hf : (f a).After m s' Q) :
    (p.bind f).After m s Q := by
  unfold After
  rwa [run_bind_ok m h]

/-- A first part that throws. -/
theorem after_bind_of_error {Q : Except E β → S → Prop} {p : Prog R E α} {f : α → Prog R E β}
    {s s' : S} {e : E} (h : p.run m s = (.error e, s')) (hq : Q (.error e) s') :
    (p.bind f).After m s Q := by
  unfold After
  rwa [run_bind_error m h]

/-- A first part that leaves the state alone. -/
theorem after_bind_still {Q : Except E β → S → Prop} {p : Prog R E α} {f : α → Prog R E β} {s : S}
    (hstill : (p.run m s).2 = s) (hok : ∀ a, (p.run m s).1 = .ok a → (f a).After m s Q)
    (herr : ∀ e, (p.run m s).1 = .error e → Q (.error e) s) : (p.bind f).After m s Q := by
  have hp : p.After m s fun x s' => (p.run m s).1 = x ∧ s' = s := ⟨rfl, hstill⟩
  refine after_bind hp ?_ ?_
  · rintro a s' ⟨hx, rfl⟩
    exact hok a hx
  · rintro e s' ⟨hx, rfl⟩
    exact herr e hx

/-! ## The calls of a run -/

/-- The calls of the run, in their order. -/
def calls (m : Machine R E S) : Prog R E α → S → List C
  | ret _, _ => []
  | throw _, _ => []
  | ask c k, s => c :: (k (m c s).1).calls m (m c s).2

theorem calls_bind_ok {p : Prog R E α} {s s' : S} {a : α} (h : p.run m s = (.ok a, s'))
    (f : α → Prog R E β) : (p.bind f).calls m s = p.calls m s ++ (f a).calls m s' := by
  induction p generalizing s with
  | ret b =>
      cases h
      rfl
  | throw e => cases h
  | ask c k ih => simp only [bind_ask, calls, ih _ h, List.cons_append]

/-- The calls of a body that does not reach its handler. -/
theorem calls_tryCatch_ok {p : Prog R E α} {s s' : S} {a : α} (h : p.run m s = (.ok a, s'))
    (handler : E → Prog R E α) : (p.tryCatch handler).calls m s = p.calls m s := by
  induction p generalizing s with
  | ret b => rfl
  | throw e => cases h
  | ask c k ih => simp only [Prog.tryCatch, calls, ih _ h]

/-- A call that the first part cannot make, and that the run ends on, is made by the rest. -/
theorem last_of_bind {P : C → Prop} {p : Prog R E α} {f : α → Prog R E β} {s : S} {c : C}
    (hp : p.All P) (hc : ¬ P c) (h : ((p.bind f).calls m s).getLast? = some c) :
    ∃ a s', p.run m s = (.ok a, s') ∧ ((f a).calls m s').getLast? = some c := by
  induction p generalizing s with
  | ret a => exact ⟨a, s, rfl, h⟩
  | throw e => cases h
  | ask c' k ih =>
      simp only [bind_ask, calls, List.getLast?_cons, Option.some.injEq] at h
      have hlast : (((k (m c' s).1).bind f).calls m (m c' s).2).getLast? = some c := by
        cases hrest : (((k (m c' s).1).bind f).calls m (m c' s).2).getLast? with
        | none =>
            rw [hrest] at h
            exact absurd (h ▸ hp.1) hc
        | some d =>
            rw [hrest] at h
            exact congrArg some h
      exact ih _ (hp.2 _) hlast

end Prog

end CreativeBackend.Interaction
