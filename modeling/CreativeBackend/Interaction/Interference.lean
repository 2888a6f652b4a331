import CreativeBackend.Interaction.Service

/-!
# Executions among others

One program is executed in a store that others change: before each of its calls and
after the last one, the store moves along `rest`. The calls are recorded with their
answers and with the stores they were performed in.

An execution of a sequence splits into executions of its parts, so what an execution
returns is read off its program as in a run without others.
-/

namespace CreativeBackend.Interaction

variable {C : Type} {R : C → Type} {E S α β : Type}

/-- One call of an execution, its answer, and the store just before it. -/
structure Turn (R : C → Type) (E S : Type) where
  call : C
  answer : Except E (R call)
  before : S

namespace Service

variable (v : Service R E S) (rest : S → S → Prop)

/-- The executions of a program, with the calls in order. -/
inductive Runs : Prog R E α → S → List (Turn R E S) → Except E α → S → Prop
  | ret {a s s'} (h : rest s s') : Runs (.ret a) s [] (.ok a) s'
  | throw {e s s'} (h : rest s s') : Runs (.throw e) s [] (.error e) s'
  | ask {c k s s₁ r s₂ turns x s'} (h : rest s s₁) (ho : v.Outcome c s₁ r s₂)
      (hk : Runs (k r) s₂ turns x s') : Runs (.ask c k) s (⟨c, r, s₁⟩ :: turns) x s'

namespace Runs

variable {v} {rest} {p : Prog R E α} {s s' : S} {turns : List (Turn R E S)} {x : Except E α}

/-- The calls of an execution are calls of the program. -/
theorem all {P : C → Prop} (hp : p.All P) (h : v.Runs rest p s turns x s') :
    ∀ turn ∈ turns, P turn.call := by
  induction h with
  | ret => simp
  | throw => simp
  | ask _ _ _ ih =>
      intro turn hturn
      rcases List.mem_cons.mp hturn with rfl | hlater
      · exact hp.1
      · exact ih (hp.2 _) turn hlater

/-- What an execution returns is a value of the program. -/
theorem gives {P : α → Prop} (hp : p.Gives P) (h : v.Runs rest p s turns x s') :
    ∀ a, x = .ok a → P a := by
  induction h with
  | ret =>
      intro a ha
      cases ha
      exact hp
  | throw =>
      intro a ha
      cases ha
  | ask _ _ _ ih => exact ih (hp _)

/-- A store property that neither the others nor the calls of the program destroy. -/
theorem invariant {P : C → Prop} {I : S → Prop} (hrest : ∀ s s', I s → rest s s' → I s')
    (hcall : ∀ c s r s', P c → I s → v.Outcome c s r s' → I s') (hp : p.All P)
    (h : v.Runs rest p s turns x s') (hs : I s) : I s' ∧ ∀ turn ∈ turns, I turn.before := by
  induction h with
  | ret h => exact ⟨hrest _ _ hs h, by simp⟩
  | throw h => exact ⟨hrest _ _ hs h, by simp⟩
  | ask h ho _ ih =>
      have hbefore := hrest _ _ hs h
      obtain ⟨hlast, hturns⟩ := ih (hp.2 _) (hcall _ _ _ _ hp.1 hbefore ho)
      refine ⟨hlast, fun turn hturn => ?_⟩
      rcases List.mem_cons.mp hturn with rfl | hlater
      · exact hbefore
      · exact hturns turn hlater

section Inversion

variable (hrefl : ∀ s, rest s s)

include hrefl

/-- An execution of a sequence. -/
theorem of_bind {f : α → Prog R E β} {y : Except E β}
    (h : v.Runs rest (p.bind f) s turns y s') :
    (∃ a s₁ first second, v.Runs rest p s first (.ok a) s₁ ∧ v.Runs rest (f a) s₁ second y s' ∧
        turns = first ++ second) ∨
      ∃ e, v.Runs rest p s turns (.error e) s' ∧ y = .error e := by
  induction p generalizing s turns with
  | ret a => exact .inl ⟨a, s, [], turns, .ret (hrefl s), h, rfl⟩
  | throw e =>
      cases h with
      | throw hr => exact .inr ⟨e, .throw hr, rfl⟩
  | ask c k ih =>
      cases h with
      | ask hr ho hk =>
          rcases ih _ hk with ⟨a, s₁, first, second, hfirst, hsecond, rfl⟩ | ⟨e, he, rfl⟩
          · exact .inl ⟨a, s₁, _ :: first, second, .ask hr ho hfirst, hsecond, rfl⟩
          · exact .inr ⟨e, .ask hr ho he, rfl⟩

/-- An execution of a `try` block. -/
theorem of_tryCatch {handler : E → Prog R E α}
    (h : v.Runs rest (p.tryCatch handler) s turns x s') :
    (∃ a, x = .ok a ∧ v.Runs rest p s turns (.ok a) s') ∨
      ∃ e s₁ first second, v.Runs rest p s first (.error e) s₁ ∧
        v.Runs rest (handler e) s₁ second x s' ∧ turns = first ++ second := by
  induction p generalizing s turns with
  | ret a =>
      cases h with
      | ret hr => exact .inl ⟨a, rfl, .ret hr⟩
  | throw e => exact .inr ⟨e, s, [], turns, .throw (hrefl s), h, rfl⟩
  | ask c k ih =>
      cases h with
      | ask hr ho hk =>
          rcases ih _ hk with ⟨a, rfl, ha⟩ | ⟨e, s₁, first, second, hfirst, hsecond, rfl⟩
          · exact .inl ⟨a, rfl, .ask hr ho ha⟩
          · exact .inr ⟨e, s₁, _ :: first, second, .ask hr ho hfirst, hsecond, rfl⟩

end Inversion

/-- An execution of what needs no call. -/
theorem of_ofExcept {y : Except E α} (h : v.Runs rest (Prog.ofExcept y) s turns x s') :
    x = y ∧ rest s s' ∧ turns = [] := by
  cases y with
  | ok a =>
      cases h with
      | ret hr => exact ⟨rfl, hr, rfl⟩
  | error e =>
      cases h with
      | throw hr => exact ⟨rfl, hr, rfl⟩

/-- An execution of one call. -/
theorem of_call {c : C} {r : Except E (R c)} (h : v.Runs rest (Prog.call c) s turns r s') :
    ∃ s₁ s₂, rest s s₁ ∧ v.Outcome c s₁ r s₂ ∧ rest s₂ s' ∧ turns = [⟨c, r, s₁⟩] := by
  cases h with
  | ask hr ho hk =>
      obtain ⟨rfl, hlast, rfl⟩ := of_ofExcept hk
      exact ⟨_, _, hr, ho, hlast, rfl⟩

end Runs

end Service

namespace Prog

/-- The calls of a run without others. -/
def turns (m : Machine R E S) : Prog R E α → S → List (Turn R E S)
  | ret _, _ => []
  | throw _, _ => []
  | ask c k, s => ⟨c, (m c s).1, s⟩ :: (k (m c s).1).turns m (m c s).2

end Prog

/-- A run without others is an execution. -/
theorem Service.runs_of_run (v : Service R E S) {rest : S → S → Prop} (hrefl : ∀ s, rest s s)
    (ch : v.Choice) (p : Prog R E α) (s : S) :
    v.Runs rest p s (p.turns (v.machine ch) s) (p.run (v.machine ch) s).1
      (p.run (v.machine ch) s).2 := by
  induction p generalizing s with
  | ret a => exact .ret (hrefl s)
  | throw e => exact .throw (hrefl s)
  | ask c k ih => exact .ask (hrefl s) (.inl ⟨ch, rfl⟩) (ih _ _)

end CreativeBackend.Interaction
