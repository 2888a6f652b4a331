import Mathlib.Tactic.Common

/-!
# Interaction programs

A program issues calls to a shared machine and continues with the answer, which
is either a value of the call's response type or an exception. A program is a
finite tree on every path, so every function on programs is structurally
recursive.

## Implementation notes

The exception is part of the answer of a call. A failing call is therefore an
ordinary branch of the tree, and `tryCatch` needs no support from the machine.
-/

namespace CreativeBackend.Interaction

variable {C : Type} {R : C → Type} {E α β γ : Type}

/-- A program over the calls `C`, answered by `R`, with exceptions `E` and result `α`. -/
inductive Prog (R : C → Type) (E α : Type) : Type where
  | ret (a : α)
  | throw (e : E)
  | ask (c : C) (k : Except E (R c) → Prog R E α)

namespace Prog

/-- Continue with the result of a program; an exception skips the continuation. -/
protected def bind : Prog R E α → (α → Prog R E β) → Prog R E β
  | ret a, f => f a
  | throw e, _ => throw e
  | ask c k, f => ask c fun r => (k r).bind f

/-- Run the handler where the program throws. -/
protected def tryCatch : Prog R E α → (E → Prog R E α) → Prog R E α
  | ret a, _ => ret a
  | throw e, h => h e
  | ask c k, h => ask c fun r => (k r).tryCatch h

instance : Monad (Prog R E) where
  pure := ret
  bind := Prog.bind

instance : MonadExceptOf E (Prog R E) where
  throw := throw
  tryCatch := Prog.tryCatch

/-- Return a value, or raise the exception it carries. -/
def ofExcept : Except E α → Prog R E α
  | .ok a => ret a
  | .error e => throw e

/-- Issue one call and raise its exception. -/
def call (c : C) : Prog R E (R c) := ask c ofExcept

/-- Run a program for its effect. -/
def void (p : Prog R E α) : Prog R E Unit := p.bind fun _ => ret ()

@[simp] theorem pure_eq (a : α) : (pure a : Prog R E α) = ret a := rfl

@[simp] theorem bind_eq (p : Prog R E α) (f : α → Prog R E β) : p >>= f = p.bind f := rfl

@[simp] theorem throw_eq (e : E) : (throwThe E e : Prog R E α) = throw e := rfl

@[simp] theorem throw_eq' (e : E) : (MonadExcept.throw e : Prog R E α) = throw e := rfl

@[simp] theorem tryCatch_eq (p : Prog R E α) (h : E → Prog R E α) :
    (MonadExcept.tryCatch p h : Prog R E α) = p.tryCatch h := rfl

@[simp] theorem tryCatchThe_eq (p : Prog R E α) (h : E → Prog R E α) :
    (tryCatchThe E p h : Prog R E α) = p.tryCatch h := rfl

@[simp] theorem bind_ret (a : α) (f : α → Prog R E β) : (ret a).bind f = f a := rfl

@[simp] theorem bind_throw (e : E) (f : α → Prog R E β) :
    (throw e : Prog R E α).bind f = throw e := rfl

@[simp] theorem bind_ask (c : C) (k : Except E (R c) → Prog R E α) (f : α → Prog R E β) :
    (ask c k).bind f = ask c fun r => (k r).bind f := rfl

@[simp] theorem ofExcept_ok (a : α) : (ofExcept (.ok a) : Prog R E α) = ret a := rfl

@[simp] theorem ofExcept_error (e : E) : (ofExcept (.error e) : Prog R E α) = throw e := rfl

theorem bind_assoc (p : Prog R E α) (f : α → Prog R E β) (g : β → Prog R E γ) :
    (p.bind f).bind g = p.bind fun a => (f a).bind g := by
  induction p with
  | ret a => rfl
  | throw e => rfl
  | ask c k ih => simp only [bind_ask, ih]

/-- Every call on every path of the program satisfies `P`, whatever is answered. -/
def All (P : C → Prop) : Prog R E α → Prop
  | ret _ => True
  | throw _ => True
  | ask c k => P c ∧ ∀ r, (k r).All P

section All

variable {P P' : C → Prop}

@[simp] theorem all_ret (a : α) : (ret a : Prog R E α).All P := trivial

@[simp] theorem all_throw (e : E) : (throw e : Prog R E α).All P := trivial

@[simp] theorem all_ofExcept (x : Except E α) : (ofExcept x : Prog R E α).All P := by
  cases x <;> trivial

theorem all_true (p : Prog R E α) : p.All fun _ => True := by
  induction p with
  | ret a => trivial
  | throw e => trivial
  | ask c k ih => exact ⟨trivial, ih⟩

theorem all_call {c : C} (h : P c) : (call c : Prog R E (R c)).All P :=
  ⟨h, fun r => all_ofExcept r⟩

theorem all_bind {p : Prog R E α} {f : α → Prog R E β} (hp : p.All P)
    (hf : ∀ a, (f a).All P) : (p.bind f).All P := by
  induction p with
  | ret a => exact hf a
  | throw e => trivial
  | ask c k ih => exact ⟨hp.1, fun r => ih r (hp.2 r)⟩

theorem all_tryCatch {p : Prog R E α} {h : E → Prog R E α} (hp : p.All P)
    (hh : ∀ e, (h e).All P) : (p.tryCatch h).All P := by
  induction p with
  | ret a => trivial
  | throw e => exact hh e
  | ask c k ih => exact ⟨hp.1, fun r => ih r (hp.2 r)⟩

theorem all_ite {c : Prop} [Decidable c] {p q : Prog R E α} (hp : p.All P) (hq : q.All P) :
    (if c then p else q).All P := by
  split
  · exact hp
  · exact hq

theorem all_void {p : Prog R E α} (hp : p.All P) : p.void.All P := all_bind hp fun _ => trivial

theorem All.mono {p : Prog R E α} (hp : p.All P) (h : ∀ c, P c → P' c) : p.All P' := by
  induction p with
  | ret a => trivial
  | throw e => trivial
  | ask c k ih => exact ⟨h c hp.1, fun r => ih r (hp.2 r)⟩

end All

/-- Every value that the program can return satisfies `P`, whatever is answered. -/
def Gives (P : α → Prop) : Prog R E α → Prop
  | ret a => P a
  | throw _ => True
  | ask _ k => ∀ r, (k r).Gives P

section Gives

variable {P : α → Prop} {Q : β → Prop}

theorem gives_true (p : Prog R E α) : p.Gives fun _ => True := by
  induction p with
  | ret a => trivial
  | throw e => trivial
  | ask c k ih => exact ih

theorem gives_bind_of {p : Prog R E α} {f : α → Prog R E β} (hp : p.Gives P)
    (hf : ∀ a, P a → (f a).Gives Q) : (p.bind f).Gives Q := by
  induction p with
  | ret a => exact hf a hp
  | throw e => trivial
  | ask c k ih => exact fun r => ih r (hp r)

theorem gives_bind {p : Prog R E α} {f : α → Prog R E β} (hf : ∀ a, (f a).Gives Q) :
    (p.bind f).Gives Q :=
  gives_bind_of (gives_true p) fun a _ => hf a

end Gives

/-- On every path on which the program returns, some call was answered within `A`. -/
def Earns (A : (c : C) → Except E (R c) → Prop) : Prog R E α → Prop
  | ret _ => False
  | throw _ => True
  | ask c k => ∀ r, A c r ∨ (k r).Earns A

section Earns

variable {A : (c : C) → Except E (R c) → Prop}

/-- A call that is only answered normally within `A`. -/
theorem earns_call {c : C} (h : ∀ a, A c (.ok a)) : (call c : Prog R E (R c)).Earns A := by
  intro r
  cases r with
  | ok a => exact .inl (h a)
  | error e => exact .inr trivial

theorem Earns.bind {p : Prog R E α} (h : p.Earns A) (f : α → Prog R E β) : (p.bind f).Earns A := by
  induction p with
  | ret a => exact h.elim
  | throw e => trivial
  | ask c k ih =>
      intro r
      rcases h r with hr | hr
      · exact .inl hr
      · exact .inr (ih r hr)

theorem earns_bind_right {p : Prog R E α} {f : α → Prog R E β} (h : ∀ a, (f a).Earns A) :
    (p.bind f).Earns A := by
  induction p with
  | ret a => exact h a
  | throw e => trivial
  | ask c k ih => exact fun r => .inr (ih r)

theorem Earns.tryCatch {p : Prog R E α} {f : E → Prog R E α} (hp : p.Earns A)
    (hf : ∀ e, (f e).Earns A) : (p.tryCatch f).Earns A := by
  induction p with
  | ret a => exact hp.elim
  | throw e => exact hf e
  | ask c k ih =>
      intro r
      rcases hp r with hr | hr
      · exact .inl hr
      · exact .inr (ih r hr)

/-- A call whose answer decides: within `A`, or the rest earns it. -/
theorem earns_call_bind {c : C} {f : R c → Prog R E α} (h : ∀ a, A c (.ok a) ∨ (f a).Earns A) :
    ((call c).bind f).Earns A := by
  intro r
  cases r with
  | ok a => exact h a
  | error e => exact .inr trivial

end Earns

end Prog

end CreativeBackend.Interaction
