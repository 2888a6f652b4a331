import CreativeBackend.Interaction.Discipline

/-!
# Calls that a program cannot miss

A program may be bound to make a certain call before it ends, as long as certain other calls do
not fail. Where such a call establishes a fact for good, the program ends with the fact.
-/

namespace CreativeBackend.Interaction

variable {C : Type} {R : C → Type} {E S α β : Type}

namespace Prog

/-- On every path on which only calls in `F` fail, a call in `A` is made. -/
def Reaches (F A : C → Prop) : Prog R E α → Prop
  | ret _ => False
  | throw _ => False
  | ask c k => A c ∨ ∀ r, (F c ∨ ∃ a, r = .ok a) → (k r).Reaches F A

variable {F A : C → Prop}

/-- The first call makes it. -/
theorem reaches_call {c : C} (h : A c) (f : R c → Prog R E α) : ((call c).bind f).Reaches F A :=
  .inl h

/-- What follows a call that cannot fail makes it. -/
theorem reaches_call_bind {c : C} {f : R c → Prog R E α} (hc : ¬ F c)
    (h : ∀ a, (f a).Reaches F A) : ((call c).bind f).Reaches F A := by
  refine .inr fun r hr => ?_
  obtain ⟨a, rfl⟩ := hr.resolve_left hc
  exact h a

theorem Reaches.bind {p : Prog R E α} (h : p.Reaches F A) (f : α → Prog R E β) :
    (p.bind f).Reaches F A := by
  induction p with
  | ret a => exact h.elim
  | throw e => exact h.elim
  | ask c k ih =>
      rcases h with hA | hall
      · exact .inl hA
      · exact .inr fun r hr => ih r (hall r hr)

/-- A program none of whose calls is in `F`, and which does not throw. -/
def Returning (F : C → Prop) : Prog R E α → Prop
  | ret _ => True
  | throw _ => False
  | ask c k => ¬ F c ∧ ∀ a, (k (.ok a)).Returning F

theorem Returning.bind {p : Prog R E α} {f : α → Prog R E β} (hp : p.Returning F)
    (hf : ∀ a, (f a).Returning F) : (p.bind f).Returning F := by
  induction p with
  | ret a => exact hf a
  | throw e => exact hp.elim
  | ask c k ih => exact ⟨hp.1, fun a => ih _ (hp.2 a)⟩

theorem returning_call {c : C} (hc : ¬ F c) : (call c : Prog R E (R c)).Returning F :=
  ⟨hc, fun _ => trivial⟩

theorem returning_ret (a : α) : (ret a : Prog R E α).Returning F := trivial

theorem returning_ite {c : Prop} [Decidable c] {p q : Prog R E α} (hp : p.Returning F)
    (hq : q.Returning F) : (if c then p else q).Returning F := by
  split
  · exact hp
  · exact hq

/-- What follows a program that returns makes the call. -/
theorem Returning.reaches_bind {p : Prog R E α} {f : α → Prog R E β} (hp : p.Returning F)
    (hf : ∀ a, (f a).Reaches F A) : (p.bind f).Reaches F A := by
  induction p with
  | ret a => exact hf a
  | throw e => exact hp.elim
  | ask c k ih =>
      refine .inr fun r hr => ?_
      obtain ⟨a, rfl⟩ := hr.resolve_left hp.1
      exact ih _ (hp.2 a)

end Prog

namespace Discipline

variable {v : Service R E S} {permits : Nat → C → World R E S → Prop} {D : Discipline v permits}

/-- A program that cannot miss a call ends with what such a call establishes for good. -/
theorem holds_reached {F A : C → Prop} {K G : World R E S → Prop} {t : Nat}
    (hK : ∀ w w', D.Leads w w' → K w → K w') (hG : ∀ w w', D.Leads w w' → G w → G w')
    (hcall : ∀ c w, K w → D.inv w → permits t c w → ∀ x s', v.Outcome c w.store x s' →
      D.inv (w.log t c x s') ∧ (A c → G (w.log t c x s')) ∧ (¬ F c → ∃ a, x = .ok a))
    {p : Prog R E α} {w : World R E S} (hw : K w) (h : G w ∨ p.Reaches F A) :
    D.logic.Holds t (fun _ w' => G w') p w := by
  induction p generalizing w with
  | ret a =>
      intro u hu _
      rcases h with hg | hfalse
      · exact hG w u (Since.leads hu) hg
      · exact hfalse.elim
  | throw e =>
      intro u hu _
      rcases h with hg | hfalse
      · exact hG w u (Since.leads hu) hg
      · exact hfalse.elim
  | ask c k ih =>
      intro u hu hi x w' hstep
      obtain ⟨s', tr⟩ := w'
      obtain ⟨hper, htr, ho⟩ := hstep
      cases htr
      have hKu : K u := hK w u (Since.leads hu) hw
      obtain ⟨hi', hA, hF⟩ := hcall c u hKu hi hper x s' ho
      have hlead : D.Leads u (u.log t c x s') := ⟨D.call_rely hi hper ho, [_], rfl⟩
      refine ⟨hi', ih x (hK _ _ hlead hKu) ?_⟩
      rcases h with hg | hAc | hall
      · exact .inl (hG _ _ ((Since.leads hu).trans hlead) hg)
      · exact .inl (hA hAc)
      · by_cases hFc : F c
        · exact .inr (hall x (.inl hFc))
        · exact .inr (hall x (.inr (hF hFc)))

end Discipline

end CreativeBackend.Interaction
