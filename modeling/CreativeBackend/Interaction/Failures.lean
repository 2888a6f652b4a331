import CreativeBackend.Interaction.Embedding

/-!
# Runs in which one call fails

One call of a run may fail and do nothing. What every call preserves is preserved by such a run
too. Whether the run still returns is decided by what the program does with the failure: it may
ignore what the call answers, it may return at once, or it may end with an exception.
-/

namespace CreativeBackend.Interaction

variable {C C' : Type} {R : C → Type} {R' : C' → Type} {E S S' α β : Type}

namespace Prog

/-- The run in which the call of number `n` fails with `e` and does nothing. -/
def runFailing (m : Machine R E S) (e : E) : Prog R E α → Nat → S → Except E α × S
  | ret a, _, s => (.ok a, s)
  | throw e', _, s => (.error e', s)
  | ask _ k, 0, s => (k (.error e)).run m s
  | ask c k, n + 1, s => (k (m c s).1).runFailing m e n (m c s).2

/-- The state in which the call of number `n` is made. -/
def stateAt (m : Machine R E S) : Prog R E α → Nat → S → S
  | ret _, _, s => s
  | throw _, _, s => s
  | ask _ _, 0, s => s
  | ask c k, n + 1, s => (k (m c s).1).stateAt m n (m c s).2

section Invariants

variable {m : Machine R E S} {e : E} {I : S → Prop} {P : C → Prop}

theorem stateAt_invariant (hI : ∀ c, P c → ∀ s, I s → I (m c s).2) {p : Prog R E α}
    (hp : p.All P) {s : S} (hs : I s) (n : Nat) : I (p.stateAt m n s) := by
  induction p generalizing n s with
  | ret a => exact hs
  | throw e' => exact hs
  | ask c k ih =>
      cases n with
      | zero => exact hs
      | succ n => exact ih _ (hp.2 _) (hI c hp.1 s hs) n

/-- What holds when the call fails, and is preserved, holds at the end. -/
theorem runFailing_invariant (hI : ∀ c, P c → ∀ s, I s → I (m c s).2) {p : Prog R E α}
    (hp : p.All P) {n : Nat} {s : S} (hs : I (p.stateAt m n s)) :
    I (p.runFailing m e n s).2 := by
  induction p generalizing n s with
  | ret a => exact hs
  | throw e' => exact hs
  | ask c k ih =>
      cases n with
      | zero => exact run_invariant m hI (hp.2 _) hs
      | succ n => exact ih _ (hp.2 _) hs

end Invariants

/-! ## Failures that end a program -/

/-- A failure of any call ends the program. -/
def Fails (e : E) : Prog R E α → Prop
  | ret _ => True
  | throw _ => True
  | ask _ k => (∃ e', k (.error e) = throw e') ∧ ∀ r, (k r).Fails e

section Fails

variable {e : E}

theorem fails_ofExcept (x : Except E α) : (ofExcept x : Prog R E α).Fails e := by
  cases x <;> trivial

theorem fails_call (c : C) : (call c : Prog R E (R c)).Fails e :=
  ⟨⟨e, rfl⟩, fails_ofExcept⟩

theorem Fails.bind {p : Prog R E α} {f : α → Prog R E β} (hp : p.Fails e)
    (hf : ∀ a, (f a).Fails e) : (p.bind f).Fails e := by
  induction p with
  | ret a => exact hf a
  | throw e' => trivial
  | ask c k ih =>
      obtain ⟨⟨e', he'⟩, hk⟩ := hp
      refine ⟨⟨e', ?_⟩, fun r => ih r (hk r)⟩
      change (k (.error e)).bind f = throw e'
      rw [he', bind_throw]

theorem fails_ite {c : Prop} [Decidable c] {p q : Prog R E α} (hp : p.Fails e)
    (hq : q.Fails e) : (if c then p else q).Fails e := by
  split
  · exact hp
  · exact hq

/-- A handler that goes on after some exceptions, but not after this one. -/
theorem fails_call_tryCatch {c : C} {h : E → Prog R E (R c)} (he : ∃ e', h e = throw e')
    (hh : ∀ e', (h e').Fails e) : ((call c).tryCatch h).Fails e := by
  refine ⟨he, fun r => ?_⟩
  cases r with
  | ok a => trivial
  | error e' => exact hh e'

/-- A handler that throws. -/
theorem Fails.tryCatch {p : Prog R E α} {h : E → Prog R E α} (hp : p.Fails e)
    (hh : ∀ e', ∃ e'', h e' = throw e'') : (p.tryCatch h).Fails e := by
  induction p with
  | ret a => trivial
  | throw e' =>
      obtain ⟨e'', he''⟩ := hh e'
      change (h e').Fails e
      rw [he'']
      trivial
  | ask c k ih =>
      obtain ⟨⟨e', he'⟩, hk⟩ := hp
      obtain ⟨e'', he''⟩ := hh e'
      refine ⟨⟨e'', ?_⟩, fun r => ih r (hk r)⟩
      change (k (.error e)).tryCatch h = throw e''
      rw [he']
      exact he''

end Fails

/-! ## Failures that a program survives -/

/-- A call may be moved behind another one. -/
def Commutes (m : Machine R E S) (c c' : C) : Prop :=
  ∀ s, m c' (m c s).2 = ((m c' s).1, (m c (m c' s).2).2)

theorem run_commutes {m : Machine R E S} {c : C} {p : Prog R E α} (hp : p.All (Commutes m c))
    (s : S) : p.run m (m c s).2 = ((p.run m s).1, (m c (p.run m s).2).2) :=
  run_map m (f := fun s => (m c s).2) (fun _ h s => h s) hp s

/-- What a program does with the failure of a call: it ignores the answer, and the rest commutes
with the call; or it returns; or it ends with an exception. -/
structure Takes (m : Machine R E S) (e : E) (Ignored Last : C → Prop) (c : C)
    (k : Except E (R c) → Prog R E α) : Prop where
  ignored : Ignored c → (∀ r r', k r = k r') ∧ ∀ r, (k r).All (Commutes m c)
  last : Last c → ∃ a, k (.error e) = ret a
  fatal : ¬ Ignored c → ¬ Last c → ∃ e', k (.error e) = throw e'

/-- What a program does with the failure of each of its calls. -/
def Reacts (m : Machine R E S) (e : E) (Ignored Last : C → Prop) : Prog R E α → Prop
  | ret _ => True
  | throw _ => True
  | ask c k => Takes m e Ignored Last c k ∧ ∀ r, (k r).Reacts m e Ignored Last

section Reacts

variable {m : Machine R E S} {e : E} {Ignored Last : C → Prop}

theorem Fails.reacts {p : Prog R E α} (h : p.Fails e)
    (hp : p.All fun c => ¬ Ignored c ∧ ¬ Last c) : p.Reacts m e Ignored Last := by
  induction p with
  | ret a => trivial
  | throw e' => trivial
  | ask c k ih =>
      obtain ⟨⟨hignored, hlast⟩, hk⟩ := hp
      exact ⟨⟨fun h' => absurd h' hignored, fun h' => absurd h' hlast, fun _ _ => h.1⟩,
        fun r => ih r (h.2 r) (hk r)⟩

/-- Nothing that the program goes on with may depend on the calls that it ignores. -/
theorem Reacts.bind {p : Prog R E α} {f : α → Prog R E β} (h : p.Reacts m e Ignored Last)
    (hp : p.All fun c => ¬ Last c ∧ (Ignored c → ∀ a, (f a).All (Commutes m c)))
    (hf : ∀ a, (f a).Reacts m e Ignored Last) : (p.bind f).Reacts m e Ignored Last := by
  induction p with
  | ret a => exact hf a
  | throw e' => trivial
  | ask c k ih =>
      obtain ⟨htakes, hk⟩ := h
      obtain ⟨⟨hlast, hcommutes⟩, hp'⟩ := hp
      refine ⟨⟨fun hc => ?_, fun hc => absurd hc hlast, fun hi hl => ?_⟩,
        fun r => ih r (hk r) (hp' r)⟩
      · obtain ⟨hsame, hall⟩ := htakes.ignored hc
        refine ⟨fun r r' => ?_, fun r => all_bind (hall r) (hcommutes hc)⟩
        exact congrArg (fun q : Prog R E α => q.bind f) (hsame r r')
      · obtain ⟨e', he'⟩ := htakes.fatal hi hl
        refine ⟨e', ?_⟩
        rw [he', bind_throw]

theorem Reacts.tryCatch {p : Prog R E α} {h : E → Prog R E α} (hp : p.Reacts m e Ignored Last)
    (hh : ∀ e', ∃ e'', h e' = throw e'') : (p.tryCatch h).Reacts m e Ignored Last := by
  induction p with
  | ret a => trivial
  | throw e' =>
      obtain ⟨e'', he''⟩ := hh e'
      change (h e').Reacts m e Ignored Last
      rw [he'']
      trivial
  | ask c k ih =>
      obtain ⟨htakes, hk⟩ := hp
      refine ⟨⟨fun hc => ?_, fun hc => ?_, fun hi hl => ?_⟩, fun r => ih r (hk r)⟩
      · obtain ⟨hsame, hall⟩ := htakes.ignored hc
        refine ⟨fun r r' => ?_, fun r => all_tryCatch (hall r) fun e' => ?_⟩
        · exact congrArg (fun q : Prog R E α => q.tryCatch h) (hsame r r')
        · obtain ⟨e'', he''⟩ := hh e'
          exact he'' ▸ trivial
      · obtain ⟨a, ha⟩ := htakes.last hc
        refine ⟨a, ?_⟩
        rw [ha]
        rfl
      · obtain ⟨e', he'⟩ := htakes.fatal hi hl
        obtain ⟨e'', he''⟩ := hh e'
        refine ⟨e'', ?_⟩
        rw [he']
        exact he''

/-- A failure that nothing survives ends the run with an exception. -/
theorem Reacts.exists_error {p : Prog R E α} (h : p.Reacts m e Ignored Last) {n : Nat} {s : S}
    {c : C} (hc : (p.calls m s)[n]? = some c) (hi : ¬ Ignored c) (hl : ¬ Last c) :
    ∃ e' s', p.runFailing m e n s = (.error e', s') := by
  induction p generalizing n s with
  | ret a => cases hc
  | throw e' => cases hc
  | ask c' k ih =>
      cases n with
      | zero =>
          cases hc
          obtain ⟨e', he'⟩ := h.1.fatal hi hl
          refine ⟨e', s, ?_⟩
          change (k (.error e)).run m s = _
          rw [he', run_throw]
      | succ n => exact ih _ (h.2 _) hc

/-- A failure that is survived leaves a run that returns, if the run without it returns. -/
theorem Reacts.exists_ok {p : Prog R E α} (h : p.Reacts m e Ignored Last) {n : Nat} {s : S}
    {c : C} (hc : (p.calls m s)[n]? = some c) (hsurvived : Ignored c ∨ Last c)
    (hok : ∃ a s', p.run m s = (.ok a, s')) : ∃ a s', p.runFailing m e n s = (.ok a, s') := by
  induction p generalizing n s with
  | ret a => cases hc
  | throw e' => cases hc
  | ask c' k ih =>
      cases n with
      | zero =>
          cases hc
          rcases hsurvived with hi | hl
          · obtain ⟨hsame, hall⟩ := h.1.ignored hi
            obtain ⟨a, s', hrun⟩ := hok
            have hcommutes : (k (m c s).1).run m (m c s).2 = _ := run_commutes (hall _) s
            refine ⟨a, ((k (m c s).1).run m s).2, ?_⟩
            change (k (.error e)).run m s = _
            rw [hsame (.error e) (m c s).1]
            exact Prod.ext (Prod.mk.inj (hcommutes.symm.trans hrun)).1 rfl
          · obtain ⟨a, ha⟩ := h.1.last hl
            refine ⟨a, s, ?_⟩
            change (k (.error e)).run m s = _
            rw [ha, run_ret]
      | succ n => exact ih _ (h.2 _) hc hok

end Reacts

end Prog

namespace Embedding

variable (ι : Embedding R R')

theorem read_error {c : C} (e : E) : ι.read (.error e : Except E (R' (ι.call c))) = .error e := by
  have hcast : ∀ {A B : Type} (h : A = B),
      cast (congrArg (Except E) h) (.error e : Except E A) = .error e := by
    intro A B h
    cases h
    rfl
  exact hcast (ι.answer c)

/-- A program fails with its calls in the wider interface as it does on its own. -/
theorem fails_embed {e : E} {p : Prog R E α} (hp : p.Fails e) : (ι.embed p).Fails e := by
  induction p with
  | ret a => trivial
  | throw e' => trivial
  | ask c k ih =>
      obtain ⟨⟨e', he'⟩, hk⟩ := hp
      refine ⟨⟨e', ?_⟩, fun r => ih _ (hk _)⟩
      change ι.embed (k (ι.read (.error e))) = .throw e'
      rw [ι.read_error, he']
      rfl

end Embedding

end CreativeBackend.Interaction
