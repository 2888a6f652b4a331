import CreativeBackend.Interaction.Discipline

/-!
# The results of the programs of a pool

The programs of a pool return nothing. Where all of them are runs of one program, the log of a
thread tells how far it has come and what it has returned.
-/

namespace CreativeBackend.Interaction

variable {C : Type} {R : C → Type} {E S α : Type}

/-- What is left of the program after the logged calls, the latest first. -/
inductive Follows (p : Prog R E α) : List (Event R E S) → Prog R E α → Prop
  | start : Follows p [] p
  | call {log t c k r s} (h : Follows p log (.ask c k)) : Follows p (⟨t, c, r, s⟩ :: log) (k r)

/-- The thread has run the program to its end, with the result `x`. -/
def Ended (p : Prog R E α) (t : Nat) (x : Except E α) (w : World R E S) : Prop :=
  Follows p (w.own t) (Prog.ofExcept x)

/-- A log leaves one program. -/
theorem Follows.unique {p q q' : Prog R E α} {log : List (Event R E S)} (h : Follows p log q)
    (h' : Follows p log q') : q = q' := by
  induction h generalizing q' with
  | start =>
      cases h'
      rfl
  | call h ih =>
      cases h' with
      | call h' =>
          have hask := ih h'
          simp only [Prog.ask.injEq, heq_eq_eq, true_and] at hask
          rw [hask]

theorem ofExcept_injective {x y : Except E α}
    (h : (Prog.ofExcept x : Prog R E α) = Prog.ofExcept y) : x = y := by
  cases x with
  | ok a =>
      cases y with
      | ok b =>
          cases h
          rfl
      | error e => cases h
  | error e =>
      cases y with
      | ok b => cases h
      | error e' =>
          cases h
          rfl

namespace Discipline

variable {v : Service R E S} {permits : Nat → C → World R E S → Prop} {D : Discipline v permits}
  {p₀ : Prog R E α} {Q : Except E α → World R E S → Prop}

/-- Each thread is on its way through the program and will end in the postcondition. -/
def Tracks (D : Discipline v permits) (p₀ : Prog R E α) (Q : Except E α → World R E S → Prop)
    (cfg : Config R E (World R E S)) : Prop :=
  D.inv cfg.world ∧ Logged cfg ∧ ∀ t p, cfg.pool[t]? = some p → ∃ q, p = q.void ∧
    Follows p₀ (cfg.world.own t) q ∧ D.logic.Holds t Q q cfg.world

/-- What a step preserves of the programs. -/
theorem Tracks.step
    (hstart : ∀ {t w p s'}, (∀ e ∈ w.trace, e.thread ≠ t) → D.inv w → v.starts w.store p s' →
      p = p₀.void ∧ D.logic.Holds t Q p₀ { w with store := s' })
    {cfg cfg' : Config R E (World R E S)} (h : Tracks D p₀ Q cfg)
    (hs : (v.system.restrict permits).Step cfg cfg') : Tracks D p₀ Q cfg' := by
  obtain ⟨hi, hlogged, hp⟩ := h
  have hlogged' := hlogged.step hs
  cases hs with
  | @env w w' ps he =>
      obtain ⟨s', tr⟩ := w'
      obtain ⟨rfl, hrel⟩ := he
      refine ⟨D.env_inv hi hrel, hlogged', fun t p ht => ?_⟩
      obtain ⟨q, hq, hfollows, hholds⟩ := hp t p ht
      exact ⟨q, hq, hfollows, hholds.stable (D.logic.env_rely hi ⟨rfl, hrel⟩)⟩
  | @spawn w w' ps p hspawn =>
      obtain ⟨s', tr⟩ := w'
      obtain ⟨rfl, hrel⟩ := hspawn
      refine ⟨D.start_inv hi hrel, hlogged', fun t p' ht => ?_⟩
      by_cases hlt : t < ps.length
      · rw [List.getElem?_append_left hlt] at ht
        obtain ⟨q, hq, hfollows, hholds⟩ := hp t p' ht
        exact ⟨q, hq, hfollows, hholds.stable (D.logic.spawn_rely hi ⟨rfl, hrel⟩)⟩
      · rw [List.getElem?_append_right (Nat.not_lt.mp hlt)] at ht
        have hnew : p' = p := by simpa using List.mem_of_getElem? ht
        have ht' : t = ps.length := by
          have hbound := (List.getElem?_eq_some_iff.mp ht).1
          simp only [List.length_singleton] at hbound
          omega
        subst hnew ht'
        have hfresh : ∀ e ∈ w.trace, e.thread ≠ ps.length := hlogged.fresh
        obtain ⟨hvoid, hholds⟩ := hstart hfresh hi hrel
        refine ⟨p₀, hvoid, ?_, hholds⟩
        -- The thread has logged nothing yet.
        have hown : World.own ⟨s', w.trace⟩ ps.length = [] := by
          apply List.filter_eq_nil_iff.mpr
          intro e he
          simpa using hfresh e he
        rw [hown]
        exact .start
  | @call w w' ps t c k r ht ha =>
      obtain ⟨s', tr⟩ := w'
      obtain ⟨hpermit, htrace, houtcome⟩ := ha
      cases htrace
      obtain ⟨q, hq, hfollows, hholds⟩ := hp t _ ht
      cases q with
      | ret a => cases hq
      | throw e => cases hq
      | ask c' k' =>
          cases hq
          obtain ⟨hi', hk⟩ := hholds w (D.logic.rely_refl t w) hi r _ ⟨hpermit, rfl, houtcome⟩
          refine ⟨hi', hlogged', fun u p hu => ?_⟩
          by_cases hut : u = t
          · subst hut
            have hlt : u < ps.length := (List.getElem?_eq_some_iff.mp ht).1
            have hp' : (k' r).void = p := by
              simpa [List.getElem?_set, hlt, Prog.void] using hu
            refine ⟨k' r, hp'.symm, ?_, hk⟩
            have hown := World.own_log w u c r s'
            exact hown ▸ .call hfollows
          · rw [List.getElem?_set_ne (Ne.symm hut)] at hu
            obtain ⟨q', hq', hfollows', hholds'⟩ := hp u p hu
            refine ⟨q', hq', ?_, hholds'.stable (D.logic.guar hut hi ⟨hpermit, rfl, houtcome⟩)⟩
            have hown : World.own (w.log t c r s') u = w.own u := by
              simp [World.own, World.log, Ne.symm hut]
            exact hown ▸ hfollows'

/-- What a run preserves of the programs. -/
theorem tracks_of_reach
    (hstart : ∀ {t w p s'}, (∀ e ∈ w.trace, e.thread ≠ t) → D.inv w → v.starts w.store p s' →
      p = p₀.void ∧ D.logic.Holds t Q p₀ { w with store := s' })
    {s : S} (hi : D.inv ⟨s, []⟩) {cfg : Config R E (World R E S)}
    (hr : (v.system.restrict permits).Reach (Service.init s) cfg) : Tracks D p₀ Q cfg := by
  induction hr with
  | refl => exact ⟨hi, Logged.init s, fun t p ht => by cases ht⟩
  | tail _ hs ih => exact ih.step hstart hs

/-- A program that has ended has a result. -/
theorem Tracks.ended {cfg : Config R E (World R E S)} (h : Tracks D p₀ Q cfg) {t : Nat}
    {p : Prog R E Unit} (ht : cfg.pool[t]? = some p) (hdone : System.finished p = true) :
    ∃ x, Ended p₀ t x cfg.world := by
  obtain ⟨q, rfl, hfollows, -⟩ := h.2.2 t p ht
  cases q with
  | ret a => exact ⟨.ok a, hfollows⟩
  | throw e => exact ⟨.error e, hfollows⟩
  | ask c k => cases hdone

/-- A result is in the postcondition. -/
theorem Tracks.result {cfg : Config R E (World R E S)} (h : Tracks D p₀ Q cfg) {t : Nat}
    (ht : t < cfg.pool.length) {x : Except E α} (hx : Ended p₀ t x cfg.world) : Q x cfg.world := by
  obtain ⟨q, -, hfollows, hholds⟩ := h.2.2 t _ (List.getElem?_eq_getElem ht)
  have hq : q = Prog.ofExcept x := Follows.unique hfollows hx
  rw [hq] at hholds
  cases x with
  | ok a => exact hholds cfg.world (D.logic.rely_refl t _) h.1
  | error e => exact hholds cfg.world (D.logic.rely_refl t _) h.1

end Discipline

end CreativeBackend.Interaction
