import CreativeBackend.Interaction.History

/-!
# Programs along their own logs

What a program may call next is often a matter of what it has called and read so far. `Along`
states such a rule on the own log of a thread, for the answers that the store can give. A `Guard`
pairs the rule with an invariant of the worlds: the rule carries the invariant over each call, and
the invariant tells which answers are possible. No thread needs to know what the others do.
-/

namespace CreativeBackend.Interaction

variable {C : Type} {R : C → Type} {E S α β : Type}

/-- A call leaves the logs of the other threads alone. -/
theorem World.own_log_ne (w : World R E S) {t u : Nat} (h : u ≠ t) (c : C) (r : Except E (R c))
    (s : S) : (w.log t c r s).own u = w.own u := by
  simp [own, log, Ne.symm h]

namespace Prog

/-- Every call of thread `t` meets `P` on its own log, as long as it is answered within `A`, and
the program ends with `Q` of its log. -/
def Along (P : List (Event R E S) → C → Prop)
    (A : List (Event R E S) → (c : C) → Except E (R c) → S → Prop) (t : Nat)
    (Q : List (Event R E S) → Except E α → Prop) : Prog R E α → List (Event R E S) → Prop
  | ret a, log => Q log (.ok a)
  | throw e, log => Q log (.error e)
  | ask c k, log => P log c ∧ ∀ r s, A log c r s → (k r).Along P A t Q (⟨t, c, r, s⟩ :: log)

variable {P : List (Event R E S) → C → Prop}
  {A : List (Event R E S) → (c : C) → Except E (R c) → S → Prop} {t : Nat}

theorem Along.mono {Q Q' : List (Event R E S) → Except E α → Prop} {p : Prog R E α}
    {log : List (Event R E S)} (h : p.Along P A t Q log) (hq : ∀ log x, Q log x → Q' log x) :
    p.Along P A t Q' log := by
  induction p generalizing log with
  | ret a => exact hq _ _ h
  | throw e => exact hq _ _ h
  | ask c k ih => exact ⟨h.1, fun r s hA => ih r (h.2 r s hA)⟩

/-- A sequence, from its first part. -/
theorem along_bind {Q : List (Event R E S) → Except E α → Prop}
    {Q' : List (Event R E S) → Except E β → Prop} {p : Prog R E α} {f : α → Prog R E β}
    {log : List (Event R E S)} (hp : p.Along P A t Q log)
    (hok : ∀ log a, Q log (.ok a) → (f a).Along P A t Q' log)
    (herr : ∀ log e, Q log (.error e) → Q' log (.error e)) : (p.bind f).Along P A t Q' log := by
  induction p generalizing log with
  | ret a => exact hok _ _ hp
  | throw e => exact herr _ _ hp
  | ask c k ih => exact ⟨hp.1, fun r s hA => ih r (hp.2 r s hA)⟩

/-- A `try` block, from its body. -/
theorem along_tryCatch {Q Q' : List (Event R E S) → Except E α → Prop} {p : Prog R E α}
    {h : E → Prog R E α} {log : List (Event R E S)} (hp : p.Along P A t Q log)
    (hok : ∀ log a, Q log (.ok a) → Q' log (.ok a))
    (herr : ∀ log e, Q log (.error e) → (h e).Along P A t Q' log) :
    (p.tryCatch h).Along P A t Q' log := by
  induction p generalizing log with
  | ret a => exact hok _ _ hp
  | throw e => exact herr _ _ hp
  | ask c k ih => exact ⟨hp.1, fun r s hA => ih r (hp.2 r s hA)⟩

theorem along_ofExcept {Q : List (Event R E S) → Except E α → Prop} {x : Except E α}
    {log : List (Event R E S)} (h : Q log x) : (ofExcept x : Prog R E α).Along P A t Q log := by
  cases x <;> exact h

theorem along_call {Q : List (Event R E S) → Except E (R c) → Prop} {log : List (Event R E S)}
    (hP : P log c) (h : ∀ r s, A log c r s → Q (⟨t, c, r, s⟩ :: log) r) :
    (call c : Prog R E (R c)).Along P A t Q log :=
  ⟨hP, fun r s hA => along_ofExcept (h r s hA)⟩

/-- One call and what follows its answer. -/
theorem along_call_bind {c : C} {Q : List (Event R E S) → Except E β → Prop} {f : R c → Prog R E β}
    {log : List (Event R E S)} (hP : P log c)
    (hok : ∀ a s, A log c (.ok a) s → (f a).Along P A t Q (⟨t, c, .ok a, s⟩ :: log))
    (herr : ∀ e s, A log c (.error e) s → Q (⟨t, c, .error e, s⟩ :: log) (.error e)) :
    ((call c).bind f).Along P A t Q log := by
  refine ⟨hP, fun r s hA => ?_⟩
  cases r with
  | ok a => exact hok a s hA
  | error e => exact herr e s hA

/-- A program that only makes calls that meet the rule on every log that keeps a fact. -/
theorem along_of_all {P' : C → Prop} {F : List (Event R E S) → Prop}
    (hF : ∀ log c r s, P' c → F log → A log c r s → F (⟨t, c, r, s⟩ :: log))
    (hP : ∀ log c, P' c → F log → P log c) {p : Prog R E α} (hp : p.All P')
    {log : List (Event R E S)} (hlog : F log) : p.Along P A t (fun log _ => F log) log := by
  induction p generalizing log with
  | ret a => exact hlog
  | throw e => exact hlog
  | ask c k ih =>
      exact ⟨hP log c hp.1 hlog, fun r s hA => ih r (hp.2 r) (hF log c r s hp.1 hlog hA)⟩

end Prog

/-- A rule for the calls of every thread on its own log, and an invariant of the worlds. -/
structure Guard (v : Service R E S) (permits : Nat → C → World R E S → Prop) where
  inv : World R E S → Prop
  rule : List (Event R E S) → C → Prop
  answers : List (Event R E S) → (c : C) → Except E (R c) → S → Prop
  answered : ∀ {t c w x s'}, inv w → permits t c w → rule (w.own t) c →
    v.Outcome c w.store x s' → answers (w.own t) c x w.store
  call_inv : ∀ {t c w x s'}, inv w → permits t c w → rule (w.own t) c →
    v.Outcome c w.store x s' → inv (w.log t c x s')
  env_inv : ∀ {w : World R E S} {s'}, inv w → v.env w.store s' → inv { w with store := s' }
  start_inv : ∀ {w : World R E S} {p s'}, inv w → v.starts w.store p s' →
    inv { w with store := s' }

namespace Guard

variable {v : Service R E S} {permits : Nat → C → World R E S → Prop} (G : Guard v permits)

/-- The invariant holds, and every program in progress is along its own log, to an end with `Q` of
the log and the result. -/
def Ending (Q : Nat → List (Event R E S) → Except E Unit → Prop) (cfg : Config R E (World R E S)) :
    Prop :=
  G.inv cfg.world ∧ Discipline.Logged cfg ∧ ∀ (t : Nat) (p : Prog R E Unit), cfg.pool[t]? = some p →
    p.Along G.rule G.answers t (Q t) (cfg.world.own t)

/-- The invariant holds, and every program in progress is along its own log. -/
def Good (Q : Nat → List (Event R E S) → Prop) (cfg : Config R E (World R E S)) : Prop :=
  G.inv cfg.world ∧ Discipline.Logged cfg ∧ ∀ (t : Nat) (p : Prog R E Unit), cfg.pool[t]? = some p →
    p.Along G.rule G.answers t (fun log _ => Q t log) (cfg.world.own t)

variable {G}

section Ending

variable {Q : Nat → List (Event R E S) → Except E Unit → Prop}
  (hstart : ∀ {t s p s'}, v.starts s p s' → p.Along G.rule G.answers t (Q t) [])

include hstart

/-- What one step preserves. -/
theorem Ending.step {cfg cfg' : Config R E (World R E S)} (h : G.Ending Q cfg)
    (hs : (v.system.restrict permits).Step cfg cfg') : G.Ending Q cfg' := by
  obtain ⟨hi, hlogged, hp⟩ := h
  have hlogged' := hlogged.step hs
  cases hs with
  | @env w w' ps he =>
      obtain ⟨s', tr⟩ := w'
      obtain ⟨rfl, hrel⟩ := he
      exact ⟨G.env_inv hi hrel, hlogged', hp⟩
  | @spawn w w' ps p hspawn =>
      obtain ⟨s', tr⟩ := w'
      obtain ⟨rfl, hrel⟩ := hspawn
      refine ⟨G.start_inv hi hrel, hlogged', fun t p' ht => ?_⟩
      by_cases hlt : t < ps.length
      · rw [List.getElem?_append_left hlt] at ht
        exact hp t p' ht
      · rw [List.getElem?_append_right (Nat.not_lt.mp hlt)] at ht
        have hnew : p' = p := by simpa using List.mem_of_getElem? ht
        have ht' : t = ps.length := by
          have hbound := (List.getElem?_eq_some_iff.mp ht).1
          simp only [List.length_singleton] at hbound
          omega
        subst hnew ht'
        have hown : World.own ⟨s', w.trace⟩ ps.length = [] := by
          apply List.filter_eq_nil_iff.mpr
          intro e he
          simpa using hlogged.fresh e he
        rw [hown]
        exact hstart hrel
  | @call w w' ps t c k r ht ha =>
      obtain ⟨s', tr⟩ := w'
      obtain ⟨hpermit, htrace, houtcome⟩ := ha
      cases htrace
      obtain ⟨hrule, hk⟩ := hp t _ ht
      refine ⟨G.call_inv hi hpermit hrule houtcome, hlogged', fun u p hu => ?_⟩
      by_cases hut : u = t
      · subst hut
        have hlt : u < ps.length := (List.getElem?_eq_some_iff.mp ht).1
        have hp' : k r = p := by simpa [List.getElem?_set, hlt] using hu
        have hown := World.own_log w u c r s'
        rw [← hp']
        exact hown ▸ hk r w.store (G.answered hi hpermit hrule houtcome)
      · rw [List.getElem?_set_ne (Ne.symm hut)] at hu
        have hown := World.own_log_ne w hut c r s'
        exact hown ▸ hp u p hu

/-- What a run preserves. -/
theorem Ending.reach {cfg cfg' : Config R E (World R E S)} (h : G.Ending Q cfg)
    (hr : (v.system.restrict permits).Reach cfg cfg') : G.Ending Q cfg' := by
  induction hr with
  | refl => exact h
  | tail _ hs ih => exact ih.step hstart hs

theorem ending_of_reach {s : S} (hi : G.inv ⟨s, []⟩) {cfg : Config R E (World R E S)}
    (hr : (v.system.restrict permits).Reach (Service.init s) cfg) : G.Ending Q cfg :=
  Ending.reach hstart ⟨hi, Discipline.Logged.init s, fun t p ht => by cases ht⟩ hr

omit hstart in
/-- A program that has ended has brought its log to its end. -/
theorem Ending.ended {cfg : Config R E (World R E S)} (h : G.Ending Q cfg) {t : Nat}
    {x : Except E Unit} (ht : cfg.pool[t]? = some (Prog.ofExcept x)) :
    Q t (cfg.world.own t) x := by
  have halong := h.2.2 t _ ht
  cases x with
  | ok a => exact halong
  | error e => exact halong

end Ending

section Good

variable {Q : Nat → List (Event R E S) → Prop}
  (hstart : ∀ {t s p s'}, v.starts s p s' → p.Along G.rule G.answers t (fun log _ => Q t log) [])

include hstart

/-- What one step preserves of the logs. -/
theorem Good.step {cfg cfg' : Config R E (World R E S)} (h : G.Good Q cfg)
    (hs : (v.system.restrict permits).Step cfg cfg') : G.Good Q cfg' :=
  Ending.step hstart h hs

/-- What a run preserves of the logs. -/
theorem Good.reach {cfg cfg' : Config R E (World R E S)} (h : G.Good Q cfg)
    (hr : (v.system.restrict permits).Reach cfg cfg') : G.Good Q cfg' :=
  Ending.reach hstart h hr

theorem good_of_reach {s : S} (hi : G.inv ⟨s, []⟩) {cfg : Config R E (World R E S)}
    (hr : (v.system.restrict permits).Reach (Service.init s) cfg) : G.Good Q cfg :=
  ending_of_reach hstart hi hr

omit hstart in
/-- A program that has ended has brought its log to its end. -/
theorem Good.ended {cfg : Config R E (World R E S)} (h : G.Good Q cfg) {t : Nat}
    {p : Prog R E Unit} (ht : cfg.pool[t]? = some p) (hdone : System.finished p = true) :
    Q t (cfg.world.own t) := by
  have halong := h.2.2 t p ht
  cases p with
  | ret a => exact halong
  | throw e => exact halong
  | ask c k => cases hdone

end Good

end Guard

end CreativeBackend.Interaction
