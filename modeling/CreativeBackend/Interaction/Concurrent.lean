import CreativeBackend.Interaction.Program
import Mathlib.Logic.Relation

/-!
# Interleaved executions and rely-guarantee rules

A pool of programs shares one world. A step performs the next call of one
program, changes the world from outside, or starts another program. `Holds`
attaches a postcondition to a partly executed program: it survives every
interference in the rely relation and is renewed at each call. The run lemma
turns one such judgement per started program into an invariant of all
interleavings.

## Implementation notes

A thread is named by its position in the pool. Finished programs stay in the
pool, so positions never move.
-/

namespace CreativeBackend.Interaction

variable {C : Type} {R : C → Type} {E W α β : Type}

/-- The possible steps of a shared world: answers to the calls of thread `t`,
changes from outside, and programs that may be started. -/
structure System (R : C → Type) (E W : Type) where
  answers : Nat → (c : C) → W → Except E (R c) → W → Prop
  env : W → W → Prop
  spawns : W → Prog R E Unit → W → Prop

/-- A world together with the programs in progress. -/
structure Config (R : C → Type) (E W : Type) where
  world : W
  pool : List (Prog R E Unit)

namespace System

variable (σ : System R E W)

/-- One step of the pool. -/
inductive Step : Config R E W → Config R E W → Prop
  | env {w w' ps} (h : σ.env w w') : Step ⟨w, ps⟩ ⟨w', ps⟩
  | spawn {w w' ps p} (h : σ.spawns w p w') : Step ⟨w, ps⟩ ⟨w', ps ++ [p]⟩
  | call {w w' ps t c k r} (ht : ps[t]? = some (.ask c k)) (h : σ.answers t c w r w') :
      Step ⟨w, ps⟩ ⟨w', ps.set t (k r)⟩

/-- The configurations that a run can reach. -/
def Reach : Config R E W → Config R E W → Prop := Relation.ReflTransGen σ.Step

/-- The runs in which every call meets a condition on the world before it. -/
def restrict (permits : Nat → C → W → Prop) : System R E W :=
  { σ with answers := fun t c w r w' => permits t c w ∧ σ.answers t c w r w' }

@[simp] theorem restrict_true : σ.restrict (fun _ _ _ => True) = σ := by
  simp [restrict]

/-- No program is in progress. -/
def Quiescent (cfg : Config R E W) : Prop :=
  ∀ p ∈ cfg.pool, ∃ x, p = Prog.ofExcept x

/-- A program that has returned or thrown. -/
def finished : Prog R E α → Bool
  | .ask _ _ => false
  | _ => true

theorem quiescent_of_finished {cfg : Config R E W} (h : cfg.pool.all finished = true) :
    Quiescent cfg := by
  intro p hp
  have hdone := List.all_eq_true.mp h p hp
  cases p with
  | ret a => exact ⟨.ok a, rfl⟩
  | throw e => exact ⟨.error e, rfl⟩
  | ask c k => cases hdone

variable {σ}

/-- A run of a system is a run of every system that allows its steps. -/
theorem Reach.mono {τ : System R E W}
    (ha : ∀ {t c w r w'}, σ.answers t c w r w' → τ.answers t c w r w')
    (he : ∀ {w w'}, σ.env w w' → τ.env w w') (hs : ∀ {w p w'}, σ.spawns w p w' → τ.spawns w p w')
    {cfg cfg' : Config R E W} (h : σ.Reach cfg cfg') : τ.Reach cfg cfg' := by
  induction h with
  | refl => exact .refl
  | tail _ hstep ih =>
      refine ih.tail ?_
      cases hstep with
      | env h => exact .env (he h)
      | spawn h => exact .spawn (hs h)
      | call ht h => exact .call ht (ha h)

/-- Where every started program only makes calls in `P`, so does the run. -/
theorem Reach.permit_all {permits : Nat → C → W → Prop} {P : C → Prop} {cfg₀ : Config R E W}
    (hstart : ∀ w p w', σ.spawns w p w' → p.All P) (h₀ : ∀ p ∈ cfg₀.pool, p.All P)
    {cfg : Config R E W} (h : (σ.restrict permits).Reach cfg₀ cfg) :
    (σ.restrict fun t c w => permits t c w ∧ P c).Reach cfg₀ cfg ∧ ∀ p ∈ cfg.pool, p.All P := by
  induction h with
  | refl => exact ⟨.refl, h₀⟩
  | tail _ hstep ih =>
      obtain ⟨hr, hpool⟩ := ih
      cases hstep with
      | env h => exact ⟨hr.tail (.env h), hpool⟩
      | spawn h =>
          refine ⟨hr.tail (.spawn h), fun p hp => ?_⟩
          rcases List.mem_append.mp hp with hp | hp
          · exact hpool p hp
          · rw [List.mem_singleton.mp hp]
            exact hstart _ _ _ h
      | call ht h =>
          have hall := hpool _ (List.mem_of_getElem? ht)
          refine ⟨hr.tail (.call ht ⟨⟨h.1, hall.1⟩, h.2⟩), fun p hp => ?_⟩
          rcases List.mem_or_eq_of_mem_set hp with hp | rfl
          · exact hpool p hp
          · exact hall.2 _

end System

/-- An invariant of the world and, for each thread, what the other threads and
the environment may do between two of its calls. -/
structure Logic (σ : System R E W) where
  inv : W → Prop
  rely : Nat → W → W → Prop
  rely_refl : ∀ t w, rely t w w
  rely_trans : ∀ {t u v w}, rely t u v → rely t v w → rely t u w
  guar : ∀ {t u c w r w'}, u ≠ t → inv w → σ.answers t c w r w' → rely u w w'
  env_inv : ∀ {w w'}, inv w → σ.env w w' → inv w'
  env_rely : ∀ {t w w'}, inv w → σ.env w w' → rely t w w'
  spawn_inv : ∀ {w p w'}, inv w → σ.spawns w p w' → inv w'
  spawn_rely : ∀ {t w p w'}, inv w → σ.spawns w p w' → rely t w w'

namespace Logic

variable {σ : System R E W} (L : Logic σ) (t : Nat)

/-- Thread `t` keeps the invariant at each call and ends in the postcondition,
whatever the rely relation does in between. -/
def Holds (Q : Except E α → W → Prop) : Prog R E α → W → Prop
  | .ret a, w => ∀ w', L.rely t w w' → L.inv w' → Q (.ok a) w'
  | .throw e, w => ∀ w', L.rely t w w' → L.inv w' → Q (.error e) w'
  | .ask c k, w => ∀ w', L.rely t w w' → L.inv w' → ∀ r w'', σ.answers t c w' r w'' →
      L.inv w'' ∧ Holds Q (k r) w''

/-- The judgement without a postcondition. -/
def Safe (p : Prog R E α) (w : W) : Prop := L.Holds t (fun _ _ => True) p w

variable {L t}

theorem Holds.stable {Q : Except E α → W → Prop} {p : Prog R E α} {w w' : W}
    (h : L.Holds t Q p w) (hr : L.rely t w w') : L.Holds t Q p w' := by
  cases p with
  | ret a => exact fun v hv hi => h v (L.rely_trans hr hv) hi
  | throw e => exact fun v hv hi => h v (L.rely_trans hr hv) hi
  | ask c k => exact fun v hv hi => h v (L.rely_trans hr hv) hi

theorem Holds.mono {Q Q' : Except E α → W → Prop} {p : Prog R E α} {w : W}
    (h : L.Holds t Q p w) (hq : ∀ r w, L.inv w → Q r w → Q' r w) : L.Holds t Q' p w := by
  induction p generalizing w with
  | ret a => exact fun v hv hi => hq _ _ hi (h v hv hi)
  | throw e => exact fun v hv hi => hq _ _ hi (h v hv hi)
  | ask c k ih =>
      intro v hv hi r u hu
      obtain ⟨hiu, hk⟩ := h v hv hi r u hu
      exact ⟨hiu, ih r hk⟩

theorem Holds.safe {Q : Except E α → W → Prop} {p : Prog R E α} {w : W}
    (h : L.Holds t Q p w) : L.Safe t p w :=
  h.mono fun _ _ _ _ => trivial

/-- A stable fact may be returned at once. -/
theorem holds_ofExcept {Q : Except E α → W → Prop} {x : Except E α} {w : W}
    (h : ∀ w', L.rely t w w' → L.inv w' → Q x w') : L.Holds t Q (Prog.ofExcept x) w := by
  cases x <;> exact h

theorem holds_ret {Q : Except E α → W → Prop} {a : α} {w : W}
    (h : ∀ w', L.rely t w w' → L.inv w' → Q (.ok a) w') : L.Holds t Q (.ret a) w := h

theorem holds_bind {Q' : Except E α → W → Prop} {Q : Except E β → W → Prop}
    {p : Prog R E α} {f : α → Prog R E β} {w : W} (hi : L.inv w) (hp : L.Holds t Q' p w)
    (hok : ∀ a w', L.inv w' → Q' (.ok a) w' → L.Holds t Q (f a) w')
    (herr : ∀ e w', L.inv w' → Q' (.error e) w' → Q (.error e) w') :
    L.Holds t Q (p.bind f) w := by
  induction p generalizing w with
  | ret a => exact hok a w hi (hp w (L.rely_refl t w) hi)
  | throw e => exact fun v hv hiv => herr e v hiv (hp v hv hiv)
  | ask c k ih =>
      intro v hv hiv r u hu
      obtain ⟨hiu, hk⟩ := hp v hv hiv r u hu
      exact ⟨hiu, ih r hiu hk⟩

theorem holds_tryCatch {Q' Q : Except E α → W → Prop} {p : Prog R E α}
    {h : E → Prog R E α} {w : W} (hi : L.inv w) (hp : L.Holds t Q' p w)
    (hok : ∀ a w', L.inv w' → Q' (.ok a) w' → Q (.ok a) w')
    (herr : ∀ e w', L.inv w' → Q' (.error e) w' → L.Holds t Q (h e) w') :
    L.Holds t Q (p.tryCatch h) w := by
  induction p generalizing w with
  | ret a => exact fun v hv hiv => hok a v hiv (hp v hv hiv)
  | throw e => exact herr e w hi (hp w (L.rely_refl t w) hi)
  | ask c k ih =>
      intro v hv hiv r u hu
      obtain ⟨hiu, hk⟩ := hp v hv hiv r u hu
      exact ⟨hiu, ih r hiu hk⟩

/-- A program that is run for its effect ends where the program does. -/
theorem holds_void {Q : Except E α → W → Prop} {Q' : Except E Unit → W → Prop} {p : Prog R E α}
    {w : W} (h : L.Holds t Q p w) (hok : ∀ a w, Q (.ok a) w → Q' (.ok ()) w)
    (herr : ∀ e w, Q (.error e) w → Q' (.error e) w) : L.Holds t Q' p.void w := by
  induction p generalizing w with
  | ret a => exact fun v hv hi => hok a v (h v hv hi)
  | throw e => exact fun v hv hi => herr e v (h v hv hi)
  | ask c k ih =>
      intro v hv hi r u hu
      obtain ⟨hiu, hk⟩ := h v hv hi r u hu
      exact ⟨hiu, ih r hk⟩

/-- One call: renew the invariant and give a fact that is stable from then on. -/
theorem holds_call {c : C} {Q : Except E (R c) → W → Prop} {w : W}
    (h : ∀ w', L.rely t w w' → L.inv w' → ∀ r w'', σ.answers t c w' r w'' →
      L.inv w'' ∧ ∀ v, L.rely t w'' v → L.inv v → Q r v) :
    L.Holds t Q (Prog.call c) w := by
  intro v hv hi r u hu
  obtain ⟨hiu, hq⟩ := h v hv hi r u hu
  exact ⟨hiu, holds_ofExcept hq⟩

theorem safe_bind {p : Prog R E α} {f : α → Prog R E β} {w : W} (hi : L.inv w)
    (hp : L.Safe t p w) (hf : ∀ a w', L.inv w' → L.Safe t (f a) w') :
    L.Safe t (p.bind f) w :=
  holds_bind hi hp (fun a w' hi' _ => hf a w' hi') fun _ _ _ _ => trivial

end Logic

/-! ## Runs -/

namespace Logic

variable {σ : System R E W} (L : Logic σ)

/-- The invariant holds, and every program ends in the postcondition of its thread. -/
def Ends (Q : Nat → W → Prop) (cfg : Config R E W) : Prop :=
  L.inv cfg.world ∧ ∀ t p, cfg.pool[t]? = some p → L.Holds t (fun _ w => Q t w) p cfg.world

/-- Every program in progress is safe, and the invariant holds. -/
def Good (cfg : Config R E W) : Prop :=
  L.inv cfg.world ∧ ∀ t p, cfg.pool[t]? = some p → L.Safe t p cfg.world

variable {L}

/-- Where no program is in progress, every postcondition holds. -/
theorem Ends.quiescent {Q : Nat → W → Prop} {cfg : Config R E W} (h : L.Ends Q cfg)
    (hq : System.Quiescent cfg) {t : Nat} (ht : t < cfg.pool.length) : Q t cfg.world := by
  have hget : cfg.pool[t]? = some cfg.pool[t] := List.getElem?_eq_getElem ht
  have hholds := h.2 t _ hget
  obtain ⟨x, hx⟩ := hq _ (List.getElem_mem ht)
  rw [hx] at hholds
  cases x with
  | ok a => exact hholds cfg.world (L.rely_refl t _) h.1
  | error e => exact hholds cfg.world (L.rely_refl t _) h.1

/-- One thread followed along a run whose worlds keep the invariant. -/
theorem Holds.reach {cfg cfg' : Config R E W} {t : Nat} {p : Prog R E Unit}
    {Q : Except E Unit → W → Prop} (h : L.Holds t Q p cfg.world) (ht : cfg.pool[t]? = some p)
    (hi : ∀ mid, σ.Reach cfg mid → L.inv mid.world) (hr : σ.Reach cfg cfg') :
    ∃ p', cfg'.pool[t]? = some p' ∧ L.Holds t Q p' cfg'.world := by
  induction hr with
  | refl => exact ⟨p, ht, h⟩
  | tail hr hs ih =>
      have hinv := hi _ hr
      obtain ⟨p', ht', h'⟩ := ih
      cases hs with
      | env he => exact ⟨p', ht', h'.stable (L.env_rely hinv he)⟩
      | @spawn w w' ps q hspawn =>
          have hlt : t < ps.length := (List.getElem?_eq_some_iff.mp ht').1
          refine ⟨p', ?_, h'.stable (L.spawn_rely hinv hspawn)⟩
          rw [List.getElem?_append_left hlt]
          exact ht'
      | @call w w' ps u c k r hu ha =>
          by_cases hut : u = t
          · subst hut
            cases Option.some.inj (hu.symm.trans ht')
            have hlt : u < ps.length := (List.getElem?_eq_some_iff.mp hu).1
            obtain ⟨-, hk⟩ := h' w (L.rely_refl u w) hinv r w' ha
            exact ⟨k r, by simp [hlt], hk⟩
          · refine ⟨p', ?_, h'.stable (L.guar (Ne.symm hut) hinv ha)⟩
            rw [List.getElem?_set_ne hut]
            exact ht'

variable {Q : Nat → W → Prop} {J : Config R E W → Prop}
  (hJ : ∀ {cfg cfg'}, J cfg → σ.Step cfg cfg' → J cfg')

section Ends

variable (hspawn : ∀ {w ps p w'}, J ⟨w, ps⟩ → L.inv w → σ.spawns w p w' →
  L.Holds ps.length (fun _ w => Q ps.length w) p w')

include hspawn

/-- What one step preserves. A program may start where `J` holds of the configuration. -/
theorem Ends.step {cfg cfg' : Config R E W} (hj : J cfg) (hg : L.Ends Q cfg)
    (hs : σ.Step cfg cfg') : L.Ends Q cfg' := by
  obtain ⟨hi, hp⟩ := hg
  cases hs with
  | env h => exact ⟨L.env_inv hi h, fun t p ht => (hp t p ht).stable (L.env_rely hi h)⟩
  | @spawn w w' ps p h =>
      refine ⟨L.spawn_inv hi h, fun t q ht => ?_⟩
      by_cases hlt : t < ps.length
      · rw [List.getElem?_append_left hlt] at ht
        exact (hp t q ht).stable (L.spawn_rely hi h)
      · rw [List.getElem?_append_right (Nat.not_lt.mp hlt)] at ht
        have hq : q = p := by
          have := List.mem_of_getElem? ht
          simpa using this
        have ht' : t = ps.length := by
          have := (List.getElem?_eq_some_iff.mp ht).1
          simp only [List.length_singleton] at this
          omega
        subst hq ht'
        exact hspawn hj hi h
  | @call w w' ps t c k r ht h =>
      have hk := hp t _ ht w (L.rely_refl t w) hi r w' h
      refine ⟨hk.1, fun u q hu => ?_⟩
      by_cases hut : u = t
      · subst hut
        have hlt : u < ps.length := (List.getElem?_eq_some_iff.mp ht).1
        have hq : k r = q := by simpa [List.getElem?_set, hlt] using hu
        exact hq ▸ hk.2
      · rw [List.getElem?_set_ne (Ne.symm hut)] at hu
        exact (hp u q hu).stable (L.guar hut hi h)

include hJ

/-- What a whole run preserves. -/
theorem Ends.reach {cfg cfg' : Config R E W} (hj : J cfg) (hg : L.Ends Q cfg)
    (hr : σ.Reach cfg cfg') : J cfg' ∧ L.Ends Q cfg' := by
  induction hr with
  | refl => exact ⟨hj, hg⟩
  | tail _ hs ih => exact ⟨hJ ih.1 hs, ih.2.step hspawn ih.1 hs⟩

end Ends

variable (hspawn : ∀ {w ps p w'}, J ⟨w, ps⟩ → L.inv w → σ.spawns w p w' → L.Safe ps.length p w')

include hJ hspawn

/-- What a whole run preserves of programs without postconditions. -/
theorem Good.reach {cfg cfg' : Config R E W} (hj : J cfg) (hg : L.Good cfg)
    (hr : σ.Reach cfg cfg') : J cfg' ∧ L.Good cfg' :=
  Ends.reach (Q := fun _ _ => True) hJ hspawn hj hg hr

/-- The invariant holds in every configuration reached from an empty pool. -/
theorem inv_of_reach {w : W} {cfg : Config R E W} (hj : J ⟨w, []⟩) (hi : L.inv w)
    (hr : σ.Reach ⟨w, []⟩ cfg) : L.inv cfg.world := by
  have hg : L.Good ⟨w, []⟩ := ⟨hi, fun _ _ h => by simp at h⟩
  exact (hg.reach hJ hspawn hj hr).2.1

end Logic

end CreativeBackend.Interaction
