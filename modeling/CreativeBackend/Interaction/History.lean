import CreativeBackend.Interaction.Results

/-!
# The stores of a run

Where nothing but the calls changes the store, the log of a run tells every store that the run
has passed through. What one call does to the store is then an induction step along the log.
-/

namespace CreativeBackend.Interaction

variable {C : Type} {R : C → Type} {E S α : Type}

/-- What has been logged since the latest entry in `stop`, the latest first. -/
def sinceLatest {γ : Type} (stop : γ → Bool) (log : List γ) : List γ := log.takeWhile (!stop ·)

/-- What comes after every entry in `stop` has been logged since. -/
theorem mem_sinceLatest {γ : Type} {stop : γ → Bool} {log post pre : List γ} {e : γ}
    (h : log = post ++ e :: pre) (he : stop e = false) (hpost : ∀ x ∈ post, stop x = false) :
    e ∈ sinceLatest stop log := by
  subst h
  rw [sinceLatest, List.takeWhile_append_of_pos (by simpa using hpost),
    List.takeWhile_cons_of_pos (by simp [he])]
  exact List.mem_append_right _ List.mem_cons_self

/-- The present store and every store in which a call was performed, the latest first. -/
def World.stores (w : World R E S) : List S := w.store :: w.trace.map (·.before)

theorem World.store_mem_stores (w : World R E S) : w.store ∈ w.stores := List.mem_cons_self

theorem World.before_mem_stores {w : World R E S} {e : Event R E S} (h : e ∈ w.trace) :
    e.before ∈ w.stores :=
  List.mem_cons_of_mem _ (List.mem_map_of_mem h)

/-- A program that starts with a call has not begun, or the call is the first of its log. -/
theorem Follows.of_ask {c : C} {k : Except E (R c) → Prog R E α} {log : List (Event R E S)}
    {q : Prog R E α} (h : Follows (.ask c k) log q) :
    (log = [] ∧ q = .ask c k) ∨
      ∃ t r s later, log = later ++ [⟨t, c, r, s⟩] ∧ Follows (k r) later q := by
  induction h with
  | start => exact .inl ⟨rfl, rfl⟩
  | @call log t c' k' r s h ih =>
      right
      rcases ih with ⟨rfl, heq⟩ | ⟨t', r', s', later, rfl, hlater⟩
      · cases heq
        exact ⟨t, r, s, [], rfl, .start⟩
      · exact ⟨t', r', s', ⟨t, c', r, s⟩ :: later, rfl, .call hlater⟩

/-- A program that has ended has made its first call. -/
theorem Follows.of_ask_ended {c : C} {k : Except E (R c) → Prog R E α}
    {log : List (Event R E S)} {x : Except E α}
    (h : Follows (.ask c k) log (Prog.ofExcept x)) :
    ∃ t r s later, log = later ++ [⟨t, c, r, s⟩] ∧ Follows (k r) later (Prog.ofExcept x) := by
  rcases h.of_ask with ⟨-, heq⟩ | hcall
  · cases x <;> cases heq
  · exact hcall

/-- A program without calls logs nothing. -/
theorem Follows.of_ofExcept {y : Except E α} {log : List (Event R E S)} {q : Prog R E α}
    (h : Follows (Prog.ofExcept y) log q) : log = [] ∧ q = Prog.ofExcept y := by
  induction h with
  | start => exact ⟨rfl, rfl⟩
  | call _ ih => cases y <;> cases ih.2

/-- A program without calls ends with what it says. -/
theorem Follows.of_ofExcept_ended {y x : Except E α} {log : List (Event R E S)}
    (h : Follows (Prog.ofExcept y) log (Prog.ofExcept x)) : x = y :=
  ofExcept_injective h.of_ofExcept.2

/-- A program that has returned did so without another call. -/
theorem Follows.of_ret {a b : α} {log : List (Event R E S)}
    (h : Follows (.ret a : Prog R E α) log (Prog.ofExcept (.ok b))) : a = b := by
  have hsame : Except.ok b = (Except.ok a : Except E α) :=
    Follows.of_ofExcept_ended (y := .ok a) h
  exact (Except.ok.inj hsame).symm

/-- A sequence that has returned was answered at its first call. -/
theorem Follows.of_call_bind {β : Type} {c : C} {f : R c → Prog R E β} {log : List (Event R E S)}
    {b : β} (h : Follows ((Prog.call c).bind f) log (Prog.ofExcept (.ok b))) :
    ∃ t a s later, log = later ++ [⟨t, c, .ok a, s⟩] ∧ Follows (f a) later (Prog.ofExcept (.ok b)) := by
  obtain ⟨t, r, s, later, rfl, hlater⟩ := Follows.of_ask_ended h
  cases r with
  | ok a => exact ⟨t, a, s, later, rfl, hlater⟩
  | error e =>
      have hsame : Except.ok b = (Except.error e : Except E β) :=
        Follows.of_ofExcept_ended (y := .error e) hlater
      cases hsame

namespace Service

variable (v : Service R E S)

/-- The calls of a log, the latest first, lead from one store to another. -/
inductive Logs (s₀ : S) : List (Event R E S) → S → Prop
  | start : Logs s₀ [] s₀
  | call {tr t c x s s'} (h : Logs s₀ tr s) (ho : v.Outcome c s x s') :
      Logs s₀ (⟨t, c, x, s⟩ :: tr) s'

variable {v} {permits : Nat → C → World R E S → Prop}

/-- What a logged call did. -/
theorem Logs.of_mem {s₀ : S} {w : World R E S} (h : v.Logs s₀ w.trace w.store)
    {e : Event R E S} (he : e ∈ w.trace) : ∃ s ∈ w.stores, v.Outcome e.call e.before e.answer s := by
  obtain ⟨s, tr⟩ := w
  simp only at h he
  induction h with
  | start => cases he
  | call h ho ih =>
      rcases List.mem_cons.mp he with rfl | hlater
      · exact ⟨_, List.mem_cons_self, ho⟩
      · obtain ⟨s', hs', ho'⟩ := ih hlater
        exact ⟨s', List.mem_cons_of_mem _ hs', ho'⟩

variable (henv : ∀ s s', v.env s s' → s' = s) (hstarts : ∀ s p s', v.starts s p s' → s' = s)

include henv hstarts

/-- What a run adds to the log leads from its first store to its last. -/
theorem logs_of_reach_new {cfg cfg' : Config R E (World R E S)}
    (hr : (v.system.restrict permits).Reach cfg cfg') :
    ∃ new, cfg'.world.trace = new ++ cfg.world.trace ∧
      v.Logs cfg.world.store new cfg'.world.store := by
  induction hr with
  | refl => exact ⟨[], rfl, .start⟩
  | tail _ hs ih =>
      obtain ⟨new, hnew, hlogs⟩ := ih
      cases hs with
      | env h => exact ⟨new, h.1.trans hnew, henv _ _ h.2 ▸ hlogs⟩
      | spawn h => exact ⟨new, h.1.trans hnew, hstarts _ _ _ h.2 ▸ hlogs⟩
      | call _ h =>
          obtain ⟨-, htr, ho⟩ := h
          exact ⟨_ :: new, by rw [htr, hnew, List.cons_append], .call hlogs ho⟩

/-- The log of a run leads to its store. -/
theorem logs_of_reach {s₀ : S} {cfg : Config R E (World R E S)}
    (hr : (v.system.restrict permits).Reach (Service.init s₀) cfg) :
    v.Logs s₀ cfg.world.trace cfg.world.store := by
  obtain ⟨new, hnew, hlogs⟩ := logs_of_reach_new henv hstarts hr
  have htr : cfg.world.trace = new := by rw [hnew, Service.init, List.append_nil]
  exact htr ▸ hlogs

end Service

/-- A property of the worlds that no step destroys holds in every world of a run. -/
theorem Service.world_inv_of_reach {v : Service R E S} {permits : Nat → C → World R E S → Prop}
    {I : World R E S → Prop}
    (hcall : ∀ {t c w x s'}, I w → permits t c w → v.Outcome c w.store x s' → I (w.log t c x s'))
    (henv : ∀ {w : World R E S} {s'}, I w → v.env w.store s' → I { w with store := s' })
    (hstart : ∀ {w : World R E S} {p s'}, I w → v.starts w.store p s' → I { w with store := s' })
    {cfg cfg' : Config R E (World R E S)} (hi : I cfg.world)
    (hr : (v.system.restrict permits).Reach cfg cfg') : I cfg'.world := by
  induction hr with
  | refl => exact hi
  | tail _ hs ih =>
      cases hs with
      | @env w w' ps h =>
          obtain ⟨s', tr⟩ := w'
          obtain ⟨rfl, h⟩ := h
          exact henv ih h
      | @spawn w w' ps p h =>
          obtain ⟨s', tr⟩ := w'
          obtain ⟨rfl, h⟩ := h
          exact hstart ih h
      | @call w w' ps t c k r _ h =>
          obtain ⟨s', tr⟩ := w'
          obtain ⟨hp, htrace, h⟩ := h
          cases htrace
          exact hcall ih hp h

/-- Only programs in progress are logged in a run. -/
theorem Discipline.logged_of_reach {v : Service R E S} {permits : Nat → C → World R E S → Prop}
    {s : S} {cfg : Config R E (World R E S)}
    (hr : (v.system.restrict permits).Reach (Service.init s) cfg) : Discipline.Logged cfg := by
  induction hr with
  | refl => exact Discipline.Logged.init s
  | tail _ hs ih => exact ih.step hs

/-- What a thread that starts later logs is new. -/
theorem mem_new_of_own {w : World R E S} {old new : List (Event R E S)}
    (htr : w.trace = new ++ old) {t : Nat} (hfresh : ∀ e ∈ old, e.thread ≠ t)
    {e : Event R E S} (he : e ∈ w.own t) : e ∈ new := by
  obtain ⟨hmem, hthread⟩ := World.mem_own.mp he
  rw [htr] at hmem
  rcases List.mem_append.mp hmem with hnew | hold
  · exact hnew
  · exact absurd hthread (hfresh e hold)

end CreativeBackend.Interaction
