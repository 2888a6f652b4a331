import CreativeBackend.Interaction.Concurrent
import CreativeBackend.Interaction.Sequential

/-!
# Services over a store

A service answers the calls of many programs from one store. Its answers may
depend on a choice the caller does not see, and some calls may fail without
effect. The world of a service records every call with the store it was
performed in, so conditions on a run can speak about earlier calls.

A script lists the steps of one particular run. Performing it is a computation,
and a performed script is a run of the service.
-/

namespace CreativeBackend.Interaction

variable {C : Type} {R : C → Type} {E S α : Type}

/-- One performed call: the thread, the answer, and the store just before. -/
structure Event (R : C → Type) (E S : Type) where
  thread : Nat
  call : C
  answer : Except E (R call)
  before : S

/-- The store and every call performed so far, the latest first. -/
structure World (R : C → Type) (E S : Type) where
  store : S
  trace : List (Event R E S)

/-- Replace the store and log the call. -/
def World.log (w : World R E S) (t : Nat) (c : C) (r : Except E (R c)) (s : S) :
    World R E S :=
  ⟨s, ⟨t, c, r, w.store⟩ :: w.trace⟩

/-- The calls of one thread, the latest first. -/
def World.own (w : World R E S) (t : Nat) : List (Event R E S) :=
  w.trace.filter fun e => e.thread = t

theorem World.mem_own {w : World R E S} {t : Nat} {e : Event R E S} :
    e ∈ w.own t ↔ e ∈ w.trace ∧ e.thread = t := by
  simp [own, List.mem_filter]

@[simp] theorem World.own_log (w : World R E S) (t : Nat) (c : C) (r : Except E (R c)) (s : S) :
    (w.log t c r s).own t = ⟨t, c, r, w.store⟩ :: w.own t := by
  simp [own, log]

/-- A store shared by programs: the machine under each choice, the calls that
may fail without effect, the changes made by others, and the programs it starts. -/
structure Service (R : C → Type) (E S : Type) where
  Choice : Type
  machine : Choice → Machine R E S
  faulty : C → Prop
  env : S → S → Prop
  starts : S → Prog R E Unit → S → Prop

namespace Service

variable (v : Service R E S)

/-- The answers of the store to one call, failures included. -/
def Outcome (c : C) (s : S) (r : Except E (R c)) (s' : S) : Prop :=
  (∃ ch, v.machine ch c s = (r, s')) ∨ (v.faulty c ∧ s' = s ∧ ∃ e, r = .error e)

/-- The pool of programs over the store and its trace. -/
def system : System R E (World R E S) where
  answers t c w r w' :=
    w'.trace = ⟨t, c, r, w.store⟩ :: w.trace ∧ v.Outcome c w.store r w'.store
  env w w' := w'.trace = w.trace ∧ v.env w.store w'.store
  spawns w p w' := w'.trace = w.trace ∧ v.starts w.store p w'.store

/-- The initial configuration over a store. -/
def init (s : S) : Config R E (World R E S) := ⟨⟨s, []⟩, []⟩

/-- A store property that no answer, outside change or start destroys holds in every
store that a run reaches. -/
theorem store_inv_of_reach {I : S → Prop}
    (hcall : ∀ c s r s', I s → v.Outcome c s r s' → I s')
    (henv : ∀ s s', I s → v.env s s' → I s')
    (hstart : ∀ s p s', I s → v.starts s p s' → I s')
    {permits : Nat → C → World R E S → Prop} {cfg cfg' : Config R E (World R E S)}
    (hi : I cfg.world.store) (hr : (v.system.restrict permits).Reach cfg cfg') :
    I cfg'.world.store := by
  induction hr with
  | refl => exact hi
  | tail _ hs ih =>
      cases hs with
      | env h => exact henv _ _ ih h.2
      | spawn h => exact hstart _ _ _ ih h.2
      | call _ h => exact hcall _ _ _ _ ih h.2.2

/-- One step of a script. -/
inductive Action (v : Service R E S) where
  | start (p : Prog R E Unit) (guard : S → Bool) (f : S → S)
  | step (t : Nat) (ch : v.Choice)
  | fault (t : Nat) (e : E)
  | change (guard : S → Bool) (f : S → S)

variable {v}

/-- The actions that the service allows. Faults are allowed on every call. -/
def Action.Legal : v.Action → Prop
  | start p guard f => ∀ s, guard s = true → v.starts s p (f s)
  | step _ _ => True
  | fault _ _ => ∀ c, v.faulty c
  | change guard f => ∀ s, guard s = true → v.env s (f s)

/-- Every action of a script is allowed. -/
def Legal (as : List v.Action) : Prop := ∀ a ∈ as, a.Legal

@[simp] theorem legal_nil : Legal ([] : List v.Action) := by simp [Legal]

@[simp] theorem legal_cons {a : v.Action} {as : List v.Action} :
    Legal (a :: as) ↔ a.Legal ∧ Legal as := by simp [Legal]

@[simp] theorem legal_append {as bs : List v.Action} :
    Legal (as ++ bs) ↔ Legal as ∧ Legal bs := List.forall_mem_append

section Perform

variable (permits : Nat → C → World R E S → Prop) [∀ t c w, Decidable (permits t c w)]

/-- Perform one action, if it is possible and permitted. -/
def Action.perform : v.Action → Config R E (World R E S) → Option (Config R E (World R E S))
  | start p guard f, cfg =>
      if guard cfg.world.store then
        some ⟨{ cfg.world with store := f cfg.world.store }, cfg.pool ++ [p]⟩
      else none
  | step t ch, cfg =>
      match cfg.pool[t]? with
      | some (.ask c k) =>
          if permits t c cfg.world then
            let answer := v.machine ch c cfg.world.store
            some ⟨cfg.world.log t c answer.1 answer.2, cfg.pool.set t (k answer.1)⟩
          else none
      | _ => none
  | fault t e, cfg =>
      match cfg.pool[t]? with
      | some (.ask c k) =>
          if permits t c cfg.world then
            some ⟨cfg.world.log t c (.error e) cfg.world.store, cfg.pool.set t (k (.error e))⟩
          else none
      | _ => none
  | change guard f, cfg =>
      if guard cfg.world.store then
        some ⟨{ cfg.world with store := f cfg.world.store }, cfg.pool⟩
      else none

/-- Perform the actions of a script in order. -/
def perform : List v.Action → Config R E (World R E S) → Option (Config R E (World R E S))
  | [], cfg => some cfg
  | a :: as, cfg => (a.perform permits cfg).bind (perform as)

variable {permits}

theorem Action.perform_step {a : v.Action} (ha : a.Legal)
    {cfg cfg' : Config R E (World R E S)} (h : a.perform permits cfg = some cfg') :
    (v.system.restrict permits).Step cfg cfg' := by
  obtain ⟨w, ps⟩ := cfg
  cases a with
  | start p guard f =>
      simp only [perform] at h
      split at h
      · cases h
        exact .spawn ⟨rfl, ha _ ‹_›⟩
      · cases h
  | step t ch =>
      simp only [perform] at h
      split at h
      · split at h
        · next hp =>
            cases h
            exact .call ‹_› ⟨hp, rfl, .inl ⟨ch, rfl⟩⟩
        · cases h
      · cases h
  | fault t e =>
      simp only [perform] at h
      split at h
      · split at h
        · next hp =>
            cases h
            exact .call ‹_› ⟨hp, rfl, .inr ⟨ha _, rfl, e, rfl⟩⟩
        · cases h
      · cases h
  | change guard f =>
      simp only [perform] at h
      split at h
      · cases h
        exact .env ⟨rfl, ha _ ‹_›⟩
      · cases h

/-- A performed script is a run. -/
theorem reach_of_perform {as : List v.Action} (hl : Legal as)
    {cfg cfg' : Config R E (World R E S)} (h : perform permits as cfg = some cfg') :
    (v.system.restrict permits).Reach cfg cfg' := by
  induction as generalizing cfg with
  | nil =>
      cases h
      exact .refl
  | cons a as ih =>
      obtain ⟨mid, ha, hrest⟩ := Option.bind_eq_some_iff.mp h
      obtain ⟨hla, hlas⟩ := legal_cons.mp hl
      exact (Relation.ReflTransGen.single (a.perform_step hla ha)).trans (ih hlas hrest)

variable (permits) in
/-- A script that ends in a configuration with a decidable property reaches such a one. -/
theorem exists_config_of_perform (as : List v.Action) (cfg : Config R E (World R E S))
    (P : Config R E (World R E S) → Bool) (hl : Legal as)
    (h : (perform permits as cfg).any P = true) :
    ∃ cfg', (v.system.restrict permits).Reach cfg cfg' ∧ P cfg' = true := by
  cases hp : perform permits as cfg with
  | none => simp [hp] at h
  | some cfg' => exact ⟨cfg', reach_of_perform hl hp, by simpa [hp] using h⟩

variable (permits) in
/-- A script that ends in a world with a decidable property reaches such a world. -/
theorem exists_world_of_perform (as : List v.Action) (cfg : Config R E (World R E S))
    (P : World R E S → Bool) (hl : Legal as)
    (h : (perform permits as cfg).any (fun cfg' => P cfg'.world) = true) :
    ∃ cfg', (v.system.restrict permits).Reach cfg cfg' ∧ P cfg'.world = true :=
  exists_config_of_perform permits as cfg (fun cfg' => P cfg'.world) hl h

variable (permits) in
/-- A script that ends in a store with a decidable property reaches such a store. -/
theorem exists_reach_of_perform (as : List v.Action) (cfg : Config R E (World R E S))
    (P : S → Bool) (hl : Legal as)
    (h : (perform permits as cfg).any (fun cfg' => P cfg'.world.store) = true) :
    ∃ cfg', (v.system.restrict permits).Reach cfg cfg' ∧ P cfg'.world.store = true :=
  exists_world_of_perform permits as cfg (fun w => P w.store) hl h

end Perform

/-- The service in which some calls fail by choice, for scripts with such failures. -/
def withFaults (v : Service R E S) (canFail : C → Bool) (e : E) : Service R E S where
  Choice := v.Choice × Bool
  machine ch c s := if ch.2 && canFail c then (.error e, s) else v.machine ch.1 c s
  faulty _ := False
  env := v.env
  starts := v.starts

theorem outcome_of_withFaults {canFail : C → Bool} {e : E} (hc : ∀ c, canFail c = true → v.faulty c)
    {c : C} {s : S} {x : Except E (R c)} {s' : S} (h : (v.withFaults canFail e).Outcome c s x s') :
    v.Outcome c s x s' := by
  rcases h with ⟨ch, hm⟩ | ⟨hfalse, -⟩
  · simp only [withFaults] at hm
    split at hm
    · next hfail =>
        cases hm
        simp only [Bool.and_eq_true] at hfail
        exact .inr ⟨hc c hfail.2, rfl, e, rfl⟩
    · exact .inl ⟨ch.1, hm⟩
  · exact hfalse.elim

/-- Its runs are runs of the service. -/
theorem reach_of_withFaults {canFail : C → Bool} {e : E} (hc : ∀ c, canFail c = true → v.faulty c)
    {permits : Nat → C → World R E S → Prop} {cfg cfg' : Config R E (World R E S)}
    (h : ((v.withFaults canFail e).system.restrict permits).Reach cfg cfg') :
    (v.system.restrict permits).Reach cfg cfg' := by
  refine System.Reach.mono ?_ ?_ ?_ h
  · rintro t c w x w' ⟨hp, htrace, ho⟩
    exact ⟨hp, htrace, outcome_of_withFaults hc ho⟩
  · exact fun he => he
  · exact fun hs => hs

end Service

end CreativeBackend.Interaction
