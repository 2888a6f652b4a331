import CreativeBackend.Interaction.Service

/-!
# Disciplines for services

A discipline of a service is an invariant of its worlds together with a relation
that every step of the store extends. A thread knows, between two of its calls,
that the store moved along the relation and that only other threads were logged.
What a call answered is then known for good: `Answered` says so, and it is the
only kind of postcondition that read and write rules need.
-/

namespace CreativeBackend.Interaction

variable {C : Type} {R : C → Type} {E S α β : Type}

/-- An invariant of the worlds of a service, and a relation that its steps extend,
in the runs whose calls are permitted. -/
structure Discipline (v : Service R E S) (permits : Nat → C → World R E S → Prop) where
  inv : World R E S → Prop
  rely : S → S → Prop
  rely_refl : ∀ s, rely s s
  rely_trans : ∀ {s t u}, rely s t → rely t u → rely s u
  call_rely : ∀ {t c w x s'}, inv w → permits t c w → v.Outcome c w.store x s' → rely w.store s'
  env_inv : ∀ {w : World R E S} {s'}, inv w → v.env w.store s' → inv { w with store := s' }
  env_rely : ∀ {w : World R E S} {s'}, inv w → v.env w.store s' → rely w.store s'
  start_inv : ∀ {w : World R E S} {p s'}, inv w → v.starts w.store p s' →
    inv { w with store := s' }
  start_rely : ∀ {w : World R E S} {p s'}, inv w → v.starts w.store p s' → rely w.store s'

namespace Discipline

variable {v : Service R E S} {permits : Nat → C → World R E S → Prop}
variable (D : Discipline v permits) {t : Nat}

/-- What happens between two calls of thread `t`. -/
def Since (t : Nat) (w w' : World R E S) : Prop :=
  D.rely w.store w'.store ∧ ∃ new, w'.trace = new ++ w.trace ∧ ∀ e ∈ new, e.thread ≠ t

/-- The rely-guarantee rules of a discipline. -/
def logic : Logic (v.system.restrict permits) where
  inv := D.inv
  rely := D.Since
  rely_refl _ w := ⟨D.rely_refl _, [], rfl, by simp⟩
  rely_trans := by
    rintro t a b c ⟨hab, new, hn, ht⟩ ⟨hbc, new', hn', ht'⟩
    refine ⟨D.rely_trans hab hbc, new' ++ new, by rw [hn', hn, List.append_assoc], ?_⟩
    intro e he
    rcases List.mem_append.mp he with he | he
    · exact ht' e he
    · exact ht e he
  guar := by
    intro t u c w r w' hut hi h
    refine ⟨D.call_rely hi h.1 h.2.2, [⟨t, c, r, w.store⟩], h.2.1, ?_⟩
    intro e he
    rw [List.mem_singleton.mp he]
    exact fun heq => hut heq.symm
  env_inv := by
    intro w w' hi h
    obtain ⟨s, tr⟩ := w'
    obtain ⟨rfl, he⟩ := h
    exact D.env_inv hi he
  env_rely hi h := ⟨D.env_rely hi h.2, [], h.1, by simp⟩
  spawn_inv := by
    intro w p w' hi h
    obtain ⟨s, tr⟩ := w'
    obtain ⟨rfl, he⟩ := h
    exact D.start_inv hi he
  spawn_rely hi h := ⟨D.start_rely hi h.2, [], h.1, by simp⟩

/-- The store moved along the relation and the trace was extended, also by the
thread itself. -/
def Leads (w w' : World R E S) : Prop :=
  D.rely w.store w'.store ∧ ∃ new, w'.trace = new ++ w.trace

variable {D}

theorem Leads.refl (w : World R E S) : D.Leads w w := ⟨D.rely_refl _, [], rfl⟩

theorem Leads.trans {a b c : World R E S} (h : D.Leads a b) (h' : D.Leads b c) :
    D.Leads a c := by
  obtain ⟨hr, new, hn⟩ := h
  obtain ⟨hr', new', hn'⟩ := h'
  exact ⟨D.rely_trans hr hr', new' ++ new, by rw [hn', hn, List.append_assoc]⟩

theorem Since.leads {w w' : World R E S} (h : D.Since t w w') : D.Leads w w' :=
  ⟨h.1, h.2.imp fun _ hn => hn.1⟩

/-- What a thread has logged stays logged. -/
theorem Leads.own {w w' : World R E S} (h : D.Leads w w') (t : Nat) :
    ∃ new, w'.own t = new ++ w.own t := by
  obtain ⟨-, new, hn⟩ := h
  exact ⟨new.filter fun e => e.thread = t, by simp only [World.own, hn, List.filter_append]⟩

/-- Other threads leave the log of a thread alone. -/
theorem Since.own {w w' : World R E S} (h : D.Since t w w') : w'.own t = w.own t := by
  obtain ⟨-, new, hn, ht⟩ := h
  have hnone : new.filter (fun e => e.thread = t) = [] := by
    rw [List.filter_eq_nil_iff]
    exact fun e he => by simpa using ht e he
  simp only [World.own]
  rw [hn, List.filter_append, hnone, List.nil_append]

variable (D t) in
/-- Between `u` and `w`, thread `t` made one call, and was answered `x`. -/
def Performed (u : World R E S) (c : C) (x : Except E (R c)) (w : World R E S) : Prop :=
  ∃ w₀ s₀, D.Since t u w₀ ∧ D.inv w₀ ∧ permits t c w₀ ∧ v.Outcome c w₀.store x s₀ ∧
    D.Since t (w₀.log t c x s₀) w

variable (D t) in
/-- After `u`, thread `t` was answered `x` in a store from which the present one followed. -/
def Answered (u : World R E S) (c : C) (x : Except E (R c)) (w : World R E S) : Prop :=
  ∃ w₀ s₀, D.Leads u w₀ ∧ D.inv w₀ ∧ permits t c w₀ ∧ v.Outcome c w₀.store x s₀ ∧
    D.Leads (w₀.log t c x s₀) w

theorem Performed.answered {u : World R E S} {c : C} {x : Except E (R c)} {w : World R E S}
    (h : D.Performed t u c x w) : D.Answered t u c x w := by
  obtain ⟨w₀, s₀, hu, hi, hp, ho, h₀⟩ := h
  exact ⟨w₀, s₀, hu.leads, hi, hp, ho, h₀.leads⟩

theorem Performed.own {u : World R E S} {c : C} {x : Except E (R c)} {w : World R E S}
    (h : D.Performed t u c x w) : ∃ s, w.own t = ⟨t, c, x, s⟩ :: u.own t := by
  obtain ⟨w₀, s₀, hu, -, -, -, h₀⟩ := h
  exact ⟨w₀.store, by rw [h₀.own, World.own_log, hu.own]⟩

theorem Performed.leads {u : World R E S} {c : C} {x : Except E (R c)} {w : World R E S}
    (h : D.Performed t u c x w) : D.Leads u w := by
  obtain ⟨w₀, s₀, hu, hi, hp, ho, h₀⟩ := h
  have hstep : D.Leads w₀ (w₀.log t c x s₀) := ⟨D.call_rely hi hp ho, [_], rfl⟩
  exact (hu.leads.trans hstep).trans h₀.leads

/-- The call was permitted where the thread had made no other call since `u`. -/
theorem Performed.permitted {u : World R E S} {c : C} {x : Except E (R c)} {w : World R E S}
    (h : D.Performed t u c x w) : ∃ w₀ s₀, w₀.own t = u.own t ∧ permits t c w₀ ∧
      v.Outcome c w₀.store x s₀ ∧ w.own t = ⟨t, c, x, w₀.store⟩ :: u.own t ∧
        D.rely s₀ w.store := by
  obtain ⟨w₀, s₀, hu, -, hp, ho, h₀⟩ := h
  exact ⟨w₀, s₀, hu.own, hp, ho, by rw [h₀.own, World.own_log, hu.own], h₀.1⟩

theorem Answered.stable {u : World R E S} {c : C} {x : Except E (R c)} {w w' : World R E S}
    (h : D.Answered t u c x w) (hl : D.Leads w w') : D.Answered t u c x w' := by
  obtain ⟨w₀, s₀, hu, hi, hp, ho, h₀⟩ := h
  exact ⟨w₀, s₀, hu, hi, hp, ho, h₀.trans hl⟩

/-- What was answered after a later world was answered after an earlier one. -/
theorem Answered.since {u v : World R E S} {c : C} {x : Except E (R c)} {w : World R E S}
    (h : D.Answered t v c x w) (hl : D.Leads u v) : D.Answered t u c x w := by
  obtain ⟨w₀, s₀, hv, hi, hp, ho, h₀⟩ := h
  exact ⟨w₀, s₀, hl.trans hv, hi, hp, ho, h₀⟩

/-- The thread keeps the invariant at this call, whenever it is performed. -/
def Keeps (D : Discipline v permits) (t : Nat) (c : C) (w : World R E S) : Prop :=
  ∀ w', D.Since t w w' → D.inv w' → permits t c w' → ∀ x s', v.Outcome c w'.store x s' →
    D.inv (w'.log t c x s')

/-- One call. -/
theorem holds_performed {c : C} {w : World R E S} (hk : D.Keeps t c w) :
    D.logic.Holds t (D.Performed t w c) (Prog.call c) w := by
  refine Logic.holds_call fun w' hw' hi x w'' h => ?_
  obtain ⟨s', tr⟩ := w''
  obtain ⟨hp, htr, ho⟩ := h
  cases htr
  exact ⟨hk w' hw' hi hp x s' ho, fun u hu _ => ⟨w', s', hw', hi, hp, ho, hu⟩⟩

theorem holds_call {c : C} {w : World R E S} (hk : D.Keeps t c w) :
    D.logic.Holds t (D.Answered t w c) (Prog.call c) w :=
  (holds_performed hk).mono fun _ _ _ h => h.answered

/-- A postcondition may also relate the world at the end to one before the start. -/
theorem holds_leads {Q : Except E α → World R E S → Prop} {p : Prog R E α}
    {w₀ w : World R E S} (h : D.logic.Holds t Q p w) (hl : D.Leads w₀ w) :
    D.logic.Holds t (fun x w' => Q x w' ∧ D.Leads w₀ w') p w := by
  induction p generalizing w with
  | ret a => exact fun u hu hi => ⟨h u hu hi, hl.trans (Since.leads hu)⟩
  | throw e => exact fun u hu hi => ⟨h u hu hi, hl.trans (Since.leads hu)⟩
  | ask c k ih =>
      intro u hu hi x w' hw'
      obtain ⟨hi', hk⟩ := h u hu hi x w' hw'
      have hstep : D.Leads u w' := ⟨D.call_rely hi hw'.1 hw'.2.2, [_], hw'.2.1⟩
      exact ⟨hi', ih x hk ((hl.trans (Since.leads hu)).trans hstep)⟩

/-- Since `u`, thread `t` only made calls in `P`. -/
def OwnCalls (t : Nat) (P : C → Prop) (u w : World R E S) : Prop :=
  ∃ new, w.own t = new ++ u.own t ∧ ∀ e ∈ new, P e.call

theorem OwnCalls.refl {P : C → Prop} (w : World R E S) : OwnCalls t P w w := ⟨[], rfl, by simp⟩

theorem OwnCalls.trans {P : C → Prop} {a b c : World R E S} (h : OwnCalls t P a b)
    (h' : OwnCalls t P b c) : OwnCalls t P a c := by
  obtain ⟨new, hn, hp⟩ := h
  obtain ⟨new', hn', hp'⟩ := h'
  refine ⟨new' ++ new, by rw [hn', hn, List.append_assoc], fun e he => ?_⟩
  rcases List.mem_append.mp he with he | he
  · exact hp' e he
  · exact hp e he

theorem Since.ownCalls {P : C → Prop} {w w' : World R E S} (h : D.Since t w w') :
    OwnCalls t P w w' := ⟨[], by simp [h.own], by simp⟩

/-- A postcondition may also say which calls the thread itself has made. -/
theorem holds_own {P : C → Prop} {Q : Except E α → World R E S → Prop} {p : Prog R E α}
    (hp : p.All P) {w₀ w : World R E S} (h : D.logic.Holds t Q p w) (ho : OwnCalls t P w₀ w) :
    D.logic.Holds t (fun x w' => Q x w' ∧ OwnCalls t P w₀ w') p w := by
  induction p generalizing w with
  | ret a => exact fun u hu hi => ⟨h u hu hi, ho.trans hu.ownCalls⟩
  | throw e => exact fun u hu hi => ⟨h u hu hi, ho.trans hu.ownCalls⟩
  | ask c k ih =>
      intro u hu hi x w' hw'
      obtain ⟨hi', hk⟩ := h u hu hi x w' hw'
      obtain ⟨s', tr⟩ := w'
      obtain ⟨hper, htr, hout⟩ := hw'
      cases htr
      have hstep : OwnCalls t P u (u.log t c x s') :=
        ⟨[⟨t, c, x, u.store⟩], by simp, by simpa using hp.1⟩
      exact ⟨hi', ih x (hp.2 x) hk ((ho.trans hu.ownCalls).trans hstep)⟩

theorem holds_bind {p : Prog R E α} {f : α → Prog R E β} {Q' : Except E α → World R E S → Prop}
    {Q : Except E β → World R E S → Prop} {w : World R E S} (hi : D.inv w)
    (hp : D.logic.Holds t Q' p w)
    (hok : ∀ a w', D.inv w' → D.Leads w w' → Q' (.ok a) w' → D.logic.Holds t Q (f a) w')
    (herr : ∀ e w', D.inv w' → D.Leads w w' → Q' (.error e) w' → Q (.error e) w') :
    D.logic.Holds t Q (p.bind f) w :=
  Logic.holds_bind hi (holds_leads hp (Leads.refl w))
    (fun a w' hi' h => hok a w' hi' h.2 h.1) fun e w' hi' h => herr e w' hi' h.2 h.1

theorem holds_tryCatch {p : Prog R E α} {f : E → Prog R E α}
    {Q' Q : Except E α → World R E S → Prop} {w : World R E S} (hi : D.inv w)
    (hp : D.logic.Holds t Q' p w)
    (hok : ∀ a w', D.inv w' → D.Leads w w' → Q' (.ok a) w' → Q (.ok a) w')
    (herr : ∀ e w', D.inv w' → D.Leads w w' → Q' (.error e) w' → D.logic.Holds t Q (f e) w') :
    D.logic.Holds t Q (p.tryCatch f) w :=
  Logic.holds_tryCatch hi (holds_leads hp (Leads.refl w))
    (fun a w' hi' h => hok a w' hi' h.2 h.1) fun e w' hi' h => herr e w' hi' h.2 h.1

theorem safe_bind {p : Prog R E α} {f : α → Prog R E β} {w : World R E S} (hi : D.inv w)
    (hp : D.logic.Safe t p w)
    (hok : ∀ a w', D.inv w' → D.Leads w w' → D.logic.Safe t (f a) w') :
    D.logic.Safe t (p.bind f) w :=
  holds_bind hi hp (fun a w' hi' hl _ => hok a w' hi' hl) fun _ _ _ _ _ => trivial

theorem safe_tryCatch {p : Prog R E α} {f : E → Prog R E α} {w : World R E S} (hi : D.inv w)
    (hp : D.logic.Safe t p w)
    (herr : ∀ e w', D.inv w' → D.Leads w w' → D.logic.Safe t (f e) w') :
    D.logic.Safe t (p.tryCatch f) w :=
  holds_tryCatch hi hp (fun _ _ _ _ _ => trivial) fun e w' hi' hl _ => herr e w' hi' hl

/-- One call and what follows it. -/
theorem safe_call_bind {c : C} {f : R c → Prog R E α} {w : World R E S} (hi : D.inv w)
    (hk : D.Keeps t c w)
    (hok : ∀ a w', D.inv w' → D.Leads w w' → D.Answered t w c (.ok a) w' →
      D.logic.Safe t (f a) w') :
    D.logic.Safe t ((Prog.call c).bind f) w :=
  holds_bind hi (holds_call hk) hok fun _ _ _ _ _ => trivial

theorem safe_void {p : Prog R E α} {w : World R E S} (hi : D.inv w) (hp : D.logic.Safe t p w) :
    D.logic.Safe t p.void w :=
  safe_bind hi hp fun _ _ _ _ _ _ _ => trivial

/-- Thread `t` keeps the invariant, and `P` holds of every value that it returns. -/
def Returns (D : Discipline v permits) (t : Nat) (P : α → World R E S → Prop) (p : Prog R E α)
    (w : World R E S) : Prop :=
  D.logic.Holds t (fun x w' => ∀ a, x = .ok a → P a w') p w

variable {P : α → World R E S → Prop} {Q : β → World R E S → Prop}

theorem Returns.safe {p : Prog R E α} {w : World R E S} (h : D.Returns t P p w) :
    D.logic.Safe t p w := Logic.Holds.safe h

theorem Returns.mono {P' : α → World R E S → Prop} {p : Prog R E α} {w : World R E S}
    (h : D.Returns t P p w) (hp : ∀ a w, P a w → P' a w) : D.Returns t P' p w :=
  Logic.Holds.mono h fun _ _ _ hx a ha => hp a _ (hx a ha)

theorem returns_of_safe {p : Prog R E α} {w : World R E S} (h : D.logic.Safe t p w) :
    D.Returns t (fun _ _ => True) p w :=
  Logic.Holds.mono h fun _ _ _ _ _ _ => trivial

theorem returns_ret {a : α} {w : World R E S} (h : ∀ w', D.Leads w w' → P a w') :
    D.Returns t P (.ret a) w := by
  intro w' hw' _ b hb
  cases hb
  exact h w' (Since.leads hw')

/-- What other threads cannot destroy may be returned. -/
theorem returns_ret_since {a : α} {w : World R E S} (h : ∀ w', D.Since t w w' → P a w') :
    D.Returns t P (.ret a) w := by
  intro w' hw' _ b hb
  cases hb
  exact h w' hw'

theorem returns_throw {e : E} {w : World R E S} : D.Returns t P (.throw e) w := by
  intro w' _ _ b hb
  cases hb

theorem returns_ofExcept {x : Except E α} {w : World R E S}
    (h : ∀ a w', x = .ok a → D.Leads w w' → P a w') : D.Returns t P (Prog.ofExcept x) w := by
  cases x with
  | ok a => exact returns_ret fun w' hl => h a w' rfl hl
  | error e => exact returns_throw

theorem returns_call {c : C} {w : World R E S} (hk : D.Keeps t c w) :
    D.Returns t (fun a w' => D.Answered t w c (.ok a) w') (Prog.call c) w := by
  refine Logic.Holds.mono (holds_call hk) fun x w' _ hx a ha => ?_
  subst ha
  exact hx

theorem returns_bind {p : Prog R E α} {f : α → Prog R E β} {w : World R E S} (hi : D.inv w)
    (hp : D.Returns t P p w)
    (hf : ∀ a w', D.inv w' → D.Leads w w' → P a w' → D.Returns t Q (f a) w') :
    D.Returns t Q (p.bind f) w := by
  refine holds_bind hi hp (fun a w' hi' hl h => hf a w' hi' hl (h a rfl)) ?_
  intro e w' _ _ _ b hb
  cases hb

theorem returns_performed {c : C} {w : World R E S} (hk : D.Keeps t c w) :
    D.Returns t (fun a w' => D.Performed t w c (.ok a) w') (Prog.call c) w := by
  refine Logic.Holds.mono (holds_performed hk) fun x w' _ hx a ha => ?_
  subst ha
  exact hx

theorem returns_own {P' : C → Prop} {p : Prog R E α} {w : World R E S} (hp : p.All P')
    (h : D.Returns t P p w) : D.Returns t (fun a w' => P a w' ∧ OwnCalls t P' w w') p w :=
  Logic.Holds.mono (holds_own hp h (OwnCalls.refl w)) fun _ _ _ hx a ha => ⟨hx.1 a ha, hx.2⟩

theorem returns_leads {p : Prog R E α} {w : World R E S} (h : D.Returns t P p w) :
    D.Returns t (fun a w' => P a w' ∧ D.Leads w w') p w :=
  Logic.Holds.mono (holds_leads h (Leads.refl w)) fun _ _ _ hx a ha => ⟨hx.1 a ha, hx.2⟩

/-- The handler of a `try` block answers for its exceptions. -/
theorem returns_tryCatch {p : Prog R E α} {f : E → Prog R E α} {w : World R E S} (hi : D.inv w)
    (hp : D.Returns t P p w)
    (hf : ∀ e w', D.inv w' → D.Leads w w' → D.Returns t P (f e) w') :
    D.Returns t P (p.tryCatch f) w :=
  holds_tryCatch hi hp (fun _ _ _ _ h => h) fun e w' hi' hl _ => hf e w' hi' hl

/-- What is returned where nothing after it is claimed. -/
theorem safe_bind_returns {p : Prog R E α} {f : α → Prog R E β} {w : World R E S} (hi : D.inv w)
    (hp : D.Returns t P p w)
    (hf : ∀ a w', D.inv w' → D.Leads w w' → P a w' → D.logic.Safe t (f a) w') :
    D.logic.Safe t (p.bind f) w :=
  holds_bind hi hp (fun a w' hi' hl h => hf a w' hi' hl (h a rfl)) fun _ _ _ _ _ => trivial

/-- A program all of whose calls keep the invariant as long as a fact holds that
nothing can destroy. -/
theorem safe_of_all_fact {P : C → Prop} {F : World R E S → Prop}
    (hF : ∀ w w', D.Leads w w' → F w → F w')
    (hP : ∀ c, P c → ∀ t w, F w → D.inv w → permits t c w →
      ∀ x s', v.Outcome c w.store x s' → D.inv (w.log t c x s'))
    {p : Prog R E α} (hp : p.All P) {w : World R E S} (hw : F w) : D.logic.Safe t p w := by
  induction p generalizing w with
  | ret a => exact fun _ _ _ => trivial
  | throw e => exact fun _ _ _ => trivial
  | ask c k ih =>
      intro u hu hi x w' h
      obtain ⟨s', tr⟩ := w'
      obtain ⟨hper, htr, ho⟩ := h
      cases htr
      have hFu : F u := hF w u (Since.leads hu) hw
      have hstep : D.Leads u (u.log t c x s') := ⟨D.call_rely hi hper ho, [_], rfl⟩
      exact ⟨hP c hp.1 t u hFu hi hper x s' ho, ih x (hp.2 x) (hF _ _ hstep hFu)⟩

/-- A program all of whose calls keep the invariant. -/
theorem safe_of_all {P : C → Prop} (hP : ∀ c, P c → ∀ t w, D.inv w → permits t c w →
      ∀ x s', v.Outcome c w.store x s' → D.inv (w.log t c x s'))
    {p : Prog R E α} (hp : p.All P) (w : World R E S) : D.logic.Safe t p w :=
  safe_of_all_fact (F := fun _ => True) (fun _ _ _ _ => trivial)
    (fun c hc t w _ => hP c hc t w) hp trivial

/-- A program all of whose calls keep the invariant and a fact that other threads leave
alone ends with the fact. -/
theorem holds_kept {P : C → Prop} {F : World R E S → Prop}
    (hF : ∀ w w', D.Since t w w' → F w → F w')
    (hP : ∀ c, P c → ∀ w, F w → D.inv w → permits t c w → ∀ x s', v.Outcome c w.store x s' →
      D.inv (w.log t c x s') ∧ F (w.log t c x s'))
    {p : Prog R E α} (hp : p.All P) {w : World R E S} (hw : F w) :
    D.logic.Holds t (fun _ w' => F w') p w := by
  induction p generalizing w with
  | ret a => exact fun u hu _ => hF w u hu hw
  | throw e => exact fun u hu _ => hF w u hu hw
  | ask c k ih =>
      intro u hu hi x w' h
      obtain ⟨s', tr⟩ := w'
      obtain ⟨hper, htr, ho⟩ := h
      cases htr
      obtain ⟨hi', hF'⟩ := hP c hp.1 u (hF w u hu hw) hi hper x s' ho
      exact ⟨hi', ih x (hp.2 x) hF'⟩

/-- As `holds_kept`. Where the program also earns an answer within `A`, it returns with what
such an answer establishes for good. -/
theorem holds_earned {P : C → Prop} {A : (c : C) → Except E (R c) → Prop} {F G : World R E S → Prop}
    (hF : ∀ w w', D.Since t w w' → F w → F w') (hG : ∀ w w', D.Leads w w' → G w → G w')
    (hP : ∀ c, P c → ∀ w, F w → D.inv w → permits t c w → ∀ x s', v.Outcome c w.store x s' →
      D.inv (w.log t c x s') ∧ F (w.log t c x s') ∧ (A c x → G (w.log t c x s')))
    {p : Prog R E α} (hp : p.All P) {w : World R E S} (hw : F w) (he : G w ∨ p.Earns A) :
    D.logic.Holds t (fun x w' => F w' ∧ ∀ a, x = .ok a → G w') p w := by
  induction p generalizing w with
  | ret a =>
      refine fun u hu _ => ⟨hF w u hu hw, fun _ _ => ?_⟩
      rcases he with hg | hfalse
      · exact hG w u (Since.leads hu) hg
      · exact hfalse.elim
  | throw e =>
      refine fun u hu _ => ⟨hF w u hu hw, fun b hb => ?_⟩
      cases hb
  | ask c k ih =>
      intro u hu hi x w' h
      obtain ⟨s', tr⟩ := w'
      obtain ⟨hper, htr, ho⟩ := h
      cases htr
      obtain ⟨hi', hF', hA⟩ := hP c hp.1 u (hF w u hu hw) hi hper x s' ho
      have hstep : D.Leads u (u.log t c x s') := ⟨D.call_rely hi hper ho, [_], rfl⟩
      refine ⟨hi', ih x (hp.2 x) hF' ?_⟩
      rcases he with hg | hearns
      · exact .inl (hG _ _ ((Since.leads hu).trans hstep) hg)
      · rcases hearns x with hanswer | hrest
        · exact .inl (hA hanswer)
        · exact .inr hrest

/-- Only programs in progress are logged. -/
def Logged (cfg : Config R E (World R E S)) : Prop :=
  ∀ e ∈ cfg.world.trace, e.thread < cfg.pool.length

theorem Logged.step {cfg cfg' : Config R E (World R E S)} (h : Logged cfg)
    (hs : (v.system.restrict permits).Step cfg cfg') : Logged cfg' := by
  cases hs with
  | env hw => exact fun e he => h e (hw.1 ▸ he)
  | spawn hw =>
      intro e he
      have hlt := h e (hw.1 ▸ he)
      simp only [List.length_append, List.length_singleton] at hlt ⊢
      omega
  | call ht hw =>
      intro e he
      obtain ⟨-, htr, -⟩ := hw
      rw [htr] at he
      rw [List.length_set]
      rcases List.mem_cons.mp he with rfl | he
      · exact (List.getElem?_eq_some_iff.mp ht).1
      · exact h e he

theorem Logged.init (s : S) : Logged (Service.init s : Config R E (World R E S)) := by
  intro e he
  cases he

/-- A program starts with an empty log of its own. -/
theorem Logged.fresh {w : World R E S} {ps : List (Prog R E Unit)} (h : Logged ⟨w, ps⟩) :
    ∀ e ∈ w.trace, e.thread ≠ ps.length :=
  fun e he => Nat.ne_of_lt (h e he)

/-- The invariant holds in every world that a run reaches. -/
theorem inv_of_reach (hstart : ∀ t w p s', (∀ e ∈ w.trace, e.thread ≠ t) → D.inv w →
      v.starts w.store p s' → D.logic.Safe t p { w with store := s' })
    {s : S} (hi : D.inv ⟨s, []⟩) {cfg : Config R E (World R E S)}
    (hr : (v.system.restrict permits).Reach (Service.init s) cfg) : D.inv cfg.world := by
  refine Logic.inv_of_reach (L := D.logic) (J := Logged) Logged.step ?_ (Logged.init s) hi hr
  intro w ps p w' hlog hiw h
  obtain ⟨s', tr⟩ := w'
  obtain ⟨rfl, he⟩ := h
  exact hstart ps.length w p s' hlog.fresh hiw he

/-- Every program of a run ends in the postcondition of its thread, and only threads of the
pool are logged. -/
theorem ends_of_reach {Q : Nat → World R E S → Prop}
    (hstart : ∀ t w p s', (∀ e ∈ w.trace, e.thread ≠ t) → D.inv w → v.starts w.store p s' →
      D.logic.Holds t (fun _ w' => Q t w') p { w with store := s' })
    {s : S} (hi : D.inv ⟨s, []⟩) {cfg : Config R E (World R E S)}
    (hr : (v.system.restrict permits).Reach (Service.init s) cfg) :
    Logged cfg ∧ D.logic.Ends Q cfg := by
  have hg : D.logic.Ends Q (Service.init s) := ⟨hi, fun t p ht => by cases ht⟩
  refine hg.reach (J := Logged) Logged.step ?_ (Logged.init s) hr
  intro w ps p w' hlog hiw h
  obtain ⟨s', tr⟩ := w'
  obtain ⟨rfl, he⟩ := h
  exact hstart ps.length w p s' hlog.fresh hiw he

end Discipline

end CreativeBackend.Interaction
