import CreativeBackend.Interaction.Sequential

/-!
# Programs in a wider interface

A service that uses another one issues the calls of the other service among its own. An embedding
names the wider call for each call. Where a part of the wider state answers them as the machine of
the smaller interface does, an embedded program runs on that part as it runs on its own.
-/

namespace CreativeBackend.Interaction

variable {C C' : Type} {R : C → Type} {R' : C' → Type} {E S S' α β : Type}

/-- How the calls of one interface are issued in a wider one. -/
structure Embedding (R : C → Type) (R' : C' → Type) where
  call : C → C'
  answer : ∀ c, R' (call c) = R c

namespace Embedding

variable (ι : Embedding R R')

/-- The answer of a wider call, as the smaller interface reads it. -/
def read {c : C} (r : Except E (R' (ι.call c))) : Except E (R c) :=
  cast (congrArg (Except E) (ι.answer c)) r

/-- The program with its calls issued in the wider interface. -/
def embed : Prog R E α → Prog R' E α
  | .ret a => .ret a
  | .throw e => .throw e
  | .ask c k => .ask (ι.call c) fun r => embed (k (ι.read r))

@[simp] theorem embed_ret (a : α) : ι.embed (.ret a : Prog R E α) = .ret a := rfl

@[simp] theorem embed_throw (e : E) : ι.embed (.throw e : Prog R E α) = .throw e := rfl

@[simp] theorem embed_ofExcept (x : Except E α) :
    ι.embed (Prog.ofExcept x : Prog R E α) = Prog.ofExcept x := by
  cases x <;> rfl

@[simp] theorem embed_bind (p : Prog R E α) (f : α → Prog R E β) :
    ι.embed (p.bind f) = (ι.embed p).bind fun a => ι.embed (f a) := by
  induction p with
  | ret a => rfl
  | throw e => rfl
  | ask c k ih => simp only [Prog.bind_ask, embed, ih]

/-- The calls of an embedded program are the calls of the program. -/
theorem all_embed {P : C → Prop} {P' : C' → Prop} (hP : ∀ c, P c → P' (ι.call c))
    {p : Prog R E α} (hp : p.All P) : (ι.embed p).All P' := by
  induction p with
  | ret a => trivial
  | throw e => trivial
  | ask c k ih => exact ⟨hP c hp.1, fun r => ih _ (hp.2 _)⟩

end Embedding

/-- A part of the wider state that answers the embedded calls on its own. -/
structure Embedding.Part (ι : Embedding R R') (m : Machine R E S) (m' : Machine R' E S') where
  get : S' → S
  put : S → S' → S'
  get_put : ∀ a s, get (put a s) = a
  put_put : ∀ a b s, put a (put b s) = put a s
  put_get : ∀ s, put (get s) s = s
  answers : ∀ c s, ι.read (m' (ι.call c) s).1 = (m c (get s)).1
  changes : ∀ c s, (m' (ι.call c) s).2 = put (m c (get s)).2 s

namespace Embedding.Part

variable {ι : Embedding R R'} {m : Machine R E S} {m' : Machine R' E S'}

/-- An embedded program runs on its part of the state as on its own. -/
theorem run_embed (L : ι.Part m m') (p : Prog R E α) (s : S') :
    (ι.embed p).run m' s = ((p.run m (L.get s)).1, L.put (p.run m (L.get s)).2 s) := by
  induction p generalizing s with
  | ret a => simp [L.put_get]
  | throw e => simp [L.put_get]
  | ask c k ih =>
      simp only [embed, Prog.run_ask, ih, L.answers, L.changes, L.get_put, L.put_put]

end Embedding.Part

end CreativeBackend.Interaction
