import Mathlib.Tactic.Common

/-!
# Parent pointers

A table whose rows name a parent is a partial function from keys to keys. A key is rooted when
following the pointers from it ends. Moving one key keeps every key rooted unless the key is moved
below itself.
-/

namespace CreativeBackend.Relational

variable {κ : Type}

/-- Following the pointers from the key ends at a key without parent. -/
inductive Rooted (up : κ → Option κ) : κ → Prop
  | root {x : κ} (h : up x = none) : Rooted up x
  | step {x y : κ} (h : up x = some y) (hy : Rooted up y) : Rooted up x

/-- Following the pointers from the key meets `k`. -/
inductive Below (up : κ → Option κ) (k : κ) : κ → Prop
  | self : Below up k k
  | step {x y : κ} (h : up x = some y) (hy : Below up k y) : Below up k x

variable {up up' : κ → Option κ} {k p x : κ}

/-- Pointers may be removed. -/
theorem Rooted.cut (h : Rooted up x) (hcut : ∀ y, up' y = none ∨ up' y = up y) : Rooted up' x := by
  induction h with
  | root h =>
      rcases hcut _ with hnone | hsame
      · exact .root hnone
      · exact .root (hsame.trans h)
  | step h _ ih =>
      rcases hcut _ with hnone | hsame
      · exact .root hnone
      · exact .step (hsame.trans h) ih

/-- A path that does not meet `k` does not depend on the pointer of `k`. -/
theorem Rooted.avoid (h : Rooted up x) (hx : ¬ Below up k x) (hup : ∀ y, y ≠ k → up' y = up y) :
    Rooted up' x := by
  induction h with
  | @root x h =>
      have hne : x ≠ k := fun heq => hx (heq ▸ .self)
      exact .root ((hup x hne).trans h)
  | @step x y h _ ih =>
      have hne : x ≠ k := fun heq => hx (heq ▸ .self)
      exact .step ((hup x hne).trans h) (ih fun hy => hx (.step h hy))

/-- A key may be moved to a parent that is not below it. -/
theorem Rooted.move (hk : up' k = some p) (hup : ∀ y, y ≠ k → up' y = up y) (hp : Rooted up p)
    (hbelow : ¬ Below up k p) (h : Rooted up x) : Rooted up' x := by
  have hp' : Rooted up' p := hp.avoid hbelow hup
  induction h with
  | @root x h =>
      by_cases heq : x = k
      · exact .step (heq ▸ hk) hp'
      · exact .root ((hup x heq).trans h)
  | @step x y h _ ih =>
      by_cases heq : x = k
      · exact .step (heq ▸ hk) hp'
      · exact .step ((hup x heq).trans h) ih

/-- What is below `k` stays below it when the pointer of `k` moves. -/
theorem Below.move (h : Below up k x) (hup : ∀ y, y ≠ k → up' y = up y) : Below up' k x := by
  induction h with
  | self => exact .self
  | @step x y h _ ih =>
      by_cases heq : x = k
      · exact heq ▸ .self
      · exact .step ((hup x heq).trans h) ih

/-- No path ends below a key whose parent is below the key itself. -/
theorem Below.not_rooted (hk : up k = some p) (hp : Below up k p) (hx : Below up k x) :
    ¬ Rooted up x := by
  intro h
  induction h with
  | root h =>
      cases hx with
      | self =>
          rw [h] at hk
          cases hk
      | step h' _ =>
          rw [h] at h'
          cases h'
  | step h _ ih =>
      cases hx with
      | self =>
          rw [h] at hk
          cases hk
          exact ih hp
      | step h' hy =>
          rw [h] at h'
          cases h'
          exact ih hy

/-- Below a key without pointers to it there is only the key itself. -/
theorem Below.eq_of_childless (hk : ∀ y, up y ≠ some k) (h : Below up k x) : x = k := by
  induction h with
  | self => rfl
  | step h _ ih =>
      subst ih
      exact absurd h (hk _)

end CreativeBackend.Relational
