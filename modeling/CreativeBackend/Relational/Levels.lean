import Mathlib.Logic.Relation
import Mathlib.Data.List.Nodup

/-!
# Levels of a graph

A search by levels starts with some keys, takes the keys of the next level from those of the last
one, and skips what it has visited. With enough fuel it ends on its own, and what it has visited
is what can be reached from the start.
-/

namespace CreativeBackend.Relational

variable {κ : Type} [DecidableEq κ] (next : κ → List κ)

/-- The levels from `current`; what was visited before is skipped. -/
def levelsFrom : Nat → List κ → List κ → List (List κ)
  | 0, _, _ => []
  | fuel + 1, visited, current =>
      let level := current.filter fun x => !visited.contains x
      if level.isEmpty then []
      else level :: levelsFrom fuel (visited ++ level) (level.flatMap next)

variable {next} {visited current : List κ} {x y : κ}

/-- What a level holds can be reached. -/
theorem exists_of_mem_levelsFrom {fuel : Nat}
    (h : x ∈ (levelsFrom next fuel visited current).flatten) :
    ∃ y ∈ current, Relation.ReflTransGen (fun a b => b ∈ next a) y x := by
  induction fuel generalizing visited current with
  | zero => cases h
  | succ fuel ih =>
      simp only [levelsFrom] at h
      split at h
      · cases h
      · rw [List.flatten_cons, List.mem_append] at h
        rcases h with hlevel | hlater
        · exact ⟨x, (List.mem_filter.mp hlevel).1, .refl⟩
        · obtain ⟨z, hz, hreach⟩ := ih hlater
          obtain ⟨y, hy, hnext⟩ := List.mem_flatMap.mp hz
          exact ⟨y, (List.mem_filter.mp hy).1, .head hnext hreach⟩

/-- The keys of `space` that were not visited. -/
def unvisited (space visited : List κ) : List κ := space.filter fun x => !visited.contains x

theorem length_unvisited_lt {space level : List κ} (hx : x ∈ space) (hlevel : x ∈ level)
    (hnew : x ∉ visited) :
    (unvisited space (visited ++ level)).length < (unvisited space visited).length := by
  have heq : unvisited space (visited ++ level) =
      (unvisited space visited).filter fun x => !level.contains x := by
    simp [unvisited, List.filter_filter, Bool.and_comm]
  rw [heq, List.length_filter_lt_length_iff_exists]
  exact ⟨x, by simp [unvisited, hx, hnew], by simpa using hlevel⟩

/-- With fuel for every key, what was visited at the end is closed under `next`. -/
theorem closed_levelsFrom {fuel : Nat} {space : List κ}
    (hspace : ∀ a ∈ space, ∀ b ∈ next a, b ∈ space) (hcurrent : ∀ a ∈ current, a ∈ space)
    (hfuel : (unvisited space visited).length < fuel)
    (hvisited : ∀ a ∈ visited, ∀ b ∈ next a, b ∈ visited ∨ b ∈ current) :
    (∀ a ∈ current, a ∈ visited ∨ a ∈ (levelsFrom next fuel visited current).flatten) ∧
      ∀ a, a ∈ visited ∨ a ∈ (levelsFrom next fuel visited current).flatten →
        ∀ b ∈ next a, b ∈ visited ∨ b ∈ (levelsFrom next fuel visited current).flatten := by
  induction fuel generalizing visited current with
  | zero => omega
  | succ fuel ih =>
      simp only [levelsFrom]
      obtain ⟨level, hlevel⟩ : ∃ level, (current.filter fun x => !visited.contains x) = level :=
        ⟨_, rfl⟩
      have hmem : ∀ a, a ∈ level ↔ a ∈ current ∧ a ∉ visited := by
        intro a
        rw [← hlevel]
        simp
      rw [hlevel]
      split
      · next hempty =>
          have hnone : ∀ a ∈ current, a ∈ visited := by
            intro a ha
            by_contra hnot
            have hin := (hmem a).mpr ⟨ha, hnot⟩
            rw [List.isEmpty_iff.mp hempty] at hin
            cases hin
          refine ⟨fun a ha => .inl (hnone a ha), fun a ha b hb => .inl ?_⟩
          rcases ha with ha | ha
          · rcases hvisited a ha b hb with hb' | hb'
            · exact hb'
            · exact hnone b hb'
          · cases ha
      · next hnonempty =>
          obtain ⟨x, hx⟩ := List.exists_mem_of_ne_nil _ (mt List.isEmpty_iff.mpr hnonempty)
          obtain ⟨hxcurrent, hxnew⟩ := (hmem x).mp hx
          have hshorter := length_unvisited_lt (hcurrent x hxcurrent) hx hxnew
          have hnextSpace : ∀ a ∈ level.flatMap next, a ∈ space := by
            intro a ha
            obtain ⟨b, hb, hab⟩ := List.mem_flatMap.mp ha
            exact hspace b (hcurrent b ((hmem b).mp hb).1) a hab
          have hnextVisited : ∀ a ∈ visited ++ level, ∀ b ∈ next a,
              b ∈ visited ++ level ∨ b ∈ level.flatMap next := by
            intro a ha b hb
            rw [List.mem_append] at ha ⊢
            rcases ha with ha | ha
            · rcases hvisited a ha b hb with hb' | hb'
              · exact .inl (.inl hb')
              · by_cases hold : b ∈ visited
                · exact .inl (.inl hold)
                · exact .inl (.inr ((hmem b).mpr ⟨hb', hold⟩))
            · exact .inr (List.mem_flatMap.mpr ⟨a, ha, hb⟩)
          obtain ⟨-, hclosed⟩ := ih hnextSpace (by omega) hnextVisited
          simp only [List.flatten_cons, List.mem_append, or_assoc] at hclosed ⊢
          refine ⟨fun a ha => ?_, hclosed⟩
          by_cases hold : a ∈ visited
          · exact .inl hold
          · exact .inr (.inl ((hmem a).mpr ⟨ha, hold⟩))

/-- The levels from some keys hold what can be reached from them. -/
theorem mem_levelsFrom_iff {fuel : Nat} {space : List κ}
    (hspace : ∀ a ∈ space, ∀ b ∈ next a, b ∈ space) (hcurrent : ∀ a ∈ current, a ∈ space)
    (hfuel : space.length < fuel) : x ∈ (levelsFrom next fuel [] current).flatten ↔
      ∃ y ∈ current, Relation.ReflTransGen (fun a b => b ∈ next a) y x := by
  constructor
  · exact exists_of_mem_levelsFrom
  · rintro ⟨y, hy, hreach⟩
    have hshort : (unvisited space []).length < fuel :=
      Nat.lt_of_le_of_lt (List.length_filter_le _ _) hfuel
    obtain ⟨hstart, hclosed⟩ := closed_levelsFrom hspace hcurrent hshort fun a ha => by cases ha
    have hin : ∀ z, Relation.ReflTransGen (fun a b => b ∈ next a) y z →
        z ∈ (levelsFrom next fuel [] current).flatten := by
      intro z hz
      induction hz with
      | refl => exact (hstart y hy).resolve_left (by simp)
      | tail _ hnext ih => exact (hclosed _ (.inr ih) _ hnext).resolve_left (by simp)
    exact hin x hreach

/-! ## Runs -/

theorem nodup_eraseDups {α : Type} [BEq α] [LawfulBEq α] (l : List α) : l.eraseDups.Nodup := by
  obtain ⟨n, hn⟩ : ∃ n, l.length ≤ n := ⟨_, Nat.le_refl _⟩
  induction n generalizing l with
  | zero =>
      obtain rfl := List.length_eq_zero_iff.mp (Nat.le_zero.mp hn)
      exact List.nodup_nil
  | succ n ih =>
      cases l with
      | nil => exact List.nodup_nil
      | cons a rest =>
          rw [List.eraseDups_cons, List.nodup_cons]
          constructor
          · simp [List.mem_eraseDups]
          · apply ih
            have hle := List.length_filter_le (fun b => !b == a) rest
            simp only [List.length_cons] at hn
            omega

/-- The loop without fuel: it ends where nothing of a level is new. -/
inductive LevelRun (next : κ → List κ) : List κ → List κ → List (List κ) → Prop where
  | halt {visited current : List κ} (h : current.filter (fun x => !visited.contains x) = []) :
      LevelRun next visited current []
  | step {visited current level : List κ} {levels : List (List κ)}
      (h : current.filter (fun x => !visited.contains x) = level) (hne : level ≠ [])
      (run : LevelRun next (visited ++ level) (level.flatMap next) levels) :
      LevelRun next visited current (level :: levels)

/-- With fuel for every key, the search is a run that ends. -/
theorem levelRun_levelsFrom {fuel : Nat} {space : List κ}
    (hspace : ∀ a ∈ space, ∀ b ∈ next a, b ∈ space) (hcurrent : ∀ a ∈ current, a ∈ space)
    (hfuel : (unvisited space visited).length < fuel) :
    LevelRun next visited current (levelsFrom next fuel visited current) := by
  induction fuel generalizing visited current with
  | zero => omega
  | succ fuel ih =>
      simp only [levelsFrom]
      obtain ⟨level, hlevel⟩ : ∃ level, (current.filter fun x => !visited.contains x) = level :=
        ⟨_, rfl⟩
      rw [hlevel]
      split
      · next hempty =>
          apply LevelRun.halt
          rw [hlevel]
          exact List.isEmpty_iff.mp hempty
      · next hnonempty =>
          have hne : level ≠ [] := mt List.isEmpty_iff.mpr hnonempty
          obtain ⟨x, hx⟩ := List.exists_mem_of_ne_nil _ hne
          have hmem : ∀ a ∈ level, a ∈ current ∧ a ∉ visited := by
            intro a ha
            simpa [← hlevel] using ha
          have hshorter := length_unvisited_lt (hcurrent x (hmem x hx).1) hx (hmem x hx).2
          apply LevelRun.step hlevel hne
          apply ih
          · intro a ha
            obtain ⟨b, hb, hab⟩ := List.mem_flatMap.mp ha
            exact hspace b (hcurrent b (hmem b hb).1) a hab
          · omega

section Run

variable {levels : List (List κ)} {level : List κ} {i : Nat}

/-- Where every key is below one key at most, no key is taken twice. -/
theorem LevelRun.nodup (hnodup : ∀ a, (next a).Nodup)
    (hsingle : ∀ a b, ∀ x ∈ next a, x ∈ next b → a = b)
    (run : LevelRun next visited current levels) (hcurrent : current.Nodup) :
    levels.flatten.Nodup ∧ ∀ x ∈ levels.flatten, x ∉ visited := by
  induction run with
  | halt h => simp
  | @step visited current level levels h hne run ih =>
      have hlevel : level.Nodup := by
        rw [← h]
        exact hcurrent.filter _
      have hnew : ∀ x ∈ level, x ∉ visited := by
        intro x hx
        rw [← h] at hx
        simpa using (List.mem_filter.mp hx).2
      have hbelow : (level.flatMap next).Nodup := by
        refine List.nodup_flatMap.mpr ⟨fun a _ => hnodup a, hlevel.imp ?_⟩
        intro a b hne x ha hb
        exact hne (hsingle a b x ha hb)
      obtain ⟨hlater, hfresh⟩ := ih hbelow
      rw [List.flatten_cons]
      constructor
      · refine hlevel.append hlater fun x hx hx' => ?_
        exact hfresh x hx' (List.mem_append_right _ hx)
      · intro x hx
        rcases List.mem_append.mp hx with hx | hx
        · exact hnew x hx
        · intro hvisited
          exact hfresh x hx (List.mem_append_left _ hvisited)

/-- The first level holds what the search starts with. -/
theorem LevelRun.mem_first (run : LevelRun next visited current levels)
    (hlevel : levels[0]? = some level) (hx : x ∈ level) : x ∈ current := by
  cases run with
  | halt h => cases hlevel
  | step h hne run =>
      cases hlevel
      rw [← h] at hx
      exact (List.mem_filter.mp hx).1

/-- A key of a later level is below a key of the level before. -/
theorem LevelRun.mem_later (run : LevelRun next visited current levels)
    (hlevel : levels[i + 1]? = some level) (hx : x ∈ level) :
    ∃ earlier, levels[i]? = some earlier ∧ ∃ p ∈ earlier, x ∈ next p := by
  induction run generalizing i with
  | halt h => cases hlevel
  | step h hne run ih =>
      rw [List.getElem?_cons_succ] at hlevel
      cases i with
      | zero =>
          obtain ⟨p, hp, hnext⟩ := List.mem_flatMap.mp (run.mem_first hlevel hx)
          exact ⟨_, rfl, p, hp, hnext⟩
      | succ i => exact ih hlevel

end Run

end CreativeBackend.Relational
