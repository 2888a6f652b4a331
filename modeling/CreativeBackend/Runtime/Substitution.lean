import Mathlib.Data.List.Basic
import Mathlib.Data.List.Infix

/-!
# Replacing parts of a text

A text is replaced in two ways: by a scan that replaces the occurrences of one pattern, and by a
substitution of several patterns at once. Scans for one pattern after the other make the
substitution as long as every text they work on has no occurrences but those of the original one.
-/

namespace CreativeBackend.Substitution

variable {α : Type} [DecidableEq α]

/-! ## Scanning for one pattern -/

/-- Scan a text that follows `before`, the first `skip` symbols of which belong to an occurrence
that is replaced already. The replacement depends on what surrounds an occurrence. -/
def replaceFrom (p : List α) (r : List α → List α → List α) : List α → Nat → List α → List α
  | before, _, [] => if p = [] then r before [] else []
  | before, skip + 1, c :: cs => replaceFrom p r (before ++ [c]) skip cs
  | before, 0, c :: cs =>
      if p = [] then r before (c :: cs) ++ c :: replaceFrom p r (before ++ [c]) 0 cs
      else if p.isPrefixOf (c :: cs) = true then
        r before ((c :: cs).drop p.length) ++ replaceFrom p r (before ++ [c]) (p.length - 1) cs
      else c :: replaceFrom p r (before ++ [c]) 0 cs

/-- The number of places where a pattern occurs. -/
def occurrences (p : List α) : List α → Nat
  | [] => 0
  | c :: cs => (if p.isPrefixOf (c :: cs) = true then 1 else 0) + occurrences p cs

/-! ## Substituting several patterns -/

/-- A symbol of a text, or a pattern that occurs in it. -/
inductive Token (α : Type) where
  | chr (c : α)
  | slot (p : List α)
  deriving DecidableEq

/-- The patterns and the other symbols of a text, from the left. -/
def tokens (ps : List (List α)) : Nat → List α → List (Token α)
  | _, [] => []
  | skip + 1, _ :: cs => tokens ps skip cs
  | 0, c :: cs =>
      match ps.find? (·.isPrefixOf (c :: cs)) with
      | some p => .slot p :: tokens ps (p.length - 1) cs
      | none => .chr c :: tokens ps 0 cs

/-- What a token is replaced by. -/
def valueOf (vars : List (List α × List α)) : Token α → List α
  | .chr c => [c]
  | .slot p => (vars.lookup p).getD p

/-- Every pattern of the text is replaced by its value at once. -/
def substitute (vars : List (List α × List α)) (text : List α) : List α :=
  (tokens (vars.map (·.1)) 0 text).flatMap (valueOf vars)

/-- The number of tokens that are the pattern. -/
def slots (p : List α) (toks : List (Token α)) : Nat := toks.count (.slot p)

/-! ## Occurrences -/

variable {p q : List α} {r : List α → List α → List α}

theorem occurrences_le_append (p w t : List α) : occurrences p t ≤ occurrences p (w ++ t) := by
  induction w with
  | nil => exact Nat.le_refl _
  | cons c w ih =>
      rw [List.cons_append, occurrences]
      omega

/-- Where a pattern is written, it occurs. -/
theorem occurrences_self_append (hp : p ≠ []) (t : List α) :
    1 + occurrences p t ≤ occurrences p (p ++ t) := by
  cases p with
  | nil => exact absurd rfl hp
  | cons c p =>
      have hprefix : (c :: p).isPrefixOf (c :: (p ++ t)) = true :=
        List.isPrefixOf_iff_prefix.mpr (List.prefix_append (c :: p) t)
      have hrest := occurrences_le_append (c :: p) p t
      rw [List.cons_append, occurrences, if_pos hprefix]
      omega

/-- A text without the first symbol of a pattern adds no occurrence to what follows it. -/
theorem occurrences_append_of_not_mem {a : α} {s w : List α} (h : a ∉ w) (t : List α) :
    occurrences (a :: s) (w ++ t) = occurrences (a :: s) t := by
  induction w with
  | nil => rfl
  | cons c w ih =>
      rw [List.mem_cons, not_or] at h
      obtain ⟨hc, hw⟩ := h
      have hno : ¬ (a :: s).isPrefixOf (c :: (w ++ t)) = true := by
        intro hprefix
        exact hc (List.cons_prefix_cons.mp (List.isPrefixOf_iff_prefix.mp hprefix)).1
      rw [List.cons_append, occurrences, if_neg hno, ih hw, Nat.zero_add]

/-! ## What a scan does -/

theorem replaceFrom_skip (w before t : List α) :
    replaceFrom p r before w.length (w ++ t) = replaceFrom p r (before ++ w) 0 t := by
  induction w generalizing before with
  | nil => rw [List.length_nil, List.nil_append, List.append_nil]
  | cons c w ih =>
      rw [List.length_cons, List.cons_append, replaceFrom, ih, List.append_assoc,
        List.singleton_append]

theorem replaceFrom_self (hp : p ≠ []) (before t : List α) :
    replaceFrom p r before 0 (p ++ t) = r before t ++ replaceFrom p r (before ++ p) 0 t := by
  cases p with
  | nil => exact absurd rfl hp
  | cons c s =>
      have hprefix : (c :: s).isPrefixOf (c :: (s ++ t)) = true :=
        List.isPrefixOf_iff_prefix.mpr (List.prefix_append (c :: s) t)
      have hdrop : (c :: (s ++ t)).drop (c :: s).length = t := List.drop_left
      have hlength : (c :: s).length - 1 = s.length := rfl
      rw [List.cons_append, replaceFrom, if_neg hp, if_pos hprefix, hdrop, hlength,
        replaceFrom_skip, List.append_assoc, List.singleton_append]

/-- A text that adds no occurrence to what follows it is kept. -/
theorem replaceFrom_keep (hp : p ≠ []) (w before t : List α)
    (h : occurrences p (w ++ t) = occurrences p t) :
    replaceFrom p r before 0 (w ++ t) = w ++ replaceFrom p r (before ++ w) 0 t := by
  induction w generalizing before with
  | nil => rw [List.nil_append, List.nil_append, List.append_nil]
  | cons c w ih =>
      have hrest := occurrences_le_append p w t
      rw [List.cons_append, occurrences] at h
      have hno : ¬ p.isPrefixOf (c :: (w ++ t)) = true := by
        intro hprefix
        rw [if_pos hprefix] at h
        omega
      rw [if_neg hno, Nat.zero_add] at h
      rw [List.cons_append, replaceFrom, if_neg hp, if_neg hno, ih _ h, List.append_assoc,
        List.singleton_append, List.cons_append]

omit [DecidableEq α] in
theorem chr_ne_slot (c : α) (p : List α) : Token.chr c ≠ .slot p := by
  intro h
  cases h

theorem slots_cons_self (toks : List (Token α)) : slots p (.slot p :: toks) = slots p toks + 1 :=
  List.count_cons_self

theorem slots_cons_of_ne {t : Token α} (h : t ≠ .slot p) (toks : List (Token α)) :
    slots p (t :: toks) = slots p toks := List.count_cons_of_ne h

/-- A pattern that is written as it is occurs at each of its tokens. -/
theorem slots_le_occurrences (hp : p ≠ []) {f : Token α → List α} (hf : f (.slot p) = p)
    (toks : List (Token α)) : slots p toks ≤ occurrences p (toks.flatMap f) := by
  induction toks with
  | nil => exact Nat.zero_le _
  | cons t toks ih =>
      rw [List.flatMap_cons]
      by_cases ht : t = .slot p
      · have hself := occurrences_self_append hp (toks.flatMap f)
        rw [ht, hf, slots_cons_self]
        omega
      · have hrest := occurrences_le_append p (f t) (toks.flatMap f)
        rw [slots_cons_of_ne ht]
        omega

/-- A scan replaces the tokens of its pattern and nothing else if the pattern occurs nowhere
else. -/
theorem replaceFrom_tokens (hp : p ≠ []) {f : Token α → List α} (hf : f (.slot p) = p)
    {v : List α} (toks : List (Token α)) (before : List α)
    (hcount : occurrences p (toks.flatMap f) = slots p toks)
    (hr : slots p toks ≠ 0 → ∀ b a, r b a = v) :
    replaceFrom p r before 0 (toks.flatMap f) =
      toks.flatMap fun t => if t = .slot p then v else f t := by
  induction toks generalizing before with
  | nil => rw [List.flatMap_nil, List.flatMap_nil, replaceFrom, if_neg hp]
  | cons t toks ih =>
      have hleast := slots_le_occurrences hp hf toks
      rw [List.flatMap_cons] at hcount
      rw [List.flatMap_cons, List.flatMap_cons]
      by_cases ht : t = .slot p
      · have hself := occurrences_self_append hp (toks.flatMap f)
        rw [ht, hf, slots_cons_self] at hcount
        rw [ht, slots_cons_self] at hr
        have hv := hr (Nat.succ_ne_zero _)
        have hrest : occurrences p (toks.flatMap f) = slots p toks := by omega
        rw [ht, hf, if_pos rfl, replaceFrom_self hp, hv, ih _ hrest fun _ => hv]
      · have hle := occurrences_le_append p (f t) (toks.flatMap f)
        rw [slots_cons_of_ne ht] at hcount hr
        have hrest : occurrences p (toks.flatMap f) = slots p toks := by omega
        rw [if_neg ht, replaceFrom_keep hp _ _ _ (hcount.trans hrest.symm), ih _ hrest hr]

/-! ## Tokens of a text -/

/-- The patterns do not overlap: after one of them, a pattern occurs as often as in the rest, and
once more if it is the same. -/
def Apart (ps : List (List α)) : Prop :=
  ∀ p ∈ ps, ∀ q ∈ ps, ∀ rest : List α,
    occurrences p (q ++ rest) = (if p = q then 1 else 0) + occurrences p rest

/-- The text of a token. -/
def raw : Token α → List α
  | .chr c => [c]
  | .slot p => p

variable {ps : List (List α)}

theorem exists_tail_of_isPrefixOf {c : α} {cs : List α} (hp : p ≠ []) (h : p.isPrefixOf (c :: cs) = true) :
    ∃ s, p = c :: s ∧ cs = s ++ cs.drop (p.length - 1) := by
  cases p with
  | nil => exact absurd rfl hp
  | cons d s =>
      obtain ⟨rfl, hs⟩ := List.cons_prefix_cons.mp (List.isPrefixOf_iff_prefix.mp h)
      obtain ⟨t, rfl⟩ := hs
      refine ⟨s, rfl, ?_⟩
      rw [List.length_cons, Nat.add_sub_cancel, List.drop_left]

/-- The tokens are the text. -/
theorem flatMap_raw_tokens (hps : ∀ p ∈ ps, p ≠ []) (text : List α) (skip : Nat) :
    (tokens ps skip text).flatMap raw = text.drop skip := by
  induction text generalizing skip with
  | nil =>
      rw [List.drop_nil]
      cases skip <;> rfl
  | cons c cs ih =>
      cases skip with
      | succ skip => rw [tokens, ih, List.drop_succ_cons]
      | zero =>
          rw [tokens, List.drop_zero]
          cases hfind : ps.find? (·.isPrefixOf (c :: cs)) with
          | none =>
              simp only [List.flatMap_cons, raw, ih, List.drop_zero, List.singleton_append]
          | some p =>
              have hp := hps p (List.mem_of_find?_eq_some hfind)
              obtain ⟨s, hs, hcs⟩ := exists_tail_of_isPrefixOf hp (List.find?_some hfind :)
              simp only [List.flatMap_cons, raw, ih]
              nth_rewrite 1 [hs]
              rw [List.cons_append, ← hcs]

/-- Patterns that do not overlap occur at their tokens only. -/
theorem occurrences_eq_slots (hps : ∀ p ∈ ps, p ≠ []) (hapart : Apart ps) (hp : p ∈ ps)
    (text : List α) (skip : Nat) :
    occurrences p (text.drop skip) = slots p (tokens ps skip text) := by
  induction text generalizing skip with
  | nil =>
      rw [List.drop_nil]
      cases skip <;> rfl
  | cons c cs ih =>
      cases skip with
      | succ skip => rw [tokens, List.drop_succ_cons, ih]
      | zero =>
          rw [tokens, List.drop_zero]
          cases hfind : ps.find? (·.isPrefixOf (c :: cs)) with
          | none =>
              have hno : ¬ p.isPrefixOf (c :: cs) = true :=
                fun hprefix => List.find?_eq_none.mp hfind p hp hprefix
              have hrest := ih 0
              rw [List.drop_zero] at hrest
              simp only [occurrences, if_neg hno, Nat.zero_add, hrest]
              exact (slots_cons_of_ne (chr_ne_slot c p) _).symm
          | some q =>
              have hq := List.mem_of_find?_eq_some hfind
              obtain ⟨s, hs, hcs⟩ := exists_tail_of_isPrefixOf (hps q hq) (List.find?_some hfind :)
              have htext : c :: cs = q ++ cs.drop (q.length - 1) := by
                nth_rewrite 1 [hs]
                rw [List.cons_append, ← hcs]
              rw [htext, hapart p hp q hq, ih]
              by_cases hpq : p = q
              · simp only [hpq, if_true, slots_cons_self, Nat.add_comm]
              · have hne : Token.slot q ≠ .slot p := fun h => hpq (Token.slot.inj h).symm
                simp only [if_neg hpq, Nat.zero_add, slots_cons_of_ne hne]

/-! ## One scan after the other -/

/-- The patterns that are still to be replaced stand for themselves. -/
def kept (vars : List (List α × List α)) : List (List α × List α) := vars.map fun v => (v.1, v.1)

/-- The text when the first patterns are substituted and the others are not. -/
def filled (done rest : List (List α × List α)) (text : List α) : List α :=
  substitute (done ++ kept rest) text

omit [DecidableEq α] in
theorem kept_keys (vars : List (List α × List α)) :
    (kept vars).map (·.1) = vars.map (·.1) := by
  rw [kept, List.map_map]
  rfl

omit [DecidableEq α] in
theorem filled_keys (done rest : List (List α × List α)) :
    (done ++ kept rest).map (·.1) = (done ++ rest).map (·.1) := by
  rw [List.map_append, List.map_append, kept_keys]

theorem lookup_kept (vars : List (List α × List α)) (p : List α) :
    ((kept vars).lookup p).getD p = p := by
  induction vars with
  | nil => rfl
  | cons v vars ih =>
      by_cases hp : p = v.1
      · rw [kept, List.map_cons, hp, List.lookup_cons_self]
        rfl
      · rw [kept, List.map_cons, List.lookup_cons, beq_eq_false_iff_ne.mpr hp]
        exact ih

/-- Before the first scan the text is as it was. -/
theorem filled_nil (hps : ∀ p ∈ ps, p ≠ []) {vars : List (List α × List α)}
    (hkeys : vars.map (·.1) = ps) (text : List α) : filled [] vars text = text := by
  have hraw : valueOf (kept vars) = raw := by
    funext t
    cases t with
    | chr c => rfl
    | slot p => exact lookup_kept vars p
  have hdrop := flatMap_raw_tokens hps text 0
  rw [filled, substitute, List.nil_append, kept_keys, hkeys, hraw, hdrop, List.drop_zero]

theorem lookup_append_of_not_mem {done vars : List (List α × List α)} {p : List α}
    (h : p ∉ done.map (·.1)) : (done ++ vars).lookup p = vars.lookup p := by
  induction done with
  | nil => rfl
  | cons d done ih =>
      rw [List.map_cons, List.mem_cons, not_or] at h
      rw [List.cons_append, List.lookup_cons, beq_eq_false_iff_ne.mpr h.1]
      exact ih h.2

theorem lookup_append_of_ne {done vars : List (List α × List α)} {p : List α}
    {v w : List α × List α} (hv : p ≠ v.1) (hw : p ≠ w.1) :
    (done ++ v :: vars).lookup p = (done ++ w :: vars).lookup p := by
  induction done with
  | nil =>
      rw [List.nil_append, List.nil_append, List.lookup_cons, List.lookup_cons,
        beq_eq_false_iff_ne.mpr hv, beq_eq_false_iff_ne.mpr hw]
  | cons d done ih =>
      rw [List.cons_append, List.cons_append, List.lookup_cons, List.lookup_cons, ih]

/-- A scan substitutes the next pattern if the text so far has only its original occurrences and
the replacement is the value wherever the pattern occurs. -/
theorem replaceFrom_filled {done rest : List (List α × List α)} {v : List α × List α}
    (hkeys : (done ++ v :: rest).map (·.1) = ps) (hps : ∀ p ∈ ps, p ≠ []) (hapart : Apart ps)
    (hnodup : ps.Nodup) (text : List α)
    (hcount : occurrences v.1 (filled done (v :: rest) text) = occurrences v.1 text)
    (hr : occurrences v.1 text ≠ 0 → ∀ b a, r b a = v.2) :
    replaceFrom v.1 r [] 0 (filled done (v :: rest) text) = filled (done ++ [v]) rest text := by
  have hmem : v.1 ∈ ps := by
    rw [← hkeys, List.map_append, List.map_cons]
    exact List.mem_append_right _ List.mem_cons_self
  have hnew : v.1 ∉ done.map (·.1) := by
    rw [← hkeys, List.map_append, List.map_cons] at hnodup
    intro hold
    exact (List.nodup_append.mp hnodup).2.2 _ hold _ List.mem_cons_self rfl
  have hslots := occurrences_eq_slots hps hapart hmem text 0
  rw [List.drop_zero] at hslots
  have hbefore : (done ++ kept (v :: rest)).map (·.1) = ps := by rw [filled_keys, hkeys]
  have hafter : (done ++ [v] ++ kept rest).map (·.1) = ps := by
    rw [filled_keys, List.append_assoc, List.singleton_append, hkeys]
  have hself : valueOf (done ++ kept (v :: rest)) (.slot v.1) = v.1 := by
    rw [valueOf, lookup_append_of_not_mem hnew]
    exact lookup_kept (v :: rest) v.1
  rw [filled, substitute, hbefore] at hcount ⊢
  rw [replaceFrom_tokens (hps _ hmem) hself _ _ (hcount.trans hslots) fun h => hr (hslots ▸ h)]
  rw [filled, substitute, hafter]
  congr 1
  funext t
  cases t with
  | chr c =>
      rw [if_neg (chr_ne_slot c v.1)]
      rfl
  | slot p =>
      have hcons : done ++ [v] ++ kept rest = done ++ v :: kept rest := by
        rw [List.append_assoc, List.singleton_append]
      by_cases hp : p = v.1
      · rw [hp, if_pos rfl, valueOf, hcons, lookup_append_of_not_mem hnew, List.lookup_cons_self]
        rfl
      · have hne : Token.slot p ≠ .slot v.1 := fun h => hp (Token.slot.inj h)
        have hkept : (v.1, v.1) :: kept rest = kept (v :: rest) := rfl
        have hlookup : (done ++ (v.1, v.1) :: kept rest).lookup p =
            (done ++ v :: kept rest).lookup p := lookup_append_of_ne hp hp
        rw [if_neg hne, valueOf, valueOf, hcons, ← hlookup, hkept]

end CreativeBackend.Substitution
