import CreativeBackend.Qr.OfflineQr
import CreativeBackend.Runtime.Delimited
import CreativeBackend.Runtime.JsonValues

/-!
# What a payload hash identifies

`stableStringify` prints two payloads alike if and only if they are one value. Arrays and objects
are closed lists, so their texts show the texts of their parts, and those of the scalars show the
scalars by assumption. Sorting the keys makes the text independent of the order of properties.
-/

namespace CreativeBackend

open Delimited

/-- The symbols that end the text of a value or of a key. -/
def EndsText (c : Char) : Prop := c = ',' ∨ c = ']' ∨ c = '}' ∨ c = ':'

/-- `JSON.stringify` on null, booleans, numbers and strings: different values have different texts,
a text is not extended to another one by what follows it, and none begins like an array or object or
with a closing bracket. -/
structure PrintsScalars (print : Json → String) : Prop where
  injective : ∀ a b, a.isScalar = true → b.isScalar = true → print a = print b → a = b
  delimited : ∀ a b, a.isScalar = true → b.isScalar = true → ∀ u v, Stops EndsText u →
    Stops EndsText v → (print a).toList ++ u = (print b).toList ++ v → print a = print b
  opens : ∀ a, a.isScalar = true → ∃ c rest, (print a).toList = c :: rest ∧
    c ∉ ['[', ']', '{', '}']

variable (rt : Runtime)

/-- The text of a payload. -/
def stableText (j : Json) : List Char := (stableStringify rt j).toList

/-- The text of a key. -/
def keyText (k : String) : List Char := (rt.jsonStringify (.str k)).toList

/-- The text of a property. -/
def propertyText (f : String × Json) : List Char := keyText rt f.1 ++ ':' :: stableText rt f.2

/-- The properties of an object in the order of their keys. -/
def sortedFields (fields : List (String × Json)) : List (String × Json) :=
  fields.insertionSort fun a b => a.1 ≤ b.1

theorem stableItems_eq (items : List Json) :
    stableItems rt items = items.map (stableStringify rt) := by
  induction items with
  | nil => rfl
  | cons item items ih => rw [stableItems, ih, List.map_cons]

theorem stableFields_eq (fields : List (String × Json)) :
    stableFields rt fields = fields.map fun f => (f.1, stableStringify rt f.2) := by
  induction fields with
  | nil => rfl
  | cons field fields ih => rw [stableFields, ih, List.map_cons]

theorem stableText_scalar {j : Json} (h : j.isScalar = true) :
    stableText rt j = (rt.jsonStringify j).toList := by
  cases j with
  | arr items => cases h
  | obj fields => cases h
  | _ => simp [stableText, stableStringify]

theorem stableText_arr (items : List Json) :
    stableText rt (.arr items) = '[' :: closed ',' ']' (items.map (stableText rt)) := by
  have hmap : (items.map (stableStringify rt)).map String.toList = items.map (stableText rt) := by
    rw [List.map_map]
    rfl
  simp [stableText, stableStringify, stableItems_eq, closed, String.toList_intercalate, hmap]

theorem stableText_obj (fields : List (String × Json)) :
    stableText rt (.obj fields) =
      '{' :: closed ',' '}' ((sortedFields fields).map (propertyText rt)) := by
  have hsort : (stableFields rt fields).insertionSort (fun a b => a.1 ≤ b.1) =
      (sortedFields fields).map fun f => (f.1, stableStringify rt f.2) := by
    rw [stableFields_eq, sortedFields]
    symm
    apply List.map_insertionSort
    exact fun _ _ _ _ => Iff.rfl
  have hmap : ((sortedFields fields).map fun f =>
      rt.jsonStringify (.str f.1) ++ ":" ++ stableStringify rt f.2).map String.toList =
        (sortedFields fields).map (propertyText rt) := by
    rw [List.map_map]
    apply List.map_congr_left
    intro f _
    simp [propertyText, keyText, stableText]
  simp only [stableText, stableStringify, hsort, List.map_map]
  rw [← hmap]
  simp [closed, String.toList_intercalate, Function.comp_def]

theorem sortedFields_perm (fields : List (String × Json)) : (sortedFields fields).Perm fields :=
  List.perm_insertionSort _ _

theorem mem_sortedFields {fields : List (String × Json)} {f : String × Json} :
    f ∈ sortedFields fields ↔ f ∈ fields := (sortedFields_perm fields).mem_iff

/-! ## Equal texts -/

variable {rt}

/-- No text begins with a closing bracket. -/
theorem stableText_opens (hp : PrintsScalars rt.jsonStringify) (j : Json) :
    ∃ c rest, stableText rt j = c :: rest ∧ c ≠ ']' ∧ c ≠ '}' := by
  cases hj : j.isScalar with
  | true =>
      obtain ⟨c, rest, htext, hc⟩ := hp.opens j hj
      refine ⟨c, rest, by rw [stableText_scalar rt hj, htext], ?_, ?_⟩
      · rintro rfl
        simp at hc
      · rintro rfl
        simp at hc
  | false =>
      rcases Json.isScalar_cases hj with ⟨items, rfl⟩ | ⟨fields, rfl⟩
      · exact ⟨'[', _, stableText_arr rt items, by decide, by decide⟩
      · exact ⟨'\x7b', _, stableText_obj rt fields, by decide, by decide⟩

/-- A scalar is not printed like an array or an object. -/
theorem scalar_text_ne (hp : PrintsScalars rt.jsonStringify) {a b : Json} (ha : a.isScalar = true)
    (hb : b.isScalar = false) (u v : List Char) : stableText rt a ++ u ≠ stableText rt b ++ v := by
  intro h
  obtain ⟨c, rest, htext, hc⟩ := hp.opens a ha
  rw [stableText_scalar rt ha, htext] at h
  rcases Json.isScalar_cases hb with ⟨items, rfl⟩ | ⟨fields, rfl⟩
  · rw [stableText_arr, List.cons_append, List.cons_append, List.cons.injEq] at h
    simp [h.1] at hc
  · rw [stableText_obj, List.cons_append, List.cons_append, List.cons.injEq] at h
    simp [h.1] at hc

theorem keyText_separates (hp : PrintsScalars rt.jsonStringify) (k : String) :
    Separates EndsText (keyText rt) (fun _ => True) (· = ·) k := by
  intro k' _ u v hu hv h
  have hprint := hp.delimited (.str k) (.str k') rfl rfl u v hu hv h
  have hkey : k = k' := by simpa using hp.injective (.str k) (.str k') rfl rfl hprint
  refine ⟨hkey, ?_⟩
  rw [keyText, keyText, hprint] at h
  exact List.append_cancel_left h

/-- Fields with the same keys and values in one order are one map. -/
theorem lookup_of_forall₂ {fields fields' : List (String × Json)}
    (h : List.Forall₂ (fun f g => f.1 = g.1 ∧ f.2.value = g.2.value) fields fields') (k : String) :
    (fields.lookup k).map Json.value = (fields'.lookup k).map Json.value := by
  induction h with
  | nil => rfl
  | @cons f g fields fields' hfg _ ih =>
      obtain ⟨k₁, x⟩ := f
      obtain ⟨k₂, y⟩ := g
      obtain ⟨rfl, hvalue⟩ := hfg
      by_cases hk : k = k₁
      · subst hk
        rw [List.lookup_cons_self, List.lookup_cons_self, Option.map_some, Option.map_some, hvalue]
      · rw [List.lookup_cons, List.lookup_cons, beq_eq_false_iff_ne.mpr hk]
        exact ih

/-- The text of a property shows its key and its value. -/
theorem propertyText_separates (hp : PrintsScalars rt.jsonStringify) {f : String × Json}
    (h : Separates EndsText (stableText rt) Json.WellFormed (fun a b => a.value = b.value) f.2) :
    Separates EndsText (propertyText rt) (fun f => True ∧ f.2.WellFormed)
      (fun f g => f.1 = g.1 ∧ f.2.value = g.2.value) f :=
  (keyText_separates hp f.1).pair (.inr (.inr (.inr rfl))) h

theorem propertyText_opens (hp : PrintsScalars rt.jsonStringify) (f : String × Json) :
    ∃ c rest, propertyText rt f = c :: rest ∧ c ≠ '}' := by
  obtain ⟨c, rest, htext, -, hc⟩ := stableText_opens hp (.str f.1)
  refine ⟨c, rest ++ ':' :: stableText rt f.2, ?_, hc⟩
  rw [stableText_scalar rt rfl] at htext
  rw [propertyText, keyText, htext, List.cons_append]

theorem value_arr_eq {items items' : List Json}
    (h : List.Forall₂ (fun a b => a.value = b.value) items items') :
    (Json.arr items).value = (Json.arr items').value := by
  have hmap : items.map Json.value = items'.map Json.value := by
    rw [← List.forall₂_eq_eq_eq]
    exact List.forall₂_map_left_iff.mpr (List.forall₂_map_right_iff.mpr h)
  rw [Json.value, Json.value, Json.valueItems_eq, Json.valueItems_eq, hmap]

theorem value_obj_eq {fields fields' : List (String × Json)} (hnodup : (fields.map (·.1)).Nodup)
    (hnodup' : (fields'.map (·.1)).Nodup)
    (h : List.Forall₂ (fun f g => f.1 = g.1 ∧ f.2.value = g.2.value) (sortedFields fields)
      (sortedFields fields')) : (Json.obj fields).value = (Json.obj fields').value := by
  rw [Json.value, Json.value]
  congr 1
  funext k
  rw [Json.valueFields_eq, Json.valueFields_eq,
    Json.lookup_perm (sortedFields_perm fields).symm hnodup,
    Json.lookup_perm (sortedFields_perm fields').symm hnodup', lookup_of_forall₂ h]

/-- The text of a well-formed payload shows its value, also when something follows it. -/
theorem stableText_separates (hp : PrintsScalars rt.jsonStringify) (a : Json) :
    a.WellFormed → Separates EndsText (stableText rt) Json.WellFormed
      (fun a b => a.value = b.value) a := by
  induction a using Json.induct with
  | scalar a ha =>
      intro _ b _ u v hu hv h
      cases hb : b.isScalar with
      | false => exact absurd h (scalar_text_ne hp ha hb u v)
      | true =>
          rw [stableText_scalar rt ha, stableText_scalar rt hb] at h
          have hprint := hp.delimited a b ha hb u v hu hv h
          obtain rfl := hp.injective a b ha hb hprint
          exact ⟨rfl, List.append_cancel_left h⟩
  | array items ih =>
      intro hwf b hb u v hu hv h
      rw [Json.wellFormed_arr] at hwf
      cases b with
      | arr items' =>
          rw [Json.wellFormed_arr] at hb
          rw [stableText_arr, stableText_arr, List.cons_append, List.cons_append,
            List.cons.injEq] at h
          have hopens : ∀ j : Json, j.WellFormed →
              ∃ c rest, stableText rt j = c :: rest ∧ c ≠ ']' := by
            intro j _
            obtain ⟨c, rest, htext, hc, -⟩ := stableText_opens hp j
            exact ⟨c, rest, htext, hc⟩
          obtain ⟨hitems, huv⟩ := forall₂_of_closed (.inl rfl) (.inr (.inl rfl)) (by decide) hopens
            (fun j hj => ⟨hwf j hj, ih j hj (hwf j hj)⟩) hb h.2
          exact ⟨value_arr_eq hitems, huv⟩
      | obj fields' =>
          rw [stableText_arr, stableText_obj, List.cons_append, List.cons_append,
            List.cons.injEq] at h
          exact absurd h.1 (by decide)
      | _ => exact absurd h.symm (scalar_text_ne hp rfl rfl v u)
  | object fields ih =>
      intro hwf b hb u v hu hv h
      rw [Json.wellFormed_obj] at hwf
      cases b with
      | obj fields' =>
          rw [Json.wellFormed_obj] at hb
          rw [stableText_obj, stableText_obj, List.cons_append, List.cons_append,
            List.cons.injEq] at h
          have hopens : ∀ f : String × Json, True ∧ f.2.WellFormed →
              ∃ c rest, propertyText rt f = c :: rest ∧ c ≠ '}' :=
            fun f _ => propertyText_opens hp f
          have hseparates : ∀ f ∈ sortedFields fields, (True ∧ f.2.WellFormed) ∧
              Separates EndsText (propertyText rt) (fun f => True ∧ f.2.WellFormed)
                (fun f g => f.1 = g.1 ∧ f.2.value = g.2.value) f := by
            intro f hf
            have hmem := mem_sortedFields.mp hf
            exact ⟨⟨trivial, hwf.2 f hmem⟩, propertyText_separates hp (ih f hmem (hwf.2 f hmem))⟩
          obtain ⟨hfields, huv⟩ := forall₂_of_closed (.inl rfl) (.inr (.inr (.inl rfl))) (by decide)
            hopens hseparates (fun f hf => ⟨trivial, hb.2 f (mem_sortedFields.mp hf)⟩) h.2
          exact ⟨value_obj_eq hwf.1 hb.1 hfields, huv⟩
      | arr items' =>
          rw [stableText_arr, stableText_obj, List.cons_append, List.cons_append,
            List.cons.injEq] at h
          exact absurd h.1 (by decide)
      | _ => exact absurd h.symm (scalar_text_ne hp rfl rfl v u)

/-! ## Equal values -/

/-- The texts of the properties, by key. -/
def printedFields (rt : Runtime) (fields : List (String × Json)) : List (String × List Char) :=
  fields.map fun f => (f.1, stableText rt f.2)

theorem printedFields_keys (fields : List (String × Json)) :
    (printedFields rt fields).map (·.1) = fields.map (·.1) := by
  rw [printedFields, List.map_map]
  rfl

theorem map_propertyText (fields : List (String × Json)) :
    fields.map (propertyText rt) =
      (printedFields rt fields).map fun f => keyText rt f.1 ++ ':' :: f.2 := by
  rw [printedFields, List.map_map]
  rfl

/-- In the order of the keys, properties that are printed alike are listed alike. -/
theorem sorted_printedFields {fields fields' : List (String × Json)}
    (hnodup : (fields.map (·.1)).Nodup) (hnodup' : (fields'.map (·.1)).Nodup)
    (h : ∀ f, f ∈ printedFields rt fields ↔ f ∈ printedFields rt fields') :
    printedFields rt (sortedFields fields) = printedFields rt (sortedFields fields') := by
  have hperm : (printedFields rt (sortedFields fields)).Perm
      (printedFields rt (sortedFields fields')) := by
    have hkeys : ((printedFields rt fields).map (·.1)).Nodup := by rwa [printedFields_keys]
    have hkeys' : ((printedFields rt fields').map (·.1)).Nodup := by rwa [printedFields_keys]
    have hsame : (printedFields rt fields).Perm (printedFields rt fields') :=
      (List.perm_ext_iff_of_nodup hkeys.of_map hkeys'.of_map).mpr h
    exact ((sortedFields_perm fields).map _).trans
      (hsame.trans ((sortedFields_perm fields').map _).symm)
  have hsorted : ∀ l : List (String × Json),
      (printedFields rt (sortedFields l)).Pairwise fun a b => a.1 ≤ b.1 := by
    intro l
    have htotal : Std.Total fun a b : String × Json => a.1 ≤ b.1 :=
      ⟨fun a b => String.le_total a.1 b.1⟩
    have htrans : IsTrans (String × Json) fun a b => a.1 ≤ b.1 :=
      ⟨fun _ _ _ h h' => String.le_trans h h'⟩
    rw [printedFields, List.pairwise_map]
    exact List.pairwise_insertionSort _ l
  refine hperm.eq_of_pairwise ?_ (hsorted fields) (hsorted fields')
  intro a b ha hb hab hba
  have hkeys : ((printedFields rt (sortedFields fields)).map (·.1)).Nodup := by
    rw [printedFields_keys]
    exact ((sortedFields_perm fields).map _).nodup_iff.mpr hnodup
  exact List.inj_on_of_nodup_map hkeys ha (hperm.mem_iff.mpr hb) (String.le_antisymm hab hba)

theorem mem_printedFields {fields : List (String × Json)} (hnodup : (fields.map (·.1)).Nodup)
    {k : String} {t : List Char} :
    (k, t) ∈ printedFields rt fields ↔ ∃ x, fields.lookup k = some x ∧ stableText rt x = t := by
  rw [printedFields, List.mem_map]
  constructor
  · rintro ⟨f, hf, heq⟩
    cases heq
    exact ⟨f.2, (Json.lookup_eq_some_iff_mem hnodup).mpr hf, rfl⟩
  · rintro ⟨x, hx, rfl⟩
    exact ⟨(k, x), (Json.lookup_eq_some_iff_mem hnodup).mp hx, rfl⟩

theorem map_stableText_eq {items items' : List Json}
    (ih : ∀ x ∈ items, ∀ y : Json, x.WellFormed → y.WellFormed → x.value = y.value →
      stableText rt x = stableText rt y)
    (hwf : ∀ x ∈ items, x.WellFormed) (hwf' : ∀ y ∈ items', y.WellFormed)
    (h : items.map Json.value = items'.map Json.value) :
    items.map (stableText rt) = items'.map (stableText rt) := by
  induction items generalizing items' with
  | nil =>
      have hnil : items' = [] := by simpa using h.symm
      rw [hnil]
  | cons x items ihItems =>
      cases items' with
      | nil => simp at h
      | cons y items' =>
          rw [List.map_cons, List.map_cons, List.cons.injEq] at h
          obtain ⟨hx, hwfItems⟩ := List.forall_mem_cons.mp hwf
          obtain ⟨hy, hwfItems'⟩ := List.forall_mem_cons.mp hwf'
          rw [List.map_cons, List.map_cons, ih x List.mem_cons_self y hx hy h.1,
            ihItems (fun z hz => ih z (List.mem_cons_of_mem x hz)) hwfItems hwfItems' h.2]

/-- Payloads of one value have one text. -/
theorem stableText_of_value_eq (a : Json) : ∀ b : Json, a.WellFormed → b.WellFormed →
    a.value = b.value → stableText rt a = stableText rt b := by
  induction a using Json.induct with
  | scalar a ha =>
      intro b _ _ h
      rw [Json.value_of_isScalar ha h]
  | array items ih =>
      intro b hwf hb h
      rw [Json.wellFormed_arr] at hwf
      cases b with
      | arr items' =>
          rw [Json.wellFormed_arr] at hb
          rw [Json.value, Json.value, Json.valueItems_eq, Json.valueItems_eq,
            JsonValue.arr.injEq] at h
          rw [stableText_arr, stableText_arr]
          rw [map_stableText_eq ih hwf hb h]
      | _ => simp [Json.value] at h
  | object fields ih =>
      intro b hwf hb h
      rw [Json.wellFormed_obj] at hwf
      cases b with
      | obj fields' =>
          rw [Json.wellFormed_obj] at hb
          rw [Json.value, Json.value, JsonValue.obj.injEq] at h
          have hlookup : ∀ k, (fields.lookup k).map Json.value = (fields'.lookup k).map Json.value := by
            intro k
            rw [← Json.valueFields_eq, ← Json.valueFields_eq, h]
          rw [stableText_obj, stableText_obj, map_propertyText, map_propertyText,
            sorted_printedFields hwf.1 hb.1]
          rintro ⟨k, t⟩
          rw [mem_printedFields hwf.1, mem_printedFields hb.1]
          have hk := hlookup k
          have hmem : ∀ {l : List (String × Json)} {x : Json}, (l.map (·.1)).Nodup →
              l.lookup k = some x → (k, x) ∈ l := fun hnodup hx =>
            (Json.lookup_eq_some_iff_mem hnodup).mp hx
          cases hx : fields.lookup k with
          | none =>
              rw [hx, Option.map_none, eq_comm, Option.map_eq_none_iff] at hk
              rw [hk]
          | some x =>
              rw [hx, Option.map_some, eq_comm, Option.map_eq_some_iff] at hk
              obtain ⟨y, hy, hvalue⟩ := hk
              have htext := ih (k, x) (hmem hwf.1 hx) y (hwf.2 _ (hmem hwf.1 hx))
                (hb.2 _ (hmem hb.1 hy)) hvalue.symm
              rw [hy]
              simp only [Option.some.injEq, exists_eq_left', htext]
      | _ => simp [Json.value] at h

/-- Two well-formed payloads are printed alike if and only if they are one value. -/
theorem stableStringify_eq_iff (hp : PrintsScalars rt.jsonStringify) {a b : Json}
    (ha : a.WellFormed) (hb : b.WellFormed) :
    stableStringify rt a = stableStringify rt b ↔ a.value = b.value := by
  constructor
  · intro h
    have htext : stableText rt a ++ [] = stableText rt b ++ [] := by
      rw [stableText, stableText, h]
    exact (stableText_separates hp a ha b hb [] [] stops_nil stops_nil htext).1
  · intro h
    exact String.toList_injective (stableText_of_value_eq a b ha hb h)

/-- Two well-formed payloads have one hash if and only if they are one value. -/
theorem hashPayload_eq_iff (hp : PrintsScalars rt.jsonStringify)
    (hsha : Function.Injective rt.sha256Hex) {a b : Json} (ha : a.WellFormed) (hb : b.WellFormed) :
    hashPayload rt a = hashPayload rt b ↔ a.value = b.value := by
  rw [hashPayload, hashPayload, hsha.eq_iff, stableStringify_eq_iff hp ha hb]

end CreativeBackend
