import CreativeBackend.Notifications.NotificationsService
import CreativeBackend.Runtime.Delimited
import CreativeBackend.Runtime.Substitution

/-!
# Rendering of templates

A template is rendered by one `replaceAll` after the other. This substitutes the values as they are
if and only if no value that is inserted holds a replacement pattern of `replaceAll`, and the values
inserted so far never complete a placeholder that the template does not have.
-/

namespace CreativeBackend

open Substitution

namespace NotificationsService

/-! ## `replaceAll` -/

/-- What stands after a dollar sign in a replacement pattern: a dollar sign, an ampersand, a grave
accent or an apostrophe. -/
def patternMarks : List Char := ['$', '&', Char.ofNat 96, Char.ofNat 39]

/-- The replacement patterns are replaced by a dollar sign, by what was matched, and by what stands
before and after it. -/
def expand (matched before after : List Char) : List Char → List Char
  | [] => []
  | [c] => [c]
  | c :: d :: rest =>
      if c = '$' ∧ d = '$' then '$' :: expand matched before after rest
      else if c = '$' ∧ d = '&' then matched ++ expand matched before after rest
      else if c = '$' ∧ d = Char.ofNat 96 then before ++ expand matched before after rest
      else if c = '$' ∧ d = Char.ofNat 39 then after ++ expand matched before after rest
      else c :: expand matched before after (d :: rest)

/-- `text.replaceAll(pattern, replacement)`. -/
def replaceAll (text pattern replacement : String) : String :=
  String.ofList (replaceFrom pattern.toList
    (fun before after => expand pattern.toList before after replacement.toList) [] 0 text.toList)

/-- The text holds a replacement pattern. -/
def hasPattern : List Char → Bool
  | [] => false
  | [_] => false
  | c :: d :: rest => (c == '$' && patternMarks.contains d) || hasPattern (d :: rest)

theorem expand_of_not_hasPattern {value : List Char} (h : hasPattern value = false)
    (matched before after : List Char) : expand matched before after value = value := by
  induction value with
  | nil => rfl
  | cons c value ih =>
      cases value with
      | nil => rfl
      | cons d rest =>
          rw [hasPattern, Bool.or_eq_false_iff] at h
          have hno : ∀ m ∈ patternMarks, ¬ (c = '$' ∧ d = m) := by
            rintro m hm ⟨rfl, rfl⟩
            rw [List.contains_iff_mem.mpr hm] at h
            simp at h
          rw [expand, if_neg (hno _ (by decide)), if_neg (hno _ (by decide)),
            if_neg (hno _ (by decide)), if_neg (hno _ (by decide)), ih h.2]

/-! ## Placeholders -/

/-- The placeholder of a key. -/
def placeholder (key : String) : String := "\x7b\x7b" ++ key ++ "\x7d\x7d"

/-- The placeholders and their values. -/
def bindings (values : List (String × String)) : List (List Char × List Char) :=
  values.map fun v => ((placeholder v.1).toList, v.2.toList)

/-- Every placeholder of the template is replaced by its value at once. -/
def substituted (values : List (String × String)) (template : String) : String :=
  String.ofList (substitute (bindings values) template.toList)

/-- The number of places where the placeholder of a key occurs. -/
def placeholders (key text : String) : Nat := occurrences (placeholder key).toList text.toList

/-- The keys have no braces. -/
def PlainKeys (keys : List String) : Prop :=
  keys.Nodup ∧ ∀ k ∈ keys, '{' ∉ k.toList ∧ '}' ∉ k.toList

theorem toList_placeholder (key : String) :
    (placeholder key).toList = '{' :: '{' :: (key.toList ++ ['}', '}']) := by
  have hopen : "\x7b\x7b".toList = ['{', '{'] := rfl
  have hclose : "\x7d\x7d".toList = ['}', '}'] := rfl
  rw [placeholder, String.toList_append, String.toList_append, hopen, hclose]
  rfl

theorem placeholder_ne_nil (key : String) : (placeholder key).toList ≠ [] := by
  rw [toList_placeholder]
  exact List.cons_ne_nil _ _

/-- A placeholder shows its key. -/
theorem key_of_placeholder {k k' : String} (hk : '}' ∉ k.toList) (hk' : '}' ∉ k'.toList)
    {rest : List Char} (h : (placeholder k).toList <+: (placeholder k').toList ++ rest) : k = k' := by
  obtain ⟨t, ht⟩ := h
  rw [toList_placeholder, toList_placeholder] at ht
  simp only [List.cons_append, List.append_assoc, List.cons.injEq, true_and, List.nil_append] at ht
  have hseparates : Delimited.Separates (· = '}') (fun l : List Char => l) (fun l => '}' ∉ l)
      (· = ·) k.toList := by
    apply Delimited.separates_of_not_stop (fun _ _ _ _ h => h) _ hk
    rintro l hl c hc rfl
    exact hl hc
  have hstop : ∀ u : List Char, Delimited.Stops (· = '}') ('}' :: u) := fun u =>
    Delimited.stops_cons.mpr rfl
  exact String.toList_injective (hseparates _ hk' _ _ (hstop _) (hstop _) ht).1

theorem apart_placeholders {keys : List String} (h : PlainKeys keys) :
    Apart (keys.map fun k => (placeholder k).toList) := by
  intro p hp q hq rest
  obtain ⟨k, hk, rfl⟩ := List.mem_map.mp hp
  obtain ⟨k', hk', rfl⟩ := List.mem_map.mp hq
  obtain ⟨hopen, hclose⟩ := h.2 k hk
  obtain ⟨hopen', hclose'⟩ := h.2 k' hk'
  have hfirst : ((placeholder k).toList.isPrefixOf ((placeholder k').toList ++ rest) = true) ↔
      (placeholder k).toList = (placeholder k').toList := by
    rw [List.isPrefixOf_iff_prefix]
    constructor
    · intro hprefix
      rw [key_of_placeholder hclose hclose' hprefix]
    · intro heq
      rw [heq]
      exact List.prefix_append _ _
  have hsecond : ¬ (placeholder k).toList.isPrefixOf
      ('{' :: (k'.toList ++ ['}', '}'] ++ rest)) = true := by
    rw [List.isPrefixOf_iff_prefix, toList_placeholder, List.cons_prefix_cons]
    rintro ⟨-, hprefix⟩
    cases hcs : k'.toList with
    | nil =>
        rw [hcs] at hprefix
        exact absurd (List.cons_prefix_cons.mp hprefix).1 (by decide)
    | cons c cs =>
        rw [hcs] at hprefix hopen'
        exact hopen' (by rw [(List.cons_prefix_cons.mp hprefix).1]; exact List.mem_cons_self)
  have hinner : '{' ∉ k'.toList ++ ['}', '}'] := by
    rw [List.mem_append, not_or]
    exact ⟨hopen', by decide⟩
  have hrest : occurrences (placeholder k).toList (k'.toList ++ ['}', '}'] ++ rest) =
      occurrences (placeholder k).toList rest := by
    rw [toList_placeholder k]
    exact occurrences_append_of_not_mem hinner rest
  have hsplit : (placeholder k').toList ++ rest =
      '{' :: '{' :: (k'.toList ++ ['}', '}'] ++ rest) := by
    rw [toList_placeholder]
    rfl
  rw [hsplit] at hfirst
  rw [hsplit, occurrences, occurrences, if_neg hsecond, hrest, Nat.zero_add]
  simp only [hfirst]

/-! ## The loop -/

/-- Every round of the loop replaces only placeholders that the template has, and inserts a value
without replacement patterns. -/
def uninterpreted (template rendered : String) : List (String × String) → Prop
  | [] => True
  | (key, value) :: rest =>
      placeholders key rendered = placeholders key template ∧
      (placeholders key rendered ≠ 0 → hasPattern value.toList = false) ∧
      uninterpreted template (replaceAll rendered (placeholder key) value) rest

/-- The values that are inserted hold no replacement pattern, and filling in the first values makes
no placeholder of a later key. -/
def untouchedFrom (template : String) (done : List (String × String)) :
    List (String × String) → Bool
  | [] => true
  | (key, value) :: rest =>
      (placeholders key template == 0 || !hasPattern value.toList) &&
      occurrences (placeholder key).toList
        (filled (bindings done) (bindings ((key, value) :: rest)) template.toList) ==
          placeholders key template &&
      untouchedFrom template (done ++ [(key, value)]) rest

def untouched (values : List (String × String)) (template : String) : Bool :=
  untouchedFrom template [] values

/-- The rendered text while the values of `rest` are not filled in. -/
def Filled (template rendered : String) (done rest : List (String × String)) : Prop :=
  rendered.toList = filled (bindings done) (bindings rest) template.toList

theorem bindings_append (done rest : List (String × String)) :
    bindings (done ++ rest) = bindings done ++ bindings rest := List.map_append

theorem bindings_keys (values : List (String × String)) :
    (bindings values).map (·.1) = (values.map (·.1)).map fun k => (placeholder k).toList := by
  rw [bindings, List.map_map, List.map_map]
  rfl

theorem nodup_placeholders {keys : List String} (h : PlainKeys keys) :
    (keys.map fun k => (placeholder k).toList).Nodup := by
  apply h.1.map_on
  intro k hk k' hk' heq
  have hprefix : (placeholder k).toList <+: (placeholder k').toList ++ [] := by
    rw [heq]
    exact List.prefix_append _ _
  exact key_of_placeholder (h.2 k hk).2 (h.2 k' hk').2 hprefix

/-- One round of the loop fills in the next value. -/
theorem filled_replaceAll {template rendered key value : String} {done rest : List (String × String)}
    (hkeys : PlainKeys ((done ++ (key, value) :: rest).map (·.1)))
    (hfilled : Filled template rendered done ((key, value) :: rest))
    (hcount : placeholders key rendered = placeholders key template)
    (hplain : placeholders key template ≠ 0 → hasPattern value.toList = false) :
    Filled template (replaceAll rendered (placeholder key) value) (done ++ [(key, value)]) rest := by
  have hall : (bindings done ++ bindings ((key, value) :: rest)).map (·.1) =
      ((done ++ (key, value) :: rest).map (·.1)).map fun k => (placeholder k).toList := by
    rw [← bindings_append, bindings_keys]
  have hne : ∀ p ∈ ((done ++ (key, value) :: rest).map (·.1)).map fun k => (placeholder k).toList,
      p ≠ [] := by
    intro p hp
    obtain ⟨k, -, rfl⟩ := List.mem_map.mp hp
    exact placeholder_ne_nil k
  have hstage := hcount
  rw [placeholders, hfilled] at hstage
  have hplainAt : placeholders key template ≠ 0 → ∀ before after : List Char,
      expand (placeholder key).toList before after value.toList = value.toList :=
    fun h => expand_of_not_hasPattern (hplain h) _
  rw [Filled, replaceAll, String.toList_ofList, hfilled, bindings_append]
  exact replaceFrom_filled hall hne (apart_placeholders hkeys) (nodup_placeholders hkeys)
    template.toList hstage hplainAt

/-- The loop substitutes every value as it is, and interprets none, if and only if the values leave
the template untouched. -/
theorem loop_iff {template rendered : String} {done rest : List (String × String)}
    (hkeys : PlainKeys ((done ++ rest).map (·.1))) (hfilled : Filled template rendered done rest) :
    (Filled template (rest.foldl (fun rendered v => replaceAll rendered (placeholder v.1) v.2)
        rendered) (done ++ rest) [] ∧ uninterpreted template rendered rest) ↔
      untouchedFrom template done rest = true := by
  induction rest generalizing done rendered with
  | nil =>
      rw [List.append_nil, List.foldl_nil]
      exact iff_of_true ⟨hfilled, trivial⟩ rfl
  | cons v rest ih =>
      obtain ⟨key, value⟩ := v
      have hstage : occurrences (placeholder key).toList
          (filled (bindings done) (bindings ((key, value) :: rest)) template.toList) =
            placeholders key rendered := by rw [placeholders, hfilled]
      simp only [uninterpreted, untouchedFrom, Bool.and_eq_true, Bool.or_eq_true, beq_iff_eq,
        Bool.not_eq_true', hstage, List.foldl_cons]
      have happend : done ++ [(key, value)] ++ rest = done ++ (key, value) :: rest := by
        rw [List.append_assoc, List.singleton_append]
      have hkeys' : PlainKeys ((done ++ [(key, value)] ++ rest).map (·.1)) := by rwa [happend]
      rw [← happend]
      constructor
      · rintro ⟨hlast, hcount, hplain, hrest⟩
        rw [hcount] at hplain
        have hnext := filled_replaceAll hkeys hfilled hcount hplain
        refine ⟨⟨?_, hcount⟩, (ih hkeys' hnext).mp ⟨hlast, hrest⟩⟩
        by_cases hzero : placeholders key template = 0
        · exact .inl hzero
        · exact .inr (hplain hzero)
      · rintro ⟨⟨hplain, hcount⟩, hrest⟩
        have hinserted : placeholders key template ≠ 0 → hasPattern value.toList = false :=
          hplain.resolve_left
        have hnext := filled_replaceAll hkeys hfilled hcount hinserted
        obtain ⟨hlast, hlater⟩ := (ih hkeys' hnext).mpr hrest
        exact ⟨hlast, hcount, hcount.symm ▸ hinserted, hlater⟩

/-- The values of a registration message. -/
def qrValues (fullName eventTitle qrLink qrToken registrationPublicId : String) :
    List (String × String) :=
  [("fullName", fullName), ("eventTitle", eventTitle), ("qrLink", qrLink), ("qrToken", qrToken),
    ("registrationPublicId", registrationPublicId)]

/-- The values of a ticket caption. -/
def ticketValues (fullName eventTitle : String) : List (String × String) :=
  [("fullName", fullName), ("eventTitle", eventTitle)]

/-- The rendered text is the substituted template, and on the way nothing that came from a value was
expanded or interpreted. -/
def RendersLiterally (cfg : Config) (content : Option String) (fallback : String)
    (values : List (String × String)) : Prop :=
  renderTemplate { cfg with replaceAll } content fallback values =
      substituted values (content.getD fallback) ∧
    uninterpreted (content.getD fallback) (content.getD fallback) values

theorem rendersLiterally_iff (cfg : Config) (content : Option String) (fallback : String)
    {values : List (String × String)} (hkeys : PlainKeys (values.map (·.1))) :
    RendersLiterally cfg content fallback values ↔
      untouched values (content.getD fallback) = true := by
  have hne : ∀ p ∈ (values.map (·.1)).map fun k => (placeholder k).toList, p ≠ [] := by
    intro p hp
    obtain ⟨k, -, rfl⟩ := List.mem_map.mp hp
    exact placeholder_ne_nil k
  have hstart : Filled (content.getD fallback) (content.getD fallback) [] values :=
    (filled_nil hne (bindings_keys values) _).symm
  have hloop : renderTemplate { cfg with replaceAll } content fallback values =
      values.foldl (fun rendered v => replaceAll rendered (placeholder v.1) v.2)
        (content.getD fallback) := rfl
  have hlast : renderTemplate { cfg with replaceAll } content fallback values =
        substituted values (content.getD fallback) ↔
      Filled (content.getD fallback)
        (values.foldl (fun rendered v => replaceAll rendered (placeholder v.1) v.2)
          (content.getD fallback)) ([] ++ values) [] := by
    have hkept : bindings values ++ kept (bindings []) = bindings values := List.append_nil _
    rw [hloop, Filled, filled, List.nil_append, hkept, substituted, ← String.toList_inj,
      String.toList_ofList]
  rw [RendersLiterally, untouched, hlast]
  exact loop_iff hkeys hstart

end NotificationsService

open NotificationsService

/-- Messages and captions are literal substitutions of their templates if and only if the values
leave the template untouched. -/
theorem rendering_literal_iff (cfg : NotificationsService.Config) (content : Option String)
    (locale : Locale) :
    (∀ fullName eventTitle qrLink qrToken registrationPublicId,
      RendersLiterally cfg content (qrFallback locale)
          (qrValues fullName eventTitle qrLink qrToken registrationPublicId) ↔
        untouched (qrValues fullName eventTitle qrLink qrToken registrationPublicId)
          (content.getD (qrFallback locale)) = true) ∧
    ∀ fullName eventTitle,
      RendersLiterally cfg content (ticketFallback locale) (ticketValues fullName eventTitle) ↔
        untouched (ticketValues fullName eventTitle) (content.getD (ticketFallback locale)) =
          true := by
  constructor
  · intro fullName eventTitle qrLink qrToken registrationPublicId
    apply rendersLiterally_iff
    exact ⟨by simp [qrValues], by simp [qrValues]⟩
  · intro fullName eventTitle
    apply rendersLiterally_iff
    exact ⟨by simp [ticketValues], by simp [ticketValues]⟩

/-- A name with a replacement pattern is not shown as it is. -/
theorem pattern_in_name_interpreted :
    ¬ ∀ (cfg : NotificationsService.Config) (content : Option String) (locale : Locale)
        (fullName eventTitle : String),
      RendersLiterally cfg content (ticketFallback locale) (ticketValues fullName eventTitle) := by
  intro h
  obtain ⟨htext, -⟩ := h
    { publicBaseUrl := "", maxAgeMs := 0, maxAttempts := 0, replaceAll, parseUrl := fun _ => none
      toISOString := fun _ => "", numberText := fun _ => "" }
    (some "Hello \x7b\x7bfullName\x7d\x7d") .EN "$&" "Expo"
  have hshown : replaceAll (replaceAll "Hello \x7b\x7bfullName\x7d\x7d" (placeholder "fullName")
      "$&") (placeholder "eventTitle") "Expo" ≠
        substituted (ticketValues "$&" "Expo") "Hello \x7b\x7bfullName\x7d\x7d" := by
    decide +kernel
  exact hshown htext

end CreativeBackend
