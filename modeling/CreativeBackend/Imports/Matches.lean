import CreativeBackend.Imports.Suggestions

/-!
# Matches of headers

A search compares no empty text if and only if each header that matches through an empty text stands
behind one that matches properly. The searches of a mapping follow one another.
-/

namespace CreativeBackend

namespace ImportsService

section FirstMatch

variable {α : Type} {p q : α → Bool}

/-- The first element that passes a test passes a stronger one if and only if every element that
passes only the weaker one stands behind one that passes both. -/
theorem find?_strong_iff (hqp : ∀ a, q a = true → p a = true) (l : List α) :
    (∀ a, l.find? p = some a → q a = true) ↔
      ∀ before a after, l = before ++ a :: after → p a = true →
        q a = true ∨ ∃ b ∈ before, q b = true := by
  induction l with
  | nil =>
      refine iff_of_true (fun a h => by cases h) ?_
      intro before a after h
      exact absurd h.symm (by simp)
  | cons x l ih =>
      by_cases hx : p x = true
      · rw [List.find?_cons_of_pos hx]
        constructor
        · intro h before a after hsplit _
          have hq := h x rfl
          cases before with
          | nil =>
              obtain ⟨rfl, -⟩ := List.cons.inj hsplit
              exact .inl hq
          | cons b before =>
              obtain ⟨rfl, -⟩ := List.cons.inj hsplit
              exact .inr ⟨x, List.mem_cons_self, hq⟩
        · intro h a ha
          obtain rfl := Option.some.inj ha
          rcases h [] x l rfl hx with hq | ⟨b, hb, -⟩
          · exact hq
          · cases hb
      · rw [List.find?_cons_of_neg hx, ih]
        have hq : ¬ q x = true := fun h => hx (hqp x h)
        constructor
        · intro h before a after hsplit ha
          cases before with
          | nil =>
              obtain ⟨rfl, -⟩ := List.cons.inj hsplit
              exact absurd ha hx
          | cons b before =>
              obtain ⟨-, hrest⟩ := List.cons.inj hsplit
              rcases h before a after hrest ha with hqa | ⟨c, hc, hqc⟩
              · exact .inl hqa
              · exact .inr ⟨c, List.mem_cons_of_mem _ hc, hqc⟩
        · intro h before a after hsplit ha
          rcases h (x :: before) a after (by rw [hsplit]; rfl) ha with hqa | ⟨c, hc, hqc⟩
          · exact .inl hqa
          · rcases List.mem_cons.mp hc with rfl | hc
            · exact absurd hqc hq
            · exact .inr ⟨c, hc, hqc⟩

/-- A stronger test finds the same element if the first that passes the weaker one passes it. -/
theorem find?_eq_of_strong (hqp : ∀ a, q a = true → p a = true) {l : List α}
    (h : ∀ a, l.find? p = some a → q a = true) : l.find? q = l.find? p := by
  cases hfind : l.find? p with
  | none =>
      rw [List.find?_eq_none] at hfind ⊢
      exact fun a ha hq => hfind a ha (hqp a hq)
  | some a =>
      obtain ⟨-, before, after, hsplit, hbefore⟩ := List.find?_eq_some_iff_append.mp hfind
      refine List.find?_eq_some_iff_append.mpr ⟨h a hfind, before, after, hsplit, ?_⟩
      intro b hb
      have hp := hbefore b hb
      rw [Bool.not_eq_true'] at hp ⊢
      exact Bool.eq_false_iff.mpr fun hq => Bool.eq_false_iff.mp hp (hqp b hq)

end FirstMatch

variable (cfg : Config)

/-! ## Proper matches -/

/-- Two texts that are not empty match. -/
def ProperMatch (aliases : List String) (header : ImportHeader) : Prop :=
  ∃ known ∈ normalizedAliases cfg aliases, known ≠ "" ∧ normalizeHeader cfg header.label ≠ "" ∧
    (normalizeHeader cfg header.label = known ∨
      includes (normalizeHeader cfg header.label) known = true ∨
        4 ≤ utf16Length known ∧ includes known (normalizeHeader cfg header.label) = true)

/-- The first test, on texts that are not empty. -/
def properlyExact (aliases : List String) (header : ImportHeader) : Bool :=
  decide (normalizeHeader cfg header.label ≠ "") && matchesExactly cfg aliases header

/-- The second test, on texts that are not empty. -/
def properlyLoose (aliases : List String) (header : ImportHeader) : Bool :=
  decide (normalizeHeader cfg header.label ≠ "") &&
    matchesLoosely cfg (aliases.filter fun known => normalizeHeader cfg known ≠ "") header

/-- The search that compares no empty text. -/
def findProper : List ImportHeader → List String → List String → Option ImportHeader :=
  findBy (properlyExact cfg) (properlyLoose cfg)

/-- The header is found through an empty text by the second test: one of the looked-for texts is
empty, or the label is and one of them has four letters. -/
def MatchesEmpty (aliases : List String) (header : ImportHeader) : Prop :=
  "" ∈ normalizedAliases cfg aliases ∨
    normalizeHeader cfg header.label = "" ∧
      ∃ known ∈ normalizedAliases cfg aliases, 4 ≤ utf16Length known

/-- Empty texts decide nothing in a search: every header that matches through one stands behind a
header that matches properly. -/
structure Harmless (headers : List ImportHeader) (aliases usedHeaders : List String) : Prop where
  exact : ∀ before header after, headers = before ++ header :: after →
    header.key ∉ usedHeaders → normalizeHeader cfg header.label = "" →
    "" ∈ normalizedAliases cfg aliases →
      ∃ earlier ∈ before, earlier.key ∉ usedHeaders ∧ properlyExact cfg aliases earlier = true
  loose : (∃ header ∈ headers, header.key ∉ usedHeaders ∧ properlyExact cfg aliases header = true) ∨
    ∀ before header after, headers = before ++ header :: after → header.key ∉ usedHeaders →
      MatchesEmpty cfg aliases header → ProperMatch cfg aliases header ∨
        ∃ earlier ∈ before, earlier.key ∉ usedHeaders ∧ ProperMatch cfg aliases earlier


variable {cfg} {headers : List ImportHeader} {aliases usedHeaders : List String}
  {header : ImportHeader}

theorem includes_empty (text : String) : includes text "" = true :=
  decide_eq_true (List.nil_infix)

theorem includes_self (text : String) : includes text text = true :=
  decide_eq_true (List.infix_refl _)

theorem eq_empty_of_includes {text : String} (h : includes "" text = true) : text = "" := by
  have hwithin : text.toList <:+: [] := of_decide_eq_true h
  exact String.toList_injective (List.infix_nil.mp hwithin)

theorem matchesExactly_iff :
    matchesExactly cfg aliases header = true ↔
      normalizeHeader cfg header.label ∈ normalizedAliases cfg aliases :=
  List.contains_iff_mem

theorem properlyExact_iff :
    properlyExact cfg aliases header = true ↔
      normalizeHeader cfg header.label ≠ "" ∧
        normalizeHeader cfg header.label ∈ normalizedAliases cfg aliases := by
  rw [properlyExact, Bool.and_eq_true, decide_eq_true_iff, matchesExactly_iff]

theorem matchesLoosely_iff :
    matchesLoosely cfg aliases header = true ↔
      ∃ known ∈ normalizedAliases cfg aliases,
        includes (normalizeHeader cfg header.label) known = true ∨
          4 ≤ utf16Length known ∧ includes known (normalizeHeader cfg header.label) = true := by
  simp only [matchesLoosely, List.any_eq_true, Bool.or_eq_true, Bool.and_eq_true, decide_eq_true_iff]

theorem ProperMatch.of_exact (h : properlyExact cfg aliases header = true) :
    ProperMatch cfg aliases header := by
  obtain ⟨hlabel, hmem⟩ := properlyExact_iff.mp h
  exact ⟨_, hmem, hlabel, hlabel, .inl rfl⟩

/-- The second test finds proper matches and matches through an empty text. -/
theorem matchesLoosely_iff_proper :
    matchesLoosely cfg aliases header = true ↔
      ProperMatch cfg aliases header ∨ MatchesEmpty cfg aliases header := by
  rw [matchesLoosely_iff]
  constructor
  · rintro ⟨known, hknown, hmatch⟩
    by_cases hempty : known = ""
    · exact .inr (.inl (hempty ▸ hknown))
    by_cases hlabel : normalizeHeader cfg header.label = ""
    · rw [hlabel] at hmatch
      rcases hmatch with hin | ⟨hlength, -⟩
      · exact absurd (eq_empty_of_includes hin) hempty
      · exact .inr (.inr ⟨hlabel, known, hknown, hlength⟩)
    · exact .inl ⟨known, hknown, hempty, hlabel, .inr hmatch⟩
  · rintro (⟨known, hknown, -, -, heq | hmatch⟩ | hempty | ⟨hlabel, known, hknown, hlength⟩)
    · refine ⟨known, hknown, .inl ?_⟩
      rw [heq]
      exact includes_self known
    · exact ⟨known, hknown, hmatch⟩
    · exact ⟨"", hempty, .inl (includes_empty _)⟩
    · refine ⟨known, hknown, .inr ⟨hlength, ?_⟩⟩
      rw [hlabel]
      exact includes_empty known

theorem mem_normalizedAliases_filter {known : String} :
    known ∈ normalizedAliases cfg (aliases.filter fun text => normalizeHeader cfg text ≠ "") ↔
      known ∈ normalizedAliases cfg aliases ∧ known ≠ "" := by
  simp only [normalizedAliases, List.mem_map, List.mem_filter, decide_eq_true_iff]
  constructor
  · rintro ⟨text, ⟨⟨hmem, hne⟩, htext⟩, rfl⟩
    exact ⟨⟨text, ⟨hmem, htext⟩, rfl⟩, hne⟩
  · rintro ⟨⟨text, ⟨hmem, htext⟩, rfl⟩, hne⟩
    exact ⟨text, ⟨⟨hmem, hne⟩, htext⟩, rfl⟩

theorem properlyLoose_iff :
    properlyLoose cfg aliases header = true ↔ ProperMatch cfg aliases header := by
  rw [properlyLoose, Bool.and_eq_true, decide_eq_true_iff, matchesLoosely_iff]
  constructor
  · rintro ⟨hlabel, known, hknown, hmatch⟩
    obtain ⟨hmem, hne⟩ := mem_normalizedAliases_filter.mp hknown
    exact ⟨known, hmem, hne, hlabel, .inr hmatch⟩
  · rintro ⟨known, hmem, hne, hlabel, heq | hmatch⟩
    · refine ⟨hlabel, known, mem_normalizedAliases_filter.mpr ⟨hmem, hne⟩, .inl ?_⟩
      rw [heq]
      exact includes_self known
    · exact ⟨hlabel, known, mem_normalizedAliases_filter.mpr ⟨hmem, hne⟩, hmatch⟩

/-! ## One search -/

/-- A search whose header, if one is found, matches properly. -/
def FindsProperly (cfg : Config) (headers : List ImportHeader) (aliases usedHeaders : List String) :
    Prop :=
  ∀ header, findHeaderFromHeaders cfg headers aliases usedHeaders = some header →
    ProperMatch cfg aliases header

theorem unused_and_iff {test : List String → ImportHeader → Bool} :
    (!usedHeaders.contains header.key && test aliases header) = true ↔
      header.key ∉ usedHeaders ∧ test aliases header = true := by
  rw [Bool.and_eq_true, Bool.not_eq_true', ← Bool.not_eq_true, List.contains_iff_mem]

theorem exact_of_properlyExact (header : ImportHeader)
    (h : (!usedHeaders.contains header.key && properlyExact cfg aliases header) = true) :
    (!usedHeaders.contains header.key && matchesExactly cfg aliases header) = true := by
  rw [unused_and_iff] at h ⊢
  exact ⟨h.1, matchesExactly_iff.mpr (properlyExact_iff.mp h.2).2⟩

theorem loose_of_properlyLoose (header : ImportHeader)
    (h : (!usedHeaders.contains header.key && properlyLoose cfg aliases header) = true) :
    (!usedHeaders.contains header.key && matchesLoosely cfg aliases header) = true := by
  rw [unused_and_iff] at h ⊢
  exact ⟨h.1, matchesLoosely_iff_proper.mpr (.inl (properlyLoose_iff.mp h.2))⟩

/-- The first condition of a harmless search is about the first test only. -/
theorem exact_harmless_iff :
    (∀ header, headers.find? (fun header => !usedHeaders.contains header.key &&
        matchesExactly cfg aliases header) = some header →
      (!usedHeaders.contains header.key && properlyExact cfg aliases header) = true) ↔
    ∀ before header after, headers = before ++ header :: after →
      header.key ∉ usedHeaders → normalizeHeader cfg header.label = "" →
      "" ∈ normalizedAliases cfg aliases →
        ∃ earlier ∈ before, earlier.key ∉ usedHeaders ∧ properlyExact cfg aliases earlier = true := by
  rw [find?_strong_iff exact_of_properlyExact]
  simp only [unused_and_iff]
  constructor
  · intro h before header after hsplit hused hlabel hempty
    have hexact : matchesExactly cfg aliases header = true :=
      matchesExactly_iff.mpr (hlabel.symm ▸ hempty)
    rcases h before header after hsplit ⟨hused, hexact⟩ with ⟨-, hproper⟩ | hearlier
    · exact absurd hlabel (properlyExact_iff.mp hproper).1
    · exact hearlier
  · rintro h before header after hsplit ⟨hused, hexact⟩
    have hmem := matchesExactly_iff.mp hexact
    by_cases hlabel : normalizeHeader cfg header.label = ""
    · exact .inr (h before header after hsplit hused hlabel (hlabel ▸ hmem))
    · exact .inl ⟨hused, properlyExact_iff.mpr ⟨hlabel, hmem⟩⟩

/-- The second condition, when the first test finds nothing. -/
theorem loose_harmless_iff :
    (∀ header, headers.find? (fun header => !usedHeaders.contains header.key &&
        matchesLoosely cfg aliases header) = some header →
      (!usedHeaders.contains header.key && properlyLoose cfg aliases header) = true) ↔
    ∀ before header after, headers = before ++ header :: after → header.key ∉ usedHeaders →
      MatchesEmpty cfg aliases header → ProperMatch cfg aliases header ∨
        ∃ earlier ∈ before, earlier.key ∉ usedHeaders ∧ ProperMatch cfg aliases earlier := by
  rw [find?_strong_iff loose_of_properlyLoose]
  simp only [unused_and_iff, properlyLoose_iff, matchesLoosely_iff_proper]
  constructor
  · intro h before header after hsplit hused hempty
    rcases h before header after hsplit ⟨hused, .inr hempty⟩ with ⟨-, hproper⟩ | hearlier
    · exact .inl hproper
    · exact .inr hearlier
  · rintro h before header after hsplit ⟨hused, hproper | hempty⟩
    · exact .inl ⟨hused, hproper⟩
    · rcases h before header after hsplit hused hempty with hproper | hearlier
      · exact .inl ⟨hused, hproper⟩
      · exact .inr hearlier

/-- A search finds properly if and only if it is harmless, and then it compares no empty text. -/
theorem findsProperly_iff :
    (FindsProperly cfg headers aliases usedHeaders ↔ Harmless cfg headers aliases usedHeaders) ∧
      (FindsProperly cfg headers aliases usedHeaders →
        findHeaderFromHeaders cfg headers aliases usedHeaders =
          findProper cfg headers aliases usedHeaders) := by
  cases hexact : headers.find? (fun header => !usedHeaders.contains header.key &&
      matchesExactly cfg aliases header) with
  | some found =>
      have hcode : findHeaderFromHeaders cfg headers aliases usedHeaders = some found := by
        rw [findHeaderFromHeaders, findBy, hexact]
        rfl
      obtain ⟨hused, hmatch⟩ := unused_and_iff.mp (List.find?_some hexact :)
      have hmem := matchesExactly_iff.mp hmatch
      -- an exact match is proper if and only if the label is not empty
      have hproper : FindsProperly cfg headers aliases usedHeaders ↔
          ∀ header, headers.find? (fun header => !usedHeaders.contains header.key &&
            matchesExactly cfg aliases header) = some header →
              (!usedHeaders.contains header.key && properlyExact cfg aliases header) = true := by
        constructor
        · intro h header hheader
          obtain rfl := Option.some.inj (hexact.symm.trans hheader)
          obtain ⟨-, -, -, hlabel, -⟩ := h found hcode
          exact unused_and_iff.mpr ⟨hused, properlyExact_iff.mpr ⟨hlabel, hmem⟩⟩
        · intro h header hheader
          obtain rfl := Option.some.inj (hcode.symm.trans hheader)
          exact .of_exact (unused_and_iff.mp (h found hexact)).2
      constructor
      · rw [hproper]
        constructor
        · intro h
          refine ⟨exact_harmless_iff.mp h, .inl ⟨found, List.mem_of_find?_eq_some hexact, hused, ?_⟩⟩
          exact (unused_and_iff.mp (h found hexact)).2
        · intro h
          exact exact_harmless_iff.mpr h.exact
      · intro h
        have hstrong := find?_eq_of_strong exact_of_properlyExact (hproper.mp h)
        rw [hcode, findProper, findBy, hstrong, hexact]
        rfl
  | none =>
      have hcode : findHeaderFromHeaders cfg headers aliases usedHeaders =
          headers.find? fun header => !usedHeaders.contains header.key &&
            matchesLoosely cfg aliases header := by
        rw [findHeaderFromHeaders, findBy, hexact]
        rfl
      have hnone : ∀ header ∈ headers, header.key ∉ usedHeaders →
          ¬ properlyExact cfg aliases header = true := by
        intro header hheader hused hproper
        have hpass := exact_of_properlyExact header (unused_and_iff.mpr ⟨hused, hproper⟩)
        exact List.find?_eq_none.mp hexact header hheader hpass
      have hproper : FindsProperly cfg headers aliases usedHeaders ↔
          ∀ header, headers.find? (fun header => !usedHeaders.contains header.key &&
            matchesLoosely cfg aliases header) = some header →
              (!usedHeaders.contains header.key && properlyLoose cfg aliases header) = true := by
        constructor
        · intro h header hheader
          obtain ⟨hused, -⟩ := unused_and_iff.mp (List.find?_some hheader :)
          exact unused_and_iff.mpr ⟨hused, properlyLoose_iff.mpr (h header (hcode.trans hheader))⟩
        · intro h header hheader
          have hpass := h header (hcode.symm.trans hheader)
          exact properlyLoose_iff.mp (unused_and_iff.mp hpass).2
      constructor
      · rw [hproper, loose_harmless_iff]
        constructor
        · intro h
          have hnever : ∀ header, headers.find? (fun header => !usedHeaders.contains header.key &&
              matchesExactly cfg aliases header) = some header →
                (!usedHeaders.contains header.key && properlyExact cfg aliases header) = true := by
            intro header hheader
            rw [hexact] at hheader
            cases hheader
          exact ⟨exact_harmless_iff.mp hnever, .inr h⟩
        · intro h
          rcases h.loose with ⟨header, hheader, hused, hfound⟩ | hloose
          · exact absurd hfound (hnone header hheader hused)
          · exact hloose
      · intro h
        have hstrong := find?_eq_of_strong loose_of_properlyLoose (hproper.mp h)
        have hfirst : headers.find? (fun header => !usedHeaders.contains header.key &&
            properlyExact cfg aliases header) = none := by
          refine List.find?_eq_none.mpr fun header hheader hpass => ?_
          obtain ⟨hused, hproper⟩ := unused_and_iff.mp hpass
          exact hnone header hheader hused hproper
        rw [hcode, findProper, findBy, hfirst, hstrong]
        rfl

/-! ## The searches of a suggestion -/

section Runs

variable {κ : Type} {texts : κ → List String} {find other : Search}

theorem pick_eq_some_iff {key : String} :
    pick find aliases usedHeaders = some key ↔
      ∃ header, find aliases usedHeaders = some header ∧ header.key ≠ "" ∧ header.key = key := by
  simp only [pick, Option.bind_eq_some_iff, truthy_eq_some_iff, Option.some.injEq]
  constructor
  · rintro ⟨header, hfind, hkey, hne⟩
    exact ⟨header, hfind, hkey.symm ▸ hne, hkey⟩
  · rintro ⟨header, hfind, hne, hkey⟩
    exact ⟨header, hfind, hkey, hkey ▸ hne⟩

/-- A search looks for the texts of one of its targets. -/
theorem texts_of_search {targets : List κ} {search : List String × List String}
    (h : search ∈ searches find texts targets usedHeaders) :
    ∃ target ∈ targets, texts target = search.1 := by
  induction targets generalizing usedHeaders with
  | nil => cases h
  | cons target targets ih =>
      rw [searches] at h
      rcases List.mem_cons.mp h with rfl | h
      · exact ⟨target, List.mem_cons_self, rfl⟩
      · obtain ⟨found, hmem, htexts⟩ := ih h
        exact ⟨found, List.mem_cons_of_mem _ hmem, htexts⟩

/-- What a search maps stems from one of its targets. -/
theorem exists_search {targets : List κ} {p : κ × String}
    (h : p ∈ pickFrom find texts targets usedHeaders) :
    p.1 ∈ targets ∧ ∃ used, (texts p.1, used) ∈ searches find texts targets usedHeaders ∧
      ∃ header, find (texts p.1) used = some header ∧ header.key ≠ "" ∧ header.key = p.2 := by
  induction targets generalizing usedHeaders with
  | nil => cases h
  | cons target targets ih =>
      rw [pickFrom] at h
      rw [searches]
      cases hpick : pick find (texts target) usedHeaders with
      | none =>
          rw [hpick] at h
          obtain ⟨hmem, used, hsearch, hfound⟩ := ih h
          exact ⟨List.mem_cons_of_mem _ hmem, used, List.mem_cons_of_mem _ hsearch, hfound⟩
      | some key =>
          rw [hpick] at h
          rcases List.mem_cons.mp h with rfl | h
          · exact ⟨List.mem_cons_self, usedHeaders, List.mem_cons_self, pick_eq_some_iff.mp hpick⟩
          · obtain ⟨hmem, used, hsearch, hfound⟩ := ih h
            exact ⟨List.mem_cons_of_mem _ hmem, used, List.mem_cons_of_mem _ hsearch, hfound⟩

/-- A header with a key that a search finds is mapped to the target of the search. -/
theorem mem_pickFrom_of_search {targets : List κ} {search : List String × List String}
    (h : search ∈ searches find texts targets usedHeaders) {header : ImportHeader}
    (hfind : find search.1 search.2 = some header) (hkey : header.key ≠ "") :
    ∃ target, texts target = search.1 ∧
      (target, header.key) ∈ pickFrom find texts targets usedHeaders := by
  induction targets generalizing usedHeaders with
  | nil => cases h
  | cons target targets ih =>
      rw [searches] at h
      rw [pickFrom]
      rcases List.mem_cons.mp h with rfl | h
      · have hpick : pick find (texts target) usedHeaders = some header.key :=
          pick_eq_some_iff.mpr ⟨header, hfind, hkey, rfl⟩
        rw [hpick]
        exact ⟨target, rfl, List.mem_cons_self⟩
      · cases hpick : pick find (texts target) usedHeaders with
        | none =>
            rw [hpick] at h
            exact ih h
        | some key =>
            rw [hpick] at h
            obtain ⟨found, htexts, hmem⟩ := ih h
            exact ⟨found, htexts, List.mem_cons_of_mem _ hmem⟩

/-- A header is mapped once, and only if it was unused. -/
theorem pickFrom_values (hunused : ∀ aliases used header, find aliases used = some header →
      header.key ∉ used) (targets : List κ) (usedHeaders : List String) :
    ((pickFrom find texts targets usedHeaders).map (·.2) ++ usedHeaders).Nodup ↔
      usedHeaders.Nodup := by
  induction targets generalizing usedHeaders with
  | nil => exact Iff.rfl
  | cons target targets ih =>
      rw [pickFrom]
      cases hpick : pick find (texts target) usedHeaders with
      | none => exact ih usedHeaders
      | some key =>
          obtain ⟨header, hfind, -, rfl⟩ := pick_eq_some_iff.mp hpick
          have hnew := hunused _ _ _ hfind
          dsimp only
          rw [List.map_cons, List.cons_append, ← List.nodup_middle, ih, List.nodup_cons]
          exact and_iff_right hnew

/-- Two searches that agree wherever the first is good make the same good searches. -/
theorem searches_agree {Good : List String → List String → Prop}
    (hsame : ∀ aliases used, Good aliases used → find aliases used = other aliases used)
    (targets : List κ) (usedHeaders : List String) :
    ((∀ search ∈ searches find texts targets usedHeaders, Good search.1 search.2) ↔
        ∀ search ∈ searches other texts targets usedHeaders, Good search.1 search.2) ∧
      ((∀ search ∈ searches find texts targets usedHeaders, Good search.1 search.2) →
        pickFrom find texts targets usedHeaders = pickFrom other texts targets usedHeaders) := by
  induction targets generalizing usedHeaders with
  | nil => exact ⟨Iff.rfl, fun _ => rfl⟩
  | cons target targets ih =>
      simp only [searches, List.forall_mem_cons, pickFrom]
      by_cases hgood : Good (texts target) usedHeaders
      · have hpick : pick find (texts target) usedHeaders = pick other (texts target) usedHeaders := by
          rw [pick, pick, hsame _ _ hgood]
        rw [hpick]
        cases pick other (texts target) usedHeaders with
        | none =>
            obtain ⟨hiff, heq⟩ := ih usedHeaders
            exact ⟨and_congr_right fun _ => hiff, fun h => heq h.2⟩
        | some key =>
            obtain ⟨hiff, heq⟩ := ih (key :: usedHeaders)
            exact ⟨and_congr_right fun _ => hiff, fun h => congrArg _ (heq h.2)⟩
      · exact ⟨iff_of_false (fun h => hgood h.1) fun h => hgood h.1, fun h => absurd h.1 hgood⟩

end Runs

end ImportsService

end CreativeBackend
