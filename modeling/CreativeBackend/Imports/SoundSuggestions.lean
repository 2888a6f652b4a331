import CreativeBackend.Imports.Matches

/-!
# Sound suggestions

A suggestion maps no header twice and only headers of the file. It compares no empty text if and only
if every search, made with proper matches only, is harmless.
-/

namespace CreativeBackend

namespace ImportsService

variable (cfg : Config) (headers : List ImportHeader) (rows : List ParsedImportRow)
  (registrationFields : List RegistrationField)

/-- A target of a mapping: a field of every registration or the key of a field of the event. -/
def ImportMapping.Assigns (mapping : ImportMapping) : SystemField ⊕ String → String → Prop
  | .inl field, key => mapping.system field = some key
  | .inr name, key => (name, key) ∈ mapping.customFields

/-- Some header of the key matches the texts, and neither compared text is empty. -/
def ComparedTo (aliases : List String) (key : String) : Prop :=
  ∃ header ∈ headers, header.key = key ∧ ProperMatch cfg aliases header

/-- The rule of sequential identifiers gives the header for the external id. -/
def SequentialRule (key : String) : Prop :=
  findSequentialIdentifierHeader cfg headers rows
    ((pickSystem (findHeaderFromHeaders cfg headers)).map (·.2)) = some key

/-- Why a header is mapped to a target. -/
def Explained : SystemField ⊕ String → String → Prop
  | .inl field, key => ComparedTo cfg headers field.aliases key ∨
      field = .externalId ∧ SequentialRule cfg headers rows key
  | .inr name, key => ∃ field ∈ registrationFields, trim field.key = name ∧
      ComparedTo cfg headers (fieldTexts field) key

/-- No header is mapped twice, only headers are mapped, and every one for a reason. An assignment
that a later field of the same key replaces compared no empty text either. -/
structure SoundSuggestion : Prop where
  once : ∀ target other key,
    (suggestMapping cfg headers rows registrationFields).Assigns target key →
      (suggestMapping cfg headers rows registrationFields).Assigns other key → target = other
  existing : ∀ target key,
    (suggestMapping cfg headers rows registrationFields).Assigns target key →
      ∃ header ∈ headers, header.key = key
  explained : ∀ target key,
    (suggestMapping cfg headers rows registrationFields).Assigns target key →
      Explained cfg headers rows registrationFields target key
  system : ∀ p ∈ pickSystem (findHeaderFromHeaders cfg headers),
    ComparedTo cfg headers p.1.aliases p.2
  custom : ∀ p ∈ pickCustom cfg (findHeaderFromHeaders cfg headers) headers rows registrationFields,
    ComparedTo cfg headers (fieldTexts p.1) p.2

/-- The searches of a suggestion: the texts and the headers that are used by then. -/
def suggestionSearches (find : Search) : List (List String × List String) :=
  searches find SystemField.aliases SystemField.all [] ++
    searches find fieldTexts registrationFields ((systemHeaders cfg find headers rows).map (·.2))

/-- The headers of a parsed file have distinct keys without surrounding white space. -/
structure WellKeyed : Prop where
  distinct : (headers.map (·.key)).Nodup
  named : ∀ header ∈ headers, header.key ≠ "" ∧ trim header.key = header.key

variable {cfg headers rows registrationFields} {aliases usedHeaders : List String}
  {header : ImportHeader}

/-! ## What a search returns -/

theorem mem_of_find (h : findHeaderFromHeaders cfg headers aliases usedHeaders = some header) :
    header ∈ headers ∧ header.key ∉ usedHeaders := by
  rw [findHeaderFromHeaders, findBy] at h
  rcases Option.or_eq_some_iff.mp (Option.orElse_eq_or.symm.trans h) with hexact | ⟨-, hloose⟩
  · exact ⟨List.mem_of_find?_eq_some hexact, (unused_and_iff.mp (List.find?_some hexact :)).1⟩
  · exact ⟨List.mem_of_find?_eq_some hloose, (unused_and_iff.mp (List.find?_some hloose :)).1⟩

theorem betterColumn_cases (best : Option String × Score) (header : ImportHeader) :
    betterColumn cfg rows usedHeaders best header = best ∨
      header.key ∉ usedHeaders ∧
        (betterColumn cfg rows usedHeaders best header).1 = some header.key := by
  rw [betterColumn]
  split
  · exact .inl rfl
  · next hused =>
      rw [List.contains_iff_mem] at hused
      split
      · exact .inl rfl
      · split
        · exact .inr ⟨hused, rfl⟩
        · exact .inl rfl

/-- The column of sequential identifiers is an unused header. -/
theorem mem_of_sequential {key : String}
    (h : findSequentialIdentifierHeader cfg headers rows usedHeaders = some key) :
    (∃ header ∈ headers, header.key = key) ∧ key ∉ usedHeaders := by
  have hbest : ∀ best : Option String × Score,
      (headers.foldl (betterColumn cfg rows usedHeaders) best).1 = best.1 ∨
        ∃ header ∈ headers, header.key ∉ usedHeaders ∧
          (headers.foldl (betterColumn cfg rows usedHeaders) best).1 = some header.key := by
    clear h
    induction headers with
    | nil => exact fun best => .inl rfl
    | cons first headers ih =>
        intro best
        rw [List.foldl_cons]
        rcases ih (betterColumn cfg rows usedHeaders best first) with hsame | ⟨header, hmem, hfound⟩
        · rw [hsame]
          have hcases : betterColumn cfg rows usedHeaders best first = best ∨ _ :=
            betterColumn_cases best first
          rcases hcases with heq | hfirst
          · exact .inl (congrArg Prod.fst heq)
          · exact .inr ⟨first, List.mem_cons_self, hfirst⟩
        · exact .inr ⟨header, List.mem_cons_of_mem _ hmem, hfound⟩
  rcases hbest (none, ⟨0, 1⟩) with hnone | ⟨header, hmem, hused, hfound⟩
  · cases hnone.symm.trans h
  · obtain rfl := Option.some.inj (hfound.symm.trans h)
    exact ⟨⟨header, hmem, rfl⟩, hused⟩

/-! ## No header is mapped twice -/

theorem not_mem_of_find (aliases used : List String) (header : ImportHeader)
    (h : findHeaderFromHeaders cfg headers aliases used = some header) : header.key ∉ used :=
  (mem_of_find h).2

theorem sequentialHeader_eq_some {picked : List (SystemField × String)} {key : String}
    (h : sequentialHeader cfg headers rows picked = some key) :
    picked.lookup .externalId = none ∧
      findSequentialIdentifierHeader cfg headers rows (picked.map (·.2)) = some key := by
  rw [sequentialHeader] at h
  split at h
  · cases h
  · next hlookup => exact ⟨Option.not_isSome_iff_eq_none.mp hlookup, (truthy_eq_some_iff.mp h).1⟩

theorem mem_systemHeaders {p : SystemField × String} :
    p ∈ systemHeaders cfg (findHeaderFromHeaders cfg headers) headers rows ↔
      (p.1 = .externalId ∧ sequentialHeader cfg headers rows
        (pickSystem (findHeaderFromHeaders cfg headers)) = some p.2) ∨
        p ∈ pickSystem (findHeaderFromHeaders cfg headers) := by
  rw [systemHeaders, List.mem_append, Option.mem_toList, Option.map_eq_some_iff]
  refine or_congr_left ?_
  constructor
  · rintro ⟨key, hkey, rfl⟩
    exact ⟨rfl, hkey⟩
  · rintro ⟨hfield, hkey⟩
    exact ⟨p.2, hkey, Prod.ext hfield.symm rfl⟩

/-- The headers that are mapped are distinct. -/
theorem nodup_values :
    ((pickCustom cfg (findHeaderFromHeaders cfg headers) headers rows registrationFields).map (·.2) ++
      (systemHeaders cfg (findHeaderFromHeaders cfg headers) headers rows).map (·.2)).Nodup := by
  have hpicked : ((pickSystem (findHeaderFromHeaders cfg headers)).map (·.2)).Nodup := by
    have hvalues : ((pickSystem (findHeaderFromHeaders cfg headers)).map Prod.snd ++ []).Nodup :=
      (pickFrom_values not_mem_of_find SystemField.all []).mpr List.nodup_nil
    rwa [List.append_nil] at hvalues
  refine (pickFrom_values not_mem_of_find _ _).mpr ?_
  rw [systemHeaders, List.map_append]
  cases hsequential : sequentialHeader cfg headers rows
      (pickSystem (findHeaderFromHeaders cfg headers)) with
  | none => exact hpicked
  | some key =>
      have hunused := (mem_of_sequential (sequentialHeader_eq_some hsequential).2).2
      exact List.nodup_cons.mpr ⟨hunused, hpicked⟩

/-- Every header that is mapped stems from the file. -/
theorem mem_headers_of_picked {κ : Type} {texts : κ → List String} {targets : List κ}
    {p : κ × String}
    (h : p ∈ pickFrom (findHeaderFromHeaders cfg headers) texts targets usedHeaders) :
    ∃ header ∈ headers, header.key = p.2 := by
  obtain ⟨-, used, -, header, hfind, -, hkey⟩ := exists_search h
  exact ⟨header, (mem_of_find hfind).1, hkey⟩

theorem mem_headers_of_system {p : SystemField × String}
    (h : p ∈ systemHeaders cfg (findHeaderFromHeaders cfg headers) headers rows) :
    ∃ header ∈ headers, header.key = p.2 := by
  rcases mem_systemHeaders.mp h with ⟨-, hsequential⟩ | hpicked
  · exact (mem_of_sequential (sequentialHeader_eq_some hsequential).2).1
  · exact mem_headers_of_picked hpicked

/-! ## What is normalised -/

theorem normalizeValue_str {key : String} (hne : key ≠ "") (htrim : trim key = key) :
    normalizeValue (some (.str key)) = some key := by
  rw [normalizeValue, htrim]
  exact truthy_eq_some_iff.mpr ⟨rfl, hne⟩

theorem mem_of_lookup {α β : Type} [BEq α] [LawfulBEq α] {l : List (α × β)} {a : α} {b : β}
    (h : l.lookup a = some b) : (a, b) ∈ l := by
  obtain ⟨before, after, rfl, -⟩ := List.lookup_eq_some_iff.mp h
  exact List.mem_append_right _ List.mem_cons_self

theorem mem_defineProperty {α : Type} {data : List (String × α)} {key : String} {value : α}
    {p : String × α} (h : p ∈ defineProperty data key value) : p ∈ data ∨ p = (key, value) := by
  rw [defineProperty] at h
  split at h
  · obtain ⟨f, hf, rfl⟩ := List.mem_map.mp h
    split
    · exact .inr rfl
    · exact .inl hf
  · rcases List.mem_append.mp h with hmem | hnew
    · exact .inl hmem
    · exact .inr (List.mem_singleton.mp hnew)

theorem mem_setProperty {α : Type} {data : List (String × α)} {key : String} {value : α}
    {p : String × α} (h : p ∈ setProperty data key value) : p ∈ data ∨ p = (key, value) := by
  rw [setProperty] at h
  split at h
  · exact .inl h
  · exact mem_defineProperty h

/-- What a loop that adds one entry after the other holds. -/
theorem mem_foldl_of_step {α β : Type} {add : List β → α → List β} {entry : α → β}
    (hstep : ∀ data a p, p ∈ add data a → p ∈ data ∨ p = entry a) {l : List α} {data : List β}
    {p : β} (h : p ∈ l.foldl add data) : p ∈ data ∨ ∃ a ∈ l, p = entry a := by
  induction l generalizing data with
  | nil => exact .inl h
  | cons a l ih =>
      rcases ih h with hdata | ⟨b, hb, heq⟩
      · rcases hstep data a p hdata with hold | hnew
        · exact .inl hold
        · exact .inr ⟨a, List.mem_cons_self, hnew⟩
      · exact .inr ⟨b, List.mem_cons_of_mem _ hb, heq⟩

theorem mem_fromEntries {α : Type} {entries : List (String × α)} {p : String × α}
    (h : p ∈ fromEntries entries) : p ∈ entries := by
  have hstep : ∀ (data : List (String × α)) (entry p : String × α),
      p ∈ defineProperty data entry.1 entry.2 → p ∈ data ∨ p = entry := by
    intro data entry p hp
    exact mem_defineProperty hp
  rcases mem_foldl_of_step hstep h with hnone | ⟨entry, hentry, heq⟩
  · cases hnone
  · rw [heq]
    exact hentry

/-- What is mapped to a target: the header of a field. -/
theorem assigns_cases (h : WellKeyed headers) {target : SystemField ⊕ String} {key : String}
    (hassigns : (suggestMapping cfg headers rows registrationFields).Assigns target key) :
    (∃ field, target = .inl field ∧
        (field, key) ∈ systemHeaders cfg (findHeaderFromHeaders cfg headers) headers rows) ∨
      ∃ field, target = .inr (trim field.key) ∧
        (field, key) ∈
          pickCustom cfg (findHeaderFromHeaders cfg headers) headers rows registrationFields := by
  cases target with
  | inl field =>
      refine .inl ⟨field, rfl, ?_⟩
      have hvalue : normalizeValue (((systemHeaders cfg (findHeaderFromHeaders cfg headers) headers
          rows).lookup field).map .str) = some key := hassigns
      cases hlookup : (systemHeaders cfg (findHeaderFromHeaders cfg headers) headers rows).lookup
          field with
      | none =>
          rw [hlookup] at hvalue
          cases hvalue
      | some found =>
          have hmem := mem_of_lookup hlookup
          obtain ⟨header, hheader, rfl⟩ := mem_headers_of_system hmem
          obtain ⟨hne, htrim⟩ := h.named header hheader
          rw [hlookup, Option.map_some, normalizeValue_str hne htrim] at hvalue
          obtain rfl := Option.some.inj hvalue
          exact hmem
  | inr name =>
      have hentry := mem_fromEntries (show (name, key) ∈ fromEntries _ from hassigns)
      obtain ⟨entry, hmem, hkept⟩ := List.mem_filterMap.mp hentry
      have hvalue : ∃ value, normalizeValue (some entry.2) = some value ∧
          (trim entry.1, value) = (name, key) := by
        split at hkept
        · cases hkept
        · exact Option.map_eq_some_iff.mp hkept
      obtain ⟨value, hnormal, heq⟩ := hvalue
      have hstep : ∀ (data : List (String × Json)) (p : RegistrationField × String) entry,
          entry ∈ setProperty data p.1.key (.str p.2) → entry ∈ data ∨
            entry = (p.1.key, .str p.2) := by
        intro data p entry hentry
        exact mem_setProperty hentry
      rcases mem_foldl_of_step hstep hmem with hnone | ⟨p, hp, rfl⟩
      · cases hnone
      · obtain ⟨header, hheader, hkey⟩ := mem_headers_of_picked hp
        obtain ⟨hne, htrim⟩ := h.named header hheader
        rw [hkey] at hne htrim
        rw [normalizeValue_str hne htrim] at hnormal
        obtain rfl := Option.some.inj hnormal
        obtain ⟨rfl, rfl⟩ := Prod.mk.inj heq
        exact .inr ⟨p.1, rfl, hp⟩

/-- No header is mapped to two targets. -/
theorem assigns_once (h : WellKeyed headers) {target other : SystemField ⊕ String} {key : String}
    (htarget : (suggestMapping cfg headers rows registrationFields).Assigns target key)
    (hother : (suggestMapping cfg headers rows registrationFields).Assigns other key) :
    target = other := by
  have hvalues : ((pickCustom cfg (findHeaderFromHeaders cfg headers) headers rows
      registrationFields).map (·.2) ++ (systemHeaders cfg (findHeaderFromHeaders cfg headers)
        headers rows).map (·.2)).Nodup := nodup_values
  obtain ⟨hcustom, hsystem, hdisjoint⟩ := List.nodup_append.mp hvalues
  rcases assigns_cases h htarget with ⟨field, rfl, hfield⟩ | ⟨field, rfl, hfield⟩ <;>
    rcases assigns_cases h hother with ⟨second, rfl, hsecond⟩ | ⟨second, rfl, hsecond⟩
  · have hsame := List.inj_on_of_nodup_map hsystem hfield hsecond rfl
    rw [(Prod.mk.inj hsame).1]
  · exact absurd rfl (hdisjoint key (List.mem_map_of_mem hsecond) key (List.mem_map_of_mem hfield))
  · exact absurd rfl (hdisjoint key (List.mem_map_of_mem hfield) key (List.mem_map_of_mem hsecond))
  · have hsame := List.inj_on_of_nodup_map hcustom hfield hsecond rfl
    rw [(Prod.mk.inj hsame).1]

/-- Only headers of the file are mapped. -/
theorem assigns_existing (h : WellKeyed headers) {target : SystemField ⊕ String} {key : String}
    (hassigns : (suggestMapping cfg headers rows registrationFields).Assigns target key) :
    ∃ header ∈ headers, header.key = key := by
  rcases assigns_cases h hassigns with ⟨field, -, hfield⟩ | ⟨field, -, hfield⟩
  · exact mem_headers_of_system hfield
  · exact mem_headers_of_picked hfield

/-! ## Sound suggestions -/

/-- The searches for some targets find properly if and only if every header that is mapped matches
its texts. -/
theorem findsProperly_iff_compared (h : WellKeyed headers) {κ : Type} {texts : κ → List String}
    {targets : List κ} :
    (∀ search ∈ searches (findHeaderFromHeaders cfg headers) texts targets usedHeaders,
        FindsProperly cfg headers search.1 search.2) ↔
      ∀ p ∈ pickFrom (findHeaderFromHeaders cfg headers) texts targets usedHeaders,
        ComparedTo cfg headers (texts p.1) p.2 := by
  constructor
  · intro hgood p hp
    obtain ⟨-, used, hsearch, header, hfind, -, hkey⟩ := exists_search hp
    exact ⟨header, (mem_of_find hfind).1, hkey, hgood _ hsearch header hfind⟩
  · intro hcompared search hsearch header hfind
    have hmem := (mem_of_find hfind).1
    obtain ⟨target, htexts, hpicked⟩ :=
      mem_pickFrom_of_search hsearch hfind (h.named header hmem).1
    obtain ⟨found, hfound, hkey, hmatch⟩ := hcompared _ hpicked
    obtain rfl := List.inj_on_of_nodup_map h.distinct hfound hmem hkey
    rw [← htexts]
    exact hmatch

/-- The searches of a suggestion find properly if and only if the searches with proper matches are
harmless. -/
theorem findsProperly_iff_harmless :
    (∀ search ∈ suggestionSearches cfg headers rows registrationFields
        (findHeaderFromHeaders cfg headers), FindsProperly cfg headers search.1 search.2) ↔
      ∀ search ∈ suggestionSearches cfg headers rows registrationFields (findProper cfg headers),
        Harmless cfg headers search.1 search.2 := by
  have hsame : ∀ aliases used, FindsProperly cfg headers aliases used →
      findHeaderFromHeaders cfg headers aliases used = findProper cfg headers aliases used :=
    fun _ _ => findsProperly_iff.2
  have hharmless : ∀ find : Search,
      (∀ search ∈ suggestionSearches cfg headers rows registrationFields find,
        FindsProperly cfg headers search.1 search.2) ↔
      ∀ search ∈ suggestionSearches cfg headers rows registrationFields find,
        Harmless cfg headers search.1 search.2 :=
    fun _ => forall₂_congr fun _ _ => findsProperly_iff.1
  rw [← hharmless]
  simp only [suggestionSearches, List.forall_mem_append]
  have hsearches : _ ∧ (_ → pickFrom _ SystemField.aliases _ _ = _) :=
    searches_agree hsame SystemField.all []
  obtain ⟨hsystem, hpicked⟩ := hsearches
  rw [← hsystem]
  refine and_congr_right fun hproper => ?_
  -- the same headers are used when the fields of the event are searched
  have hheaders : systemHeaders cfg (findHeaderFromHeaders cfg headers) headers rows =
      systemHeaders cfg (findProper cfg headers) headers rows := by
    rw [systemHeaders, systemHeaders, pickSystem, pickSystem, hpicked hproper]
  rw [← hheaders]
  exact (searches_agree hsame _ _).1

/-- Nothing is compared with an empty text where there is none. -/
theorem harmless_of_nonempty (hlabels : ∀ header ∈ headers, normalizeHeader cfg header.label ≠ "")
    (haliases : "" ∉ normalizedAliases cfg aliases) :
    Harmless cfg headers aliases usedHeaders where
  exact _ _ _ _ _ _ hempty := absurd hempty haliases
  loose := by
    refine .inr fun before header after hsplit _ hempty => ?_
    rcases hempty with hempty | ⟨hlabel, -⟩
    · exact absurd hempty haliases
    · have hmem : header ∈ headers := by
        rw [hsplit]
        exact List.mem_append_right _ List.mem_cons_self
      exact absurd hlabel (hlabels header hmem)

end ImportsService

open ImportsService

/-- A reader that knows the letters of Latin and Arabic texts. -/
def bilingual : ImportsService.Config :=
  { importing [] with
    isLetterOrNumber := fun c => c.isAlphanum || decide (1568 ≤ c.toNat ∧ c.toNat ≤ 1610) }

def headerOf (index : Nat) (label : String) : ImportHeader :=
  { key := label, label, columnIndex := index, columnLetter := Nat.repr index, sampleValues := [] }

end CreativeBackend
