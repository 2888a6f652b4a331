import CreativeBackend.Tickets.Services

/-!
# The backgrounds of a template

A template names its background image in two columns, which an update changes independently. An
update that brings an image and drops an old one deletes the files of both old columns.

## Implementation notes

Which file a stored path names is up to the file system; `fileOf` stands for it, and the results
hold for every reading. The paths that `update` passes to `safeDeleteUploadFile` are
`replacedBackgrounds`, of the row that it found.
-/

namespace CreativeBackend.Tickets.DigitalTicketTemplatesService

open Interaction

variable {φ : Type} (fileOf : String → φ)

/-- The background paths of a template. -/
def backgrounds (columns : TemplateColumns) : List String :=
  uniquePaths [columns.backgroundImageUrl, columns.backgroundImagePath]

/-- The background paths that the body names. -/
def given (dto : UpsertDigitalTicketTemplateDto) : List String :=
  uniquePaths [dto.backgroundImageUrl, dto.backgroundImagePath]

/-- The deleted files are the old ones that the new columns no longer name. -/
structure KeepsReferenced (old new : TemplateColumns) (deleted : List String) : Prop where
  unreferenced : ∀ path ∈ deleted, ∀ kept ∈ backgrounds new, fileOf path ≠ fileOf kept
  complete : ∀ path ∈ backgrounds old, (∀ kept ∈ backgrounds new, fileOf path ≠ fileOf kept) →
    ∃ d ∈ deleted, fileOf d = fileOf path

theorem mem_uniquePaths {a b : Option String} {path : String} :
    path ∈ uniquePaths [a, b] ↔ truthy a = some path ∨ truthy b = some path := by
  simp [uniquePaths, List.mem_eraseDups, List.mem_filterMap]

/-- A column that the body leaves out is empty. -/
def NoneLeft (old : TemplateColumns) (dto : UpsertDigitalTicketTemplateDto) : Prop :=
  (dto.backgroundImageUrl = none → truthy old.backgroundImageUrl = none) ∧
    (dto.backgroundImagePath = none → truthy old.backgroundImagePath = none)

/-- The file of a column that the body empties is named by the other column, which it leaves. -/
def Spared (old : TemplateColumns) (dto : UpsertDigitalTicketTemplateDto) : Prop :=
  (dto.backgroundImageUrl.isSome = true → ∀ path, truthy old.backgroundImageUrl = some path →
      dto.backgroundImagePath = none ∧
        ∃ kept, truthy old.backgroundImagePath = some kept ∧ fileOf path = fileOf kept) ∧
    (dto.backgroundImagePath.isSome = true → ∀ path, truthy old.backgroundImagePath = some path →
      dto.backgroundImageUrl = none ∧
        ∃ kept, truthy old.backgroundImageUrl = some kept ∧ fileOf path = fileOf kept)

/-- The bodies on which an update deletes what it should: the body names no image and empties no
column whose file it drops, or it names every old path, or it names other files only and leaves no
column with a path as it is. -/
def Replaces (old : TemplateColumns) (dto : UpsertDigitalTicketTemplateDto) : Prop :=
  (given dto = [] ∧ Spared fileOf old dto) ∨
    (given dto ≠ [] ∧
      ((∀ path ∈ backgrounds old, path ∈ given dto) ∨
        (NoneLeft old dto ∧
          ∀ path ∈ backgrounds old, ∀ new ∈ given dto, fileOf path ≠ fileOf new)))

variable {fileOf} {old new : TemplateColumns} {dto : UpsertDigitalTicketTemplateDto}
  {existing : TicketTemplate}

/-! ## What an update makes of the columns -/

/-- The new columns have the paths of the body, and the old ones where it has none. -/
structure Takes (old : TemplateColumns) (dto : UpsertDigitalTicketTemplateDto)
    (new : TemplateColumns) : Prop where
  url : new.backgroundImageUrl = dto.backgroundImageUrl.or old.backgroundImageUrl
  path : new.backgroundImagePath = dto.backgroundImagePath.or old.backgroundImagePath

theorem truthy_or_eq_some_iff {a b : Option String} {path : String} :
    truthy (a.or b) = some path ↔ truthy a = some path ∨ (a = none ∧ truthy b = some path) := by
  cases a <;> simp

theorem Takes.mem_backgrounds (h : Takes old dto new) {path : String} :
    path ∈ backgrounds new ↔ path ∈ given dto ∨
      (dto.backgroundImageUrl = none ∧ truthy old.backgroundImageUrl = some path) ∨
      (dto.backgroundImagePath = none ∧ truthy old.backgroundImagePath = some path) := by
  rw [backgrounds, given, mem_uniquePaths, mem_uniquePaths, h.url, h.path, truthy_or_eq_some_iff,
    truthy_or_eq_some_iff]
  tauto

theorem given_eq_nil_iff :
    given dto = [] ↔
      truthy dto.backgroundImageUrl = none ∧ truthy dto.backgroundImagePath = none := by
  rw [List.eq_nil_iff_forall_not_mem]
  simp only [given, mem_uniquePaths, not_or, Option.eq_none_iff_forall_ne_some]
  exact forall_and

/-- A path that is not empty is named by the body if one of its properties is that path. -/
theorem mem_given_iff {path : String} (h : path ≠ "") :
    path ∈ given dto ↔
      some path = dto.backgroundImageUrl ∨ some path = dto.backgroundImagePath := by
  simp only [given, mem_uniquePaths, truthy_eq_some_iff, h, ne_eq, not_false_eq_true, and_true,
    eq_comm]

theorem ne_empty_of_mem_backgrounds {path : String} (h : path ∈ backgrounds old) : path ≠ "" := by
  rw [backgrounds, mem_uniquePaths, truthy_eq_some_iff, truthy_eq_some_iff] at h
  exact h.elim (·.2) (·.2)

theorem drops_iff :
    ((backgrounds old).any fun path =>
      some path ≠ dto.backgroundImageUrl ∧ some path ≠ dto.backgroundImagePath) = true ↔
      ¬ ∀ path ∈ backgrounds old, path ∈ given dto := by
  rw [List.any_eq_true]
  push Not
  refine exists_congr fun path => and_congr_right fun hpath => ?_
  rw [decide_eq_true_iff, mem_given_iff (ne_empty_of_mem_backgrounds hpath), not_or]

theorem names_iff :
    ((truthy dto.backgroundImageUrl).isSome || (truthy dto.backgroundImagePath).isSome) = true ↔
      given dto ≠ [] := by
  rw [ne_eq, given_eq_nil_iff, Bool.or_eq_true, Option.isSome_iff_ne_none,
    Option.isSome_iff_ne_none]
  tauto

theorem replacedBackgrounds_of_dropped (hgiven : given dto ≠ [])
    (hdrops : ¬ ∀ path ∈ backgrounds existing.columns, path ∈ given dto) :
    replacedBackgrounds existing dto = backgrounds existing.columns := by
  unfold replacedBackgrounds
  exact if_pos (Bool.and_eq_true_iff.mpr ⟨names_iff.mpr hgiven, drops_iff.mpr hdrops⟩)

theorem replacedBackgrounds_of_kept
    (h : given dto = [] ∨ ∀ path ∈ backgrounds existing.columns, path ∈ given dto) :
    replacedBackgrounds existing dto = [] := by
  unfold replacedBackgrounds
  refine if_neg fun hcond => ?_
  obtain ⟨hnames, hdrops⟩ := Bool.and_eq_true_iff.mp hcond
  exact h.elim (names_iff.mp hnames) (drops_iff.mp hdrops)

/-! ## When the right files are deleted -/

/-- Where nothing is deleted, every old file must still be named. -/
theorem keepsReferenced_nil_iff :
    KeepsReferenced fileOf old new [] ↔
      ∀ path ∈ backgrounds old, ∃ kept ∈ backgrounds new, fileOf path = fileOf kept := by
  constructor
  · intro h path hpath
    by_contra hnone
    push Not at hnone
    obtain ⟨d, hd, -⟩ := h.complete path hpath hnone
    exact List.not_mem_nil hd
  · intro h
    refine ⟨fun path hpath => absurd hpath List.not_mem_nil, fun path hpath hnone => ?_⟩
    obtain ⟨kept, hkept, heq⟩ := h path hpath
    exact absurd heq (hnone kept hkept)

/-- Without an image in the body, the columns that it empties must not have dropped a file. -/
theorem keepsReferenced_iff_spared (h : Takes old dto new) (hgiven : given dto = []) :
    KeepsReferenced fileOf old new [] ↔ Spared fileOf old dto := by
  have hnew : ∀ path, path ∈ backgrounds new ↔
      (dto.backgroundImageUrl = none ∧ truthy old.backgroundImageUrl = some path) ∨
        (dto.backgroundImagePath = none ∧ truthy old.backgroundImagePath = some path) := by
    intro path
    rw [h.mem_backgrounds, hgiven]
    simp only [List.not_mem_nil, false_or]
  rw [keepsReferenced_nil_iff]
  constructor
  · intro hnamed
    refine ⟨fun hsome path hpath => ?_, fun hsome path hpath => ?_⟩
    · obtain ⟨kept, hkept, heq⟩ := hnamed path (mem_uniquePaths.mpr (.inl hpath))
      rcases (hnew kept).mp hkept with ⟨hnone, -⟩ | ⟨hnone, hkept⟩
      · rw [hnone] at hsome
        cases hsome
      · exact ⟨hnone, kept, hkept, heq⟩
    · obtain ⟨kept, hkept, heq⟩ := hnamed path (mem_uniquePaths.mpr (.inr hpath))
      rcases (hnew kept).mp hkept with ⟨hnone, hkept⟩ | ⟨hnone, -⟩
      · exact ⟨hnone, kept, hkept, heq⟩
      · rw [hnone] at hsome
        cases hsome
  · rintro ⟨hurl, hpath⟩ path hmem
    rcases mem_uniquePaths.mp hmem with hold | hold
    · cases hdto : dto.backgroundImageUrl with
      | none => exact ⟨path, (hnew path).mpr (.inl ⟨hdto, hold⟩), rfl⟩
      | some value =>
          obtain ⟨hnone, kept, hkept, heq⟩ := hurl (by rw [hdto]; rfl) path hold
          exact ⟨kept, (hnew kept).mpr (.inr ⟨hnone, hkept⟩), heq⟩
    · cases hdto : dto.backgroundImagePath with
      | none => exact ⟨path, (hnew path).mpr (.inr ⟨hdto, hold⟩), rfl⟩
      | some value =>
          obtain ⟨hnone, kept, hkept, heq⟩ := hpath (by rw [hdto]; rfl) path hold
          exact ⟨kept, (hnew kept).mpr (.inl ⟨hnone, hkept⟩), heq⟩

/-- With every old path in the body, nothing is dropped. -/
theorem keepsReferenced_of_given (h : Takes old dto new)
    (hkept : ∀ path ∈ backgrounds old, path ∈ given dto) :
    KeepsReferenced fileOf old new [] where
  unreferenced _ hpath := absurd hpath List.not_mem_nil
  complete path hpath hnone :=
    absurd rfl (hnone path (h.mem_backgrounds.mpr (.inl (hkept path hpath))))

theorem keepsReferenced_iff_noneLeft (h : Takes old dto new) :
    KeepsReferenced fileOf old new (backgrounds old) ↔
      NoneLeft old dto ∧ ∀ path ∈ backgrounds old, ∀ new ∈ given dto, fileOf path ≠ fileOf new := by
  constructor
  · intro hkeeps
    refine ⟨⟨fun hurl => ?_, fun hpath => ?_⟩, fun path hpath new hnew => ?_⟩
    · refine Option.eq_none_iff_forall_ne_some.mpr fun path hp => ?_
      have hold : path ∈ backgrounds old := mem_uniquePaths.mpr (.inl hp)
      have hnew : path ∈ backgrounds new := h.mem_backgrounds.mpr (.inr (.inl ⟨hurl, hp⟩))
      exact hkeeps.unreferenced path hold path hnew rfl
    · refine Option.eq_none_iff_forall_ne_some.mpr fun path hp => ?_
      have hold : path ∈ backgrounds old := mem_uniquePaths.mpr (.inr hp)
      have hnew : path ∈ backgrounds new := h.mem_backgrounds.mpr (.inr (.inr ⟨hpath, hp⟩))
      exact hkeeps.unreferenced path hold path hnew rfl
    · exact hkeeps.unreferenced path hpath new (h.mem_backgrounds.mpr (.inl hnew))
  · rintro ⟨⟨hurl, hpath⟩, hapart⟩
    refine ⟨fun path hp kept hkept => ?_, fun path hp _ => ⟨path, hp, rfl⟩⟩
    rcases h.mem_backgrounds.mp hkept with hgiven | ⟨hnone, hsome⟩ | ⟨hnone, hsome⟩
    · exact hapart path hp kept hgiven
    · rw [hurl hnone] at hsome
      cases hsome
    · rw [hpath hnone] at hsome
      cases hsome

theorem keepsReferenced_iff_replaces (h : Takes existing.columns dto new) :
    KeepsReferenced fileOf existing.columns new (replacedBackgrounds existing dto) ↔
      Replaces fileOf existing.columns dto := by
  by_cases hgiven : given dto = []
  · rw [replacedBackgrounds_of_kept (.inl hgiven), keepsReferenced_iff_spared h hgiven, Replaces]
    simp only [hgiven, ne_eq, not_true, false_and, or_false, true_and]
  · by_cases hkept : ∀ path ∈ backgrounds existing.columns, path ∈ given dto
    · rw [replacedBackgrounds_of_kept (.inr hkept)]
      exact iff_of_true (keepsReferenced_of_given h hkept) (.inr ⟨hgiven, .inl hkept⟩)
    · rw [replacedBackgrounds_of_dropped hgiven hkept, keepsReferenced_iff_noneLeft h, Replaces]
      simp only [hgiven, hkept, ne_eq, not_false_eq_true, false_and, false_or, true_and]

/-! ## The update -/

variable {rt : Runtime} {ch : TicketChoice} {s s' : TicketStore} {eventId : Id}
  {attendeeTypeId : Option String} {updated : TicketTemplate}

/-- The call answers from the store and leaves it alone. -/
def Asks (rt : Runtime) (ch : TicketChoice) (c : TicketCall) : Prop :=
  ∀ s, (ticketMachine rt ch c s).2 = s

theorem asks_eventById (eventId : Id) : Asks rt ch (.base (.eventById eventId)) := fun _ => rfl

theorem asks_activeFieldKeys (eventId : Id) : Asks rt ch (.activeFieldKeys eventId) := fun _ => rfl

/-- A program that only asks leaves the store alone. -/
theorem eq_of_asks {α : Type} {p : TicketSvc α} (hp : p.All (Asks rt ch)) {x : Except Exn α}
    (h : p.run (ticketMachine rt ch) s = (x, s')) : s' = s := by
  have hkept : (p.run (ticketMachine rt ch) s).2 = s :=
    Prog.run_invariant _ (I := fun t => t = s) (fun c hc t ht => (hc t).trans ht) hp rfl
  rwa [h] at hkept

theorem asks_ensureEventExists (eventId : Id) :
    (ensureEventExists eventId).All (Asks rt ch) := by
  refine Prog.all_bind (Prog.all_call (asks_eventById eventId)) fun event => ?_
  cases event <;> trivial

theorem asks_ensureSelectedFieldsAreValid (eventId : Id) (selectedFields : Option Json) :
    (ensureSelectedFieldsAreValid eventId selectedFields).All (Asks rt ch) := by
  unfold ensureSelectedFieldsAreValid
  split
  · trivial
  · refine Prog.all_bind (Prog.all_bind (Prog.all_call (asks_eventById eventId)) fun event => ?_)
      fun keys => Prog.all_ite trivial trivial
    cases event with
    | none => trivial
    | some event =>
        exact Prog.all_bind (Prog.all_call (asks_activeFieldKeys eventId)) fun _ => trivial
  · trivial

/-- A template that is found is the one of the event and the scope. -/
theorem found_of_findByEventAndAttendeeType
    (h : (findByEventAndAttendeeType eventId attendeeTypeId).run (ticketMachine rt ch) s
      = (.ok updated, s')) :
    s' = s ∧ s.templateOfScope eventId (toAttendeeTypeScopeKey attendeeTypeId) = some updated := by
  obtain ⟨_, s₁, hevent, h₁⟩ := Prog.run_bind_eq_ok _ h
  have hs₁ : s₁ = s := eq_of_asks (asks_ensureEventExists eventId) hevent
  rw [hs₁] at h₁
  obtain ⟨template, s₂, hcall, h₂⟩ := Prog.run_bind_eq_ok _ h₁
  cases hcall
  cases htemplate : s.templateOfScope eventId (toAttendeeTypeScopeKey attendeeTypeId) with
  | none =>
      rw [htemplate] at h₂
      cases h₂
  | some template =>
      rw [htemplate] at h₂
      cases h₂
      exact ⟨rfl, rfl⟩

theorem takes_of_columnsOf {f : TemplateColumns → TemplateColumns} (h : columnsOf dto = .ok f)
    (old : TemplateColumns) : Takes old dto (f old) := by
  unfold columnsOf at h
  obtain ⟨widthPx, -, h⟩ := Except.exists_of_bind_eq_ok h
  obtain ⟨heightPx, -, h⟩ := Except.exists_of_bind_eq_ok h
  obtain ⟨theme, -, h⟩ := Except.exists_of_bind_eq_ok h
  obtain ⟨elements, -, h⟩ := Except.exists_of_bind_eq_ok h
  cases h
  exact ⟨rfl, rfl⟩

theorem columns_of_updateTemplate {scopeKey : String} {f : TemplateColumns → TemplateColumns}
    (hexisting : s.templateOfScope eventId scopeKey = some existing)
    (h : s.updateTemplate eventId scopeKey f = (.ok updated, s')) :
    updated.columns = f existing.columns := by
  unfold TicketStore.updateTemplate at h
  rw [hexisting] at h
  simp only at h
  split at h
  · cases h
    rfl
  · cases h
  · cases h

/-- An update that returns gave the template that it found the columns of the body. -/
theorem takes_of_update
    (hexisting : s.templateOfScope eventId (toAttendeeTypeScopeKey attendeeTypeId)
      = some existing)
    (h : (update eventId attendeeTypeId dto).run (ticketMachine rt ch) s = (.ok updated, s')) :
    Takes existing.columns dto updated.columns := by
  unfold update at h
  obtain ⟨_, s₁, hevent, h₁⟩ := Prog.run_bind_eq_ok _ h
  have hs₁ : s₁ = s := eq_of_asks (asks_ensureEventExists eventId) hevent
  rw [hs₁] at h₁
  split at h₁
  · cases h₁
  simp only at h₁
  split at h₁
  · cases h₁
  obtain ⟨_, s₂, hfields, h₂⟩ := Prog.run_bind_eq_ok _ h₁
  have hs₂ : s₂ = s := eq_of_asks (asks_ensureSelectedFieldsAreValid eventId _) hfields
  rw [hs₂] at h₂
  obtain ⟨found, s₃, hfound, h₃⟩ := Prog.run_bind_eq_ok _ h₂
  rw [(found_of_findByEventAndAttendeeType hfound).1] at h₃
  obtain ⟨f, s₄, hcolumns, h₄⟩ := Prog.run_bind_eq_ok _ h₃
  obtain ⟨hf, hs₄⟩ := Prog.run_ofExcept_eq_ok _ hcolumns
  rw [hs₄] at h₄
  obtain ⟨row, s₅, hupdate, h₅⟩ := Prog.run_bind_eq_ok _ h₄
  obtain ⟨_, s₆, -, h₆⟩ := Prog.run_bind_eq_ok _ h₅
  cases h₆
  have hscope : toAttendeeTypeScopeKey (toNullableAttendeeTypeId attendeeTypeId)
      = toAttendeeTypeScopeKey attendeeTypeId := by
    rw [toAttendeeTypeScopeKey, toNullableAttendeeTypeId_idem]
    rfl
  rw [ticketCall, Prog.run_call, hscope] at hupdate
  rw [columns_of_updateTemplate hexisting hupdate]
  exact takes_of_columnsOf hf existing.columns

/-- An update deletes exactly the old files that the row no longer names, if and only if its body
names no image, names every old path, or replaces every old file by others. -/
theorem update_keepsReferenced_iff {φ : Type} (fileOf : String → φ)
    (hexisting : s.templateOfScope eventId (toAttendeeTypeScopeKey attendeeTypeId)
      = some existing)
    (h : (update eventId attendeeTypeId dto).run (ticketMachine rt ch) s = (.ok updated, s')) :
    KeepsReferenced fileOf existing.columns updated.columns (replacedBackgrounds existing dto) ↔
      Replaces fileOf existing.columns dto :=
  keepsReferenced_iff_replaces (takes_of_update hexisting h)

/-! ## One column of two -/

/-- The template for the whole event names one file in both columns. -/
def sharedColumns : TemplateColumns where
  backgroundImageUrl := some "/uploads/digital-tickets/templates/bg.png"
  backgroundImagePath := some "/uploads/digital-tickets/templates/bg.png"

def sharedStore : TicketStore := { ticketStore with columns := fun _ => sharedColumns }

/-- The body has a new image in the first column. -/
def newUrl : UpsertDigitalTicketTemplateDto where
  backgroundImageUrl := some "/uploads/digital-tickets/templates/new.png"

def sharedTemplate : TicketTemplate := ⟨{ id := "c0", eventId := "c0" }, sharedColumns⟩

theorem sharedStore_template :
    sharedStore.templateOfScope "c0" (toAttendeeTypeScopeKey none) = some sharedTemplate := rfl

theorem exists_update_newUrl :
    ∃ updated s', (update "c0" none newUrl).run (ticketMachine sampleRuntime {}) sharedStore
      = (.ok updated, s') := by
  have hok : ((update "c0" none newUrl).run (ticketMachine sampleRuntime {})
      sharedStore).1.isOk = true := by decide +kernel
  cases hrun : (update "c0" none newUrl).run (ticketMachine sampleRuntime {}) sharedStore with
  | mk x s' =>
      rw [hrun] at hok
      cases x with
      | error e => cases hok
      | ok updated => exact ⟨updated, s', rfl⟩

theorem not_replaces_newUrl : ¬ Replaces id sharedColumns newUrl := by
  have hgiven : given newUrl ≠ [] := by decide
  have hdropped : ¬ ∀ path ∈ backgrounds sharedColumns, path ∈ given newUrl := by decide
  rintro (⟨hnone, -⟩ | ⟨-, hall | ⟨⟨-, hleft⟩, -⟩⟩)
  · exact hgiven hnone
  · exact hdropped hall
  · exact absurd (hleft rfl) (by decide)

/-- An update deletes a file that the other column still names. -/
theorem update_deletes_referenced :
    ¬ ∀ (rt : Runtime) (ch : TicketChoice) (s s' : TicketStore) (eventId : Id)
      (attendeeTypeId : Option String) (dto : UpsertDigitalTicketTemplateDto)
      (existing updated : TicketTemplate),
      s.templateOfScope eventId (toAttendeeTypeScopeKey attendeeTypeId) = some existing →
      (update eventId attendeeTypeId dto).run (ticketMachine rt ch) s = (.ok updated, s') →
      KeepsReferenced id existing.columns updated.columns (replacedBackgrounds existing dto) := by
  intro h
  obtain ⟨updated, s', hrun⟩ := exists_update_newUrl
  have htakes : Takes sharedColumns newUrl updated.columns :=
    takes_of_update sharedStore_template hrun
  exact not_replaces_newUrl ((keepsReferenced_iff_replaces htakes).mp
    (h _ _ _ _ _ _ _ sharedTemplate updated sharedStore_template hrun))

theorem update_of_sharedColumns :
    ∃ updated s', (update "c0" none newUrl).run (ticketMachine sampleRuntime {}) sharedStore
        = (.ok updated, s') ∧
      (KeepsReferenced id sharedColumns updated.columns (replacedBackgrounds sharedTemplate newUrl)
        ↔ Replaces id sharedColumns newUrl) := by
  obtain ⟨updated, s', hrun⟩ := exists_update_newUrl
  exact ⟨updated, s', hrun, update_keepsReferenced_iff id sharedStore_template hrun⟩

end CreativeBackend.Tickets.DigitalTicketTemplatesService
