import CreativeBackend.Tickets.Services

/-!
# The files of generated tickets

A generated picture is stored under a fresh name. Its relative path names this file to the check
whether it is usable and to the deletion, and to no other.
-/

namespace CreativeBackend.Tickets

open Relational Interaction Path DigitalTicketImageService

/-! ## Names -/

/-- The path that a row stores for the picture with a name. -/
def generatedPath (uuid : String) : String :=
  "/uploads/" ++ GENERATED_TICKET_DIR ++ "/" ++ (uuid ++ ".png")

/-- The file of the picture with a name. -/
def generatedFile (uuid : String) : List String :=
  splitSlashes GENERATED_TICKET_DIR ++ [uuid ++ ".png"]

theorem generatedPath_inj {u v : String} : generatedPath u = generatedPath v ↔ u = v := by
  unfold generatedPath
  rw [String.append_right_inj, String.append_left_inj]

theorem generatedPath_ne_empty (uuid : String) : generatedPath uuid ≠ "" := by
  intro he
  have hlength := congrArg String.length he
  unfold generatedPath at hlength
  rw [String.length_append, String.length_append] at hlength
  exact absurd hlength (by simp)

theorem generatedFile_inj {u v : String} : generatedFile u = generatedFile v ↔ u = v := by
  unfold generatedFile
  rw [List.append_cancel_left_eq, List.singleton_inj, String.append_left_inj]

/-- A name that is drawn has only letters and digits. -/
theorem isFilenameChar_fresh (n : Nat) :
    ∀ c ∈ (fresh n : Id).toList, isFilenameChar c = true := by
  intro c hc
  have hlist : (fresh n : Id).toList = 'c' :: Nat.toDigits 10 n := by
    change ("c" ++ Nat.repr n).toList = _
    rw [String.toList_append, Nat.toList_repr]
    rfl
  rw [hlist] at hc
  rcases List.mem_cons.mp hc with rfl | hdigit
  · decide
  · have hdec : c.isDigit = true := Nat.isDigit_of_mem_toDigits (by decide) (by decide) hdigit
    simp [isFilenameChar, Char.isAlphanum, hdec]

section Generated

variable {uuid : String} (h : ∀ c ∈ uuid.toList, isFilenameChar c = true)

include h

theorem untouched_generatedPath : Untouched (generatedPath uuid) := by
  unfold generatedPath
  exact Untouched.append (by decide) ((Untouched.of_filename h).append (by decide))

theorem plain_generatedParts :
    ∀ p ∈ ["uploads", "digital-tickets", "generated", uuid ++ ".png"], Plain p := by
  intro p hp
  rcases List.mem_cons.mp hp with rfl | hp
  · constructor <;> decide
  rcases List.mem_cons.mp hp with rfl | hp
  · constructor <;> decide
  rcases List.mem_cons.mp hp with rfl | hp
  · constructor <;> decide
  rw [List.mem_singleton.mp hp]
  exact plain_png h

omit h in
theorem generatedPath_eq (uuid : String) : generatedPath uuid =
    "/" ++ joinSlashes ["uploads", "digital-tickets", "generated", uuid ++ ".png"] := by
  rw [joinSlashes_cons_cons, joinSlashes_cons_cons, joinSlashes_cons_cons, joinSlashes_singleton]
  apply String.toList_inj.mp
  simp [generatedPath, GENERATED_TICKET_DIR, String.toList_append]

omit h in
theorem generatedFile_eq (uuid : String) :
    generatedFile uuid = ["digital-tickets", "generated", uuid ++ ".png"] := rfl

omit h in
theorem startsWith_generatedPath (uuid : String) :
    startsWith (generatedPath uuid) ("/uploads/" ++ GENERATED_TICKET_DIR ++ "/") = true := by
  unfold generatedPath
  exact startsWith_append _ _

/-- The path of a generated picture has no part that leads upwards. -/
theorem not_above_generatedPath :
    (splitSlashes (withoutLeadingSlashes (generatedPath uuid))).contains ".." = false := by
  have hplain := plain_generatedParts h
  have habove : (uuid ++ ".png") ≠ ".." := (hplain _ (by simp)).not_above
  rw [generatedPath_eq, withoutLeadingSlashes_joinSlashes hplain,
    splitSlashes_joinSlashes (by simp) fun p hp => (hplain p hp).no_slash]
  simp [habove.symm]

/-- Where the path of a generated picture leads. -/
theorem resolve_generatedPath :
    resolve [] (normalize (withoutStart "/uploads/" (generatedPath uuid))) =
      generatedFile uuid := by
  have hplain : ∀ p ∈ ["digital-tickets", "generated", uuid ++ ".png"], Plain p := fun p hp =>
    plain_generatedParts h p (List.mem_cons_of_mem _ hp)
  have hrest : generatedPath uuid =
      "/uploads/" ++ joinSlashes ["digital-tickets", "generated", uuid ++ ".png"] := by
    rw [joinSlashes_cons_cons, joinSlashes_cons_cons, joinSlashes_singleton]
    apply String.toList_inj.mp
    simp [generatedPath, GENERATED_TICKET_DIR, String.toList_append]
  rw [hrest, withoutStart_append, normalize_joinSlashes (by simp) hplain,
    resolve_joinSlashes (by simp) hplain, generatedFile_eq]

omit h in
theorem root_isPrefixOf (uuid : String) :
    (resolve [] GENERATED_TICKET_DIR).isPrefixOf (generatedFile uuid) = true := by
  have hroot : resolve [] GENERATED_TICKET_DIR = ["digital-tickets", "generated"] := by
    decide +kernel
  rw [hroot, generatedFile_eq]
  simp [List.isPrefixOf]

omit h in
theorem truthy_generatedPath (uuid : String) :
    truthy (some (generatedPath uuid)) = some (generatedPath uuid) :=
  truthy_eq_some_iff.mpr ⟨rfl, generatedPath_ne_empty uuid⟩

/-- The check for a usable picture looks at the file. -/
theorem resolveGeneratedRelativePath_generatedPath :
    resolveGeneratedRelativePath (some (generatedPath uuid)) = some (generatedFile uuid) := by
  have huntouched := untouched_generatedPath h
  unfold resolveGeneratedRelativePath
  simp only [truthy_generatedPath, huntouched.trim_eq, huntouched.withSlashes_eq,
    startsWith_generatedPath, not_above_generatedPath h, resolve_generatedPath h,
    root_isPrefixOf]
  rfl

/-- The deletion removes the file. -/
theorem deletedPath_generatedPath :
    deletedPath (some (generatedPath uuid)) GENERATED_TICKET_DIR = .ok (generatedFile uuid) := by
  have huntouched := untouched_generatedPath h
  have huploads : startsWith (generatedPath uuid) "/uploads/" = true := by
    have hrest : generatedPath uuid =
        "/uploads/" ++ (GENERATED_TICKET_DIR ++ "/" ++ (uuid ++ ".png")) := by
      simp only [generatedPath, String.append_assoc]
    rw [hrest]
    exact startsWith_append _ _
  have hdouble : startsWith (generatedPath uuid) "//" = false := by
    unfold startsWith generatedPath
    rw [String.toList_append]
    rfl
  have hdrive : StorageCleanupService.isDrivePath (generatedPath uuid) = false := by
    unfold StorageCleanupService.isDrivePath generatedPath
    rw [String.toList_append]
    rfl
  have hsubdir : withSlashes GENERATED_TICKET_DIR = GENERATED_TICKET_DIR :=
    Untouched.withSlashes_eq (by decide)
  unfold deletedPath
  simp only [truthy_generatedPath, huntouched.trim_eq, huntouched.withSlashes_eq, huploads, hdouble,
    hdrive, hsubdir, startsWith_generatedPath, not_above_generatedPath h, resolve_generatedPath h,
    root_isPrefixOf]
  simp

end Generated

/-! ## Statements -/

namespace TicketStore

variable {s s' : TicketStore}

theorem fileAt_isSome {path : List String} : (s.fileAt path).isSome ↔ ∃ f ∈ s.files, f.path = path := by
  unfold fileAt
  rw [List.find?_isSome]
  simp

@[simp] theorem fileAt_writeFile (path : List String) (png : Png) :
    (s.writeFile path png).fileAt path = some ⟨path, png⟩ := by
  unfold fileAt writeFile
  rw [List.find?_append, List.find?_eq_none.mpr]
  · simp
  · intro f hf
    simpa using (List.mem_filter.mp hf).2

theorem fileAt_filter_ne {path other : List String} (h : other ≠ path) (files : List TicketFile) :
    (files.filter fun f => f.path ≠ path).find? (fun f => f.path = other) =
      files.find? fun f => f.path = other := by
  rw [List.find?_filter]
  congr 1
  funext f
  by_cases hf : f.path = other <;> simp [hf, h]

theorem fileAt_writeFile_of_ne {path other : List String} (h : other ≠ path) (png : Png) :
    (s.writeFile path png).fileAt other = s.fileAt other := by
  unfold fileAt writeFile
  rw [List.find?_append, fileAt_filter_ne h]
  have hlast : [(⟨path, png⟩ : TicketFile)].find? (fun f => f.path = other) = none := by
    simp [Ne.symm h]
  rw [hlast, Option.or_none]

theorem fileAt_unlink_of_ne {path other : List String} (h : other ≠ path) :
    (s.unlink path).2.fileAt other = s.fileAt other := by
  unfold unlink
  split
  · rfl
  · exact fileAt_filter_ne h s.files

theorem images_unlink {path : List String} : (s.unlink path).2.images = s.images := by
  unfold unlink
  split <;> rfl

theorem uuids_unlink {path : List String} : (s.unlink path).2.uuids = s.uuids := by
  unfold unlink
  split <;> rfl

theorem base_unlink {path : List String} : (s.unlink path).2.base = s.base := by
  unfold unlink
  split <;> rfl

/-- What the row of a ticket is after an upsert. -/
structure Upserted (s : TicketStore) (data row : DigitalTicketImage) (s' : TicketStore) : Prop where
  ticket : data.sameTicket row = true
  path : row.relativePath = data.relativePath
  rows : ∀ i, i ∈ s'.images.rows ↔ (i ∈ s.images.rows ∧ data.sameTicket i = false) ∨ i = row
  frame : ∃ images, s' = { s with images }

theorem sameTicket_iff {a b : DigitalTicketImage} : a.sameTicket b = true ↔
    a.registrationId = b.registrationId ∧ a.templateId = b.templateId ∧
      a.templateVersion = b.templateVersion := by
  simp [DigitalTicketImage.sameTicket, and_assoc]

/-- Two rows of one ticket are the same row. -/
theorem eq_of_sameTicket {a b : DigitalTicketImage} (ha : a ∈ s.images.rows)
    (hb : b ∈ s.images.rows) (h : a.sameTicket b = true) : a = b :=
  s.images.eq_of_clash ha hb h

/-- An upsert does not fail. -/
theorem exists_upsertImage (s : TicketStore) (data : DigitalTicketImage) :
    ∃ row s', s.upsertImage data = (.ok row, s') ∧ Upserted s data row s' := by
  unfold upsertImage
  cases hfind : s.images.rows.find? (data.sameTicket ·) with
  | none =>
      have hnone : ∀ i ∈ s.images.rows, data.sameTicket i = false := by
        simpa using hfind
      have hfree : ∀ i ∈ s.images.rows,
          clash (withKey (fresh s.images.serial) data) i = false ∧
            clash i (withKey (fresh s.images.serial) data) = false := by
        intro i hi
        have hi' : ¬ data.sameTicket i = true := by
          rw [hnone i hi]
          decide
        constructor
        · exact hnone i hi
        · apply Bool.eq_false_iff.mpr
          intro hsame
          obtain ⟨hr, ht, hv⟩ := sameTicket_iff.mp hsame
          exact hi' (sameTicket_iff.mpr ⟨hr.symm, ht.symm, hv.symm⟩)
      obtain ⟨images, hcreate⟩ := Table.exists_create hfree
      simp only [hcreate]
      refine ⟨_, _, rfl, ⟨sameTicket_iff.mpr ⟨rfl, rfl, rfl⟩, rfl, fun i => ?_, images, rfl⟩⟩
      rw [Table.mem_create hcreate]
      constructor
      · rintro (hi | hrow)
        · exact .inl ⟨hi, hnone i hi⟩
        · exact .inr hrow
      · rintro (⟨hi, -⟩ | hrow)
        · exact .inl hi
        · exact .inr hrow
  | some old =>
      have hold : old ∈ s.images.rows := List.mem_of_find?_eq_some hfind
      have hsame : data.sameTicket old = true := by
        simpa using List.find?_some hfind
      obtain ⟨hr, ht, hv⟩ := sameTicket_iff.mp hsame
      obtain ⟨images, hupdate⟩ := Table.exists_update hold
        (f := fun i => { i with imageUrl := data.imageUrl, relativePath := data.relativePath
                                generatedAt := data.generatedAt }) fun _ _ => ⟨rfl, rfl⟩
      have hkey : key old = old.id := rfl
      rw [hkey] at hupdate
      simp only [hupdate]
      refine ⟨_, _, rfl, ⟨sameTicket_iff.mpr ⟨hr, ht, hv⟩, rfl, fun i => ?_, images, rfl⟩⟩
      rw [Table.mem_update hupdate]
      have hother : ∀ i ∈ s.images.rows, key i ≠ old.id ↔ data.sameTicket i = false := by
        intro i hi
        constructor
        · intro hne
          apply Bool.eq_false_iff.mpr
          intro hi'
          obtain ⟨hr', ht', hv'⟩ := sameTicket_iff.mp hi'
          apply hne
          rw [eq_of_sameTicket hi hold (sameTicket_iff.mpr
            ⟨hr'.symm.trans hr, ht'.symm.trans ht, hv'.symm.trans hv⟩)]
          rfl
        · intro hi' heq
          rw [s.images.eq_of_key hi hold heq, hsame] at hi'
          cases hi'
      constructor
      · rintro (⟨hi, hne⟩ | hrow)
        · exact .inl ⟨hi, (hother i hi).mp hne⟩
        · exact .inr hrow
      · rintro (⟨hi, hne⟩ | hrow)
        · exact .inl ⟨hi, (hother i hi).mpr hne⟩
        · exact .inr hrow

theorem imageOf_eq_some {registrationId templateId : Id} {version : Nat}
    {i : DigitalTicketImage} (h : s.imageOf registrationId templateId version = some i) :
    i ∈ s.images.rows ∧ i.registrationId = registrationId ∧ i.templateId = templateId ∧
      i.templateVersion = version :=
  ⟨List.mem_of_find?_eq_some h, by simpa using List.find?_some h⟩

/-- The row of a ticket is the one that is found. -/
theorem imageOf_of_mem {i : DigitalTicketImage} (h : i ∈ s.images.rows) :
    s.imageOf i.registrationId i.templateId i.templateVersion = some i := by
  cases hof : s.imageOf i.registrationId i.templateId i.templateVersion with
  | none =>
      have hnone := List.find?_eq_none.mp hof i h
      simp at hnone
  | some j =>
      obtain ⟨hj, hr, ht, hv⟩ := imageOf_eq_some hof
      rw [eq_of_sameTicket hj h (sameTicket_iff.mpr ⟨hr, ht, hv⟩)]

end TicketStore

end CreativeBackend.Tickets
