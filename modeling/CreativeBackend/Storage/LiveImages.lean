import CreativeBackend.Storage.StorageCleanup
import CreativeBackend.Scans.Service

/-!
# Orphans among the QR images

The writer names the image of a registration by its public id and a fingerprint of the token, the
cleaner by the public id alone. The cleaner therefore takes an image for the one of the
registration whose public id is the whole name.
-/

namespace CreativeBackend.StorageCleanupService

open Path Relational

variable {rt : Runtime}

/-! ## Names -/

theorem isFilenameChar_of_sanitized {value : String} {c : Char}
    (h : c ∈ (QrImageService.sanitizeFilename value).toList) : isFilenameChar c = true := by
  unfold QrImageService.sanitizeFilename at h
  rw [String.toList_ofList] at h
  obtain ⟨d, -, hc⟩ := List.mem_flatMap.mp h
  split at hc
  · next hd =>
      rw [List.mem_singleton.mp hc]
      exact hd
  · have hunderscore : c = '_' := by
      split at hc <;> simpa using hc
    subst hunderscore
    decide

/-! ## Paths of QR images -/

section QrPath

variable {name : String}

theorem joinSlashes_qr (part : String) :
    joinSlashes ["uploads", "qr", part] = "uploads/qr/" ++ part := by
  rw [joinSlashes_cons_cons, joinSlashes_cons_cons, joinSlashes_singleton]
  apply String.toList_inj.mp
  simp [String.toList_append]

theorem plain_qrParts {part : String} (h : Plain part) : ∀ p ∈ ["uploads", "qr", part], Plain p := by
  intro p hp
  rcases List.mem_cons.mp hp with rfl | hp
  · constructor <;> decide
  · rcases List.mem_cons.mp hp with rfl | hp
    · constructor <;> decide
    · rwa [List.mem_singleton.mp hp]

/-- A path in the QR directory is safe as it is. -/
theorem toSafeRelativePath_qr (h : ∀ c ∈ name.toList, isFilenameChar c = true) :
    toSafeRelativePath ("/uploads/qr/" ++ (name ++ ".png")) =
      .ok ("/uploads/qr/" ++ (name ++ ".png")) := by
  have hfile : Untouched (name ++ ".png") := (Untouched.of_filename h).append (by decide)
  have hplain := plain_qrParts (plain_png h)
  generalize name ++ ".png" = part at *
  have habove : part ≠ ".." := (hplain part (by simp)).not_above
  have hsplit : splitSlashes (joinSlashes ["uploads", "qr", part]) = ["uploads", "qr", part] :=
    splitSlashes_joinSlashes (by simp) fun p hp => (hplain p hp).no_slash
  have hroot : "/uploads/qr/" ++ part = "/" ++ joinSlashes ["uploads", "qr", part] := by
    rw [joinSlashes_qr]
    apply String.toList_inj.mp
    simp [String.toList_append]
  have hvalue : withSlashes (trim ("/uploads/qr/" ++ part)) = "/uploads/qr/" ++ part := by
    have huntouched : Untouched ("/uploads/qr/" ++ part) := Untouched.append (by decide) hfile
    rw [huntouched.trim_eq, huntouched.withSlashes_eq]
  have hslashes : withSlashes (joinSlashes ["uploads", "qr", part]) =
      joinSlashes ["uploads", "qr", part] := by
    rw [joinSlashes_qr]
    exact Untouched.withSlashes_eq (Untouched.append (by decide) hfile)
  have huploads : startsWith ("/uploads/qr/" ++ part) "/uploads/" = true := by
    unfold startsWith
    rw [String.toList_append]
    rfl
  have hdouble : startsWith ("/uploads/qr/" ++ part) "//" = false := by
    unfold startsWith
    rw [String.toList_append]
    rfl
  have hdrive : isDrivePath ("/uploads/qr/" ++ part) = false := by
    unfold isDrivePath
    rw [String.toList_append]
    rfl
  have hne : "/uploads/qr/" ++ part ≠ "" := by
    intro he
    have hlength := congrArg String.length he
    rw [String.length_append] at hlength
    exact absurd hlength (by simp)
  unfold toSafeRelativePath
  rw [hvalue]
  simp only [hne, huploads, hdouble, hdrive]
  rw [hroot, withoutLeadingSlashes_joinSlashes hplain, normalize_joinSlashes (by simp) hplain,
    hslashes, hsplit]
  simp [habove.symm, APPROVED_UPLOAD_DIRS]

end QrPath

/-! ## The orphans -/

/-- The name of an image before `.png`. -/
def imageStem (rt : Runtime) (registrationPublicId qrToken : String) : String :=
  QrImageService.sanitizeFilename registrationPublicId ++ "-" ++
    String.ofList ((rt.sha256Hex (trim qrToken)).toList.take 16)

theorem publicIdOfPath_qr (name : String) :
    publicIdOfPath ("/uploads/qr/" ++ (name ++ ".png")) = name := by
  unfold publicIdOfPath
  rw [withoutStart_append, withoutEnd_append]

theorem mem_findExistingQrFiles {w : CleanupStore} {files : List String} {path : String} :
    path ∈ findExistingQrFiles w files ↔
      path ∈ files ∧ ∃ r ∈ w.scans.registrations.rows, r.publicId = publicIdOfPath path := by
  unfold findExistingQrFiles
  split
  · next hnone =>
      rw [List.eq_nil_of_length_eq_zero hnone]
      simp
  · simp only [List.mem_filter, List.contains_iff_mem, List.mem_map]
    constructor
    · rintro ⟨hpath, r, ⟨hr, -⟩, hid⟩
      exact ⟨hpath, r, hr, hid⟩
    · rintro ⟨hpath, r, hr, hid⟩
      exact ⟨hpath, r, ⟨hr, path, hpath, hid.symm⟩, hid⟩

/-- An orphan is a file that looks like an image of no registration. -/
theorem mem_findOrphanQrFiles {w : CleanupStore} {name : String} :
    "/uploads/qr/" ++ (name ++ ".png") ∈ findOrphanQrFiles w none ↔
      name ++ ".png" ∈ w.scans.images ∧ QR_FILENAME_PATTERN (name ++ ".png") = true ∧
        ∀ r ∈ w.scans.registrations.rows, r.publicId ≠ name := by
  unfold findOrphanQrFiles
  have hscan : "/uploads/qr/" ++ (name ++ ".png") ∈ scanQrFiles w ↔
      name ++ ".png" ∈ w.scans.images ∧ QR_FILENAME_PATTERN (name ++ ".png") = true := by
    unfold scanQrFiles
    simp
  simp only [Option.getD_none, List.mem_filter, Bool.not_eq_true', List.contains_eq_mem,
    decide_eq_false_iff_not, mem_findExistingQrFiles, publicIdOfPath_qr, hscan]
  constructor
  · rintro ⟨hfile, hnew⟩
    exact ⟨hfile.1, hfile.2, fun r hr hid => hnew ⟨hfile, r, hr, hid⟩⟩
  · rintro ⟨hfile, hpattern, hnew⟩
    exact ⟨⟨hfile, hpattern⟩, fun ⟨_, r, hr, hid⟩ => hnew r hr hid⟩

/-! ## The files of an event -/

/-- The values of a sequence of checks are those of its elements. -/
theorem mapM_eq_ok_iff {ε α β : Type} {f : α → Except ε β} {l : List α} {bs : List β} :
    l.mapM f = .ok bs ↔ List.Forall₂ (fun a b => f a = .ok b) l bs := by
  induction l generalizing bs with
  | nil =>
      rw [List.mapM_nil, List.forall₂_nil_left_iff]
      exact ⟨fun h => (Except.ok.inj h).symm, fun h => h ▸ rfl⟩
  | cons a l ih =>
      rw [List.mapM_cons, List.forall₂_cons_left_iff]
      constructor
      · intro h
        obtain ⟨b, hb, h⟩ := Except.exists_of_bind_eq_ok h
        obtain ⟨bs', hbs, h⟩ := Except.exists_of_bind_eq_ok h
        cases h
        exact ⟨b, bs', hb, ih.mp hbs, rfl⟩
      · rintro ⟨b, bs', hb, hbs, rfl⟩
        rw [hb, ih.mpr hbs]
        rfl

/-- One check that fails makes the sequence fail; otherwise it returns the value of each check. -/
theorem exists_mapM_iff {ε α β : Type} {f : α → Except ε β} {l : List α} {b : β} :
    (∃ bs, l.mapM f = .ok bs ∧ b ∈ bs) ↔
      (∀ a ∈ l, ∃ b', f a = .ok b') ∧ ∃ a ∈ l, f a = .ok b := by
  simp only [mapM_eq_ok_iff]
  constructor
  · rintro ⟨bs, hall, hb⟩
    constructor
    · intro a ha
      obtain ⟨i, hi, rfl⟩ := List.mem_iff_getElem.mp ha
      exact ⟨_, List.Forall₂.get hall hi (hall.length_eq ▸ hi)⟩
    · obtain ⟨i, hi, rfl⟩ := List.mem_iff_getElem.mp hb
      exact ⟨_, List.getElem_mem (hall.length_eq ▸ hi), List.Forall₂.get hall _ hi⟩
  · rintro ⟨hall, a, ha, hb⟩
    obtain ⟨bs, hbs⟩ : ∃ bs, List.Forall₂ (fun a b => f a = .ok b) l bs := by
      clear ha
      induction l with
      | nil => exact ⟨[], .nil⟩
      | cons c l ih =>
          obtain ⟨b', hb'⟩ := hall c List.mem_cons_self
          obtain ⟨bs, hbs⟩ := ih fun d hd => hall d (List.mem_cons_of_mem c hd)
          exact ⟨b' :: bs, .cons hb' hbs⟩
    obtain ⟨i, hi, rfl⟩ := List.mem_iff_getElem.mp ha
    have hvalue : f l[i] = .ok (bs.get ⟨i, hbs.length_eq ▸ hi⟩) := hbs.get hi _
    cases hb.symm.trans hvalue
    exact ⟨bs, hbs, List.get_mem _ _⟩

section Owned

variable {w : CleanupStore} {eventId : Id} {path : String}

theorem mem_uniqueSafeRelativePaths {relativePaths : List (Option String)} :
    (∃ files, uniqueSafeRelativePaths relativePaths = .ok files ∧ path ∈ files) ↔
      (∀ upload, some upload ∈ relativePaths → ∃ safe, toSafeRelativePath upload = .ok safe) ∧
        ∃ upload, some upload ∈ relativePaths ∧ toSafeRelativePath upload = .ok path := by
  have hmem : ∀ upload, some upload ∈ relativePaths ↔ upload ∈ relativePaths.filterMap id := by
    simp
  simp only [hmem, ← exists_mapM_iff]
  unfold uniqueSafeRelativePaths
  cases (relativePaths.filterMap id).mapM toSafeRelativePath with
  | error e => simp [Except.map]
  | ok safe => simp [Except.map, List.mem_eraseDups]

theorem toSafeRelativePath_qrImage (registrationPublicId : String) :
    toSafeRelativePath (qrImageRelativePath registrationPublicId) =
      .ok (qrImageRelativePath registrationPublicId) := by
  unfold qrImageRelativePath
  rw [String.append_assoc]
  exact toSafeRelativePath_qr fun c hc => isFilenameChar_of_sanitized hc

/-- What belongs to an event: its uploads, if all are safe, and its registrations' images under
the cleaner's names. -/
theorem mem_findEventOwnedFiles :
    (∃ files, findEventOwnedFiles w eventId = .ok files ∧ path ∈ files) ↔
      (∃ e ∈ w.scans.events.rows, e.id = eventId) ∧
      (∀ upload, some upload ∈ storedUploads w eventId →
        ∃ safe, toSafeRelativePath upload = .ok safe) ∧
      ((∃ upload, some upload ∈ storedUploads w eventId ∧ toSafeRelativePath upload = .ok path) ∨
        ∃ r ∈ w.scans.registrations.rows, r.eventId = eventId ∧
          qrImageRelativePath r.publicId = path) := by
  unfold findEventOwnedFiles
  cases hevent : w.scans.events.rows.find? fun e => e.id = eventId with
  | none =>
      have hnone : ¬ ∃ e ∈ w.scans.events.rows, e.id = eventId := by
        simpa using hevent
      simp [hnone]
  | some event =>
      have hsome : ∃ e ∈ w.scans.events.rows, e.id = eventId :=
        ⟨event, List.mem_of_find?_eq_some hevent, by simpa using List.find?_some hevent⟩
      simp only [mem_uniqueSafeRelativePaths, List.mem_append, List.mem_map, List.mem_filter,
        decide_eq_true_eq, Option.some.injEq, hsome, true_and]
      constructor
      · rintro ⟨hsafe, upload, hupload | ⟨r, ⟨hr, hevent⟩, rfl⟩, hpath⟩
        · exact ⟨fun u hu => hsafe u (.inl hu), .inl ⟨upload, hupload, hpath⟩⟩
        · rw [toSafeRelativePath_qrImage] at hpath
          exact ⟨fun u hu => hsafe u (.inl hu), .inr ⟨r, hr, hevent, Except.ok.inj hpath⟩⟩
      · rintro ⟨hsafe, howned⟩
        constructor
        · rintro upload (hupload | ⟨r, -, rfl⟩)
          · exact hsafe upload hupload
          · exact ⟨_, toSafeRelativePath_qrImage r.publicId⟩
        · rcases howned with ⟨upload, hupload, hpath⟩ | ⟨r, hr, hevent, rfl⟩
          · exact ⟨upload, .inl hupload, hpath⟩
          · exact ⟨_, .inr ⟨r, ⟨hr, hevent⟩, rfl⟩, toSafeRelativePath_qrImage r.publicId⟩

end Owned

/-! ## Live images -/

/-- The image of a registration that exists, made for a compact token. -/
structure HasImage (rt : Runtime) (s : Store) (registration : Registration)
    (tokenId qrToken : String) : Prop where
  exists_row : registration ∈ s.registrations.rows
  token : createCompactQrToken rt tokenId = .ok qrToken
  file : QrImageService.buildQrFilename rt registration.publicId qrToken ∈ s.images

/-- The path of an image. -/
def imagePath (rt : Runtime) (registration : Registration) (qrToken : String) : String :=
  "/uploads/qr/" ++ QrImageService.buildQrFilename rt registration.publicId qrToken

/-- No image for the current token of a registration is an orphan, and every image of a
registration is among the files of its event. -/
structure KeepsQrImages (rt : Runtime) (w : CleanupStore) : Prop where
  live : ∀ registration, ∀ q ∈ w.scans.qrTokens.rows, q.registrationId = registration.id →
    ∀ qrToken, HasImage rt w.scans registration q.tokenId qrToken →
      imagePath rt registration qrToken ∉ findOrphanQrFiles w none
  owned : ∀ registration tokenId qrToken, HasImage rt w.scans registration tokenId qrToken →
    ∃ files, findEventOwnedFiles w registration.eventId = .ok files ∧
      imagePath rt registration qrToken ∈ files

/-- The cleaner does not recognise the name of the image, or it is that of a registration whose
public id is the whole name. -/
def Spared (rt : Runtime) (w : CleanupStore) (registration : Registration) (qrToken : String) :
    Prop :=
  QR_FILENAME_PATTERN (imageStem rt registration.publicId qrToken ++ ".png") = false ∨
    ∃ r ∈ w.scans.registrations.rows, r.publicId = imageStem rt registration.publicId qrToken

/-- The event exists with safe uploads only, and the image is one of them or carries the
sanitised public id of some registration of the event. -/
structure Collected (rt : Runtime) (w : CleanupStore) (registration : Registration)
    (qrToken : String) : Prop where
  event : ∃ e ∈ w.scans.events.rows, e.id = registration.eventId
  safe : ∀ upload, some upload ∈ storedUploads w registration.eventId →
    ∃ path, toSafeRelativePath upload = .ok path
  listed : (∃ upload, some upload ∈ storedUploads w registration.eventId ∧
      toSafeRelativePath upload = .ok (imagePath rt registration qrToken)) ∨
    ∃ r ∈ w.scans.registrations.rows, r.eventId = registration.eventId ∧
      QrImageService.sanitizeFilename r.publicId = imageStem rt registration.publicId qrToken

theorem imagePath_eq (registration : Registration) (qrToken : String) :
    imagePath rt registration qrToken =
      "/uploads/qr/" ++ (imageStem rt registration.publicId qrToken ++ ".png") := rfl

theorem not_orphan_iff {w : CleanupStore} {registration : Registration} {tokenId qrToken : String}
    (h : HasImage rt w.scans registration tokenId qrToken) :
    imagePath rt registration qrToken ∉ findOrphanQrFiles w none ↔
      Spared rt w registration qrToken := by
  have hfile : imageStem rt registration.publicId qrToken ++ ".png" ∈ w.scans.images := h.file
  rw [imagePath_eq, mem_findOrphanQrFiles]
  unfold Spared
  constructor
  · intro hkept
    by_contra hnone
    obtain ⟨hpattern, hother⟩ := not_or.mp hnone
    exact hkept ⟨hfile, Bool.not_eq_false _ ▸ hpattern, fun r hr hid => hother ⟨r, hr, hid⟩⟩
  · rintro (hpattern | ⟨r, hr, hid⟩) ⟨-, hmatch, hother⟩
    · rw [hpattern] at hmatch
      cases hmatch
    · exact hother r hr hid

theorem owned_iff {w : CleanupStore} {registration : Registration} {qrToken : String} :
    (∃ files, findEventOwnedFiles w registration.eventId = .ok files ∧
      imagePath rt registration qrToken ∈ files) ↔ Collected rt w registration qrToken := by
  have hname : ∀ r : Registration,
      qrImageRelativePath r.publicId = imagePath rt registration qrToken ↔
        QrImageService.sanitizeFilename r.publicId =
          imageStem rt registration.publicId qrToken := by
    intro r
    rw [imagePath_eq, qrImageRelativePath, String.append_assoc, String.append_right_inj,
      String.append_left_inj]
  rw [mem_findEventOwnedFiles]
  simp only [hname]
  constructor
  · rintro ⟨hevent, hsafe, hlisted⟩
    exact ⟨hevent, hsafe, hlisted⟩
  · intro h
    exact ⟨h.event, h.safe, h.listed⟩

/-- The cleaner keeps the images of the registrations exactly where it confuses them with
something else that it keeps. -/
theorem keepsQrImages_iff (w : CleanupStore) :
    KeepsQrImages rt w ↔
      (∀ registration, ∀ q ∈ w.scans.qrTokens.rows, q.registrationId = registration.id →
        ∀ qrToken, HasImage rt w.scans registration q.tokenId qrToken →
          Spared rt w registration qrToken) ∧
      ∀ registration tokenId qrToken, HasImage rt w.scans registration tokenId qrToken →
        Collected rt w registration qrToken := by
  constructor
  · intro h
    exact ⟨fun registration q hq hid qrToken himage =>
        (not_orphan_iff himage).mp (h.live registration q hq hid qrToken himage),
      fun registration tokenId qrToken himage =>
        owned_iff.mp (h.owned registration tokenId qrToken himage)⟩
  · rintro ⟨hlive, howned⟩
    exact ⟨fun registration q hq hid qrToken himage =>
        (not_orphan_iff himage).mpr (hlive registration q hq hid qrToken himage),
      fun registration tokenId qrToken himage =>
        owned_iff.mpr (howned registration tokenId qrToken himage)⟩

/-! ## Public ids as the service draws them -/

/-- `REG_` and a text without a hyphen. -/
def Drawn (publicId : String) : Prop :=
  ∃ hex, publicId = "REG_" ++ hex ∧ isTokenText hex = true ∧ '-' ∉ hex.toList

theorem sanitizeFilename_eq_self {value : String}
    (h : ∀ c ∈ value.toList, isFilenameChar c = true) :
    QrImageService.sanitizeFilename value = value := by
  have hlist : ∀ l : List Char, (∀ c ∈ l, isFilenameChar c = true) →
      l.flatMap (fun c => if c.isAlphanum || c == '_' || c == '-' then [c]
        else if c.toNat < 65536 then ['_'] else ['_', '_']) = l := by
    intro l hl
    induction l with
    | nil => rfl
    | cons c l ih =>
        have hc : (c.isAlphanum || c == '_' || c == '-') = true := hl c List.mem_cons_self
        rw [List.flatMap_cons, if_pos hc, ih fun d hd => hl d (List.mem_cons_of_mem c hd)]
        rfl
  unfold QrImageService.sanitizeFilename
  rw [hlist _ h, String.ofList_toList]

theorem isFilenameChar_of_drawn {publicId : String} (h : Drawn publicId) :
    ∀ c ∈ publicId.toList, isFilenameChar c = true := by
  obtain ⟨hex, rfl, htext, -⟩ := h
  intro c hc
  rw [String.toList_append] at hc
  rcases List.mem_append.mp hc with hpre | hhex
  · have hall : ∀ c ∈ "REG_".toList, isFilenameChar c = true :=
      forall_mem_of_all (by decide)
    exact hall c hpre
  · have hchar := mem_of_isTokenText htext hhex
    simpa [isFilenameChar, or_assoc] using hchar

theorem isTokenText_append {s t : String} (hs : isTokenText s = true)
    (ht : ∀ c ∈ t.toList, isFilenameChar c = true) : isTokenText (s ++ t) = true := by
  unfold isTokenText at hs ⊢
  obtain ⟨hne, hall⟩ := Bool.and_eq_true_iff.mp hs
  rw [String.toList_append, List.all_append, hall, Bool.true_and, Bool.and_eq_true_iff]
  constructor
  · cases hl : s.toList with
    | nil =>
        rw [hl] at hne
        cases hne
    | cons c l => rfl
  · exact List.all_eq_true.mpr ht

/-- Where public ids are drawn and digests are hexadecimal, every image of a registration is an
orphan to the cleaner. -/
theorem orphan_of_drawn {w : CleanupStore} {registration : Registration} {tokenId qrToken : String}
    (hdrawn : ∀ r ∈ w.scans.registrations.rows, Drawn r.publicId)
    (hdigest : ∀ c ∈ (rt.sha256Hex (trim qrToken)).toList, isFilenameChar c = true)
    (h : HasImage rt w.scans registration tokenId qrToken) :
    imagePath rt registration qrToken ∈ findOrphanQrFiles w none := by
  have hid := hdrawn registration h.exists_row
  have hstem : imageStem rt registration.publicId qrToken =
      registration.publicId ++ "-" ++
        String.ofList ((rt.sha256Hex (trim qrToken)).toList.take 16) := by
    unfold imageStem
    rw [sanitizeFilename_eq_self (isFilenameChar_of_drawn hid)]
  rw [imagePath_eq, mem_findOrphanQrFiles]
  refine ⟨h.file, ?_, ?_⟩
  · -- The fingerprint is part of what the pattern reads as the public id.
    obtain ⟨hex, heq, htext, -⟩ := hid
    generalize hrest : hex ++ "-" ++
      String.ofList ((rt.sha256Hex (trim qrToken)).toList.take 16) = rest
    have hname : imageStem rt registration.publicId qrToken ++ ".png" =
        "REG_" ++ (rest ++ ".png") := by
      rw [hstem, heq, ← hrest]
      simp only [String.append_assoc]
    have hmiddle : isTokenText rest = true := by
      rw [← hrest, String.append_assoc]
      apply isTokenText_append htext
      intro c hc
      rw [String.toList_append] at hc
      rcases List.mem_append.mp hc with hhyphen | hfingerprint
      · rw [List.mem_singleton.mp hhyphen]
        decide
      · rw [String.toList_ofList] at hfingerprint
        exact hdigest c (List.mem_of_mem_take hfingerprint)
    have hends : ".png".toList.isSuffixOf ("REG_" ++ (rest ++ ".png")).toList = true := by
      rw [List.isSuffixOf_iff_suffix, ← String.append_assoc, String.toList_append]
      exact List.suffix_append _ _
    unfold QR_FILENAME_PATTERN
    rw [hname, startsWith_append, withoutStart_append, withoutEnd_append, hends, hmiddle]
    rfl
  · intro r hr hwhole
    obtain ⟨hex, heq, -, hhyphen⟩ := hdrawn r hr
    have hmem : '-' ∈ r.publicId.toList := by
      rw [hwhole, hstem]
      simp [String.toList_append]
    rw [heq, String.toList_append] at hmem
    rcases List.mem_append.mp hmem with hpre | hhex
    · revert hpre
      decide
    · exact hhyphen hhex

/-! ## A registration with its image -/

/-- The digests are those of the secret and the token of the sample. -/
def imageRuntime : Runtime :=
  { sampleRuntime with
    base64url := fun _ => "kxLZnkYE1au8YZkvoJWmjg"
    sha256Hex := fun _ => "47a2c448619b8fe91780ca1500a9270f55fca789932d5340233740ad48ffdd15" }

def imageRegistration : Registration where
  id := "c0"
  publicId := "REG_0123456789ABCDEF"
  eventId := "c0"
  attendeeTypeId := "c0"
  fullName := "Visitor"

def imageToken : QrToken where
  id := "c0"
  registrationId := "c0"
  eventId := "c0"
  tokenId := "QRT_A1"
  payload := {
    tokenId := "QRT_A1"
    eventId := "c0"
    registrationId := "c0"
    registrationPublicId := "REG_0123456789ABCDEF"
    attendeeTypeId := "c0"
    attendeeTypeCode := "VISITOR"
    issuedAt := ""
    validFrom := ""
    validUntil := ""
    nonce := "" }
  signature := "s"
  validFrom := 0
  validUntil := 10

/-- The store after the image of the only registration was written. -/
def imageStore : CleanupStore where
  scans := ((QrImageService.generateRegistrationQrImage imageRuntime "REG_0123456789ABCDEF"
    "Q2.QRT_A1.kxLZnkYE1au8YZkvoJWmjg").run (machine imageRuntime {})
      { sampleStore with
        registrations := .ofData [imageRegistration]
        qrTokens := .ofData [imageToken] }).2

/-- The image of the only registration, just written, is an orphan. -/
theorem live_image_is_orphan : ¬ ∀ (rt : Runtime) (w : CleanupStore), KeepsQrImages rt w := by
  intro h
  have himage : HasImage imageRuntime imageStore.scans imageRegistration imageToken.tokenId
      "Q2.QRT_A1.kxLZnkYE1au8YZkvoJWmjg" :=
    { exists_row := List.mem_singleton.mpr rfl
      token := by decide +kernel
      file := by decide +kernel }
  have hkept : imagePath imageRuntime imageRegistration "Q2.QRT_A1.kxLZnkYE1au8YZkvoJWmjg" ∉
      findOrphanQrFiles imageStore none :=
    (h imageRuntime imageStore).live imageRegistration imageToken (List.mem_singleton.mpr rfl) rfl
      _ himage
  apply hkept
  decide +kernel

/-- The image of the only registration lies where a cleanup finds an orphan. -/
theorem drawn_image_is_orphan :
    imagePath imageRuntime imageRegistration "Q2.QRT_A1.kxLZnkYE1au8YZkvoJWmjg" ∈
      findOrphanQrFiles imageStore none := by
  have himage : HasImage imageRuntime imageStore.scans imageRegistration "QRT_A1"
      "Q2.QRT_A1.kxLZnkYE1au8YZkvoJWmjg" :=
    { exists_row := List.mem_singleton.mpr rfl
      token := by decide +kernel
      file := by decide +kernel }
  refine orphan_of_drawn ?_ (forall_mem_of_all (by decide)) himage
  intro r hr
  obtain rfl := List.mem_singleton.mp hr
  exact ⟨"0123456789ABCDEF", rfl, by decide, by decide⟩

end CreativeBackend.StorageCleanupService
