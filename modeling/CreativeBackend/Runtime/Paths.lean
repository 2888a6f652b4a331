import CreativeBackend.Runtime.Text
import Mathlib.Data.List.Basic

/-!
# Paths of the file system

`normalize`, `resolve` and `isAbsolute` of Node's `path` on POSIX systems. A path is worked on as
the list of its parts between slashes.
-/

namespace CreativeBackend

namespace Path

/-- `value.split('/')`. -/
def splitSlashes (value : String) : List String :=
  (value.toList.splitOn '/').map String.ofList

/-- `parts.join('/')`. -/
def joinSlashes (parts : List String) : String :=
  String.ofList (['/'].intercalate (parts.map String.toList))

def isAbsolute (path : String) : Bool := startsWith path "/"

/-- The parts that stay, given those before them in reverse; `above` keeps a leading `..`. -/
def normalizeParts (above : Bool) : List String → List String → List String
  | done, [] => done.reverse
  | done, part :: rest =>
      if part = "" ∨ part = "." then normalizeParts above done rest
      else if part = ".." then
        match done with
        | [] => normalizeParts above (if above then [".."] else []) rest
        | top :: below =>
            if top = ".." then normalizeParts above (".." :: done) rest
            else normalizeParts above below rest
      else normalizeParts above (part :: done) rest

def normalize (path : String) : String :=
  let absolute := isAbsolute path
  let trailing := path.toList.getLast? = some '/'
  let parts := normalizeParts (!absolute) [] (splitSlashes path)
  if parts = [] then if absolute then "/" else if trailing then "./" else "."
  else (if absolute then "/" else "") ++ joinSlashes parts ++ (if trailing then "/" else "")

/-- `resolve(root, path)`, for the parts of an absolute root. -/
def resolve (root : List String) (path : String) : List String :=
  normalizeParts false []
    (if isAbsolute path then splitSlashes path else root ++ splitSlashes path)

/-- `value.replace(/\\/g, '/')`. -/
def withSlashes (value : String) : String :=
  String.ofList (value.toList.map fun c => if c = '\\' then '/' else c)

/-- `value.replace(/^\/+/, '')`. -/
def withoutLeadingSlashes (value : String) : String :=
  String.ofList (value.toList.dropWhile (· = '/'))

/-- `value` without `pre`, if it starts with it. -/
def withoutStart (pre value : String) : String :=
  if startsWith value pre then String.ofList (value.toList.drop pre.length) else value

/-- `value` without `post`, if it ends with it. -/
def withoutEnd (post value : String) : String :=
  if post.toList.isSuffixOf value.toList then
    String.ofList (value.toList.take (value.length - post.length))
  else value

/-! ## Starts and ends -/

theorem startsWith_append (pre s : String) : startsWith (pre ++ s) pre = true := by
  simp [startsWith, String.toList_append]

theorem withoutStart_append (pre s : String) : withoutStart pre (pre ++ s) = s := by
  unfold withoutStart
  rw [if_pos (startsWith_append pre s), String.toList_append, ← String.length_toList,
    List.drop_left, String.ofList_toList]

theorem withoutEnd_append (s post : String) : withoutEnd post (s ++ post) = s := by
  unfold withoutEnd
  have hends : post.toList.isSuffixOf (s ++ post).toList = true := by
    simp [String.toList_append]
  have hlength : (s ++ post).length - post.length = s.toList.length := by
    rw [String.length_append, String.length_toList]
    omega
  rw [if_pos hends, hlength, String.toList_append, List.take_left, String.ofList_toList]

/-! ## Plain paths -/

/-- A part that names a file or a directory. -/
structure Plain (part : String) : Prop where
  nonempty : part ≠ ""
  not_here : part ≠ "."
  not_above : part ≠ ".."
  no_slash : '/' ∉ part.toList

theorem splitSlashes_joinSlashes {parts : List String} (hne : parts ≠ [])
    (h : ∀ part ∈ parts, '/' ∉ part.toList) : splitSlashes (joinSlashes parts) = parts := by
  unfold splitSlashes joinSlashes
  rw [String.toList_ofList, List.splitOn_intercalate]
  · rw [List.map_map, List.map_congr_left (g := id), List.map_id]
    intro part _
    exact String.ofList_toList
  · intro l hl
    obtain ⟨part, hpart, rfl⟩ := List.mem_map.mp hl
    exact h part hpart
  · simpa using hne

theorem normalizeParts_plain {above : Bool} {done parts : List String}
    (h : ∀ part ∈ parts, Plain part) :
    normalizeParts above done parts = done.reverse ++ parts := by
  induction parts generalizing done with
  | nil => simp [normalizeParts]
  | cons part rest ih =>
      have hpart : Plain part := h part List.mem_cons_self
      have hrest : normalizeParts above (part :: done) rest = (part :: done).reverse ++ rest :=
        ih fun p hp => h p (List.mem_cons_of_mem part hp)
      unfold normalizeParts
      rw [if_neg (not_or.mpr ⟨hpart.nonempty, hpart.not_here⟩), if_neg hpart.not_above, hrest,
        List.reverse_cons, List.append_assoc]
      rfl

theorem joinSlashes_singleton (part : String) : joinSlashes [part] = part := by
  simp [joinSlashes]

theorem joinSlashes_cons_cons (part next : String) (rest : List String) :
    joinSlashes (part :: next :: rest) = part ++ "/" ++ joinSlashes (next :: rest) := by
  apply String.toList_inj.mp
  simp [joinSlashes, String.toList_append]

theorem joinSlashes_start (part : String) (rest : List String) :
    ∃ t, joinSlashes (part :: rest) = part ++ t := by
  cases rest with
  | nil => exact ⟨"", by rw [joinSlashes_singleton, String.append_empty]⟩
  | cons next rest => exact ⟨_, by rw [joinSlashes_cons_cons, String.append_assoc]⟩

theorem joinSlashes_end (parts : List String) (part : String) :
    ∃ t, joinSlashes (parts ++ [part]) = t ++ part := by
  induction parts with
  | nil => exact ⟨"", by rw [List.nil_append, joinSlashes_singleton, String.empty_append]⟩
  | cons first rest ih =>
      obtain ⟨t, ht⟩ := ih
      cases hrest : rest ++ [part] with
      | nil => simp at hrest
      | cons next more =>
          rw [hrest] at ht
          refine ⟨first ++ "/" ++ t, ?_⟩
          rw [List.cons_append, hrest, joinSlashes_cons_cons, ht]
          simp only [String.append_assoc]

theorem Plain.toList_ne_nil {part : String} (h : Plain part) : part.toList ≠ [] := by
  intro hnil
  exact h.nonempty (String.toList_inj.mp hnil)

/-- A path of plain parts does not start with a slash. -/
theorem head?_joinSlashes {parts : List String} (h : ∀ part ∈ parts, Plain part) :
    (joinSlashes parts).toList.head? ≠ some '/' := by
  cases parts with
  | nil => decide
  | cons part rest =>
      have hpart : Plain part := h part List.mem_cons_self
      obtain ⟨t, ht⟩ := joinSlashes_start part rest
      rw [ht, String.toList_append]
      cases hl : part.toList with
      | nil => exact absurd hl hpart.toList_ne_nil
      | cons c l =>
          intro hhead
          apply hpart.no_slash
          rw [hl]
          exact List.mem_cons.mpr (.inl (Option.some.inj hhead).symm)

/-- A path of plain parts does not end with a slash. -/
theorem getLast?_joinSlashes {parts : List String} (h : ∀ part ∈ parts, Plain part) :
    (joinSlashes parts).toList.getLast? ≠ some '/' := by
  rcases List.eq_nil_or_concat parts with rfl | ⟨init, part, rfl⟩
  · decide
  · have hpart : Plain part := h part (by simp)
    obtain ⟨t, ht⟩ := joinSlashes_end init part
    rw [List.concat_eq_append, ht, String.toList_append,
      List.getLast?_append_of_ne_nil _ hpart.toList_ne_nil]
    intro hlast
    exact hpart.no_slash (List.mem_of_getLast? hlast)

theorem isAbsolute_joinSlashes {parts : List String} (h : ∀ part ∈ parts, Plain part) :
    isAbsolute (joinSlashes parts) = false := by
  have hhead := head?_joinSlashes h
  unfold isAbsolute startsWith
  cases hl : (joinSlashes parts).toList with
  | nil => rfl
  | cons c l =>
      rw [hl] at hhead
      have hc : c ≠ '/' := by simpa using hhead
      simp [List.isPrefixOf, hc.symm]

/-- A relative path of plain parts is normal. -/
theorem normalize_joinSlashes {parts : List String} (hne : parts ≠ [])
    (h : ∀ part ∈ parts, Plain part) : normalize (joinSlashes parts) = joinSlashes parts := by
  have hsplit : splitSlashes (joinSlashes parts) = parts :=
    splitSlashes_joinSlashes hne fun part hpart => (h part hpart).no_slash
  have hparts : normalizeParts true [] parts = parts := normalizeParts_plain h
  simp [normalize, isAbsolute_joinSlashes h, getLast?_joinSlashes h, hsplit, hparts, hne]

/-- A relative path of plain parts names the file under the root. -/
theorem resolve_joinSlashes {parts : List String} (hne : parts ≠ [])
    (h : ∀ part ∈ parts, Plain part) : resolve [] (joinSlashes parts) = parts := by
  have hsplit : splitSlashes (joinSlashes parts) = parts :=
    splitSlashes_joinSlashes hne fun part hpart => (h part hpart).no_slash
  rw [resolve, isAbsolute_joinSlashes h, hsplit]
  exact normalizeParts_plain h

theorem withoutLeadingSlashes_joinSlashes {parts : List String}
    (h : ∀ part ∈ parts, Plain part) :
    withoutLeadingSlashes ("/" ++ joinSlashes parts) = joinSlashes parts := by
  have hhead := head?_joinSlashes h
  apply String.toList_inj.mp
  unfold withoutLeadingSlashes
  rw [String.toList_ofList, String.toList_append]
  cases hl : (joinSlashes parts).toList with
  | nil => rfl
  | cons c l =>
      rw [hl] at hhead
      have hc : c ≠ '/' := by simpa using hhead
      simp [hc]

/-! ## File names -/

/-- A character that a file name keeps. -/
def isFilenameChar (c : Char) : Bool := c.isAlphanum || c == '_' || c == '-'

theorem isTrimmed_of_isFilenameChar {c : Char} (h : isFilenameChar c = true) :
    isTrimmed c = false := by
  have htext : isTokenText (String.ofList [c]) = true := by
    simpa [isTokenText, isFilenameChar] using h
  exact isTrimmed_of_isTokenText htext c (by simp)

theorem ne_of_isFilenameChar {c d : Char} (h : isFilenameChar c = true)
    (hd : isFilenameChar d = false) : c ≠ d := by
  rintro rfl
  rw [h] at hd
  cases hd

/-- Neither `trim` nor the replacement of backslashes changes the text. -/
def Untouched (s : String) : Prop := ∀ c ∈ s.toList, isTrimmed c = false ∧ c ≠ '\\'

namespace Untouched

variable {s t : String}

instance : Decidable (Untouched s) :=
  List.decidableBAll (fun c => isTrimmed c = false ∧ c ≠ '\\') s.toList

theorem append (hs : Untouched s) (ht : Untouched t) : Untouched (s ++ t) := by
  intro c hc
  rw [String.toList_append] at hc
  exact (List.mem_append.mp hc).elim (hs c) (ht c)

theorem of_filename (h : ∀ c ∈ s.toList, isFilenameChar c = true) : Untouched s := fun c hc =>
  ⟨isTrimmed_of_isFilenameChar (h c hc), ne_of_isFilenameChar (h c hc) (by decide)⟩

theorem trim_eq (h : Untouched s) : trim s = s := trim_eq_self fun c hc => (h c hc).1

theorem withSlashes_eq (h : Untouched s) : withSlashes s = s := by
  unfold withSlashes
  rw [List.map_congr_left (g := id), List.map_id, String.ofList_toList]
  intro c hc
  exact if_neg (h c hc).2

end Untouched

theorem plain_png {name : String} (h : ∀ c ∈ name.toList, isFilenameChar c = true) :
    Plain (name ++ ".png") where
  nonempty he := by
    have hlength := congrArg String.length he
    rw [String.length_append] at hlength
    exact absurd hlength (Nat.succ_ne_zero _)
  not_here he := by
    have hlength := congrArg String.length he
    rw [String.length_append] at hlength
    have hone : name.length + 4 = 1 := hlength
    omega
  not_above he := by
    have hlength := congrArg String.length he
    rw [String.length_append] at hlength
    have htwo : name.length + 4 = 2 := hlength
    omega
  no_slash hmem := by
    rw [String.toList_append] at hmem
    rcases List.mem_append.mp hmem with hname | hend
    · exact ne_of_isFilenameChar (h '/' hname) (by decide) rfl
    · revert hend
      decide

end Path

end CreativeBackend
