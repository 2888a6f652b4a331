import CreativeBackend.Runtime.Paths

/-!
# Resolution of paths

`resolve` of Node's `path` as a function of texts, and where a path leads. On a file system without
symbolic links a path is a walk: a name goes down, `..` goes up, and a path that is not absolute
starts in the working directory. `resolvePath` puts its paths into one text, from the last to the
first; `resolvePath_eq` says that the result is the walk along them from the first to the last.
-/

namespace CreativeBackend

namespace Path

/-- `process.cwd()`. -/
structure WorkingDirectory where
  path : String
  absolute : isAbsolute path = true

/-- The text that `resolve` normalises: paths from the last to the first, up to an absolute one. -/
def resolvedText : List String → String → String
  | [], resolvedPath => resolvedPath
  | path :: rest, resolvedPath =>
      if path = "" then resolvedText rest resolvedPath
      else if isAbsolute path then path ++ "/" ++ resolvedPath
      else resolvedText rest (path ++ "/" ++ resolvedPath)

/-- `resolve(...paths)`. -/
def resolvePath (cwd : WorkingDirectory) (paths : List String) : String :=
  let resolvedPath := resolvedText (paths.reverse ++ [cwd.path]) ""
  "/" ++ joinSlashes (normalizeParts false [] (splitSlashes resolvedPath))

/-- Where a path leads from `here`, as the names from the root of the file system. -/
def walk (here : List String) (path : String) : List String :=
  if isAbsolute path then normalizeParts false [] (splitSlashes path)
  else normalizeParts false here.reverse (splitSlashes path)

/-- Where the paths lead, each from where the one before it led. -/
def walks (cwd : WorkingDirectory) (paths : List String) : List String :=
  paths.foldl walk (walk [] cwd.path)

/-- Where a path leads. -/
def locate (cwd : WorkingDirectory) (path : String) : List String := walks cwd [path]

/-! ## Splitting and joining -/

theorem splitSlashes_append (s t : String) :
    splitSlashes (s ++ "/" ++ t) = splitSlashes s ++ splitSlashes t := by
  have hsplit : (s ++ "/" ++ t).toList.splitOn '/'
      = s.toList.splitOn '/' ++ t.toList.splitOn '/' := by
    rw [← List.splitOn_append_cons_self]
    simp [String.toList_append]
  unfold splitSlashes
  rw [hsplit, List.map_append]

theorem not_mem_of_mem_splitOn {l part : List Char} (h : part ∈ l.splitOn '/') : '/' ∉ part := by
  induction l generalizing part with
  | nil =>
      rw [List.splitOn_nil, List.mem_singleton] at h
      rw [h]
      exact List.not_mem_nil
  | cons c l ih =>
      rw [List.splitOn_cons_eq_if_modifyHead] at h
      by_cases hc : (c == '/') = true
      · rw [if_pos hc] at h
        rcases List.mem_cons.mp h with rfl | h
        · exact List.not_mem_nil
        · exact ih h
      · rw [if_neg hc] at h
        cases hsplit : l.splitOn '/' with
        | nil => exact absurd hsplit (List.splitOn_ne_nil '/' l)
        | cons first rest =>
            rw [hsplit] at h ih
            rcases List.mem_cons.mp h with rfl | h
            · intro hmem
              rcases List.mem_cons.mp hmem with rfl | hmem
              · exact hc (beq_self_eq_true _)
              · exact ih List.mem_cons_self hmem
            · exact ih (List.mem_cons_of_mem first h)

theorem no_slash_of_mem_splitSlashes {s part : String} (h : part ∈ splitSlashes s) :
    '/' ∉ part.toList := by
  obtain ⟨l, hl, rfl⟩ := List.mem_map.mp h
  rw [String.toList_ofList]
  exact not_mem_of_mem_splitOn hl

theorem joinSlashes_splitSlashes (s : String) : joinSlashes (splitSlashes s) = s := by
  unfold joinSlashes splitSlashes
  rw [List.map_map, List.map_congr_left (g := id), List.map_id, List.intercalate_splitOn,
    String.ofList_toList]
  intro l _
  exact String.toList_ofList

/-! ## Walking -/

/-- A walk goes on from where its first part leads. -/
theorem normalizeParts_append (done xs ys : List String) :
    normalizeParts false done (xs ++ ys)
      = normalizeParts false (normalizeParts false done xs).reverse ys := by
  induction xs generalizing done with
  | nil => simp [normalizeParts]
  | cons part rest ih =>
      rw [List.cons_append]
      by_cases hstay : part = "" ∨ part = "."
      · simp only [normalizeParts, if_pos hstay]
        exact ih done
      · by_cases hup : part = ".."
        · cases done with
          | nil => simpa [normalizeParts, hup] using ih []
          | cons top below =>
              by_cases htop : top = ".."
              · simpa [normalizeParts, hup, htop] using ih (".." :: ".." :: below)
              · simpa [normalizeParts, hup, htop] using ih below
        · simpa [normalizeParts, hstay, hup] using ih (part :: done)

/-- A walk from the root ends at a list of names. -/
theorem plain_of_normalizeParts {done parts : List String} (hdone : ∀ part ∈ done, Plain part)
    (h : ∀ part ∈ parts, '/' ∉ part.toList) :
    ∀ part ∈ normalizeParts false done parts, Plain part := by
  induction parts generalizing done with
  | nil =>
      intro part hpart
      exact hdone part (List.mem_reverse.mp hpart)
  | cons first rest ih =>
      have hrest : ∀ part ∈ rest, '/' ∉ part.toList := fun part hpart =>
        h part (List.mem_cons_of_mem first hpart)
      by_cases hstay : first = "" ∨ first = "."
      · simp only [normalizeParts, if_pos hstay]
        exact ih hdone hrest
      · by_cases hup : first = ".."
        · cases done with
          | nil => simpa [normalizeParts, hup] using ih hdone hrest
          | cons top below =>
              have htop : top ≠ ".." := (hdone top List.mem_cons_self).not_above
              have hbelow : ∀ part ∈ below, Plain part := fun part hpart =>
                hdone part (List.mem_cons_of_mem top hpart)
              simpa [normalizeParts, hup, htop] using ih hbelow hrest
        · have hfirst : Plain first :=
            ⟨fun he => hstay (.inl he), fun he => hstay (.inr he), hup, h first List.mem_cons_self⟩
          have hdone' : ∀ part ∈ first :: done, Plain part := by
            intro part hpart
            rcases List.mem_cons.mp hpart with rfl | hpart
            · exact hfirst
            · exact hdone part hpart
          simpa [normalizeParts, hstay, hup] using ih hdone' hrest

/-- Without `..` a walk goes down through all names. -/
theorem normalizeParts_down {done parts : List String} (h : ".." ∉ parts) :
    normalizeParts false done parts
      = done.reverse ++ parts.filter fun part => part ≠ "" ∧ part ≠ "." := by
  induction parts generalizing done with
  | nil => simp [normalizeParts]
  | cons first rest ih =>
      obtain ⟨hfirst, hrest⟩ := not_or.mp fun hmem => h (List.mem_cons.mpr hmem)
      by_cases hstay : first = "" ∨ first = "."
      · simp only [normalizeParts, if_pos hstay, ih hrest]
        rw [List.filter_cons_of_neg]
        rcases hstay with rfl | rfl <;> decide
      · simp only [normalizeParts, if_neg hstay, if_neg (Ne.symm hfirst), ih hrest]
        rw [List.filter_cons_of_pos]
        · simp
        · simpa using hstay

theorem isAbsolute_empty : isAbsolute "" = false := by simp [isAbsolute, startsWith]

theorem isAbsolute_append {part : String} (h : Plain part) (s : String) :
    isAbsolute (part ++ s) = false := by
  unfold isAbsolute startsWith
  rw [String.toList_append]
  cases hl : part.toList with
  | nil => exact absurd hl h.toList_ne_nil
  | cons c l =>
      have hc : c ≠ '/' := by
        rintro rfl
        apply h.no_slash
        rw [hl]
        exact List.mem_cons_self
      simp [List.isPrefixOf, hc.symm]

theorem normalizeParts_stay (done : List String) :
    normalizeParts false done (splitSlashes "") = done.reverse := by
  simp [splitSlashes, normalizeParts]

theorem plain_walk {here : List String} (h : ∀ part ∈ here, Plain part) (path : String) :
    ∀ part ∈ walk here path, Plain part := by
  have hparts : ∀ part ∈ splitSlashes path, '/' ∉ part.toList := fun _ =>
    no_slash_of_mem_splitSlashes
  unfold walk
  split
  · exact plain_of_normalizeParts (by simp) hparts
  · exact plain_of_normalizeParts (fun part hpart => h part (List.mem_reverse.mp hpart)) hparts

theorem walks_concat (cwd : WorkingDirectory) (paths : List String) (path : String) :
    walks cwd (paths ++ [path]) = walk (walks cwd paths) path :=
  List.foldl_concat walk _ path paths

theorem plain_walks (cwd : WorkingDirectory) (paths : List String) :
    ∀ part ∈ walks cwd paths, Plain part := by
  induction paths using List.reverseRecOn with
  | nil => exact plain_walk (by simp) cwd.path
  | append_singleton paths path ih =>
      rw [walks_concat]
      exact plain_walk ih path

/-! ## Resolution -/

/-- The induction is on the paths from the last to the first, over what is already put together. -/
theorem normalizeParts_resolvedText (cwd : WorkingDirectory) (paths : List String)
    (resolvedPath : String) :
    normalizeParts false []
        (splitSlashes (resolvedText (paths.reverse ++ [cwd.path]) resolvedPath))
      = normalizeParts false (walks cwd paths).reverse (splitSlashes resolvedPath) := by
  induction paths using List.reverseRecOn generalizing resolvedPath with
  | nil =>
      have habs := cwd.absolute
      have hne : cwd.path ≠ "" := by
        intro he
        rw [he, isAbsolute_empty] at habs
        cases habs
      simp only [List.reverse_nil, List.nil_append, resolvedText, if_neg hne, if_pos habs]
      rw [splitSlashes_append, normalizeParts_append]
      simp only [walks, walk, List.foldl_nil, if_pos habs]
  | append_singleton paths path ih =>
      rw [List.reverse_append, List.reverse_singleton, List.singleton_append, List.cons_append,
        walks_concat]
      by_cases hempty : path = ""
      · subst hempty
        have hwalk : walk (walks cwd paths) "" = walks cwd paths := by
          simp [walk, isAbsolute_empty, normalizeParts_stay]
        rw [resolvedText, if_pos rfl, ih, hwalk]
      · by_cases habs : isAbsolute path = true
        · rw [resolvedText, if_neg hempty, if_pos habs, splitSlashes_append,
            normalizeParts_append, walk, if_pos habs]
        · rw [resolvedText, if_neg hempty, if_neg habs, ih, splitSlashes_append,
            normalizeParts_append, walk, if_neg habs]

theorem resolvePath_eq (cwd : WorkingDirectory) (paths : List String) :
    resolvePath cwd paths = "/" ++ joinSlashes (walks cwd paths) := by
  unfold resolvePath
  simp only [normalizeParts_resolvedText, normalizeParts_stay, List.reverse_reverse]

theorem isAbsolute_resolvePath (cwd : WorkingDirectory) (paths : List String) :
    isAbsolute (resolvePath cwd paths) = true := by
  rw [resolvePath_eq]
  exact startsWith_append "/" _

/-- Resolution does not change where a path leads. -/
theorem locate_resolvePath (cwd : WorkingDirectory) (paths : List String) :
    locate cwd (resolvePath cwd paths) = walks cwd paths := by
  have habs := isAbsolute_resolvePath cwd paths
  have hplain := plain_walks cwd paths
  unfold locate walks
  rw [List.foldl_cons, List.foldl_nil, walk, if_pos habs, resolvePath_eq]
  have hsplit : splitSlashes ("/" ++ joinSlashes (walks cwd paths))
      = splitSlashes "" ++ splitSlashes (joinSlashes (walks cwd paths)) := by
    rw [← splitSlashes_append, String.empty_append]
  rw [hsplit, normalizeParts_append, normalizeParts_stay, List.reverse_nil]
  by_cases hnil : walks cwd paths = []
  · have hjoin : joinSlashes [] = "" := by decide
    rw [hnil, hjoin, normalizeParts_stay]
    exact hnil.symm
  · rw [splitSlashes_joinSlashes hnil fun part hpart => (hplain part hpart).no_slash]
    exact normalizeParts_plain hplain

end Path

end CreativeBackend
