import CreativeBackend.Runtime.Resolution
import CreativeBackend.Storage.StorageCleanup

/-!
# Paths of files to delete

`resolveSafePath` of `StorageCleanupService`, through which every deletion of the cleaner goes.

## Implementation notes

What `toSafeRelativePath` accepts is a list of parts that begins with `uploads` and an approved
directory and has no `..` (`accepted_of_toSafeRelativePath`). The second normalisation, in
`resolve`, works on the parts below the upload root; without `..` it can only drop empty parts and
`.`, so the path stays where it is whatever the upload root looks like. The comparison of texts
that follows is not needed for that.
-/

namespace CreativeBackend

namespace StorageCleanupService

open Path

structure SafeTarget where
  absolutePath : String
  safePath : String
  deriving DecidableEq

def resolveApprovedRoot (cwd : WorkingDirectory) (uploadRoot subdir : String) :
    Except Exn String :=
  let root := resolvePath cwd [uploadRoot, subdir]
  let uploadsRoot := resolvePath cwd [uploadRoot]
  let withinUploads := root = uploadsRoot ∨ startsWith root (uploadsRoot ++ "/") = true
  if withinUploads then .ok root
  else .error (.badRequest "Approved upload root is unsafe")

def resolveSafePath (cwd : WorkingDirectory) (uploadRoot relativePath : String) :
    Except Exn SafeTarget := do
  let safePath ← toSafeRelativePath relativePath
  let subdir := (splitSlashes safePath)[2]?.getD ""
  let root ← resolveApprovedRoot cwd uploadRoot subdir
  let relativeWithinUploads := withoutStart "/uploads/" safePath
  let absolutePath := resolvePath cwd [uploadRoot, relativeWithinUploads]
  let withinRoot := absolutePath = root ∨ startsWith absolutePath (root ++ "/") = true
  if withinRoot then pure { absolutePath, safePath }
  else throw (.badRequest "Resolved upload path is unsafe")

/-! ## What is accepted -/

/-- The path of a file below an approved directory, with no way up. -/
structure Accepted (safePath dir : String) (below : List String) : Prop where
  approved : dir ∈ APPROVED_UPLOAD_DIRS
  below_ne_nil : below ≠ []
  no_up : ".." ∉ below
  no_slash : ∀ part ∈ below, '/' ∉ part.toList
  eq : safePath = "/" ++ joinSlashes ("uploads" :: dir :: below)

variable {cwd : WorkingDirectory} {uploadRoot input safePath dir : String} {below : List String}

/-- The parts that the last two checks let through. -/
theorem exists_parts {parts : List String} (hlength : ¬ parts.length < 3)
    (hfirst : ¬ parts[0]? ≠ some "uploads")
    (hdir : APPROVED_UPLOAD_DIRS.contains (parts[1]?.getD "") = true) :
    ∃ dir ∈ APPROVED_UPLOAD_DIRS, ∃ below ≠ [], parts = "uploads" :: dir :: below := by
  cases parts with
  | nil => simp at hlength
  | cons first rest =>
      cases rest with
      | nil => simp at hlength
      | cons dir below =>
          have hbelow : below ≠ [] := by
            rintro rfl
            simp at hlength
          have hfirst' : first = "uploads" := by simpa using hfirst
          have hdir' : dir ∈ APPROVED_UPLOAD_DIRS := by simpa using hdir
          exact ⟨dir, hdir', below, hbelow, by rw [hfirst']⟩

theorem accepted_of_toSafeRelativePath (h : toSafeRelativePath input = .ok safePath) :
    ∃ dir below, Accepted safePath dir below := by
  unfold toSafeRelativePath at h
  simp only at h
  split at h
  · cases h
  split at h
  · cases h
  split at h
  · cases h
  split at h
  · cases h
  split at h
  · cases h
  split at h
  · cases h
  rename_i hparts hdir
  cases h
  generalize withSlashes (normalize _) = normalized at hparts hdir ⊢
  obtain ⟨hlength, hfirst, hup⟩ : _ ∧ _ ∧ _ := by
    simpa only [not_or] using hparts
  obtain ⟨dir, happroved, below, hbelow, heq⟩ :=
    exists_parts hlength hfirst (by simpa using hdir)
  have hmem : ∀ part ∈ below, part ∈ splitSlashes normalized := by
    intro part hpart
    rw [heq]
    exact List.mem_cons_of_mem _ (List.mem_cons_of_mem _ hpart)
  refine ⟨dir, below, happroved, hbelow, ?_, fun part hpart => ?_, ?_⟩
  · intro hmem'
    exact hup (List.contains_iff_mem.mpr (hmem _ hmem'))
  · exact no_slash_of_mem_splitSlashes (hmem part hpart)
  · rw [← heq, joinSlashes_splitSlashes]

theorem badRequest_of_toSafeRelativePath {e : Exn} (h : toSafeRelativePath input = .error e) :
    ∃ message, e = .badRequest message := by
  unfold toSafeRelativePath at h
  simp only at h
  repeat' split at h
  all_goals cases h
  all_goals exact ⟨_, rfl⟩

theorem badRequest_of_resolveApprovedRoot {e : Exn}
    (h : resolveApprovedRoot cwd uploadRoot dir = .error e) :
    ∃ message, e = .badRequest message := by
  unfold resolveApprovedRoot at h
  simp only at h
  split at h
  · cases h
  · cases h
    exact ⟨_, rfl⟩

theorem plain_of_approved (h : dir ∈ APPROVED_UPLOAD_DIRS) : Plain dir := by
  have hall : ∀ d ∈ APPROVED_UPLOAD_DIRS,
      (d ≠ "" ∧ d ≠ "." ∧ d ≠ "..") ∧ '/' ∉ d.toList := by decide
  obtain ⟨⟨hempty, hhere, habove⟩, hslash⟩ := hall dir h
  exact ⟨hempty, hhere, habove, hslash⟩

namespace Accepted

theorem no_slash_of_mem (h : Accepted safePath dir below) :
    ∀ part ∈ "uploads" :: dir :: below, '/' ∉ part.toList := by
  intro part hpart
  rcases List.mem_cons.mp hpart with rfl | hpart
  · decide
  rcases List.mem_cons.mp hpart with rfl | hpart
  · exact (plain_of_approved h.approved).no_slash
  · exact h.no_slash part hpart

theorem withoutStart_eq (h : Accepted safePath dir below) :
    withoutStart "/uploads/" safePath = joinSlashes (dir :: below) := by
  have hstart : safePath = "/uploads/" ++ joinSlashes (dir :: below) := by
    rw [h.eq, joinSlashes_cons_cons, ← String.append_assoc, ← String.append_assoc]
    rfl
  rw [hstart, withoutStart_append]

/-- Below an upload root, the path leads to a place below the approved directory. -/
theorem walk_eq (h : Accepted safePath dir below) (here : List String) :
    walk here (joinSlashes (dir :: below))
      = here ++ dir :: below.filter fun part => part ≠ "" ∧ part ≠ "." := by
  have hplain := plain_of_approved h.approved
  have hslash : ∀ part ∈ dir :: below, '/' ∉ part.toList := fun part hpart =>
    h.no_slash_of_mem part (List.mem_cons_of_mem _ hpart)
  have habs : isAbsolute (joinSlashes (dir :: below)) = false := by
    obtain ⟨t, ht⟩ := joinSlashes_start dir below
    rw [ht]
    exact isAbsolute_append hplain t
  have hup : ".." ∉ dir :: below := by
    intro hmem
    rcases List.mem_cons.mp hmem with heq | hmem
    · exact hplain.not_above heq.symm
    · exact h.no_up hmem
  rw [walk, habs]
  simp only [Bool.false_eq_true, if_false]
  rw [splitSlashes_joinSlashes (List.cons_ne_nil _ _) hslash, normalizeParts_down hup,
    List.reverse_reverse, List.filter_cons_of_pos]
  simpa using ⟨hplain.nonempty, hplain.not_here⟩

end Accepted

/-! ## The two ends of a resolution -/

theorem target_of_resolveSafePath {target : SafeTarget}
    (h : resolveSafePath cwd uploadRoot input = .ok target) :
    ∃ safePath dir below, Accepted safePath dir below ∧
      target = ⟨resolvePath cwd [uploadRoot, joinSlashes (dir :: below)], safePath⟩ := by
  unfold resolveSafePath at h
  obtain ⟨safePath, hsafe, h⟩ := Except.exists_of_bind_eq_ok h
  obtain ⟨root, -, h⟩ := Except.exists_of_bind_eq_ok h
  obtain ⟨dir, below, haccepted⟩ := accepted_of_toSafeRelativePath hsafe
  refine ⟨safePath, dir, below, haccepted, ?_⟩
  rw [← haccepted.withoutStart_eq]
  simp only at h
  split at h
  · cases h
    rfl
  · cases h

theorem badRequest_of_resolveSafePath {e : Exn}
    (h : resolveSafePath cwd uploadRoot input = .error e) : ∃ message, e = .badRequest message := by
  unfold resolveSafePath at h
  cases hsafe : toSafeRelativePath input with
  | error e' =>
      rw [hsafe] at h
      cases h
      exact badRequest_of_toSafeRelativePath hsafe
  | ok safePath =>
      simp only [hsafe, bind, Except.bind] at h
      cases hroot : resolveApprovedRoot cwd uploadRoot ((splitSlashes safePath)[2]?.getD "") with
      | error e' =>
          simp only [hroot] at h
          cases h
          exact badRequest_of_resolveApprovedRoot hroot
      | ok root =>
          simp only [hroot] at h
          split at h
          · cases h
          · cases h
            exact ⟨_, rfl⟩

/-! ## Where a file to delete lies -/

/-- The request is refused, or the path leads into an approved directory of the upload root. -/
def Contained (cwd : WorkingDirectory) (uploadRoot : String) : Except Exn SafeTarget → Prop
  | .error e => ∃ message, e = .badRequest message
  | .ok target =>
      isAbsolute target.absolutePath = true ∧ ∃ dir ∈ APPROVED_UPLOAD_DIRS, ∃ below : List String,
        (∀ part ∈ below, Plain part) ∧
          locate cwd target.absolutePath = locate cwd uploadRoot ++ dir :: below

theorem contained_of_accepted (h : Accepted safePath dir below) :
    Contained cwd uploadRoot
      (.ok ⟨resolvePath cwd [uploadRoot, joinSlashes (dir :: below)], safePath⟩) := by
  have hwalks : walks cwd [uploadRoot, joinSlashes (dir :: below)]
      = locate cwd uploadRoot ++ dir :: below.filter fun part => part ≠ "" ∧ part ≠ "." := by
    rw [← h.walk_eq]
    exact walks_concat cwd [uploadRoot] _
  refine ⟨isAbsolute_resolvePath cwd _, dir, h.approved, _, ?_,
    (locate_resolvePath cwd _).trans hwalks⟩
  intro part hpart
  apply plain_walks cwd [uploadRoot, joinSlashes (dir :: below)]
  rw [hwalks]
  exact List.mem_append_right _ (List.mem_cons_of_mem dir hpart)

/-- No text of a path leads the cleaner out of the approved directories. -/
theorem resolveSafePath_contained (cwd : WorkingDirectory) (uploadRoot relativePath : String) :
    Contained cwd uploadRoot (resolveSafePath cwd uploadRoot relativePath) := by
  cases hresult : resolveSafePath cwd uploadRoot relativePath with
  | error e => exact badRequest_of_resolveSafePath hresult
  | ok target =>
      obtain ⟨safePath, dir, below, haccepted, rfl⟩ := target_of_resolveSafePath hresult
      exact contained_of_accepted haccepted

end StorageCleanupService

end CreativeBackend
