import CreativeBackend.Deletion.Locations

/-!
# The subtree of some zones

`collectZoneSubtree` takes any zones, whatever their parents are: links may go round or lead
nowhere. The search ends, no zone is collected twice, and a zone comes after its parent.
-/

namespace CreativeBackend.Deletion

open Relational

variable {zones : List Row} {rootIds : List Id}

/-- A zone that names `parent` is `child`. -/
def ParentLink (zones : List Row) (parent child : Id) : Prop :=
  ∃ z ∈ zones, z.ref .zoneParentId = some parent ∧ z.id = child

/-- As in the source, an empty parent id names no parent. -/
def ChildLink (zones : List Row) (parent child : Id) : Prop :=
  parent ≠ "" ∧ ParentLink zones parent child

/-- The search ends with these levels, and they are the subtree of the roots over `link`. -/
structure ExactSubtree (link : Id → Id → Prop) (zones : List Row) (rootIds : List Id)
    (levels : List (List Id)) : Prop where
  terminates : LevelRun (childrenByParent zones) [] rootIds.eraseDups levels
  nodup : levels.flatten.Nodup
  exact : ∀ id, id ∈ levels.flatten ↔ ∃ root ∈ rootIds, Relation.ReflTransGen link root id
  later : ∀ (i : Nat) (level : List Id), levels[i]? = some level →
    ∀ z ∈ zones, z.id ∈ level → z.id ∉ rootIds →
      ∃ parent, z.ref .zoneParentId = some parent ∧
        ∃ j < i, ∃ earlier : List Id, levels[j]? = some earlier ∧ parent ∈ earlier

theorem childLink_iff {parent child : Id} :
    ChildLink zones parent child ↔ child ∈ childrenByParent zones parent := by
  rw [mem_childrenByParent]
  constructor
  · rintro ⟨hne, z, hz, href, hid⟩
    exact ⟨z, hz, href, hne, hid⟩
  · rintro ⟨z, hz, href, hne, hid⟩
    exact ⟨hne, z, hz, href, hid⟩

/-- The zones of one list are told apart by their ids. -/
theorem eq_of_nodup_ids (h : (zones.map (·.id)).Nodup) {z z' : Row} (hz : z ∈ zones)
    (hz' : z' ∈ zones) (hid : z.id = z'.id) : z = z' :=
  List.inj_on_of_nodup_map h hz hz' hid

theorem nodup_childrenByParent (h : (zones.map (·.id)).Nodup) (id : Id) :
    (childrenByParent zones id).Nodup := by
  have hsub : (childrenByParent zones id).Sublist (zones.map (·.id)) :=
    List.filter_sublist.map _
  exact hsub.nodup h

/-- A zone has one parent. -/
theorem childrenByParent_single (h : (zones.map (·.id)).Nodup) (a b : Id) :
    ∀ x ∈ childrenByParent zones a, x ∈ childrenByParent zones b → a = b := by
  intro x ha hb
  obtain ⟨z, hz, hza, -, hid⟩ := mem_childrenByParent.mp ha
  obtain ⟨z', hz', hzb, -, hid'⟩ := mem_childrenByParent.mp hb
  have hsame := eq_of_nodup_ids h hz hz' (hid.trans hid'.symm)
  rw [hsame, hzb] at hza
  exact (Option.some.inj hza).symm

section Space

variable (zones rootIds)

/-- The roots and the zones are all that the search can come to. -/
def space : List Id := rootIds ++ zones.map (·.id)

theorem mem_space : ∀ a ∈ rootIds.eraseDups, a ∈ space zones rootIds := by
  intro a ha
  exact List.mem_append_left _ (List.mem_eraseDups.mp ha)

theorem childrenByParent_space : ∀ a ∈ space zones rootIds, ∀ b ∈ childrenByParent zones a,
    b ∈ space zones rootIds := by
  intro a _ b hb
  obtain ⟨z, hz, -, -, rfl⟩ := mem_childrenByParent.mp hb
  exact List.mem_append_right _ (List.mem_map_of_mem hz)

theorem length_space_lt : (space zones rootIds).length < rootIds.length + zones.length + 1 := by
  simp [space]

theorem collectZoneSubtree_run :
    LevelRun (childrenByParent zones) [] rootIds.eraseDups (collectZoneSubtree zones rootIds) := by
  apply levelRun_levelsFrom (childrenByParent_space zones rootIds) (mem_space zones rootIds)
  exact Nat.lt_of_le_of_lt (List.length_filter_le _ _) (length_space_lt zones rootIds)

end Space

theorem collectZoneSubtree_exact (zones : List Row) (rootIds : List Id)
    (h : (zones.map (·.id)).Nodup) :
    ExactSubtree (ChildLink zones) zones rootIds (collectZoneSubtree zones rootIds) := by
  have hrun := collectZoneSubtree_run zones rootIds
  have hroots : rootIds.eraseDups.Nodup := nodup_eraseDups rootIds
  refine ⟨hrun, ?_, ?_, ?_⟩
  · exact (hrun.nodup (nodup_childrenByParent h) (childrenByParent_single h) hroots).1
  · intro id
    have hlink : (fun a b => b ∈ childrenByParent zones a) = ChildLink zones := by
      funext a b
      exact propext childLink_iff.symm
    rw [collectZoneSubtree, mem_levelsFrom_iff (childrenByParent_space zones rootIds)
      (mem_space zones rootIds) (length_space_lt zones rootIds), hlink]
    simp only [List.mem_eraseDups]
  · intro i level hlevel z hz hin hnot
    cases i with
    | zero => exact absurd (List.mem_eraseDups.mp (hrun.mem_first hlevel hin)) hnot
    | succ i =>
        obtain ⟨earlier, hearlier, p, hp, hchild⟩ := hrun.mem_later hlevel hin
        obtain ⟨z', hz', href, -, hid⟩ := mem_childrenByParent.mp hchild
        rw [eq_of_nodup_ids h hz' hz hid] at href
        exact ⟨p, href, i, Nat.lt_succ_self i, earlier, hearlier, hp⟩

/-- Two halls below each other, a desk below one of them and a booth below nothing. -/
def loopedZones : List Row :=
  [row "east" [(.zoneParentId, "west")], row "west" [(.zoneParentId, "east")],
    row "desk" [(.zoneParentId, "west")], row "booth" [(.zoneParentId, "gone")]]

/-- The search from a hall, named twice, goes round once. -/
theorem collectZoneSubtree_looped : (loopedZones.map (·.id)).Nodup ∧
    ExactSubtree (ChildLink loopedZones) loopedZones ["east", "east"]
      (collectZoneSubtree loopedZones ["east", "east"]) :=
  have h : (loopedZones.map (·.id)).Nodup := by decide
  ⟨h, collectZoneSubtree_exact loopedZones _ h⟩

example : collectZoneSubtree loopedZones ["east", "east"] = [["east"], ["west"], ["desk"]] := by
  decide

/-- A parent id that is empty is not followed. -/
theorem not_collectZoneSubtree_exact : ∃ (zones : List Row) (rootIds : List Id),
    (zones.map (·.id)).Nodup ∧
      ¬ ExactSubtree (ParentLink zones) zones rootIds (collectZoneSubtree zones rootIds) := by
  refine ⟨[row "desk" [(.zoneParentId, "")]], [""], by decide, fun h => ?_⟩
  have hlink : ParentLink [row "desk" [(.zoneParentId, "")]] "" "desk" :=
    ⟨_, List.mem_singleton_self _, rfl, rfl⟩
  have hmem := (h.exact "desk").mpr ⟨"", List.mem_singleton_self _, .single hlink⟩
  revert hmem
  decide

end CreativeBackend.Deletion
