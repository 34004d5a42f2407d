import RiggedScene.Mesh.Basic
import RiggedScene.Proofs.Keyed
import Mathlib.Data.List.Induction

/-!
# The vertices of groups

A group weighs vertices by number. The groups of a geometry come from the polygons as they are
written, not from the faces of its mesh, and a group may be set to any weights, so that nothing
bounds the numbers in it.

* `Geometry.mem_indices_iff` : the vertices of a group of a geometry are those of the polygons in
  it, malformed ones included;
* `VertexGroup.replace` is what groups become when others are set one after another, and
  `VertexGroup.mem_replace_iff` : a group stays unless one of its name is set, and of those that are
  set under one name the last one stays;
* `Grouping.InRange` says that groups weigh vertices that exist only;
* `Mesh.grouping_ofGeometry` and `Mesh.grouping_setGroups` : the mesh of a geometry starts with the
  groups of the geometry, and others replace them.
-/

namespace RiggedScene

/-! ### Sets and maps of indices -/

theorem IndexSet.mem_insert {i j : Nat} {s : IndexSet} : j ∈ insert i s ↔ j = i ∨ j ∈ s := by
  fun_induction insert i s with
  | case1 => simp
  | case2 k ks _ => simp
  | case3 k ks _ _ ih =>
    simp only [List.mem_cons, ih]
    exact or_left_comm
  | case4 k ks hle hge =>
    obtain rfl : i = k := by omega
    simp

theorem IndexSet.mem_ofList {j : Nat} {is : List Nat} : j ∈ ofList is ↔ j ∈ is := by
  induction is using List.reverseRecOn with
  | nil => rfl
  | append_singleton is i ih =>
    rw [ofList, insertAll] at ih ⊢
    simp [List.foldl_append, mem_insert, ih, or_comm]

section IndexMap

variable {α : Type}

theorem IndexMap.mem_keys_insert {e : Nat × α} {i : Nat} {m : IndexMap α} :
    i ∈ (insert e m).map Prod.fst ↔ i = e.1 ∨ i ∈ m.map Prod.fst := by
  fun_induction insert e m with
  | case1 => simp
  | case2 d ds _ => simp
  | case3 d ds _ _ ih =>
    simp only [List.map_cons, List.mem_cons, ih]
    exact or_left_comm
  | case4 d ds hle hge =>
    have hsame : e.1 = d.1 := by omega
    simp [hsame]

/-- The map has the indices of the list. -/
theorem IndexMap.mem_keys_ofList {i : Nat} {es : List (Nat × α)} :
    i ∈ (ofList es).map Prod.fst ↔ i ∈ es.map Prod.fst := by
  induction es using List.reverseRecOn with
  | nil => rfl
  | append_singleton es e ih =>
    rw [ofList, insertAll] at ih ⊢
    rw [List.foldl_append, List.foldl_cons, List.foldl_nil, mem_keys_insert, ih, List.map_append,
      List.mem_append, List.map_singleton, List.mem_singleton, or_comm]

end IndexMap

/-! ### Groups of a geometry -/

namespace VertexGroup

/-- The numbers of the vertices that are weighed. -/
def indices (x : VertexGroup) : List Nat := x.weights.map Prod.fst

/-- The group of weight one for a set of vertices. -/
def ofSet (s : VertexSet) : VertexGroup := ⟨s.name, s.vertices.map fun v => (v, 1.0)⟩

@[simp] theorem indices_ofSet (s : VertexSet) : (ofSet s).indices = s.vertices := by
  simp [indices, ofSet, Function.comp_def]

end VertexGroup

namespace Geometry

variable (g : Geometry)

/-- The polygon and material groups as vertex groups. -/
def vertexGroups : List VertexGroup := (g.polyGroups ++ g.materialGroups).map VertexGroup.ofSet

/-- The polygon is in a polygon group or a material group of this name. -/
def InGroup (p : Polygon) (name : String) : Prop :=
  (∃ i, p.polyGroup = some i ∧ g.polyGroupNames[i]? = some name) ∨
    ∃ i, p.materialGroup = some i ∧ g.materialGroupNames[i]? = some name

variable {g}

theorem mem_groupSets_iff {names : List String} {group : Polygon → Option Nat} {name : String}
    {v : Nat} : (∃ s ∈ g.groupSets names group, s.name = name ∧ v ∈ s.vertices) ↔
      ∃ p ∈ g.polygons, (∃ i, group p = some i ∧ names[i]? = some name) ∧ v ∈ p.vertices := by
  -- the vertices of a group are sorted and have no repetitions, but they are the same
  have hset : ∀ i, v ∈ g.groupVertices group i ↔
      ∃ p ∈ g.polygons, group p = some i ∧ v ∈ p.vertices := by
    intro i
    simp [groupVertices, IndexSet.mem_ofList, and_assoc]
  constructor
  · rintro ⟨s, hs, rfl, hv⟩
    obtain ⟨i, hi, rfl⟩ := List.mem_mapIdx.1 hs
    obtain ⟨p, hp, hgroup, hv⟩ := (hset i).1 hv
    exact ⟨p, hp, ⟨i, hgroup, List.getElem?_eq_getElem hi⟩, hv⟩
  · rintro ⟨p, hp, ⟨i, hgroup, hname⟩, hv⟩
    obtain ⟨hi, rfl⟩ := List.getElem?_eq_some_iff.1 hname
    exact ⟨_, List.mem_mapIdx.2 ⟨i, hi, rfl⟩, rfl, (hset i).2 ⟨p, hp, hgroup, hv⟩⟩

/-- **The groups of a geometry have the vertices of all polygons in them**, whether or not a polygon
makes a face. -/
theorem mem_indices_iff {name : String} {v : Nat} :
    (∃ x ∈ g.vertexGroups, x.name = name ∧ v ∈ x.indices) ↔
      ∃ p ∈ g.polygons, g.InGroup p name ∧ v ∈ p.vertices := by
  have hsets : (∃ x ∈ g.vertexGroups, x.name = name ∧ v ∈ x.indices) ↔
      ∃ s ∈ g.polyGroups ++ g.materialGroups, s.name = name ∧ v ∈ s.vertices := by
    constructor
    · rintro ⟨x, hx, hname, hv⟩
      obtain ⟨s, hs, rfl⟩ := List.mem_map.1 hx
      exact ⟨s, hs, hname, VertexGroup.indices_ofSet s ▸ hv⟩
    · rintro ⟨s, hs, hname, hv⟩
      exact ⟨_, List.mem_map_of_mem hs, hname, (VertexGroup.indices_ofSet s).symm ▸ hv⟩
  simp only [hsets, List.mem_append, or_and_right, exists_or, polyGroups, materialGroups,
    mem_groupSets_iff, InGroup, and_or_left]

end Geometry

/-! ### Groups that are set -/

namespace VertexGroup

/-- Groups after others have been set: all of the same names make way. -/
def replace (new old : List VertexGroup) : List VertexGroup :=
  old.filter (fun x => x.name ∉ new.map name) ++ new.pwFilter fun x y => x.name ≠ y.name

variable {x : VertexGroup} {new old : List VertexGroup}

theorem replace_eq : replace new old = Keyed.replace name new old := rfl

@[simp] theorem replace_nil (old : List VertexGroup) : replace [] old = old := Keyed.replace_nil old

theorem replace_append (first next : List VertexGroup) :
    replace (first ++ next) old = replace next (replace first old) := Keyed.replace_append first next

/-- **A group stays unless one of its name is set, and of those set the last of each name
stays.** -/
theorem mem_replace_iff : x ∈ replace new old ↔ (x ∈ old ∧ x.name ∉ new.map name) ∨
    ∃ before after, new = before ++ x :: after ∧ x.name ∉ after.map name := Keyed.mem_replace_iff

end VertexGroup

/-! ### Groups of a mesh -/

/-- What groups are about: a number of vertices, and the groups. -/
abbrev Grouping := Nat × List VertexGroup

namespace Grouping

variable {n : Nat} {new old : List VertexGroup}

/-- The groups weigh vertices that exist only. -/
def InRange (x : Grouping) : Prop := ∀ y ∈ x.2, ∀ v ∈ y.indices, v < x.1

/-- The same vertices with other groups set. -/
def setting (new : List VertexGroup) (x : Grouping) : Grouping :=
  (x.1, VertexGroup.replace new x.2)

theorem setting_append (first next : List VertexGroup) (x : Grouping) :
    setting (first ++ next) x = setting next (setting first x) :=
  congrArg (x.1, ·) (VertexGroup.replace_append first next)

theorem inRange_setting_iff : InRange (setting new (n, old)) ↔
    (∀ x ∈ old, x.name ∉ new.map VertexGroup.name → ∀ v ∈ x.indices, v < n) ∧
      ∀ before x after, new = before ++ x :: after → x.name ∉ after.map VertexGroup.name →
        ∀ v ∈ x.indices, v < n := by
  simp only [InRange, setting, VertexGroup.mem_replace_iff]
  constructor
  · intro h
    exact ⟨fun x hx hname => h x (.inl ⟨hx, hname⟩),
      fun before x after heq hname => h x (.inr ⟨before, after, heq, hname⟩)⟩
  · rintro ⟨hold, hnew⟩ x (⟨hx, hname⟩ | ⟨before, after, heq, hname⟩)
    · exact hold x hx hname
    · exact hnew before x after heq hname

end Grouping

/-- The vertices of a geometry and its groups. -/
def Geometry.grouping (g : Geometry) : Grouping := (g.vertices.length, g.vertexGroups)

namespace Mesh

/-- The vertices of a mesh and its groups. -/
def grouping (m : Mesh) : Grouping := (m.vertexCount, m.vertexGroups)

/-- Sets groups one after another. -/
def setGroups (new : List VertexGroup) (m : Mesh) : Mesh :=
  new.foldl (fun m x => m.setVertexGroup x.name x.weights) m

theorem grouping_setGroups (new : List VertexGroup) (m : Mesh) :
    (m.setGroups new).grouping = m.grouping.setting new := by
  induction new generalizing m with
  | nil =>
    rw [Grouping.setting, VertexGroup.replace_nil]
    rfl
  | cons x new ih =>
    have hset : m.setVertexGroup x.name x.weights =
        { m with vertexGroups := (m.vertexGroups.filter fun y => y.name ≠ x.name) ++ [x] } := by
      simp only [setVertexGroup, bne, beq_eq_decide, decide_not]
    rw [Grouping.setting, VertexGroup.replace_eq, Keyed.replace_cons]
    exact (ih (m.setVertexGroup x.name x.weights)).trans (by rw [hset]; rfl)

theorem grouping_addGroups (sets : List VertexSet) (m : Mesh) : (m.addGroups sets).grouping =
    (m.vertexCount, m.vertexGroups ++ sets.map VertexGroup.ofSet) := by
  unfold addGroups
  induction sets generalizing m with
  | nil => simp [grouping]
  | cons s sets ih =>
    refine (ih (m.addVertexGroup s.name _)).trans ?_
    simp [addVertexGroup, vertexCount, VertexGroup.ofSet]

@[simp] theorem grouping_addUvLayer (m : Mesh) (s : UvSet) :
    (m.addUvLayer s).grouping = m.grouping := by
  unfold addUvLayer
  split <;> rfl

/-- **The mesh of a geometry starts with the groups of the geometry.** -/
theorem grouping_ofGeometry (g : Geometry) (origin : Vec3) :
    (ofGeometry g origin).1.grouping = g.grouping := by
  have hgroups := grouping_addGroups (g.polyGroups ++ g.materialGroups)
    (ofFaces g.id (g.vertices.map fun v => v.sub origin)
      (g.polygons.map (faceOf g.vertices.length)))
  have hgrouping : (g.vertices.length, g.vertexGroups) = g.grouping := rfl
  rw [← hgrouping]
  unfold ofGeometry
  dsimp only
  split
  · rw [grouping_addUvLayer, hgroups]
    simp [ofFaces, vertexCount, Geometry.vertexGroups]
  · rw [hgroups]
    simp [ofFaces, vertexCount, Geometry.vertexGroups]

end Mesh

end RiggedScene
