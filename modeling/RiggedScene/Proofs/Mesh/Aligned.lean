import RiggedScene.Proofs.Keyed
import RiggedScene.Shading
import Mathlib.Data.List.Basic
import Mathlib.Data.List.Induction

/-!
# Meshes stay aligned with their geometry

Materials, smoothing, UV layers and shape keys are lists beside the faces and the positions of a
mesh, by number. The faces are numbered like the polygons of the geometry.

* `MeshChange` are the changes that are made to a mesh once it is there;
* `Mesh.Aligned` says that all lists of a mesh fit its geometry;
* `Mesh.Aligned.apply` : a change keeps this, and `Mesh.Aligned.run` : it holds after any changes;
* `Mesh.notes_ofGeometry` : each empty face is noted once, in order.
-/

namespace RiggedScene

/-- A change of a mesh. Materials may be assigned by the groups of any geometry, and edges may be
marked with any table of the faces at each edge. -/
inductive MeshChange where
  | addUvLayer (s : UvSet)
  | addShapeKey (name : String) (deltas : List VertexDelta)
  | setShapeKey (name : String) (value : Float)
  | addVertexGroup (name : String) (weights : IndexMap Float)
  | setVertexGroup (name : String) (weights : IndexMap Float)
  | addSlot (name : String)
  | assignMaterial (material : Material) (g : Geometry) (slot : Nat) (edges : EdgeMap)
  | markSharp (face : Nat) (degrees : Float) (edges : EdgeMap)
  | computeNormals

namespace MeshChange

/-- The mesh after a change. -/
def apply : MeshChange → Mesh → Mesh
  | addUvLayer s, m => m.addUvLayer s
  | addShapeKey name deltas, m => m.addShapeKey name deltas
  | setShapeKey name value, m => m.setShapeKey name value
  | addVertexGroup name weights, m => m.addVertexGroup name weights
  | setVertexGroup name weights, m => m.setVertexGroup name weights
  | addSlot name, m => m.addSlot name
  | assignMaterial material g slot edges, m => (Mesh.assignMaterial material g slot edges m).1
  | markSharp face degrees edges, m => m.markSharp face degrees edges
  | computeNormals, m => m.withNormals

end MeshChange

namespace Mesh

/-- The mesh after some changes. -/
def run (cs : List MeshChange) (m : Mesh) : Mesh := cs.foldl (fun m c => c.apply m) m

/-- The corners that the face of a polygon has: those of the polygon if it has at least three, all
distinct and all vertices of the geometry, and else none. -/
def expectedFace (g : Geometry) (p : Polygon) : List Nat :=
  if 3 ≤ p.vertices.length ∧ p.vertices.Nodup ∧ ∀ v ∈ p.vertices, v < g.vertices.length then
    p.vertices
  else []

/-- All lists of a mesh fit the geometry it was made from. -/
structure Aligned (g : Geometry) (m : Mesh) : Prop where
  positions : m.positions.length = g.vertices.length
  /-- One face for each polygon, in order. -/
  faces : m.faces = g.polygons.map (expectedFace g)
  faceMaterials : m.faceMaterials.length = m.faces.length
  faceSmooth : m.faceSmooth.length = m.faces.length
  /-- A layer has a list for each face, and in it a point for each corner. -/
  uvLayers : ∀ l ∈ m.uvLayers, l.faces.map List.length = m.faces.map List.length
  /-- A shape key has a position for each vertex. -/
  shapeKeys : ∀ k ∈ m.shapeKeys, k.positions.length = m.positions.length

variable {g : Geometry} {m : Mesh}

theorem faceOf_eq_expectedFace (p : Polygon) : faceOf g.vertices.length p = expectedFace g p := by
  simp [faceOf, isFace, Polygon.isValid, expectedFace, and_assoc]

theorem lt_of_mem_expectedFace {p : Polygon} {v : Nat} (h : v ∈ expectedFace g p) :
    v < g.vertices.length := by
  unfold expectedFace at h
  split at h
  · next hface => exact hface.2.2 v h
  · cases h

/-! ### The mesh of a geometry -/

/-- Groups, slots, sharp edges and normals do not count. -/
theorem Aligned.of_eq {m' : Mesh} (h : Aligned g m) (hpositions : m'.positions = m.positions)
    (hfaces : m'.faces = m.faces) (hmaterials : m'.faceMaterials.length = m.faceMaterials.length)
    (hsmooth : m'.faceSmooth.length = m.faceSmooth.length) (huv : m'.uvLayers = m.uvLayers)
    (hkeys : m'.shapeKeys = m.shapeKeys) : Aligned g m' := by
  constructor
  · rw [hpositions, h.positions]
  · rw [hfaces, h.faces]
  · rw [hmaterials, hfaces, h.faceMaterials]
  · rw [hsmooth, hfaces, h.faceSmooth]
  · rw [huv, hfaces]
    exact h.uvLayers
  · rw [hkeys, hpositions]
    exact h.shapeKeys

theorem Aligned.addUvLayer (h : Aligned g m) (s : UvSet) : Aligned g (m.addUvLayer s) := by
  unfold Mesh.addUvLayer
  split
  · exact h
  · refine { h with uvLayers := fun l hl => ?_ }
    rcases List.mem_append.1 hl with hl | hl
    · exact h.uvLayers l hl
    · obtain rfl := List.mem_singleton.1 hl
      refine List.ext_getElem? fun i => ?_
      simp [UvSet.face, Function.comp_def]

theorem Aligned.addVertexGroup (h : Aligned g m) (name : String) (weights : IndexMap Float) :
    Aligned g (m.addVertexGroup name weights) :=
  h.of_eq rfl rfl rfl rfl rfl rfl

theorem Aligned.addGroups (h : Aligned g m) (sets : List VertexSet) :
    Aligned g (m.addGroups sets) := by
  unfold Mesh.addGroups
  induction sets generalizing m with
  | nil => exact h
  | cons s sets ih => exact ih (h.addVertexGroup s.name _)

theorem aligned_ofGeometry (g : Geometry) (origin : Vec3) : Aligned g (ofGeometry g origin).1 := by
  have hbare : Aligned g (ofFaces g.id (g.vertices.map fun v => v.sub origin)
      (g.polygons.map (faceOf g.vertices.length))) := by
    constructor <;> simp [ofFaces, faceOf_eq_expectedFace]
  have hgrouped := hbare.addGroups (g.polyGroups ++ g.materialGroups)
  unfold ofGeometry
  dsimp only
  split
  · exact hgrouped.addUvLayer _
  · exact hgrouped

/-! ### Changes -/

theorem length_foldl_moved (deltas : List VertexDelta) (positions : List Vec3) :
    (deltas.foldl moved positions).length = positions.length := by
  induction deltas generalizing positions with
  | nil => rfl
  | cons d deltas ih => simp [ih, moved]

theorem Aligned.addShapeKey (h : Aligned g m) (name : String) (deltas : List VertexDelta) :
    Aligned g (m.addShapeKey name deltas) := by
  have hbasis : ∀ k ∈ m.keysWithBasis, k.positions.length = m.positions.length := by
    intro k hk
    unfold keysWithBasis at hk
    split at hk
    · obtain rfl := List.mem_singleton.1 hk
      rfl
    · exact h.shapeKeys k hk
  refine { h with shapeKeys := fun k hk => ?_ }
  rcases List.mem_append.1 hk with hk | hk
  · exact hbasis k (List.mem_filter.1 hk).1
  · obtain rfl := List.mem_singleton.1 hk
    exact length_foldl_moved deltas m.positions

theorem Aligned.setShapeKey (h : Aligned g m) (name : String) (value : Float) :
    Aligned g (m.setShapeKey name value) := by
  have hlengths : (m.setShapeKey name value).shapeKeys.map (fun k => k.positions.length) =
      m.shapeKeys.map fun k => k.positions.length := Keyed.map_modify fun _ => rfl
  refine { h with shapeKeys := ?_ }
  have hkeys : ∀ n ∈ m.shapeKeys.map (fun k => k.positions.length), n = m.positions.length :=
    List.forall_mem_map.2 h.shapeKeys
  rw [← hlengths] at hkeys
  exact List.forall_mem_map.1 hkeys

theorem Aligned.markSharp (h : Aligned g m) (face : Nat) (degrees : Float) (edges : EdgeMap) :
    Aligned g (m.markSharp face degrees edges) :=
  h.of_eq rfl rfl rfl rfl rfl rfl

theorem Aligned.assignFace (h : Aligned g m) (slot : Nat) (smooth : Bool) (angle : Option Float)
    (edges : EdgeMap) (face : Nat) : Aligned g (assignFace slot smooth angle edges m face) := by
  have hset : Aligned g { m with
      faceMaterials := m.faceMaterials.set face (some slot)
      faceSmooth := m.faceSmooth.set face smooth } :=
    h.of_eq rfl rfl List.length_set List.length_set rfl rfl
  cases angle with
  | none => exact hset
  | some degrees => exact hset.markSharp face degrees edges

theorem Aligned.foldl_assignFace (h : Aligned g m) (slot : Nat) (smooth : Bool)
    (angle : Option Float) (edges : EdgeMap) (faces : List Nat) :
    Aligned g (faces.foldl (Mesh.assignFace slot smooth angle edges) m) := by
  induction faces generalizing m with
  | nil => exact h
  | cons face faces ih => exact ih (h.assignFace slot smooth angle edges face)

/-- **Every change keeps the lists of a mesh aligned.** -/
theorem Aligned.apply (h : Aligned g m) (c : MeshChange) : Aligned g (c.apply m) := by
  cases c with
  | addUvLayer s => exact h.addUvLayer s
  | addShapeKey name deltas => exact h.addShapeKey name deltas
  | setShapeKey name value => exact h.setShapeKey name value
  | addVertexGroup name weights => exact h.addVertexGroup name weights
  | setVertexGroup name weights => exact h.of_eq rfl rfl rfl rfl rfl rfl
  | addSlot name => exact h.of_eq rfl rfl rfl rfl rfl rfl
  | assignMaterial material g' slot edges => exact h.foldl_assignFace slot _ _ edges _
  | markSharp face degrees edges => exact h.markSharp face degrees edges
  | computeNormals => exact h.of_eq rfl rfl rfl rfl rfl rfl

theorem Aligned.run (h : Aligned g m) (cs : List MeshChange) : Aligned g (m.run cs) := by
  induction cs generalizing m with
  | nil => exact h
  | cons c cs ih => exact ih (h.apply c)

/-! ### What is noted -/

/-- The numbers of the empty faces, in ascending order. -/
def emptyFaces (m : Mesh) : List Nat :=
  (List.range m.faceCount).filter fun i => m.corners i = []

/-- The numbers of the elements that satisfy `p`. -/
theorem map_fst_filter_mapIdx {α : Type} (p : α → Bool) (xs : List α) :
    ((xs.mapIdx fun i x => (i, x)).filter fun e => p e.2).map Prod.fst =
      (List.range xs.length).filter fun i => (xs[i]?).any p := by
  induction xs using List.reverseRecOn with
  | nil => rfl
  | append_singleton xs x ih =>
    have hbefore : ((List.range xs.length).filter fun i => ((xs ++ [x])[i]?).any p) =
        (List.range xs.length).filter fun i => (xs[i]?).any p :=
      List.filter_congr fun i hi => by rw [List.getElem?_append_left (List.mem_range.1 hi)]
    rw [List.mapIdx_concat, List.filter_append, List.map_append, ih, List.length_append,
      List.length_singleton, List.range_succ, List.filter_append, hbefore]
    cases hx : p x <;> simp [hx]

theorem expectedFace_eq_nil_iff {p : Polygon} :
    expectedFace g p = [] ↔ isFace g.vertices.length p = false := by
  rw [← faceOf_eq_expectedFace, faceOf]
  cases hface : isFace g.vertices.length p with
  | false => simp
  | true =>
    -- a face has at least three corners
    have hlength : 3 ≤ p.vertices.length := by
      simp only [isFace, Polygon.isValid, Bool.and_eq_true, decide_eq_true_eq] at hface
      exact hface.1.1
    simpa using List.ne_nil_of_length_pos (by omega)

/-- **Each empty face is noted once, in order.** -/
theorem notes_ofGeometry (g : Geometry) (origin : Vec3) : (ofGeometry g origin).2 =
    (ofGeometry g origin).1.emptyFaces.map (.malformedFace g.id) := by
  have haligned := aligned_ofGeometry g origin
  have hmalformed : malformedFaces g = (ofGeometry g origin).1.emptyFaces := by
    rw [malformedFaces, map_fst_filter_mapIdx fun p => !isFace g.vertices.length p, emptyFaces,
      faceCount, haligned.faces, List.length_map]
    refine List.filter_congr fun i hi => ?_
    obtain ⟨p, hp⟩ : ∃ p, g.polygons[i]? = some p :=
      ⟨_, List.getElem?_eq_getElem (List.mem_range.1 hi)⟩
    simp only [corners, haligned.faces, List.getElem?_map, hp, Option.map_some, Option.getD_some,
      Option.any_some, expectedFace_eq_nil_iff]
    cases isFace g.vertices.length p <;> rfl
  rw [← hmalformed]
  rfl

end Mesh

end RiggedScene
