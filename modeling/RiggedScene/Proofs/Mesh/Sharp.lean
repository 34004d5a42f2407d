import RiggedScene.Proofs.Mesh.EdgeFaces

/-!
# Sharp edges in any order of the faces

A face marks those of its edges that are sharp. Whether an edge is sharp is up to the two faces that
the table has for it, so that it does not matter which of them marks it, nor how often.

* `Mesh.SharedBy` and `Mesh.Bends` say which two faces are at an edge and whether they bend there,
  and `Mesh.mem_sharpEdges_markSharp` : such edges a face marks;
* `Mesh.markSharpAll_eq` : faces that mark their edges one after the other do nothing else;
* `Mesh.edgeFaces_markSharpAll` : the table, what a face marks with it, and that the order of the
  faces does not matter.
-/

namespace RiggedScene

namespace Mesh

variable {m m' : Mesh} {e : Edge} {is : List Nat} {f g face : Nat} {degrees : Float}
  {edges : EdgeMap} {fs fs' : List Nat}

/-! ### The faces that meet at an edge -/

/-- Two faces are at an edge, the one of the lower number first, and no others. -/
def SharedBy (m : Mesh) (e : Edge) (f g : Nat) : Prop :=
  f < g ∧ ∀ i, e.Joins (m.corners i) ↔ i = f ∨ i = g

/-- Two faces that have an area meet at `degrees` or more. -/
def Bends (m : Mesh) (degrees : Float) (f g : Nat) : Prop :=
  (m.faceNormal f).same Vec3.zero = false ∧ (m.faceNormal g).same Vec3.zero = false ∧
    Units.toDegrees ((m.faceNormal f).angleBetween (m.faceNormal g)) ≥ degrees

theorem isSharp_iff : m.isSharp degrees edges e = true ↔
    ∃ f g, edges.faces? e = some [f, g] ∧ m.Bends degrees f g := by
  unfold isSharp Bends
  split
  · next f g hfaces =>
    simp only [Bool.and_eq_true, Bool.not_eq_true', decide_eq_true_eq, and_assoc]
    constructor
    · intro hbends
      exact ⟨f, g, hfaces, hbends⟩
    · rintro ⟨f', g', heq, hbends⟩
      obtain ⟨rfl, rfl⟩ : f = f' ∧ g = g' := by simpa [hfaces] using heq
      exact hbends
  · next hother =>
    refine iff_of_false Bool.false_ne_true ?_
    rintro ⟨f, g, hfaces, -⟩
    exact hother f g hfaces

theorem faces?_edgeFaces_eq_pair_iff (h : ∀ face ∈ m.faces, ProperFace face) :
    m.edgeFaces.faces? e = some [f, g] ↔ e.1 < e.2 ∧ m.SharedBy e f g := by
  rw [faces?_edgeFaces_eq_some_iff h]
  simp [SharedBy, iff_comm]

/-! ### Marking -/

theorem newellSum_congr (h : m'.positions = m.positions) (first : Nat) (sum : Vec3)
    (cs : List Nat) : m'.newellSum first sum cs = m.newellSum first sum cs := by
  fun_induction m.newellSum first sum cs with
  | case1 sum => rfl
  | case2 sum a => rw [newellSum, position, position, h]; rfl
  | case3 sum a b rest ih => rw [newellSum, position, position, h]; exact ih

theorem normalOf_congr (h : m'.positions = m.positions) (cs : List Nat) :
    m'.normalOf cs = m.normalOf cs := by
  cases cs with
  | nil => rfl
  | cons a rest => rw [normalOf, newellSum_congr h, normalOf]

theorem faceNormal_congr (hpositions : m'.positions = m.positions) (hfaces : m'.faces = m.faces) :
    m'.faceNormal face = m.faceNormal face := by
  rw [faceNormal, corners, hfaces, normalOf_congr hpositions]
  rfl

theorem isSharp_congr (hpositions : m'.positions = m.positions) (hfaces : m'.faces = m.faces) :
    m'.isSharp degrees edges e = m.isSharp degrees edges e := by
  unfold isSharp
  simp only [faceNormal_congr hpositions hfaces]

theorem markSharp_withSharpEdges (s : EdgeSet) :
    ({ m with sharpEdges := s } : Mesh).markSharp face degrees edges = { m with
      sharpEdges := s.insertAll ((m.faceEdges face).filter (m.isSharp degrees edges)) } := by
  have hsharp : ({ m with sharpEdges := s } : Mesh).isSharp degrees edges =
      m.isSharp degrees edges := funext fun _ => isSharp_congr rfl rfl
  rw [markSharp, hsharp]
  rfl

/-- The mesh after some faces have marked their sharp edges, one after the other. -/
def markSharpAll (fs : List Nat) (degrees : Float) (edges : EdgeMap) (m : Mesh) : Mesh :=
  fs.foldl (fun m face => m.markSharp face degrees edges) m

/-- The edges that some faces mark, one face after the other. -/
def sharpEdgesOf (m : Mesh) (fs : List Nat) (degrees : Float) (edges : EdgeMap) : List Edge :=
  fs.flatMap fun face => (m.faceEdges face).filter (m.isSharp degrees edges)

theorem mem_sharpEdgesOf_iff : e ∈ m.sharpEdgesOf fs degrees edges ↔
    ∃ face ∈ fs, e ∈ m.faceEdges face ∧ m.isSharp degrees edges e = true := by
  simp only [sharpEdgesOf, List.mem_flatMap, List.mem_filter]

/-- **Marking adds the sharp edges of the faces and changes nothing else.** -/
theorem markSharpAll_eq : m.markSharpAll fs degrees edges =
    { m with sharpEdges := m.sharpEdges.insertAll (m.sharpEdgesOf fs degrees edges) } := by
  induction fs using List.reverseRecOn with
  | nil => rfl
  | append_singleton fs face ih =>
    have hedges : m.sharpEdgesOf (fs ++ [face]) degrees edges = m.sharpEdgesOf fs degrees edges ++
        (m.faceEdges face).filter (m.isSharp degrees edges) := by
      rw [sharpEdgesOf, List.flatMap_append, List.flatMap_singleton]
      rfl
    rw [markSharpAll, List.foldl_concat, ← markSharpAll, ih, markSharp_withSharpEdges, hedges,
      EdgeSet.insertAll_append]

theorem mem_sharpEdges_markSharpAll : e ∈ (m.markSharpAll fs degrees edges).sharpEdges ↔
    e ∈ m.sharpEdges ∨ ∃ face ∈ fs, e ∈ m.faceEdges face ∧ m.isSharp degrees edges e = true := by
  rw [markSharpAll_eq, ← mem_sharpEdgesOf_iff]
  exact EdgeSet.mem_insertAll

/-- With the table of the mesh a face marks those of its edges that it shares with one other face,
if the two bend there. -/
theorem mem_sharpEdges_markSharp (h : ∀ face ∈ m.faces, ProperFace face) :
    e ∈ (m.markSharp face degrees m.edgeFaces).sharpEdges ↔ e ∈ m.sharpEdges ∨
      e.1 < e.2 ∧ e.Joins (m.corners face) ∧ ∃ f g, m.SharedBy e f g ∧ m.Bends degrees f g := by
  have hall : m.markSharp face degrees m.edgeFaces = m.markSharpAll [face] degrees m.edgeFaces :=
    rfl
  simp only [hall, mem_sharpEdges_markSharpAll, List.mem_singleton, exists_eq_left, isSharp_iff,
    faces?_edgeFaces_eq_pair_iff h]
  refine or_congr_right ⟨?_, ?_⟩
  · rintro ⟨hmem, f, g, ⟨hlt, hshared⟩, hbends⟩
    exact ⟨hlt, (Edge.mem_around_iff hlt).1 hmem, f, g, hshared, hbends⟩
  · rintro ⟨hlt, hjoins, f, g, hshared, hbends⟩
    exact ⟨(Edge.mem_around_iff hlt).2 hjoins, f, g, ⟨hlt, hshared⟩, hbends⟩

/-- The same faces mark the same edges, in any order and any number of times. -/
theorem mem_sharpEdges_congr (h : ∀ face, face ∈ fs ↔ face ∈ fs') :
    e ∈ (m.markSharpAll fs degrees edges).sharpEdges ↔
      e ∈ (m.markSharpAll fs' degrees edges).sharpEdges := by
  simp only [mem_sharpEdges_markSharpAll, h]

theorem markSharpAll_congr (hm : EdgeSet.Ascending m.sharpEdges)
    (h : ∀ face, face ∈ fs ↔ face ∈ fs') :
    m.markSharpAll fs degrees edges = m.markSharpAll fs' degrees edges := by
  have hsets : m.sharpEdges.insertAll (m.sharpEdgesOf fs degrees edges) =
      m.sharpEdges.insertAll (m.sharpEdgesOf fs' degrees edges) :=
    (hm.insertAll _).ext (hm.insertAll _) fun e => by
      simp only [EdgeSet.mem_insertAll, mem_sharpEdgesOf_iff, h]
  rw [markSharpAll_eq, markSharpAll_eq, hsets]

/-- **Edges and their faces.** Of a mesh of proper faces the table has each edge that joins corners
of a face, the lower one first, with all faces in which it does so, each once and in ascending
order. With it a face marks only edges of its own that exactly two faces share, and where several
faces mark their edges at one angle, neither their order nor a repetition makes a difference. -/
theorem edgeFaces_markSharpAll (m : Mesh) (h : ∀ face ∈ m.faces, ProperFace face) :
    EdgeMap.Ascending m.edgeFaces ∧
    (∀ e is, m.edgeFaces.faces? e = some is ↔ e.1 < e.2 ∧ is ≠ [] ∧ is.Pairwise (· < ·) ∧
      ∀ i, i ∈ is ↔ e.Joins (m.corners i)) ∧
    (∀ face degrees e, e ∈ (m.markSharp face degrees m.edgeFaces).sharpEdges ↔ e ∈ m.sharpEdges ∨
      e.1 < e.2 ∧ e.Joins (m.corners face) ∧ ∃ f g, m.SharedBy e f g ∧ m.Bends degrees f g) ∧
    ∀ degrees fs fs', (∀ face, face ∈ fs ↔ face ∈ fs') →
      (∀ e, e ∈ (m.markSharpAll fs degrees m.edgeFaces).sharpEdges ↔
        e ∈ (m.markSharpAll fs' degrees m.edgeFaces).sharpEdges) ∧
      (EdgeSet.Ascending m.sharpEdges →
        m.markSharpAll fs degrees m.edgeFaces = m.markSharpAll fs' degrees m.edgeFaces) := by
  refine ⟨ascending_edgeFaces m, fun e is => faces?_edgeFaces_eq_some_iff h,
    fun face degrees e => mem_sharpEdges_markSharp h, fun degrees fs fs' hfaces => ⟨?_, ?_⟩⟩
  · exact fun e => mem_sharpEdges_congr hfaces
  · exact fun hm => markSharpAll_congr hm hfaces

/-- Two triangles at a common edge, with a malformed face between them. -/
def folded : Mesh :=
  ofFaces "folded" [Vec3.zero, up, ⟨1.0, 0.0, 0.0⟩, ⟨0.0, 0.0, 1.0⟩] [[0, 1, 2], [], [2, 1, 3]]

theorem edgeFaces_markSharpAll_folded :
    (∀ face ∈ folded.faces, ProperFace face) ∧
    folded.edgeFaces.faces? (1, 2) = some [0, 2] ∧
    (∀ i, i ∈ [0, 2] ↔ Edge.Joins (1, 2) (folded.corners i)) ∧
    folded.markSharpAll [0, 2, 0] 45.0 folded.edgeFaces =
      folded.markSharpAll [2, 0] 45.0 folded.edgeFaces := by
  have hproper : ∀ face ∈ folded.faces, ProperFace face := by decide
  have hfaces : folded.edgeFaces.faces? (1, 2) = some [0, 2] := by decide
  obtain ⟨-, htable, -, horder⟩ := edgeFaces_markSharpAll folded hproper
  obtain ⟨-, -, -, hjoins⟩ := (htable (1, 2) [0, 2]).1 hfaces
  exact ⟨hproper, hfaces, hjoins, (horder 45.0 [0, 2, 0] [2, 0] (by simp)).2 .nil⟩

end Mesh

end RiggedScene
