import RiggedScene.Proofs.Mesh.Aligned

/-!
# Look-ups in a mesh are in range

A mesh looks positions, faces and flags up by number, and a number beyond a list would do nothing.
`Mesh.faceNormal?`, `Mesh.withNormals?`, `Mesh.markSharp?` and `Mesh.assignMaterial?` do the same
work, but fail at the first number beyond a list.

* `Mesh.Aligned.run?_eq` : on a mesh that is aligned with its geometry they never fail, so that no
  change looks anything up out of range;
* `Mesh.ofGeometry_run` : all that holds of the mesh of a geometry after any changes.
-/

namespace RiggedScene

namespace Mesh

variable (m : Mesh)

/-! ### Look-ups that may fail -/

/-- Sums the terms of the edges along a list of corners, as `newellSum` does. -/
def newellSum? (first : Nat) : Vec3 → List Nat → Option Vec3
  | sum, [] => some sum
  | sum, [a] => do
    let p ← m.positions[a]?
    let q ← m.positions[first]?
    return sum.add (newellTerm p q)
  | sum, a :: b :: rest => do
    let p ← m.positions[a]?
    let q ← m.positions[b]?
    newellSum? first (sum.add (newellTerm p q)) (b :: rest)

/-- The normal of a face given by its corners. -/
def normalOf? : List Nat → Option Vec3
  | [] => some Vec3.zero
  | a :: rest => (m.newellSum? a Vec3.zero (a :: rest)).map Vec3.normalisedOrZero

/-- The normal of a face; a face that is not there has no corners. -/
def faceNormal? (face : Nat) : Option Vec3 := m.normalOf? (m.corners face)

/-- Adds a vector at one vertex. -/
def addAt? (n : Vec3) (sums : List Vec3) (v : Nat) : Option (List Vec3) :=
  if v < sums.length then some (sums.modify v fun s => s.add n) else none

/-- Adds the normal of a face at each of its corners. -/
def addNormal? (sums : List Vec3) (face : List Nat) : Option (List Vec3) := do
  let n ← m.normalOf? face
  face.foldlM (addAt? n) sums

/-- The mesh with its normals. -/
def withNormals? : Option Mesh := do
  let sums ← m.faces.foldlM m.addNormal? (m.positions.map fun _ => Vec3.zero)
  return { m with normals := some (sums.map fun s => s.normalised?.getD up) }

/-- Whether exactly two faces use the edge and meet at `degrees` or more. -/
def isSharp? (degrees : Float) (edges : EdgeMap) (e : Edge) : Option Bool :=
  match edges.faces? e with
  | some [f, g] => do
    let n ← m.faceNormal? f
    let k ← m.faceNormal? g
    return !n.same Vec3.zero && !k.same Vec3.zero && Units.toDegrees (n.angleBetween k) ≥ degrees
  | _ => some false

/-- Adds an edge if it is sharp. -/
def addIfSharp? (degrees : Float) (edges : EdgeMap) (s : EdgeSet) (e : Edge) : Option EdgeSet :=
  (m.isSharp? degrees edges e).map fun sharp => if sharp then s.insert e else s

/-- Marks the sharp edges of a face. -/
def markSharp? (face : Nat) (degrees : Float) (edges : EdgeMap) : Option Mesh := do
  let sharp ← (m.faceEdges face).foldlM (m.addIfSharp? degrees edges) m.sharpEdges
  return { m with sharpEdges := sharp }

/-- Gives one face a slot. -/
def assignFace? (slot : Nat) (smooth : Bool) (angle : Option Float) (edges : EdgeMap) (m : Mesh)
    (face : Nat) : Option Mesh :=
  if face < m.faceMaterials.length ∧ face < m.faceSmooth.length then
    let m := { m with
      faceMaterials := m.faceMaterials.set face (some slot)
      faceSmooth := m.faceSmooth.set face smooth }
    match angle with
    | some degrees => m.markSharp? face degrees edges
    | none => some m
  else none

/-- Gives the faces of the material's groups a slot. -/
def assignMaterial? (material : Material) (g : Geometry) (slot : Nat) (edges : EdgeMap) (m : Mesh) :
    Option Mesh :=
  let (smooth, angle) := smoothing material
  (coveredFaces material g m.faceCount).foldlM (assignFace? slot smooth angle edges) m

end Mesh

/-- The mesh after a change, unless the change looks something up out of range. -/
def MeshChange.apply? : MeshChange → Mesh → Option Mesh
  | assignMaterial material g slot edges, m => m.assignMaterial? material g slot edges
  | markSharp face degrees edges, m => m.markSharp? face degrees edges
  | computeNormals, m => m.withNormals?
  | c, m => some (c.apply m)

namespace Mesh

/-- The mesh after some changes, unless one of them looks something up out of range. -/
def run? (cs : List MeshChange) (m : Mesh) : Option Mesh := cs.foldlM (fun m c => c.apply? m) m

variable {m : Mesh} {g : Geometry}

/-! ### Nothing is out of range -/

/-- Steps that do not fail while `P` holds come to what they come to without looking. -/
theorem foldlM_eq_some {α β : Type} {P : α → Prop} {f : α → β → Option α} {g : α → β → α}
    {l : List β} (hstep : ∀ a, P a → ∀ x ∈ l, f a x = some (g a x) ∧ P (g a x)) {a : α}
    (ha : P a) : l.foldlM f a = some (l.foldl g a) ∧ P (l.foldl g a) := by
  induction l generalizing a with
  | nil => exact ⟨rfl, ha⟩
  | cons x l ih =>
    obtain ⟨hx, hP⟩ := hstep a ha x List.mem_cons_self
    rw [List.foldlM_cons, hx]
    exact ih (fun a ha y hy => hstep a ha y (List.mem_cons_of_mem x hy)) hP

theorem position_of_lt {v : Nat} (hv : v < m.positions.length) :
    m.positions[v]? = some (m.position v) := by
  simp [position, hv]

theorem newellSum?_eq {first : Nat} {sum : Vec3} {cs : List Nat}
    (hfirst : first < m.positions.length) (hcs : ∀ v ∈ cs, v < m.positions.length) :
    m.newellSum? first sum cs = some (m.newellSum first sum cs) := by
  fun_induction newellSum m first sum cs with
  | case1 sum => rfl
  | case2 sum a =>
    have ha : a < m.positions.length := hcs a (by simp)
    simp [newellSum?, position_of_lt ha, position_of_lt hfirst]
  | case3 sum a b rest ih =>
    have ha : a < m.positions.length := hcs a (by simp)
    have hb : b < m.positions.length := hcs b (by simp)
    rw [← ih fun v hv => hcs v (List.mem_cons_of_mem a hv)]
    simp [newellSum?, position_of_lt ha, position_of_lt hb]

theorem normalOf?_eq {face : List Nat} (h : ∀ v ∈ face, v < m.positions.length) :
    m.normalOf? face = some (m.normalOf face) := by
  cases face with
  | nil => rfl
  | cons a rest => simp [normalOf?, normalOf, newellSum?_eq (h a List.mem_cons_self) h]

namespace Aligned

theorem lt_of_mem_face (h : Aligned g m) {face : List Nat} (hface : face ∈ m.faces) :
    ∀ v ∈ face, v < m.positions.length := by
  rw [h.faces] at hface
  obtain ⟨p, -, rfl⟩ := List.mem_map.1 hface
  rw [h.positions]
  exact fun v hv => lt_of_mem_expectedFace hv

theorem faceNormal?_eq (h : Aligned g m) (face : Nat) :
    m.faceNormal? face = some (m.faceNormal face) := by
  refine normalOf?_eq ?_
  unfold corners
  cases hface : m.faces[face]? with
  | none => simp
  | some c => exact h.lt_of_mem_face (List.mem_of_getElem? hface)

theorem withNormals?_eq (h : Aligned g m) : m.withNormals? = some m.withNormals := by
  have hface : ∀ sums : List Vec3, sums.length = m.positions.length → ∀ face ∈ m.faces,
      m.addNormal? sums face = some (addAtCorners (m.normalOf face) sums face) ∧
        (addAtCorners (m.normalOf face) sums face).length = m.positions.length := by
    intro sums hsums face hface
    have hcorners := h.lt_of_mem_face hface
    rw [addNormal?, normalOf?_eq hcorners]
    refine foldlM_eq_some (P := fun sums : List Vec3 => sums.length = m.positions.length)
      (fun sums hlength v hv => ⟨if_pos ?_, ?_⟩) hsums
    · rw [hlength]
      exact hcorners v hv
    · rw [List.length_modify, hlength]
  have hsums := foldlM_eq_some (a := m.positions.map fun _ => Vec3.zero) hface (by simp)
  rw [withNormals?, hsums.1]
  rfl

theorem isSharp?_eq (h : Aligned g m) (degrees : Float) (edges : EdgeMap) (e : Edge) :
    m.isSharp? degrees edges e = some (m.isSharp degrees edges e) := by
  unfold isSharp? isSharp
  rcases edges.faces? e with _ | ⟨_ | ⟨f, _ | ⟨k, _ | ⟨l, rest⟩⟩⟩⟩
  case some.cons.cons.nil => simp [h.faceNormal?_eq]
  all_goals rfl

theorem markSharp?_eq (h : Aligned g m) (face : Nat) (degrees : Float) (edges : EdgeMap) :
    m.markSharp? face degrees edges = some (m.markSharp face degrees edges) := by
  have hsharp := foldlM_eq_some (P := fun _ : EdgeSet => True) (a := m.sharpEdges)
    (f := m.addIfSharp? degrees edges)
    (g := fun s e => if m.isSharp degrees edges e then s.insert e else s) (l := m.faceEdges face)
    (fun s _ e _ => ⟨by simp [addIfSharp?, h.isSharp?_eq], trivial⟩) trivial
  rw [markSharp?, Mesh.markSharp, List.foldl_filter, hsharp.1]
  rfl

theorem assignFace?_eq (h : Aligned g m) (slot : Nat) (smooth : Bool) (angle : Option Float)
    (edges : EdgeMap) {face : Nat} (hface : face < m.faceCount) :
    assignFace? slot smooth angle edges m face =
      some (Mesh.assignFace slot smooth angle edges m face) := by
  have hmaterials : face < m.faceMaterials.length := h.faceMaterials ▸ hface
  have hsmooth : face < m.faceSmooth.length := h.faceSmooth ▸ hface
  rw [assignFace?, if_pos ⟨hmaterials, hsmooth⟩]
  cases angle with
  | none => rfl
  | some degrees => exact (h.assignFace slot smooth none edges face).markSharp?_eq face degrees edges

theorem assignMaterial?_eq (h : Aligned g m) (material : Material) (g' : Geometry) (slot : Nat)
    (edges : EdgeMap) :
    m.assignMaterial? material g' slot edges = some (assignMaterial material g' slot edges m).1 := by
  unfold assignMaterial? assignMaterial
  obtain ⟨smooth, angle⟩ := smoothing material
  refine (foldlM_eq_some (P := Aligned g) (fun m' hm' face hmem => ?_) h).1
  have hcount : m'.faceCount = m.faceCount := by rw [faceCount, hm'.faces, faceCount, h.faces]
  have hface : face < m'.faceCount := by
    rw [hcount]
    simpa using (List.mem_filter.1 hmem).2
  exact ⟨hm'.assignFace?_eq slot smooth angle edges hface,
    hm'.assignFace slot smooth angle edges face⟩

theorem apply?_eq (h : Aligned g m) (c : MeshChange) : c.apply? m = some (c.apply m) := by
  cases c with
  | assignMaterial material g' slot edges => exact h.assignMaterial?_eq material g' slot edges
  | markSharp face degrees edges => exact h.markSharp?_eq face degrees edges
  | computeNormals => exact h.withNormals?_eq
  | _ => rfl

/-- **No change looks anything up out of range.** -/
theorem run?_eq (h : Aligned g m) (cs : List MeshChange) : m.run? cs = some (m.run cs) :=
  (foldlM_eq_some (fun _ hm c _ => ⟨hm.apply?_eq c, hm.apply c⟩) h).1

end Aligned

/-- **The mesh of a geometry after any changes.** All its lists fit the geometry, the empty faces
are those that were noted, and no change and no normal of a face looks anything up out of range. -/
theorem ofGeometry_run (g : Geometry) (origin : Vec3) (cs : List MeshChange) :
    Aligned g ((ofGeometry g origin).1.run cs) ∧
      (ofGeometry g origin).2 =
        ((ofGeometry g origin).1.run cs).emptyFaces.map (.malformedFace g.id) ∧
      (ofGeometry g origin).1.run? cs = some ((ofGeometry g origin).1.run cs) ∧
      ∀ face, ((ofGeometry g origin).1.run cs).faceNormal? face =
        some (((ofGeometry g origin).1.run cs).faceNormal face) := by
  have hstart := aligned_ofGeometry g origin
  have hend := hstart.run cs
  refine ⟨hend, ?_, hstart.run?_eq cs, hend.faceNormal?_eq⟩
  have hfaces : ((ofGeometry g origin).1.run cs).faces = (ofGeometry g origin).1.faces :=
    hend.faces.trans hstart.faces.symm
  rw [notes_ofGeometry]
  unfold emptyFaces faceCount corners
  rw [hfaces]

end Mesh

end RiggedScene
