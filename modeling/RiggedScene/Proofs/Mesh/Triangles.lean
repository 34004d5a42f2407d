import RiggedScene.Mesh.Buffer
import RiggedScene.Proofs.Mesh.EdgeFaces

/-!
# Faces that are cut into triangles

All triangles of a face share its first corner. Two triangles that stand next to each other have a
diagonal of the face in common, and run along it in opposite directions; all their other sides are
sides of the face, in its own direction.

* `Mesh.Tiles` : triangles cover a face and wind like it;
* `Mesh.sides_fan` : the sides of the triangles are those of the face and its diagonals from the
  first corner, there and back, and `Mesh.nodup_outline_append_spokes` : each one occurs once;
* `Mesh.triangulate_tiles` : the words of a mesh are the corners of triangles that tile its faces
  one after another.
-/

namespace RiggedScene

/-- Three vertices, each one before the next. -/
abbrev Triangle := Nat × Nat × Nat

/-- The way from a vertex to another one. -/
abbrev Side := Nat × Nat

namespace Triangle

/-- The vertices in order. -/
def corners (t : Triangle) : List Nat := [t.1, t.2.1, t.2.2]

/-- The ways from each corner to the next one. -/
def sides (t : Triangle) : List Side := [(t.1, t.2.1), (t.2.1, t.2.2), (t.2.2, t.1)]

end Triangle

namespace Mesh

open scoped List

variable {face ds rest : List Nat} {first a b last : Nat}

/-- The sides of several triangles. -/
def sidesOf (ts : List Triangle) : List Side := ts.flatMap Triangle.sides

/-- Triangles that cover a face of `n` corners: there are `n - 2`, they run along each side of the
face once, and along each other side that they have once in both directions. -/
structure Tiles (face : List Nat) (ts : List Triangle) : Prop where
  length_eq : ts.length = face.length - 2
  corners : ∀ t ∈ ts, ∀ v ∈ Triangle.corners t, v ∈ face
  boundary : ∀ a b, Edge.Follows face a b → (sidesOf ts).count (a, b) = 1
  inner : ∀ a b, (a, b) ∈ sidesOf ts → ¬ Edge.Follows face a b →
    (sidesOf ts).count (a, b) = 1 ∧ (sidesOf ts).count (b, a) = 1

/-! ### The sides of a face and its diagonals -/

/-- The ways from each corner of a face to the next one. -/
def outline (face : List Nat) : List Side := face.zip (face.rotate 1)

/-- The ways from the first corner to others, and back. -/
def spokes (first : Nat) (ds : List Nat) : List Side :=
  (ds.map fun d => (first, d)) ++ ds.map fun d => (d, first)

theorem mem_outline_iff : (a, b) ∈ outline face ↔ Edge.Follows face a b := by
  simp only [outline, List.mem_iff_getElem?, List.getElem?_zip_eq_some]
  constructor
  · rintro ⟨i, ha, hb⟩
    have hi : i < face.length := (List.getElem?_eq_some_iff.1 ha).1
    exact ⟨i, hi, ha, List.getElem?_rotate hi ▸ hb⟩
  · rintro ⟨i, hi, ha, hb⟩
    exact ⟨i, ha, (List.getElem?_rotate hi).trans hb⟩

theorem outline_cons : outline (first :: rest) = (first :: rest).zip (rest ++ [first]) := by
  rw [outline, List.rotate_cons_succ, List.rotate_zero]

theorem nodup_outline (h : face.Nodup) : (outline face).Nodup := by
  refine List.Nodup.of_map Prod.fst ?_
  rwa [outline, List.map_fst_zip (List.length_rotate face 1).ge]

theorem mem_spokes_iff :
    (a, b) ∈ spokes first ds ↔ (a = first ∧ b ∈ ds) ∨ (b = first ∧ a ∈ ds) := by
  simp [spokes, eq_comm, and_comm]

theorem nodup_spokes (h : first ∉ ds) (hds : ds.Nodup) : (spokes first ds).Nodup := by
  have hfrom : (ds.map fun d => (first, d)).Nodup :=
    hds.map fun _ _ heq => (Prod.mk.inj heq).2
  have hback : (ds.map fun d => (d, first)).Nodup :=
    hds.map fun _ _ heq => (Prod.mk.inj heq).1
  refine List.nodup_append.2 ⟨hfrom, hback, fun s hs t ht heq => h ?_⟩
  obtain ⟨d, -, rfl⟩ := List.mem_map.1 hs
  obtain ⟨e, he, rfl⟩ := List.mem_map.1 ht
  exact (Prod.mk.inj heq).1 ▸ he

theorem append_spokes_cons {path : List Side} {d : Nat} : path ++ spokes first (d :: ds) ~
    (first, d) :: (d, first) :: (path ++ spokes first ds) := by
  rw [spokes, spokes, List.map_cons, List.map_cons, List.cons_append]
  refine .trans List.perm_middle (.cons _ ?_)
  rw [← List.append_assoc, ← List.append_assoc]
  exact List.perm_middle

theorem notMem_outline (h : (first :: a :: (ds ++ [last])).Nodup) {s : Side}
    (hs : s ∈ spokes first ds) : s ∉ outline (first :: a :: (ds ++ [last])) := by
  obtain ⟨hfirst, hrest⟩ := List.nodup_cons.1 h
  obtain ⟨ha, hlast⟩ := List.nodup_cons.1 hrest
  obtain ⟨b, d⟩ := s
  rw [outline_cons]
  rcases mem_spokes_iff.1 hs with ⟨rfl, hd⟩ | ⟨rfl, hd⟩
  · rw [List.cons_append, List.zip_cons_cons, List.mem_cons]
    rintro (heq | hmem)
    · exact ha ((Prod.mk.inj heq).2 ▸ List.mem_append_left _ hd)
    · exact hfirst (List.of_mem_zip hmem).1
  · have hsplit : (d :: a :: (ds ++ [last])).zip (a :: (ds ++ [last]) ++ [d]) =
        (d :: a :: ds).zip (a :: (ds ++ [last])) ++ [(last, d)] := by
      rw [← List.cons_append, ← List.cons_append, List.zip_append (by simp)]
      rfl
    rw [hsplit, List.mem_append, List.mem_singleton]
    rintro (hmem | heq)
    · exact hfirst (List.of_mem_zip hmem).2
    · obtain ⟨rfl, -⟩ := Prod.mk.inj heq
      exact (List.nodup_append.1 hlast).2.2 b hd b List.mem_cons_self rfl

/-- **A face of distinct corners has each of its sides and diagonals once.** -/
theorem nodup_outline_append_spokes (h : (first :: a :: (ds ++ [last])).Nodup) :
    (outline (first :: a :: (ds ++ [last])) ++ spokes first ds).Nodup := by
  obtain ⟨hfirst, hrest⟩ := List.nodup_cons.1 h
  have hnot : first ∉ ds := fun hmem =>
    hfirst (List.mem_cons_of_mem a (List.mem_append_left _ hmem))
  have hds : ds.Nodup := (List.nodup_append.1 (List.nodup_cons.1 hrest).2).1
  refine List.nodup_append.2 ⟨nodup_outline h, nodup_spokes hnot hds, fun s hs t ht heq => ?_⟩
  exact notMem_outline h ht (heq ▸ hs)

/-! ### The triangles of one face -/

theorem length_fan : (fan first (a :: rest)).length = rest.length := by
  induction rest generalizing a with
  | nil => rfl
  | cons b rest ih => rw [fan, List.length_cons, ih, List.length_cons]

theorem mem_of_mem_fan {t : Triangle} (ht : t ∈ fan first rest) :
    ∀ v ∈ Triangle.corners t, v ∈ first :: rest := by
  fun_induction fan first rest with
  | case1 a b rest ih =>
    rcases List.mem_cons.1 ht with rfl | ht
    · simp [Triangle.corners]
    · intro v hv
      have hmem := ih ht v hv
      simp only [List.mem_cons] at hmem ⊢
      tauto
  | case2 => cases ht

/-- **The sides of a fan.** Each triangle adds a corner to the face behind it: the diagonal between
the two, so far a side of that face, is run along in the other direction as well. -/
theorem sides_fan : sidesOf (fan first (a :: (ds ++ [last]))) ~
    outline (first :: a :: (ds ++ [last])) ++ spokes first ds := by
  induction ds generalizing a with
  | nil =>
    rw [outline_cons]
    exact .refl _
  | cons d ds ih =>
    have hfan : sidesOf (fan first (a :: (d :: ds ++ [last]))) = (first, a) :: (a, d) ::
        (d, first) :: sidesOf (fan first (d :: (ds ++ [last]))) := rfl
    -- both faces go on from `d` in the same way
    obtain ⟨path, hpath⟩ : ∃ path, path = (d :: (ds ++ [last])).zip (ds ++ [last] ++ [first]) :=
      ⟨_, rfl⟩
    have hbehind : outline (first :: d :: (ds ++ [last])) = (first, d) :: path :=
      hpath ▸ outline_cons
    have hface : outline (first :: a :: (d :: ds ++ [last])) = (first, a) :: (a, d) :: path :=
      hpath ▸ outline_cons
    have ih := ih (a := d)
    rw [hbehind] at ih
    rw [hfan, hface]
    refine .cons _ (.cons _ ?_)
    calc (d, first) :: sidesOf (fan first (d :: (ds ++ [last])))
      _ ~ (d, first) :: (first, d) :: (path ++ spokes first ds) := ih.cons _
      _ ~ (first, d) :: (d, first) :: (path ++ spokes first ds) := .swap _ _ _
      _ ~ path ++ spokes first (d :: ds) := append_spokes_cons.symm

theorem exists_corners (h : 3 ≤ face.length) :
    ∃ first a ds last, face = first :: a :: (ds ++ [last]) := by
  match face, h with
  | first :: a :: b :: rest, _ =>
    obtain ⟨ds, last, hlast⟩ := (List.eq_nil_or_concat' (b :: rest)).resolve_left (by simp)
    exact ⟨first, a, ds, last, by rw [hlast]⟩

/-- **The triangles of a proper face tile it.** -/
theorem tiles_faceTriangles (h : ProperFace face) : Tiles face (faceTriangles face) := by
  obtain rfl | ⟨hlength, hnodup⟩ := h
  · refine ⟨rfl, nofun, ?_, nofun⟩
    rintro a b ⟨i, hi, -⟩
    cases hi
  · obtain ⟨first, a, ds, last, rfl⟩ := exists_corners hlength
    have hsides : sidesOf (faceTriangles (first :: a :: (ds ++ [last]))) ~
        outline (first :: a :: (ds ++ [last])) ++ spokes first ds := sides_fan
    have honce {s : Side}
        (hs : s ∈ outline (first :: a :: (ds ++ [last])) ++ spokes first ds) :
        (sidesOf (faceTriangles (first :: a :: (ds ++ [last])))).count s = 1 := by
      rw [hsides.count_eq]
      exact List.count_eq_one_of_mem (nodup_outline_append_spokes hnodup) hs
    refine ⟨?_, fun t ht => mem_of_mem_fan ht, fun b c hfollows => ?_, fun b c hs hnot => ?_⟩
    · rw [faceTriangles, length_fan]
      simp
    · exact honce (List.mem_append_left _ (mem_outline_iff.2 hfollows))
    · have hspoke : (b, c) ∈ spokes first ds :=
        (List.mem_append.1 (hsides.mem_iff.1 hs)).resolve_left (mt mem_outline_iff.1 hnot)
      have hback : (c, b) ∈ spokes first ds :=
        mem_spokes_iff.2 (mem_spokes_iff.1 hspoke).symm
      exact ⟨honce (List.mem_append_right _ hspoke), honce (List.mem_append_right _ hback)⟩

/-! ### The triangles of a mesh -/

theorem map_toNat_triangulate {m : Mesh}
    (h : ∀ t ∈ m.triangles, ∀ v ∈ Triangle.corners t, v < UInt32.size) :
    m.triangulate.map UInt32.toNat = m.triangles.flatMap Triangle.corners := by
  rw [triangulate, List.map_flatMap]
  refine List.flatMap_congr fun t ht => ?_
  have hword : ∀ v ∈ Triangle.corners t, (UInt32.ofNat v).toNat = v := fun v hv =>
    UInt32.toNat_ofNat_of_lt' (h t ht v hv)
  simp only [Triangle.corners, List.forall_mem_cons] at hword
  simp [Triangle.corners, hword]

/-- **The words of a mesh are the corners of triangles that tile its faces**, face after face, if
its vertices can be numbered by words. -/
theorem triangulate_tiles (m : Mesh) (hcount : m.vertexCount ≤ UInt32.size)
    (hfaces : ∀ face ∈ m.faces, ProperFace face ∧ ∀ v ∈ face, v < m.vertexCount) :
    ∃ tiles : List (List Triangle), List.Forall₂ Tiles m.faces tiles ∧
      m.triangulate.map UInt32.toNat = tiles.flatten.flatMap Triangle.corners := by
  have htiles : ∀ face ∈ m.faces, Tiles face (faceTriangles face) := fun face hface =>
    tiles_faceTriangles (hfaces face hface).1
  refine ⟨m.faces.map faceTriangles, ?_, ?_⟩
  · rw [List.forall₂_map_right_iff, List.forall₂_same]
    exact htiles
  · rw [← List.flatMap_def]
    refine map_toNat_triangulate fun t ht v hv => ?_
    obtain ⟨face, hface, ht⟩ := List.mem_flatMap.1 ht
    have hv : v ∈ face := (htiles face hface).corners t ht v hv
    exact Nat.lt_of_lt_of_le ((hfaces face hface).2 v hv) hcount

/-- A face of five corners, a malformed one, and one of three corners. -/
def pentagon : Mesh :=
  .ofFaces "pentagon" (List.replicate 6 Vec3.zero) [[0, 1, 2, 3, 4], [], [5, 3, 1]]

theorem triangulate_tiles_pentagon : pentagon.vertexCount ≤ UInt32.size ∧
    (∀ face ∈ pentagon.faces, ProperFace face ∧ ∀ v ∈ face, v < pentagon.vertexCount) ∧
    ∃ tiles : List (List Triangle), List.Forall₂ Tiles pentagon.faces tiles ∧
      pentagon.triangulate.map UInt32.toNat = tiles.flatten.flatMap Triangle.corners := by
  have hcount : pentagon.vertexCount ≤ UInt32.size := by decide
  have hfaces : ∀ face ∈ pentagon.faces,
      ProperFace face ∧ ∀ v ∈ face, v < pentagon.vertexCount := by decide
  exact ⟨hcount, hfaces, triangulate_tiles pentagon hcount hfaces⟩

end Mesh

end RiggedScene
