import RiggedScene.Proofs.Mesh.Aligned

/-!
# Which material a face has

A material is assigned to the faces of its groups, which it lists by name. A name stands for the
group that is declared first under it, so that a face in a later group of the same name is not
reached.

* `Geometry.materialGroupOf?` is the name of the group that a polygon is in, and
  `Geometry.mem_materialGroupFaces_iff` : the faces of a name are the polygons with this name;
* `Mesh.smoothing_fst_iff` : a material is smooth if its channel for this is on;
* `Mesh.Aligned.assigned` : a material is assigned to the faces that it covers and to no others;
* `Mesh.ofGeometry_assigned` : after any number of materials each face has that of the last one that
  covers it, malformed faces included.
-/

namespace RiggedScene

/-! ### The material group of a face -/

namespace Geometry

variable {g : Geometry} {i : Nat} {name : String}

/-- The name of the material group of a polygon, if the group is the first one of this name. -/
def materialGroupOf? (g : Geometry) (p : Polygon) : Option String :=
  p.materialGroup.bind fun group =>
    (g.materialGroupNames[group]?).filter fun name => name ∉ g.materialGroupNames.take group

theorem findIdx?_name_eq_some_iff {names : List String} :
    names.findIdx? (· == name) = some i ↔ names[i]? = some name ∧ name ∉ names.take i := by
  rw [List.findIdx?_eq_some_iff_getElem, List.getElem?_eq_some_iff]
  constructor
  · rintro ⟨hi, hname, hbefore⟩
    refine ⟨⟨hi, beq_iff_eq.1 hname⟩, fun hmem => ?_⟩
    obtain ⟨j, hj, heq⟩ := List.mem_take_iff_getElem.1 hmem
    exact hbefore j (by omega) (beq_iff_eq.2 heq)
  · rintro ⟨⟨hi, hname⟩, hbefore⟩
    refine ⟨hi, beq_iff_eq.2 hname, fun j hj heq => hbefore ?_⟩
    exact List.mem_take_iff_getElem.2 ⟨j, by omega, beq_iff_eq.1 heq⟩

theorem materialGroupOf?_eq_some_iff {p : Polygon} : g.materialGroupOf? p = some name ↔
    ∃ group, p.materialGroup = some group ∧
      g.materialGroupNames.findIdx? (· == name) = some group := by
  simp only [materialGroupOf?, Option.bind_eq_some_iff, Option.filter_eq_some_iff,
    findIdx?_name_eq_some_iff, decide_eq_true_eq]

/-- The faces of a name are the polygons whose group has the name, by their numbers. -/
theorem mem_materialGroupFaces_iff : i ∈ g.materialGroupFaces name ↔
    ∃ p, g.polygons[i]? = some p ∧ g.materialGroupOf? p = some name := by
  simp only [materialGroupOf?_eq_some_iff, materialGroupFaces]
  cases g.materialGroupNames.findIdx? (· == name) with
  | none => simp
  | some group =>
    dsimp only
    rw [Mesh.map_fst_filter_mapIdx fun p : Polygon => p.materialGroup = some group, List.mem_filter,
      List.mem_range, Option.any_eq_true]
    constructor
    · rintro ⟨-, p, hp, hgroup⟩
      exact ⟨p, hp, group, of_decide_eq_true hgroup, rfl⟩
    · rintro ⟨p, hp, _, hgroup, heq⟩
      obtain rfl := Option.some.inj heq
      exact ⟨(List.getElem?_eq_some_iff.1 hp).1, p, hp, decide_eq_true hgroup⟩

end Geometry

/-! ### Materials -/

/-- A material to be assigned to faces of a mesh. -/
structure MaterialCall where
  material : Material
  slot : Nat
  edges : EdgeMap

namespace MaterialCall

/-- The assignment by the groups of a geometry. -/
def change (g : Geometry) (c : MaterialCall) : MeshChange :=
  .assignMaterial c.material g c.slot c.edges

/-- The material lists the group of the polygon. -/
def Covers (g : Geometry) (p : Polygon) (c : MaterialCall) : Prop :=
  ∃ name ∈ c.material.groups, g.materialGroupOf? p = some name

instance (g : Geometry) (p : Polygon) (c : MaterialCall) : Decidable (c.Covers g p) :=
  inferInstanceAs (Decidable (∃ name ∈ _, _))

/-- The last one that covers the polygon. -/
def lastOn (g : Geometry) (p : Polygon) (cs : List MaterialCall) : Option MaterialCall :=
  (cs.filter fun c => c.Covers g p).getLast?

theorem lastOn_concat {g : Geometry} {p : Polygon} {cs : List MaterialCall} {c : MaterialCall} :
    lastOn g p (cs ++ [c]) = if c.Covers g p then some c else lastOn g p cs := by
  rw [lastOn, List.filter_append]
  by_cases h : c.Covers g p <;> simp [h, lastOn]

end MaterialCall

/-- The value in force is true, or a number that is not zero. -/
def Channel.IsOn (c : Channel) : Prop :=
  c.current = some (.bool true) ∨ ∃ n, c.current = some (.num n) ∧ n.toFloat != 0.0

/-- The channel of a smooth material is on. -/
def Material.IsSmooth (m : Material) : Prop :=
  ∃ c, m.extraChannel? "Smooth On" = some c ∧ c.IsOn

theorem Channel.currentBool_eq_true_iff {c : Channel} : c.currentBool = some true ↔ c.IsOn := by
  unfold currentBool IsOn
  cases c.current with
  | none => simp
  | some v => cases v <;> simp [Json.number?]

namespace Mesh

variable {g : Geometry} {m : Mesh} {i : Nat}

/-- **A material is smooth if its channel for this is on**, and not without one. -/
theorem smoothing_fst_iff {material : Material} :
    (smoothing material).1 = true ↔ material.IsSmooth := by
  unfold smoothing Material.IsSmooth
  cases material.extraChannel? "Smooth On" with
  | none => simp
  | some c =>
    simp only [Option.bind_some, Option.some.injEq, exists_eq_left']
    rw [← Channel.currentBool_eq_true_iff]
    cases c.currentBool <;> simp

theorem mem_coveredFaces_iff {material : Material} {count : Nat} :
    i ∈ coveredFaces material g count ↔
      i < count ∧ ∃ name ∈ material.groups, i ∈ g.materialGroupFaces name := by
  simp [coveredFaces, and_comm]

theorem getElem?_foldl_set {α : Type} (v : α) (places : List Nat) (xs : List α) (i : Nat) :
    (places.foldl (fun xs j => xs.set j v) xs)[i]? =
      (xs[i]?).map fun old => if i ∈ places then v else old := by
  induction places generalizing xs with
  | nil => simp
  | cons j places ih =>
    rw [List.foldl_cons, ih, List.getElem?_set]
    by_cases hj : j = i
    · subst hj
      by_cases hlt : j < xs.length <;> simp [hlt]
    · simp [hj, Ne.symm hj]

theorem foldl_assignFace_lists (slot : Nat) (smooth : Bool) (angle : Option Float) (edges : EdgeMap)
    (faces : List Nat) (m : Mesh) :
    (faces.foldl (assignFace slot smooth angle edges) m).faceMaterials =
        faces.foldl (fun xs j => xs.set j (some slot)) m.faceMaterials ∧
      (faces.foldl (assignFace slot smooth angle edges) m).faceSmooth =
        faces.foldl (fun xs j => xs.set j smooth) m.faceSmooth := by
  induction faces generalizing m with
  | nil => exact ⟨rfl, rfl⟩
  | cons face faces ih =>
    have hface : (assignFace slot smooth angle edges m face).faceMaterials =
          m.faceMaterials.set face (some slot) ∧
        (assignFace slot smooth angle edges m face).faceSmooth = m.faceSmooth.set face smooth := by
      cases angle <;> exact ⟨rfl, rfl⟩
    obtain ⟨hmaterials, hsmooth⟩ := ih (assignFace slot smooth angle edges m face)
    rw [hface.1] at hmaterials
    rw [hface.2] at hsmooth
    exact ⟨hmaterials, hsmooth⟩

/-- **A material is assigned to the faces that it covers and to no others.** -/
theorem Aligned.assigned (h : Aligned g m) (c : MaterialCall) {p : Polygon}
    (hp : g.polygons[i]? = some p) :
    ((c.change g).apply m).faceMaterials[i]? =
        (m.faceMaterials[i]?).map (fun old => if c.Covers g p then some c.slot else old) ∧
      ((c.change g).apply m).faceSmooth[i]? =
        (m.faceSmooth[i]?).map
          fun old => if c.Covers g p then (smoothing c.material).1 else old := by
  have hcovered : i ∈ coveredFaces c.material g m.faceCount ↔ c.Covers g p := by
    have hlt : i < m.faceCount := by
      rw [faceCount, h.faces, List.length_map]
      exact (List.getElem?_eq_some_iff.1 hp).1
    simp [mem_coveredFaces_iff, Geometry.mem_materialGroupFaces_iff, MaterialCall.Covers, hlt, hp]
  obtain ⟨hmaterials, hsmooth⟩ := foldl_assignFace_lists c.slot (smoothing c.material).1
    (smoothing c.material).2 c.edges (coveredFaces c.material g m.faceCount) m
  have hmaterials := (congrArg (·[i]?) hmaterials).trans (getElem?_foldl_set _ _ _ i)
  have hsmooth := (congrArg (·[i]?) hsmooth).trans (getElem?_foldl_set _ _ _ i)
  simp only [hcovered] at hmaterials hsmooth
  exact ⟨hmaterials, hsmooth⟩

theorem Aligned.run_assigned (h : Aligned g m) (cs : List MaterialCall) {p : Polygon}
    (hp : g.polygons[i]? = some p) :
    (m.run (cs.map (MaterialCall.change g))).faceMaterials[i]? = (m.faceMaterials[i]?).map
        (fun old => ((MaterialCall.lastOn g p cs).map fun c => some c.slot).getD old) ∧
      (m.run (cs.map (MaterialCall.change g))).faceSmooth[i]? = (m.faceSmooth[i]?).map fun old =>
        ((MaterialCall.lastOn g p cs).map fun c => (smoothing c.material).1).getD old := by
  induction cs using List.reverseRecOn with
  | nil => exact ⟨Option.map_id_apply.symm, Option.map_id_apply.symm⟩
  | append_singleton cs c ih =>
    have hrun : m.run ((cs ++ [c]).map (MaterialCall.change g)) =
        (c.change g).apply (m.run (cs.map (MaterialCall.change g))) := by
      rw [List.map_append, Mesh.run, List.foldl_append]
      rfl
    obtain ⟨hmaterials, hsmooth⟩ := (h.run (cs.map (MaterialCall.change g))).assigned c hp
    rw [hrun, hmaterials, hsmooth, ih.1, ih.2, Option.map_map, Option.map_map,
      MaterialCall.lastOn_concat]
    by_cases hcovers : c.Covers g p <;> simp [hcovers, Function.comp_def]

/-! ### The mesh of a geometry -/

theorem faceLists_addGroups (sets : List VertexSet) (m : Mesh) :
    (m.addGroups sets).faceMaterials = m.faceMaterials ∧
      (m.addGroups sets).faceSmooth = m.faceSmooth := by
  unfold addGroups
  induction sets generalizing m with
  | nil => exact ⟨rfl, rfl⟩
  | cons s sets ih => exact ih (m.addVertexGroup s.name _)

theorem faceLists_addUvLayer (s : UvSet) (m : Mesh) :
    (m.addUvLayer s).faceMaterials = m.faceMaterials ∧
      (m.addUvLayer s).faceSmooth = m.faceSmooth := by
  unfold addUvLayer
  split <;> exact ⟨rfl, rfl⟩

theorem faceLists_ofGeometry (g : Geometry) (origin : Vec3) :
    (ofGeometry g origin).1.faceMaterials = g.polygons.map (fun _ => none) ∧
      (ofGeometry g origin).1.faceSmooth = g.polygons.map fun _ => false := by
  have hgroups := faceLists_addGroups (g.polyGroups ++ g.materialGroups)
    (ofFaces g.id (g.vertices.map fun v => v.sub origin)
      (g.polygons.map (faceOf g.vertices.length)))
  have hbare : (ofFaces g.id (g.vertices.map fun v => v.sub origin)
      (g.polygons.map (faceOf g.vertices.length))).faceMaterials = g.polygons.map (fun _ => none) ∧
        (ofFaces g.id (g.vertices.map fun v => v.sub origin)
          (g.polygons.map (faceOf g.vertices.length))).faceSmooth =
            g.polygons.map fun _ => false := by
    simp [ofFaces, Function.comp_def]
  rw [hbare.1, hbare.2] at hgroups
  unfold ofGeometry
  dsimp only
  split
  · rw [(faceLists_addUvLayer _ _).1, (faceLists_addUvLayer _ _).2]
    exact hgroups
  · exact hgroups

theorem eq_map_of_getElem? {α β : Type} {f : α → β} {xs : List α} {ys : List β}
    (hlength : ys.length = xs.length)
    (h : ∀ (i : Nat) x, xs[i]? = some x → ys[i]? = some (f x)) :
    ys = xs.map f := by
  refine List.ext_getElem? fun i => ?_
  rw [List.getElem?_map]
  cases hx : xs[i]? with
  | none =>
    rw [Option.map_none, List.getElem?_eq_none_iff, hlength, ← List.getElem?_eq_none_iff, hx]
  | some x => exact h i x hx

/-- **The material of each face is that of the last call that covers it.** The faces of a geometry
have no material and are not smooth at first, and they stay like this if no call covers them. So a
face is smooth if the material of the last call that covers it is. -/
theorem ofGeometry_assigned (g : Geometry) (origin : Vec3) (cs : List MaterialCall) :
    ((ofGeometry g origin).1.run (cs.map (MaterialCall.change g))).faceMaterials =
        g.polygons.map (fun p => (MaterialCall.lastOn g p cs).map MaterialCall.slot) ∧
      ((ofGeometry g origin).1.run (cs.map (MaterialCall.change g))).faceSmooth =
        g.polygons.map (fun p =>
          ((MaterialCall.lastOn g p cs).map fun c => (smoothing c.material).1).getD false) ∧
      ∀ (i : Nat) p, g.polygons[i]? = some p →
        (((ofGeometry g origin).1.run (cs.map (MaterialCall.change g))).faceSmooth[i]? = some true ↔
          ∃ c, MaterialCall.lastOn g p cs = some c ∧ c.material.IsSmooth) := by
  have hstart := aligned_ofGeometry g origin
  have hend := hstart.run (cs.map (MaterialCall.change g))
  obtain ⟨hmaterials, hsmooth⟩ := faceLists_ofGeometry g origin
  have hflags : ∀ (i : Nat) p, g.polygons[i]? = some p →
      ((ofGeometry g origin).1.run (cs.map (MaterialCall.change g))).faceSmooth[i]? = some
        (((MaterialCall.lastOn g p cs).map fun c => (smoothing c.material).1).getD false) := by
    intro i p hp
    rw [(hstart.run_assigned cs hp).2, hsmooth, List.getElem?_map, hp]
    rfl
  refine ⟨eq_map_of_getElem? ?_ fun i p hp => ?_, eq_map_of_getElem? ?_ hflags, fun i p hp => ?_⟩
  · rw [hend.faceMaterials, hend.faces, List.length_map]
  · rw [(hstart.run_assigned cs hp).1, hmaterials, List.getElem?_map, hp]
    cases MaterialCall.lastOn g p cs <;> rfl
  · rw [hend.faceSmooth, hend.faces, List.length_map]
  · rw [hflags i p hp]
    cases MaterialCall.lastOn g p cs with
    | none => simp
    | some c => simp [smoothing_fst_iff]

/-- A face, a malformed one and one of another group. The first two are covered by two materials,
of which the later one has been made smooth. -/
theorem ofGeometry_assigned_round :
    let g : Geometry := ⟨"body", ⟨"/body"⟩, [.zero, .zero, .zero], [⟨none, some 0, [0, 1, 2]⟩,
      ⟨none, some 0, [0, 1]⟩, ⟨none, some 1, [2, 1, 0]⟩], [], ["skin", "nails"], none⟩
    let on : Channel := ⟨"Smooth On", "bool", "", "", some (.bool false), some (.bool true), true,
      none, none⟩
    let flat : Material := ⟨"flat", "", [], [], none, ["skin"], none⟩
    let round : Material := ⟨"round", "", [], [⟨"studio", [on]⟩], none, ["skin"], none⟩
    let m := (ofGeometry g .zero).1.run
      ([⟨flat, 0, []⟩, ⟨round, 1, []⟩].map (MaterialCall.change g))
    m.faceMaterials = [some 1, some 1, none] ∧ m.faceSmooth = [true, true, false] ∧
      round.IsSmooth ∧ m.faceSmooth[0]? = some true := by
  intro g on flat round m
  obtain ⟨hmaterials, hsmooth, hflags⟩ :=
    ofGeometry_assigned g .zero [⟨flat, 0, []⟩, ⟨round, 1, []⟩]
  have hround : round.IsSmooth := ⟨on, rfl, .inl rfl⟩
  exact ⟨hmaterials.trans (by decide +kernel), hsmooth.trans (by decide +kernel), hround,
    (hflags 0 _ rfl).2 ⟨⟨round, 1, []⟩, rfl, hround⟩⟩

end Mesh

end RiggedScene
