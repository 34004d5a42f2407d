import RiggedScene.Proofs.Import.Making
import RiggedScene.Proofs.Mesh.Aligned

/-!
# UV layers of materials

A material that has a UV set of its own gets the layer of its name. Layers are told apart by name
only, while UV sets come from any number of documents: the first set of a name makes the layer, and
the sets of the same name that come later are taken to be the same.

* `UvLayer.Shows` : a layer has the points that a UV set gives to the corners of the faces;
* `Mesh.layers_run` : whatever is done to a mesh, the first set of a name makes the layer;
* `Mesh.uvMapFor_shows_iff` : when the layer of a material is that of its own UV set;
* `Mesh.exists_layer_of_other_set` : it need not be.
-/

namespace RiggedScene

/-- The layer has, for each face and in the order of its corners, the points that a UV set gives:
the one with the number of the exception for the corner, or else of its vertex, and the origin for a
number beyond the points. -/
def UvLayer.Shows (l : UvLayer) (s : UvSet) (faces : List (List Nat)) : Prop :=
  l.faces.length = faces.length ∧
    ∀ (i : Nat) corners, faces[i]? = some corners → ∃ points, l.faces[i]? = some points ∧
      points.length = corners.length ∧ ∀ (j v : Nat), corners[j]? = some v →
        points[j]? = some ((s.points[(s.overrides.lookup (i, v)).getD v]?).getD ⟨0.0, 0.0⟩)

/-- The layer of a UV set on some faces. -/
def UvSet.layer (s : UvSet) (faces : List (List Nat)) : UvLayer :=
  ⟨s.id, faces.mapIdx fun i corners => s.face i corners⟩

/-- The UV set that a change adds the layer of. -/
def MeshChange.uvSet? : MeshChange → Option UvSet
  | addUvLayer s => some s
  | _ => none

namespace UvSet

variable {s t : UvSet} {faces : List (List Nat)} {l : UvLayer}

theorem index_eq_lookup (s : UvSet) (i v : Nat) :
    s.index i v = (s.overrides.lookup (i, v)).getD v := by
  unfold index
  congr 1
  induction s.overrides with
  | nil => rfl
  | cons e es ih =>
    rw [Keyed.find?_cons, Keyed.lookup_cons]
    by_cases he : e.1 = (i, v)
    · simp [he]
    · simp [he, Ne.symm he, ih]

theorem face_getElem? (s : UvSet) (i j : Nat) (corners : List Nat) :
    (s.face i corners)[j]? = (corners[j]?).map fun v =>
      (s.points[(s.overrides.lookup (i, v)).getD v]?).getD ⟨0.0, 0.0⟩ := by
  simp only [face, List.getElem?_map, index_eq_lookup]

theorem shows_iff : l.Shows s faces ↔ l.faces = (s.layer faces).faces := by
  constructor
  · rintro ⟨hlength, hfaces⟩
    refine List.ext_getElem? fun i => ?_
    rw [layer, List.getElem?_mapIdx]
    cases hcorners : faces[i]? with
    | none =>
      rw [List.getElem?_eq_none_iff] at hcorners
      rw [Option.map_none, List.getElem?_eq_none_iff, hlength]
      exact hcorners
    | some corners =>
      obtain ⟨points, hpoints, hcount, hcorner⟩ := hfaces i corners hcorners
      rw [hpoints, Option.map_some]
      congr 1
      refine List.ext_getElem? fun j => ?_
      rw [face_getElem?]
      cases hv : corners[j]? with
      | none =>
        rw [List.getElem?_eq_none_iff] at hv
        rw [Option.map_none, List.getElem?_eq_none_iff, hcount]
        exact hv
      | some v => exact hcorner j v hv
  · intro h
    refine ⟨by rw [h, layer, List.length_mapIdx], fun i corners hcorners => ?_⟩
    refine ⟨s.face i corners, ?_, List.length_map .., fun j v hv => ?_⟩
    · rw [h, layer, List.getElem?_mapIdx, hcorners, Option.map_some]
    · rw [face_getElem?, hv, Option.map_some]

theorem shows_layer_iff : (t.layer faces).Shows s faces ↔
    ∀ (i : Nat) corners, faces[i]? = some corners → t.face i corners = s.face i corners := by
  rw [shows_iff, layer, layer, List.ext_getElem?_iff]
  simp only [List.getElem?_mapIdx]
  refine forall_congr' fun i => ?_
  cases faces[i]? with
  | none => simp
  | some corners => simp

end UvSet

namespace Mesh

variable {m : Mesh} {s : UvSet} {name : String}

/-! ### One layer -/

theorem addUvLayer_eq (m : Mesh) (s : UvSet) : m.addUvLayer s =
    { m with uvLayers :=
        m.uvLayers ++ if (m.uvLayer? s.id).isSome then [] else [s.layer m.faces] } := by
  unfold addUvLayer
  cases m.uvLayer? s.id with
  | none => rfl
  | some l => simp

theorem faces_addUvLayer (m : Mesh) (s : UvSet) : (m.addUvLayer s).faces = m.faces := by
  rw [addUvLayer_eq]

theorem uvLayer?_addUvLayer (m : Mesh) (s : UvSet) (name : String) :
    (m.addUvLayer s).uvLayer? name = (m.uvLayer? name).or
      ((Keyed.find? UvSet.id name [s]).map fun s => s.layer m.faces) := by
  have hnew : [s.layer m.faces].find? (fun l => l.name == name) =
      (Keyed.find? UvSet.id name [s]).map fun s => s.layer m.faces := by
    by_cases hname : s.id = name <;> simp [UvSet.layer, Keyed.find?, hname]
  rw [addUvLayer_eq, uvLayer?, List.find?_append, ← hnew]
  by_cases hname : s.id = name
  · subst hname
    cases hold : m.uvLayers.find? fun l => l.name == s.id with
    | none => simp [uvLayer?, hold]
    | some l => simp [uvLayer?, hold]
  · have hother : Keyed.find? UvSet.id name [s] = none := by simp [Keyed.find?, hname]
    rw [hnew, hother]
    cases (m.uvLayer? s.id).isSome with
    | true => rfl
    | false =>
      rw [hother] at hnew
      exact congrArg (Option.or _) hnew

/-! ### Layers after any changes -/

theorem layers_assignMaterial (material : Material) (g : Geometry) (slot : Nat) (edges : EdgeMap)
    (m : Mesh) : (assignMaterial material g slot edges m).1.faces = m.faces ∧
      (assignMaterial material g slot edges m).1.uvLayers = m.uvLayers := by
  have hkept := ImportedScene.unpainted_assignMaterial material g slot edges m
  exact ⟨congrArg (fun m => m.faces) hkept, congrArg (fun m => m.uvLayers) hkept⟩

theorem layers_apply (c : MeshChange) (m : Mesh) (name : String) :
    (c.apply m).faces = m.faces ∧ (c.apply m).uvLayer? name = (m.uvLayer? name).or
      ((Keyed.find? UvSet.id name c.uvSet?.toList).map fun s => s.layer m.faces) := by
  cases c with
  | addUvLayer s =>
    exact ⟨faces_addUvLayer m s, uvLayer?_addUvLayer m s name⟩
  | assignMaterial material g slot edges =>
    obtain ⟨hfaces, hlayers⟩ := layers_assignMaterial material g slot edges m
    refine ⟨hfaces, ?_⟩
    rw [MeshChange.apply, uvLayer?, hlayers]
    exact Option.or_none.symm
  | _ => exact ⟨rfl, Option.or_none.symm⟩

/-- **The first UV set of a name makes the layer of this name**, whatever else is done to a mesh. -/
theorem layers_run (m : Mesh) (cs : List MeshChange) (name : String) :
    (m.run cs).faces = m.faces ∧ (m.run cs).uvLayer? name = (m.uvLayer? name).or
      ((Keyed.find? UvSet.id name (cs.filterMap MeshChange.uvSet?)).map
        fun s => s.layer m.faces) := by
  induction cs generalizing m with
  | nil => exact ⟨rfl, Option.or_none.symm⟩
  | cons c cs ih =>
    obtain ⟨hfaces, hlayer⟩ := layers_apply c m name
    obtain ⟨hfaces', hlayer'⟩ := ih (c.apply m)
    have hsets : (c :: cs).filterMap MeshChange.uvSet? =
        c.uvSet?.toList ++ cs.filterMap MeshChange.uvSet? := by
      cases hset : c.uvSet? <;> simp [hset]
    refine ⟨hfaces'.trans hfaces, hlayer'.trans ?_⟩
    rw [hlayer, hfaces, hsets, Keyed.find?, Keyed.find?, Keyed.find?, List.find?_append,
      Option.map_or, Option.or_assoc]

theorem uvLayer?_ofGeometry (g : Geometry) (origin : Vec3) (name : String) :
    (ofGeometry g origin).1.uvLayer? name =
      (Keyed.find? UvSet.id name g.defaultUvSet.toList).map
        fun s => s.layer (ofGeometry g origin).1.faces := by
  have hgroups : ∀ (sets : List VertexSet) (m : Mesh),
      (m.addGroups sets).uvLayers = m.uvLayers := fun sets m =>
    List.foldlRecOn (motive := fun m' : Mesh => m'.uvLayers = m.uvLayers) sets _ rfl
      fun m' h s _ => h
  unfold ofGeometry
  cases g.defaultUvSet with
  | none => simp [uvLayer?, hgroups, ofFaces, Keyed.find?]
  | some s =>
    dsimp only
    rw [uvLayer?_addUvLayer, addUvLayer_eq, uvLayer?, hgroups]
    rfl

/-! ### The layer of a material -/

variable {c : ContentRoot} {d : Document} {st st' : LoadState} {material : Material} {url : String}

theorem uvMapFor_of_find (m : Mesh) (hurl : material.uvSet = some url)
    (hfind : c.find d Libraries.uvSets url st = (.ok s, st')) :
    m.uvMapFor c d material st = (.ok (some s.id, m.addUvLayer s), st') := by
  unfold uvMapFor
  rw [hurl]
  -- what is returned inside of the `try` is handed on as an exception of its own
  exact Load.bind_apply_ok (a := Except.error (some s.id, m.addUvLayer s))
    (Load.tryCatch_apply_ok (Load.bind_apply_ok hfind))

/-- **When the layer of a material is that of its own UV set.** A material whose UV set is found gets
the layer of its name, and no other layer is changed. The layer shows the UV set exactly if one that
was there before does. In a mesh made of a geometry, the first UV set of the name decides: the layer
shows the UV set of the material exactly if the default set of the geometry or, of the sets added
since, the first one of its name gives the same points to all faces. -/
theorem uvMapFor_shows_iff (m : Mesh) (hurl : material.uvSet = some url)
    (hfind : c.find d Libraries.uvSets url st = (.ok s, st')) :
    ∃ m', m.uvMapFor c d material st = (.ok (some s.id, m'), st') ∧
      (∃ added, m' = { m with uvLayers := m.uvLayers ++ added }) ∧
      ((∃ l, m'.uvLayer? s.id = some l ∧ l.Shows s m'.faces) ↔
        ∀ l, m.uvLayer? s.id = some l → l.Shows s m.faces) ∧
      ∀ g origin cs, m = (ofGeometry g origin).1.run cs →
        ((∃ l, m'.uvLayer? s.id = some l ∧ l.Shows s m'.faces) ↔
          ∀ t, Keyed.find? UvSet.id s.id
              (g.defaultUvSet.toList ++ cs.filterMap MeshChange.uvSet?) = some t →
            ∀ (i : Nat) corners, m.faces[i]? = some corners →
              t.face i corners = s.face i corners) := by
  have hself : (s.layer m.faces).Shows s m.faces := UvSet.shows_layer_iff.2 fun _ _ _ => rfl
  have hlayer : (m.addUvLayer s).uvLayer? s.id =
      (m.uvLayer? s.id).or (some (s.layer m.faces)) := by
    rw [uvLayer?_addUvLayer]
    simp [Keyed.find?]
  have hfaces : (m.addUvLayer s).faces = m.faces := faces_addUvLayer m s
  have hbefore : (∃ l, (m.addUvLayer s).uvLayer? s.id = some l ∧
      l.Shows s (m.addUvLayer s).faces) ↔ ∀ l, m.uvLayer? s.id = some l → l.Shows s m.faces := by
    rw [hlayer, hfaces]
    cases m.uvLayer? s.id with
    | none => simpa using hself
    | some l => simp
  refine ⟨m.addUvLayer s, uvMapFor_of_find m hurl hfind, ⟨_, addUvLayer_eq m s⟩, hbefore, ?_⟩
  rintro g origin cs rfl
  obtain ⟨hsame, hrun⟩ := layers_run (ofGeometry g origin).1 cs s.id
  have hfirst : ((ofGeometry g origin).1.run cs).uvLayer? s.id = (Keyed.find? UvSet.id s.id
      (g.defaultUvSet.toList ++ cs.filterMap MeshChange.uvSet?)).map
        fun t => t.layer (ofGeometry g origin).1.faces := by
    rw [hrun, uvLayer?_ofGeometry, Keyed.find?, Keyed.find?, Keyed.find?, List.find?_append,
      Option.map_or]
  rw [hbefore, hfirst, hsame]
  simp only [Option.map_eq_some_iff, forall_exists_index, and_imp, forall_apply_eq_imp_iff₂,
    UvSet.shows_layer_iff]

/-- The corners of a triangle use the points of their vertices. -/
def flatSet : UvSet := ⟨"default", [⟨0.0, 0.0⟩, ⟨1.0, 0.0⟩, ⟨1.0, 1.0⟩], []⟩

/-- The third corner of the triangle uses the point of the first one. -/
def foldedSet (id : String) : UvSet := { flatSet with id := id, overrides := [((0, 2), 0)] }

/-- A triangle whose default UV set is the first one. -/
def texturedTriangle : Geometry :=
  { (default : Geometry) with
    vertices := [Vec3.zero, Vec3.one, Vec3.zero]
    polygons := [⟨some 0, some 0, [0, 1, 2]⟩]
    defaultUvSet := some flatSet }

/-- A document with the second UV set. -/
def foldedDocument (id : String) : Document :=
  { (default : Document) with libraries := .ofUvSets (.ofList [foldedSet id]) }

/-- A material of this document. -/
def foldedMaterial (url : String) : Material := { (default : Material) with uvSet := some url }

/-- Another name makes a layer of its own. -/
theorem uvMapFor_shows_iff_folded :
    (foldedMaterial "#alt").uvSet = some "#alt" ∧
      (default : ContentRoot).find (foldedDocument "alt") Libraries.uvSets "#alt" .start =
        (.ok (foldedSet "alt"), .start) ∧
      ∃ m' l, (ofGeometry texturedTriangle Vec3.zero).1.uvMapFor default (foldedDocument "alt")
          (foldedMaterial "#alt") .start = (.ok (some "alt", m'), .start) ∧
        m'.uvLayer? "alt" = some l ∧ l.Shows (foldedSet "alt") m'.faces := by
  have hfind : (default : ContentRoot).find (foldedDocument "alt") Libraries.uvSets "#alt" .start =
    (.ok (foldedSet "alt"), .start) := rfl
  have hurl : (foldedMaterial "#alt").uvSet = some "#alt" := rfl
  obtain ⟨m', hm', -, -, hfirst⟩ :=
    uvMapFor_shows_iff (ofGeometry texturedTriangle Vec3.zero).1 hurl hfind
  obtain ⟨l, hl, hshows⟩ := (hfirst texturedTriangle Vec3.zero [] rfl).2 fun t ht => by
    have hnone : Keyed.find? UvSet.id "alt" [flatSet] = none := by decide
    cases ht.symm.trans hnone
  exact ⟨hurl, hfind, m', l, hm', hl, hshows⟩

/-- **The layer of a material need not show its UV set**: the default UV set of the geometry has the
same name, and its layer is taken. -/
theorem exists_layer_of_other_set : ∃ (c : ContentRoot) (d : Document) (material : Material)
    (url : String) (s : UvSet) (g : Geometry) (m' : Mesh), material.uvSet = some url ∧
      c.find d Libraries.uvSets url .start = (.ok s, .start) ∧
      (ofGeometry g Vec3.zero).1.uvMapFor c d material .start = (.ok (some s.id, m'), .start) ∧
      ¬ ∃ l, m'.uvLayer? s.id = some l ∧ l.Shows s m'.faces := by
  have hfind : (default : ContentRoot).find (foldedDocument "default") Libraries.uvSets "#default"
    .start = (.ok (foldedSet "default"), .start) := rfl
  refine ⟨default, foldedDocument "default", foldedMaterial "#default", "#default",
    foldedSet "default", texturedTriangle, _, rfl, hfind, uvMapFor_of_find _ rfl hfind, ?_⟩
  rintro ⟨l, hl, hshows⟩
  obtain rfl : flatSet.layer [[0, 1, 2]] = l := Option.some.inj hl
  have hcorner := UvSet.shows_layer_iff.1 hshows 0 [0, 1, 2] rfl
  exact absurd (congrArg (List.map UvPoint.u) hcorner) (by decide +kernel)

end Mesh

end RiggedScene
