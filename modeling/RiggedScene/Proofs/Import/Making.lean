import RiggedScene.Import.Build
import RiggedScene.Proofs.Document.Yields

/-!
# Making objects and adding materials

The first passes of an import make the objects of all nodes and add the materials of the scene. They
cannot fail: files of morphs that cannot be loaded are passed over, and so are images and UV sets
that lead nowhere.

* `NodeInstance.seeds` are the objects that are made for a node, by what they are made with;
* `ImportedScene.addObjects_yields` : they are put behind the others;
* `ImportedScene.AddsMaterial` is what adding a material does, with an object for it or without, and
  `ImportedScene.addMaterial_yields` : nothing else happens.
-/

namespace RiggedScene

open Load (Yields)

/-- The mesh without its weights and blend shapes. -/
def Mesh.unbound (m : Mesh) : Mesh := { m with vertexGroups := [], shapeKeys := [] }

/-- The mesh without its blend shapes. -/
def Mesh.unshaped (m : Mesh) : Mesh := { m with shapeKeys := [] }

/-- The mesh without what a material gives its faces. -/
def Mesh.unpainted (m : Mesh) : Mesh :=
  { m with faceMaterials := [], faceSmooth := [], sharpEdges := [] }

/-! ### Shading -/

section Shading

variable (c : ContentRoot) (d : Document)

theorem ShadingMaterial.channelImage_yields (ch : Channel) :
    Yields (channelImage c d ch) fun _ => True := by
  unfold channelImage
  split
  · exact .pure trivial
  · exact .pure trivial
  · -- what is returned inside of the `try` is an exception of its own, caught at the end
    refine .bind (.tryCatch (Q := fun _ => True) (fun _ _ => trivial) fun _ => ?_) fun e _ => ?_
    · exact Yields.pure (a := Except.error none) trivial
    · cases e <;> exact .pure trivial

theorem ShadingMaterial.addInput_yields (inputs : List (String × MaterialInput)) (name : String)
    (kind : InputKind) (ch : Channel) : Yields (addInput c d inputs name kind ch) fun _ => True := by
  have hinput : Yields (channelInput c d kind ch) fun _ => True :=
    (channelImage_yields c d ch).bind fun _ _ => .pure trivial
  exact hinput.bind fun _ _ => .pure trivial

theorem ShadingMaterial.ofMaterial_yields (m : Material) :
    Yields (ofMaterial c d m) fun e => e.name = m.id ∧ e.object = none ∧ e.slot = none := by
  have hinputs : Yields (inputsOf c d m) fun _ => True := by
    refine .bind (P := fun _ => True) (.foldlM (fun inputs i _ _ => ?_) trivial) fun _ _ => ?_
    · dsimp only
      split
      · exact addInput_yields c d inputs _ _ _
      · exact .pure trivial
    · split
      · exact .pure trivial
      · refine .foldlM (fun inputs i _ _ => ?_) trivial
        dsimp only
        split
        · exact addInput_yields c d inputs _ _ _
        · exact .pure trivial
  exact hinputs.bind fun _ _ => .pure ⟨rfl, rfl, rfl⟩

theorem Mesh.uvMapFor_layers (material : Material) (m : Mesh) :
    Yields (m.uvMapFor c d material) fun r => r.2 = m ∨ ∃ s, r.2 = m.addUvLayer s := by
  -- the `try` hands the chosen layer on as an exception or, after an error, in the same way
  let Layers (r : Except (Option String × Mesh) (Option String × Mesh)) : Prop :=
    ∀ p, r = .error p ∨ r = .ok p → p.2 = m ∨ ∃ s, p.2 = m.addUvLayer s
  unfold uvMapFor
  dsimp only
  split
  · exact .pure (.inl rfl)
  · refine .bind (P := Layers) (.tryCatch (fun r hr => ?_) fun _ => .pure ?_) fun r hr => ?_
    · obtain ⟨s, -, hgives⟩ := hr.of_bind fun _ _ => trivial
      obtain ⟨_, -, hanswer⟩ := hgives
      cases hanswer
      rintro p (hp | hp)
      · cases hp
        exact .inr ⟨s, rfl⟩
      · cases hp
    · rintro p (hp | hp)
      · cases hp
        exact .inl rfl
      · cases hp
    · cases r with
      | ok p => exact .pure (hr p (.inr rfl))
      | error p => exact .pure (hr p (.inl rfl))

/-- The layer that is added changes neither the name nor the slots of the mesh. -/
theorem Mesh.uvMapFor_yields (material : Material) (m : Mesh) :
    Yields (m.uvMapFor c d material) fun r =>
      r.2.name = m.name ∧ r.2.materialSlots = m.materialSlots := by
  refine (uvMapFor_layers c d material m).imp fun r hr => ?_
  rcases hr with h | ⟨s, h⟩
  · exact ⟨h ▸ rfl, h ▸ rfl⟩
  · rw [h]
    unfold addUvLayer
    split
    · exact ⟨rfl, rfl⟩
    · exact ⟨rfl, rfl⟩

end Shading

namespace ImportedScene

/-! ### Objects -/

section Objects

variable (c : ContentRoot) (config : ImportConfig)

theorem attempt_yields {α : Type} (load : Load α) : Yields (attempt load) fun _ => True := by
  intro s
  unfold Load.answer attempt
  split
  · exact ⟨_, rfl, trivial⟩
  · exact ⟨_, rfl, trivial⟩

/-- Taking a morph in adds at most a blend shape. -/
theorem unshaped_register? {r r' : MorphRig} {m : Modifier} {mesh mesh' : Mesh}
    {notes : List Diagnostic} (h : r.register? m mesh = some (r', mesh', notes)) :
    mesh'.unshaped = mesh.unshaped := by
  obtain ⟨x, -, hx⟩ := Option.map_eq_some_iff.1 h
  obtain ⟨-, hmesh, -⟩ := Prod.mk.inj hx |>.imp_right Prod.mk.inj
  rw [← hmesh]
  cases x.deltas <;> rfl

theorem unbound_register? {r r' : MorphRig} {m : Modifier} {mesh mesh' : Mesh}
    {notes : List Diagnostic} (h : r.register? m mesh = some (r', mesh', notes)) :
    mesh'.unbound = mesh.unbound :=
  congrArg (fun m => m.unbound) (unshaped_register? h)

theorem unshaped_registerAll (ms : List Modifier) (state : MorphState) :
    (registerAll ms state).mesh.unshaped = state.mesh.unshaped := by
  unfold registerAll
  induction ms generalizing state with
  | nil => rfl
  | cons m ms ih =>
    refine (ih _).trans ?_
    dsimp only
    split
    · next hregister => exact unshaped_register? hregister
    · rfl

theorem loadMorphs_yields (dir : Path) (state : MorphState) :
    Yields (loadMorphs c config dir state) fun st => st.mesh.unshaped = state.mesh.unshaped := by
  unfold loadMorphs
  split
  · refine .foldlM (fun st file _ hst => ?_) rfl
    refine (attempt_yields _).bind fun d _ => ?_
    split
    · exact .pure ((unshaped_registerAll _ st).trans hst)
    · exact .pure hst
  · exact .pure rfl

/-- What an object of a geometry is made with. -/
theorem geometryObject_yields (n : NodeInstance) (g : GeometryInstance) :
    Yields (geometryObject c config n g) fun r => r.1.name = n.id ∧
      r.1.mesh.map Mesh.name = some g.id ∧ r.1.parent = none ∧
      r.1.transform = { ObjectTransform.identity with location := n.node.center } := by
  unfold geometryObject
  dsimp only
  split
  · refine (loadMorphs_yields c config _ _).bind fun st hst => .pure ⟨rfl, ?_, rfl, rfl⟩
    exact congrArg (fun m : Mesh => some m.name) hst
  · exact .bind (.pure (Q := fun st => st.mesh.name = g.id) rfl) fun st hst =>
      .pure ⟨rfl, congrArg some hst, rfl, rfl⟩

end Objects

end ImportedScene

/-! ### Objects as they are made -/

/-- What an object is looked up by: its name, and the name of its mesh. -/
def SceneObject.key (o : SceneObject) : String × Option String := (o.name, o.mesh.map Mesh.name)

/-- What an object is made with: its key, its parent and its place. -/
abbrev ObjectSeed := (String × Option String) × Option ObjectParent × ObjectTransform

/-- What the object would have been made with. -/
def SceneObject.seed (o : SceneObject) : ObjectSeed := (o.key, o.parent, o.transform)

namespace NodeInstance

variable (n : NodeInstance)

/-- The names of the meshes that objects are made for; `none` is for an object without a mesh. -/
def meshNames : List (Option String) :=
  n.geometries.map (fun g => some g.id) ++
    if n.node.kind == .node && n.geometries.isEmpty then [none] else []

/-- Where the objects of the node are at first. -/
def startTransform : ObjectTransform :=
  if n.geometries.isEmpty then .identity
  else { ObjectTransform.identity with location := n.node.center }

/-- The objects of the node as they are made. -/
def seeds : List ObjectSeed := n.meshNames.map fun mesh => ((n.id, mesh), none, n.startTransform)

theorem length_seeds : n.seeds.length = ImportedScene.objectCount n := by
  unfold seeds meshNames ImportedScene.objectCount
  split
  · next hempty =>
    have hnone : n.geometries = [] := by simpa using (Bool.and_eq_true_iff.1 hempty).2
    simp [hnone]
  · simp

theorem of_mem_seeds {n : NodeInstance} {seed : ObjectSeed} (h : seed ∈ n.seeds) :
    seed.1.1 = n.id ∧ seed.2 = (none, n.startTransform) := by
  obtain ⟨mesh, -, rfl⟩ := List.mem_map.1 h
  exact ⟨rfl, rfl⟩

end NodeInstance

namespace ImportedScene

variable {c : ContentRoot} {d : Document} {s : ImportedScene}

/-- **The objects of a node are put behind the others**, and nothing else is changed. -/
theorem addObjects_yields (s : ImportedScene) (n : NodeInstance) :
    Yields (addObjects c s n) fun t => ∃ made, t.objects = s.objects ++ made ∧
      made.map SceneObject.seed = n.seeds ∧ (∀ o ∈ made, o.mesh = none → o.morphs = .empty) ∧
      t.materials = s.materials := by
  have hobject : ∀ g ∈ n.geometries, Yields (geometryObject c s.config n g) fun r =>
      r.1.seed = ((n.id, some g.id), none, n.startTransform) := by
    intro g hg
    refine (geometryObject_yields c s.config n g).imp fun r hr => ?_
    obtain ⟨hname, hmesh, hparent, htransform⟩ := hr
    have hne : n.geometries.isEmpty = false := by
      simpa using List.ne_nil_of_mem hg
    simp [SceneObject.seed, SceneObject.key, NodeInstance.startTransform, hname, hmesh, hparent,
      htransform, hne]
  refine .bind (.mapM_map hobject) fun made hmade => .pure ⟨_, List.append_assoc .., ?_, ?_, rfl⟩
  · rw [List.map_append, NodeInstance.seeds, NodeInstance.meshNames, List.map_append]
    congr 1
    · simpa [Function.comp_def] using hmade
    · split
      · next hempty =>
        have hnone : n.geometries.isEmpty = true := (Bool.and_eq_true_iff.1 hempty).2
        simp [SceneObject.seed, SceneObject.key, emptyObject, NodeInstance.startTransform, hnone]
      · rfl
  · intro o ho hbare
    rcases List.mem_append.1 ho with ho | ho
    · -- an object of a geometry has a mesh
      obtain ⟨r, hr, rfl⟩ := List.mem_map.1 ho
      obtain ⟨g, -, hseed⟩ := List.mem_map.1 (hmade ▸ List.mem_map_of_mem hr)
      have hmesh : r.1.mesh.map Mesh.name = some g.id :=
        congrArg (fun seed : ObjectSeed => seed.1.2) hseed.symm
      simp [hbare] at hmesh
    · split at ho
      · obtain rfl := List.mem_singleton.1 ho
        rfl
      · cases ho

/-! ### Materials as they are added -/

theorem objectForGeometry?_eq_some {id : String} {i : Nat} (h : s.objectForGeometry? id = some i) :
    ∃ o mesh, s.objects[i]? = some o ∧ o.mesh = some mesh ∧ mesh.name = plainName id := by
  obtain ⟨hi, hname, -⟩ := List.findIdx?_eq_some_iff_getElem.1 h
  cases hmesh : s.objects[i].mesh with
  | none => simp [hmesh] at hname
  | some mesh =>
    exact ⟨s.objects[i], mesh, List.getElem?_eq_getElem hi, hmesh, by simpa [hmesh] using hname⟩

theorem exists_mesh_of_materialTarget? {material : Material} {i : Nat} {g : Geometry}
    (h : s.materialTarget? d material = some (i, g)) :
    ∃ o mesh, s.objects[i]? = some o ∧ o.mesh = some mesh := by
  unfold materialTarget? at h
  obtain ⟨id, -, h⟩ := Option.bind_eq_some_iff.1 h
  obtain ⟨i', hi, h⟩ := Option.bind_eq_some_iff.1 h
  obtain ⟨_, -, h⟩ := Option.bind_eq_some_iff.1 h
  obtain ⟨rfl, -⟩ := Prod.mk.inj (Option.some.inj h)
  obtain ⟨o, mesh, ho, hmesh, -⟩ := objectForGeometry?_eq_some hi
  exact ⟨o, mesh, ho, hmesh⟩

theorem unpainted_assignMaterial (material : Material) (g : Geometry) (slot : Nat)
    (edges : EdgeMap) (mesh : Mesh) :
    (Mesh.assignMaterial material g slot edges mesh).1.unpainted = mesh.unpainted := by
  unfold Mesh.assignMaterial
  dsimp only
  generalize Mesh.coveredFaces material g mesh.faceCount = faces
  induction faces generalizing mesh with
  | nil => rfl
  | cons face faces ih =>
    refine (ih _).trans ?_
    unfold Mesh.assignFace
    cases (Mesh.smoothing material).2 with
    | none => rfl
    | some degrees => rfl

theorem assignMaterial_kept (material : Material) (g : Geometry) (slot : Nat) (edges : EdgeMap)
    (mesh : Mesh) : (Mesh.assignMaterial material g slot edges mesh).1.name = mesh.name ∧
      (Mesh.assignMaterial material g slot edges mesh).1.materialSlots = mesh.materialSlots := by
  have hkept := unpainted_assignMaterial material g slot edges mesh
  exact ⟨congrArg (fun m => m.name) hkept, congrArg (fun m => m.materialSlots) hkept⟩

/-- Adding a material gives it one entry. -/
inductive AddsMaterial (d : Document) (m : MaterialInstance) (s : ImportedScene) :
    ImportedScene → Prop
  /-- There is no object for it. -/
  | alone {e : ShadingMaterial} (htarget : s.materialTarget? d m.material = none)
      (hname : e.name = m.material.id) (hobject : e.object = none) (hslot : e.slot = none) :
      AddsMaterial d m s { s with materials := s.materials ++ [e] }
  /-- The mesh of the object for it gets a slot. -/
  | assigned {e : ShadingMaterial} {i : Nat} {g : Geometry} {o : SceneObject} {mesh mesh' : Mesh}
      (htarget : s.materialTarget? d m.material = some (i, g)) (ho : s.objects[i]? = some o)
      (hmesh : o.mesh = some mesh) (hkept : mesh'.name = mesh.name)
      (hslots : mesh'.materialSlots = mesh.materialSlots ++ [m.material.id])
      (hname : e.name = m.material.id) (hobject : e.object = some o.name)
      (hslot : e.slot = some mesh.materialSlots.length) :
      AddsMaterial d m s { s.modifyObject i fun o => { o with mesh := some mesh' } with
        materials := s.materials ++ [e] }

/-- **A material is added**, whatever it refers to. -/
theorem addMaterial_yields (s : ImportedScene) (m : MaterialInstance) :
    Yields (addMaterial c d s m) (AddsMaterial d m s) := by
  unfold addMaterial
  refine (ShadingMaterial.ofMaterial_yields c d m.material).bind fun shading hshading => ?_
  obtain ⟨hname, hobject, hslot⟩ := hshading
  cases htarget : s.materialTarget? d m.material with
  | none => exact .pure (.alone htarget hname hobject hslot)
  | some target =>
    obtain ⟨i, g⟩ := target
    obtain ⟨o, mesh, ho, hmesh⟩ := exists_mesh_of_materialTarget? htarget
    simp only [ho, hmesh]
    refine (Mesh.uvMapFor_yields c d m.material mesh).bind fun r hr => .pure ?_
    obtain ⟨hmeshName, hmeshSlots⟩ := hr
    obtain ⟨hassigned, hassignedSlots⟩ := assignMaterial_kept m.material g
      r.2.materialSlots.length r.2.edgeFaces (r.2.addSlot m.material.id)
    refine .assigned htarget ho hmesh (hassigned.trans hmeshName) ?_ hname rfl ?_
    · rw [hassignedSlots, ← hmeshSlots]
      rfl
    · rw [hmeshSlots]

end ImportedScene

end RiggedScene
