import RiggedScene.Proofs.Import.Furnishing
import RiggedScene.Proofs.Mesh.Groups

/-!
# Passes that leave vertex groups alone

The objects of an import are made with the groups of their geometries. After that only skins touch
groups: materials add layers and slots, links and places change nothing of a mesh, and morphs add
shape keys and weigh them.

* `Document.objectGeometries` are the geometries that the objects are made of, object by object, and
  `ImportedScene.furnish_groups` : the objects start with their groups;
* `ImportedScene.SameGroups` says that objects have the same groups, and there is a lemma for each
  pass that keeps them.
-/

namespace RiggedScene

open Load (Yields)

/-- The vertices and the groups of an object with a mesh. -/
def SceneObject.grouping (o : SceneObject) : Option Grouping := o.mesh.map Mesh.grouping

/-- The geometries that the objects of a node are made of; `none` is for an object without a
mesh. -/
def NodeInstance.objectGeometries (n : NodeInstance) : List (Option Geometry) :=
  n.geometries.map (fun g => some g.geometry) ++
    if n.node.kind == .node && n.geometries.isEmpty then [none] else []

/-- The geometries that the objects of a document are made of, object by object. -/
def Document.objectGeometries (d : Document) : List (Option Geometry) :=
  d.scene.nodes.flatMap NodeInstance.objectGeometries

namespace ImportedScene

variable {c : ContentRoot} {d : Document} {config : ImportConfig} {s s' s'' t : ImportedScene}
  {bones : List NodeInstance}

/-! ### Scenes with the same groups -/

/-- The objects have the same vertices and groups, and the configuration is the same. -/
structure SameGroups (s t : ImportedScene) : Prop where
  groups : t.objects.map SceneObject.grouping = s.objects.map SceneObject.grouping
  config : t.config = s.config

namespace SameGroups

theorem refl (s : ImportedScene) : SameGroups s s := ⟨rfl, rfl⟩

theorem trans (h : SameGroups s s') (h' : SameGroups s' s'') : SameGroups s s'' :=
  ⟨h'.groups.trans h.groups, h'.config.trans h.config⟩

/-- A change of one object that leaves its groups alone. -/
theorem modifyObject {i : Nat} {f : SceneObject → SceneObject}
    (hf : ∀ o, s.objects[i]? = some o → (f o).grouping = o.grouping) :
    SameGroups s (s.modifyObject i f) := by
  refine ⟨?_, rfl⟩
  cases ho : s.objects[i]? with
  | none => rw [ImportedScene.modifyObject, List.modify_eq_self (List.getElem?_eq_none_iff.1 ho)]
  | some o => exact modifyObject_map ho (hf o ho)

/-- A change of a mesh that leaves its groups alone. -/
theorem modifyMesh {i : Nat} {o : SceneObject} {mesh mesh' : Mesh} (ho : s.objects[i]? = some o)
    (hmesh : o.mesh = some mesh) (h : mesh'.grouping = mesh.grouping)
    {f : SceneObject → SceneObject} (hf : (f o).mesh = some mesh') :
    SameGroups s (s.modifyObject i f) := by
  refine modifyObject fun o' ho' => ?_
  obtain rfl := Option.some.inj (ho.symm.trans ho')
  rw [SceneObject.grouping, SceneObject.grouping, hf, hmesh, Option.map_some, Option.map_some, h]

end SameGroups

/-! ### Objects as they are made -/

theorem grouping_of_unshaped {mesh mesh' : Mesh} (h : mesh'.unshaped = mesh.unshaped) :
    mesh'.grouping = mesh.grouping :=
  congrArg (fun m => m.grouping) h

theorem geometryObject_groups (c : ContentRoot) (config : ImportConfig) (n : NodeInstance)
    (g : GeometryInstance) : Yields (geometryObject c config n g) fun r =>
      r.1.grouping = some g.geometry.grouping := by
  have hmesh := Mesh.grouping_ofGeometry g.geometry n.node.center
  unfold geometryObject
  dsimp only
  split
  · refine (loadMorphs_yields c config _ _).bind fun st hst => .pure ?_
    exact congrArg some ((grouping_of_unshaped hst).trans hmesh)
  · exact .bind (.pure (Q := fun st => st.mesh.grouping = g.geometry.grouping) hmesh)
      fun st hst => .pure (congrArg some hst)

/-- The objects of a node have the groups of its geometries. -/
theorem addObjects_groups (s : ImportedScene) (n : NodeInstance) :
    Yields (addObjects c s n) fun t => t.objects.map SceneObject.grouping =
      s.objects.map SceneObject.grouping ++ n.objectGeometries.map (Option.map Geometry.grouping) ∧
      t.config = s.config := by
  have hobject : ∀ g ∈ n.geometries, Yields (geometryObject c s.config n g) fun r =>
      r.1.grouping = some g.geometry.grouping := fun g _ => geometryObject_groups c s.config n g
  refine .bind (.mapM_map hobject) fun made hmade => .pure ⟨?_, rfl⟩
  have hmade' : (made.map Prod.fst).map SceneObject.grouping =
      n.geometries.map fun g => some g.geometry.grouping := by
    rw [← hmade, List.map_map]
    rfl
  rw [List.map_append, List.map_append, hmade', NodeInstance.objectGeometries, List.map_append,
    List.append_assoc]
  congr 2
  · simp
  · split <;> rfl

theorem addMaterial_sameGroups (s : ImportedScene) (m : MaterialInstance) :
    Yields (addMaterial c d s m) (SameGroups s) := by
  unfold addMaterial
  refine (ShadingMaterial.ofMaterial_yields c d m.material).bind fun shading _ => ?_
  cases htarget : s.materialTarget? d m.material with
  | none => exact .pure ⟨rfl, rfl⟩
  | some target =>
    obtain ⟨i, g⟩ := target
    obtain ⟨o, mesh, ho, hmesh⟩ := exists_mesh_of_materialTarget? htarget
    simp only [ho, hmesh]
    refine (Mesh.uvMapFor_layers c d m.material mesh).bind fun r hr => .pure ?_
    have hlayers : r.2.grouping = mesh.grouping := by
      rcases hr with h | ⟨u, h⟩
      · rw [h]
      · rw [h, Mesh.grouping_addUvLayer]
    -- of a painted mesh only slots and materials of faces are different
    have hpainted := unpainted_assignMaterial m.material g r.2.materialSlots.length r.2.edgeFaces
      (r.2.addSlot m.material.id)
    generalize (Mesh.assignMaterial m.material g r.2.materialSlots.length r.2.edgeFaces
      (r.2.addSlot m.material.id)).1 = mesh' at hpainted
    have hassigned : mesh'.grouping = mesh.grouping :=
      (congrArg (fun m => m.grouping) hpainted).trans hlayers
    have hmodified := SameGroups.modifyMesh ho hmesh hassigned
      (f := fun o => { o with mesh := some mesh' }) rfl
    exact ⟨hmodified.groups, hmodified.config⟩

/-- **After the first passes the objects have the groups of their geometries.** -/
theorem furnish_groups (c : ContentRoot) (config : ImportConfig) (d : Document) :
    Yields (furnish c config d) fun s => s.objects.map SceneObject.grouping =
      d.objectGeometries.map (Option.map Geometry.grouping) ∧ s.config = config := by
  -- the nodes are taken one after another; after each, the objects are those of the nodes taken
  let Made (nodes : List NodeInstance) (s : ImportedScene) : Prop :=
    s.objects.map SceneObject.grouping =
      (nodes.flatMap NodeInstance.objectGeometries).map (Option.map Geometry.grouping) ∧
        s.config = config
  have hobjects : Yields (d.scene.nodes.foldlM (addObjects c) (empty config))
      (Made ([] ++ d.scene.nodes)) := by
    refine .foldlM_taken (R := Made) (fun taken s n hs => ?_) ⟨rfl, rfl⟩
    refine (addObjects_groups s n).imp fun t ht => ⟨?_, ht.2.trans hs.2⟩
    rw [ht.1, hs.1, List.flatMap_append, List.flatMap_singleton, List.map_append]
  refine hobjects.bind fun s hs => ?_
  refine (Yields.foldlM (R := SameGroups s) (fun s' m _ hs' => ?_) (.refl s)).imp
    fun t ht => ⟨ht.groups.trans hs.1, ht.config.trans hs.2⟩
  exact (addMaterial_sameGroups s' m).imp fun t ht => hs'.trans ht

/-! ### Passes that leave groups alone -/

theorem addArmature_sameGroups (s : ImportedScene) (d : Document) :
    SameGroups s (s.addArmature d) := by
  unfold addArmature
  dsimp only
  split
  · refine SameGroups.trans ?_ (.modifyObject fun _ _ => rfl)
    exact ⟨rfl, rfl⟩
  · exact ⟨rfl, rfl⟩

theorem linkParent_sameGroups (s : ImportedScene) (n : NodeInstance) :
    SameGroups s (s.linkParent n) := by
  unfold linkParent
  split
  · exact .modifyObject fun _ _ => rfl
  · exact .refl s

theorem placeObject_sameGroups (s : ImportedScene) (n : NodeInstance) :
    SameGroups s (s.placeObject n) := by
  unfold placeObject
  split
  · exact .refl s
  · dsimp only
    split
    · exact ⟨rfl, rfl⟩
    · split
      · exact .refl s
      · exact .modifyObject fun _ _ => rfl

theorem placed_sameGroups (s : ImportedScene) (d : Document) : SameGroups s (s.placed d) := by
  have hlinked : SameGroups s (s.linked d) :=
    List.foldlRecOn _ linkParent (addArmature_sameGroups s d)
      fun s' h n _ => h.trans (linkParent_sameGroups s' n)
  exact List.foldlRecOn _ placeObject hlinked fun s' h n _ => h.trans (placeObject_sameGroups s' n)

theorem poseBones_sameGroups (s : ImportedScene) (bones : List NodeInstance) :
    SameGroups s (s.poseBones bones) := by
  unfold poseBones
  split
  · exact .refl s
  · exact ⟨rfl, rfl⟩

theorem registerOn_sameGroups (s : ImportedScene) (i : Nat) (m : Modifier) :
    SameGroups s (s.registerOn i m) := by
  unfold registerOn
  split
  · exact .refl s
  · next o ho =>
    split
    · next mesh hmesh =>
      split
      · next rig mesh' notes hregister =>
        have hmodified := SameGroups.modifyMesh ho hmesh
          (grouping_of_unshaped (unshaped_register? hregister))
          (f := fun o => { o with morphs := rig, mesh := some mesh' }) rfl
        exact ⟨hmodified.groups, hmodified.config⟩
      · exact .refl s
    · exact .refl s

/-- Setting a morph weighs shape keys only. -/
theorem setMorph_sameGroups (s : ImportedScene) (object morph : String) (value : Float) :
    SameGroups s (s.setMorph object morph value).1 := by
  unfold setMorph
  split
  · exact .refl s
  · next i hi =>
    split
    · exact .refl s
    · next o ho =>
      split
      · exact .refl s
      · next mesh hmesh =>
        dsimp only
        generalize hstage : (⟨⟨o.morphs, mesh, s.notes⟩, s.armature⟩ : MorphStage) = stage
        have hwritten := stage.setValue_written s.config morph value
        generalize stage.setValue s.config morph value = after at hwritten ⊢
        subst hstage
        have hweighed : after.1.state.mesh.unweighted = mesh.unweighted := by
          rw [hwritten.mesh, MorphState.writes_unweighted]
        have hshaped : after.1.state.mesh.unshaped = mesh.unshaped :=
          congrArg (fun m => m.unshaped) hweighed
        have hmodified := SameGroups.modifyMesh ho hmesh (grouping_of_unshaped hshaped)
          (f := fun o => { o with morphs := after.1.state.rig, mesh := some after.1.state.mesh })
          rfl
        exact ⟨hmodified.groups, hmodified.config⟩

theorem applyMorph_sameGroups {parent : String} {channel : Channel} {m : Modifier}
    (h : s.applyMorph parent channel m = .ok t) : SameGroups s t := by
  unfold applyMorph at h
  split at h
  · obtain rfl := Except.ok.inj h
    exact .refl s
  · next i _ =>
    have hregistered : SameGroups s (s.registerOn i m) := registerOn_sameGroups s i m
    generalize s.registerOn i m = s' at h hregistered
    dsimp only at h
    split at h
    · obtain rfl := Except.ok.inj h
      exact hregistered
    · next o _ =>
      split at h
      · obtain rfl := Except.ok.inj h
        exact hregistered
      · have hset := setMorph_sameGroups s' o.name m.id (channel.currentFloat.getD 0.0)
        generalize s'.setMorph o.name m.id (channel.currentFloat.getD 0.0) = r at h hset
        split at h
        · obtain rfl := Except.ok.inj h
          exact hregistered.trans hset
        · obtain rfl := Except.ok.inj h
          exact hregistered.trans (hset.trans ⟨rfl, rfl⟩)
        · cases h

theorem markDeformed_sameGroups (s : ImportedScene) : SameGroups s s.markDeformed := by
  unfold markDeformed
  split
  · exact .refl s
  · refine ⟨List.ext_getElem? fun i => ?_, rfl⟩
    simp only [List.getElem?_map, List.getElem?_mapIdx, Option.map_map]
    rfl

end ImportedScene

end RiggedScene
