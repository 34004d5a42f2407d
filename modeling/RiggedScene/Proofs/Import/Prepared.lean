import RiggedScene.Proofs.Armature.Sources
import RiggedScene.Proofs.Import.Stable

/-!
# Scenes before their modifiers

After the objects and materials come the armature, links, places and poses, and with them the scene
that modifiers are applied to. None of these passes can fail.

* `ImportedScene.prepared` are these passes, and `ImportedScene.ofDocument_eq` what is left;
* `ImportedScene.applyModifiers_keeps` : what each modifier keeps, all of them keep;
* `ImportedScene.Prepared` : each object is named after a node, only objects with a mesh have
  morphs, and the armature is that of the selected bones, posed by their nodes;
* `ImportedScene.prepared_yields` : the passes always give such a scene.
-/

namespace RiggedScene

open Load (Yields)

/-! ### Scenes on the way -/

/-- An object as imports make them: it is named after a node, and it has no morphs without a
mesh. -/
structure SceneObject.MadeFor (nodes : List NodeInstance) (o : SceneObject) : Prop where
  named : ∃ n ∈ nodes, o.name = n.id
  bare : o.mesh = none → o.morphs = .empty

theorem SceneObject.MadeFor.stable (nodes : List NodeInstance) :
    SceneObject.Stable (SceneObject.MadeFor nodes) where
  parent _ h := ⟨h.named, h.bare⟩
  transform _ h := ⟨h.named, h.bare⟩
  mesh _ _ h := ⟨h.named, fun hnone => nomatch hnone⟩

namespace ImportedScene

/-- All objects are as imports make them. -/
def Furnished (nodes : List NodeInstance) (s : ImportedScene) : Prop :=
  ∀ o ∈ s.objects, o.MadeFor nodes

theorem Furnished.addObjects {c : ContentRoot} {nodes : List NodeInstance} {s : ImportedScene}
    (h : s.Furnished nodes) {n : NodeInstance} (hn : n ∈ nodes) :
    Yields (ImportedScene.addObjects c s n) (Furnished nodes) := by
  refine (addObjects_yields s n).imp fun t ht => ?_
  obtain ⟨made, hobjects, hseeds, hbare, -⟩ := ht
  intro o ho
  rw [hobjects] at ho
  rcases List.mem_append.1 ho with ho | ho
  · exact h o ho
  · have hseed : o.seed ∈ n.seeds := hseeds ▸ List.mem_map_of_mem ho
    exact ⟨⟨n, hn, (NodeInstance.of_mem_seeds hseed).1⟩, hbare o ho⟩

/-! ### All passes up to the modifiers -/

/-- The passes of an import up to the modifiers of the scene. -/
def prepared (c : ContentRoot) (config : ImportConfig) (d : Document) : Load ImportedScene := do
  let places := d.scene.nodes.filter NodeInstance.isGeometryNode
  let s ← d.scene.nodes.foldlM (addObjects c) (empty config)
  let s ← d.scene.materials.foldlM (addMaterial c d) s
  let s := places.foldl linkParent (s.addArmature d)
  return (places.foldl placeObject s).poseBones (selectBones d.scene.nodes)

/-- The modifiers of a scene, applied in order. -/
def applyModifiers (bones : List NodeInstance) (s : ImportedScene) (ms : List ModifierInstance) :
    Except Error ImportedScene :=
  ms.foldlM (applyModifier bones) s

/-- **What each modifier keeps, all of them keep.** -/
theorem applyModifiers_keeps {P : ImportedScene → Prop} {bones : List NodeInstance}
    {ms : List ModifierInstance} {s t : ImportedScene}
    (hstep : ∀ s, ∀ m ∈ ms, ∀ t, P s → applyModifier bones s m = .ok t → P t) (hs : P s)
    (h : s.applyModifiers bones ms = .ok t) : P t := by
  induction ms generalizing s with
  | nil =>
    obtain rfl := Except.ok.inj h
    exact hs
  | cons m ms ih =>
    obtain ⟨s', hs', h⟩ := exists_of_bind h
    exact ih (fun s m hm => hstep s m (List.mem_cons_of_mem _ hm))
      (hstep s m List.mem_cons_self s' hs hs') h

theorem ofDocument_eq (c : ContentRoot) (config : ImportConfig) (d : Document) :
    ofDocument c config d = prepared c config d >>= fun s =>
      ofDocument.liftExcept (s.applyModifiers (selectBones d.scene.nodes) d.scene.modifiers) >>=
        fun s => pure s.markDeformed := by
  simp only [ofDocument, prepared, applyModifiers, bind_assoc, pure_bind]

/-- The armature of the selected bones of a document. -/
def skeleton (d : Document) : Option Armature :=
  (Armature.build ((selectBones d.scene.nodes).map NodeInstance.boneSource)).1

/-- The rotations of nodes, for the bones that their templates lead to. -/
def restRotations (bones : List NodeInstance) : List BoneRotation :=
  bones.map fun n => ⟨n.templateId, n.node.sourceRotation⟩

/-- What is known of a scene before its modifiers are applied. -/
structure Prepared (d : Document) (s : ImportedScene) : Prop where
  furnished : s.Furnished d.scene.nodes
  armature_eq : s.armature = (skeleton d).map fun a =>
    (a.applyRotations (restRotations (selectBones d.scene.nodes))).1

section Prepared

variable (s : ImportedScene)

@[simp] theorem addArmature_armature (d : Document) : (s.addArmature d).armature = skeleton d := by
  unfold addArmature skeleton
  dsimp only
  split <;> rfl

@[simp] theorem linkParent_armature (n : NodeInstance) : (s.linkParent n).armature = s.armature := by
  unfold linkParent
  split <;> rfl

@[simp] theorem placeObject_armature (n : NodeInstance) :
    (s.placeObject n).armature = s.armature := by
  unfold placeObject
  split
  · rfl
  · dsimp only
    split
    · rfl
    · split <;> rfl

theorem poseBones_armature (bones : List NodeInstance) : (s.poseBones bones).armature =
    s.armature.map fun a => (a.applyRotations (restRotations bones)).1 := by
  unfold poseBones
  cases hs : s.armature with
  | none => exact hs
  | some a => rfl

end Prepared

/-- **The passes up to the modifiers always give a scene**, whatever the document refers to. -/
theorem prepared_yields (c : ContentRoot) (config : ImportConfig) (d : Document) :
    Yields (prepared c config d) (Prepared d) := by
  have hstable := SceneObject.MadeFor.stable d.scene.nodes
  have hempty : (empty config).Furnished d.scene.nodes := fun o ho => nomatch ho
  have hobjects : Yields (d.scene.nodes.foldlM (addObjects c) (empty config))
      (Furnished d.scene.nodes) := .foldlM (fun s n hn h => h.addObjects hn) hempty
  refine hobjects.bind fun s hs => ?_
  have hmaterials : Yields (d.scene.materials.foldlM (addMaterial c d) s)
      (Furnished d.scene.nodes) := .foldlM (fun s m _ h => All.addMaterial hstable h m) hs
  refine hmaterials.bind fun s hs => .pure ?_
  generalize d.scene.nodes.filter NodeInstance.isGeometryNode = places
  -- objects are linked and placed without touching the armature
  let Ready (s : ImportedScene) : Prop :=
    s.Furnished d.scene.nodes ∧ s.armature = skeleton d
  have hready : Ready (s.addArmature d) := ⟨All.addArmature hstable hs d, s.addArmature_armature d⟩
  have hlinked : Ready (places.foldl linkParent (s.addArmature d)) :=
    List.foldlRecOn places linkParent hready fun s h n _ =>
      ⟨All.linkParent hstable h.1 n, by simp [h.2]⟩
  have hplaced : Ready (places.foldl placeObject (places.foldl linkParent (s.addArmature d))) :=
    List.foldlRecOn places placeObject hlinked fun s h n _ =>
      ⟨All.placeObject hstable h.1 n, by simp [h.2]⟩
  exact ⟨All.poseBones hplaced.1 _, by rw [poseBones_armature, hplaced.2]⟩

end ImportedScene

end RiggedScene
