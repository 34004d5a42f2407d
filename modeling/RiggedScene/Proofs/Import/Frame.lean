import RiggedScene.Proofs.Armature.Rotations
import RiggedScene.Proofs.Armature.Sources
import RiggedScene.Proofs.Import.Modified
import RiggedScene.Proofs.Import.Prepared
import RiggedScene.Proofs.Morph.Footprint

/-!
# What the last passes of an import leave alone

Once the objects are placed, bones are posed, modifiers are applied and objects are marked as
deformed. All of this changes weights, blend shapes and poses only.

* `ImportedScene.Kept` relates a scene to what these passes make of it: the objects are the same but
  for what modifiers change, bones have the same names, and materials are left alone;
* `ImportedScene.applyModifiers_kept`, `poseBones_kept` and `markDeformed_kept` are the passes;
* `ImportedScene.objectIndex?_eq_some_iff` : which object a name leads to;
* `ImportedScene.SameNames` : the same names lead to the same objects and bones in both scenes;
* `ImportedScene.SameNames.link?` and `rootedAtArmature_congr` are what follows for links.
-/

namespace RiggedScene

namespace SceneObject

/-- The object without what modifiers change. -/
def unmodified (o : SceneObject) : SceneObject :=
  { o with mesh := o.mesh.map Mesh.unbound, morphs := .empty, deform := false }

@[simp] theorem key_unmodified (o : SceneObject) : o.unmodified.key = o.key := by
  simp only [key, unmodified, Option.map_map]
  rfl

end SceneObject

theorem Mesh.unbound_of_unweighted {m m' : Mesh} (h : m'.unweighted = m.unweighted) :
    m'.unbound = m.unbound := by
  have hforget : ∀ m : Mesh, m.unweighted.unbound = m.unbound := fun _ => rfl
  rw [← hforget, h, hforget]

/-- A name leads to bones of the same name, if the bones have the same labels. -/
theorem Armature.find?_name_congr {a a' : Armature}
    (h : a'.bones.map Bone.labels = a.bones.map Bone.labels) (name : String) :
    (a'.find? name).map Bone.name = (a.find? name).map Bone.name := by
  rw [Armature.find?, Armature.find?, Armature.position?_congr h]
  cases a.position? name with
  | none => rfl
  | some i =>
    have hlabel := congrArg (fun ls => (ls[i]?).map Prod.fst) h
    simpa [Function.comp_def, Bone.labels] using hlabel

namespace ImportedScene

/-- The names and templates of the bones. -/
def boneLabels? (s : ImportedScene) : Option (List (String × String)) :=
  s.armature.map fun a => a.bones.map Bone.labels

variable {s s' s'' t : ImportedScene} {i : Nat} {o : SceneObject}

/-- What the passes after placing keep of a scene. -/
structure Kept (s t : ImportedScene) : Prop where
  objects : t.objects.map SceneObject.unmodified = s.objects.map SceneObject.unmodified
  bones : t.boneLabels? = s.boneLabels?
  materials : t.materials = s.materials

namespace Kept

theorem refl (s : ImportedScene) : Kept s s := ⟨rfl, rfl, rfl⟩

theorem trans (h : Kept s s') (h' : Kept s' s'') : Kept s s'' :=
  ⟨h'.objects.trans h.objects, h'.bones.trans h.bones, h'.materials.trans h.materials⟩

theorem noting (s : ImportedScene) (notes : List Diagnostic) : Kept s (s.noting notes) :=
  ⟨rfl, rfl, rfl⟩

/-- A change of one object that shows in nothing but what modifiers change. -/
theorem modifyObject (ho : s.objects[i]? = some o) {f : SceneObject → SceneObject}
    (hf : (f o).unmodified = o.unmodified) : Kept s (s.modifyObject i f) :=
  ⟨modifyObject_map ho hf, rfl, rfl⟩

end Kept

/-! ### Binding and registering -/

theorem unbound_addJoint (bones : List NodeInstance) (least : Float)
    (state : Mesh × List Diagnostic) (j : Joint) :
    (addJoint bones least state j).1.unbound = state.1.unbound := by
  unfold addJoint
  split <;> rfl

theorem unbound_foldl_addJoint (bones : List NodeInstance) (least : Float) (js : List Joint)
    (state : Mesh × List Diagnostic) :
    (js.foldl (addJoint bones least) state).1.unbound = state.1.unbound := by
  induction js generalizing state with
  | nil => rfl
  | cons j js ih => exact (ih (addJoint bones least state j)).trans (unbound_addJoint _ _ _ _)

theorem applySkin_kept (bones : List NodeInstance) (parent : String) (skin : Skin) :
    Kept s (s.applySkin bones parent skin) := by
  unfold applySkin
  split
  · exact .refl s
  · next i _ =>
    split
    · exact .refl s
    · next mesh hmesh =>
      obtain ⟨o, ho, hmesh⟩ := Option.bind_eq_some_iff.1 hmesh
      have hbound := unbound_foldl_addJoint bones s.config.minWeight skin.joints (mesh, [])
      refine (Kept.modifyObject ho ?_).trans (.noting _ _)
      simp [SceneObject.unmodified, hmesh, hbound]

theorem registerOn_kept (i : Nat) (m : Modifier) : Kept s (s.registerOn i m) := by
  unfold registerOn
  split
  · exact .refl s
  · next o ho =>
    split
    · next mesh hmesh =>
      split
      · next rig mesh' notes hregister =>
        refine (Kept.modifyObject ho ?_).trans (.noting _ _)
        simp [SceneObject.unmodified, hmesh, unbound_register? hregister]
      · exact .refl s
    · exact .refl s

/-! ### Setting a morph -/

theorem setMorph_kept (object morph : String) (value : Float) :
    Kept s (s.setMorph object morph value).1 := by
  unfold setMorph
  split
  · exact .refl s
  · next i hi =>
    split
    · exact .refl s
    · next o ho =>
      split
      · exact .refl s
      · next mesh hmesh =>
        dsimp only
        generalize hstage : (⟨⟨o.morphs, mesh, s.notes⟩, s.armature⟩ : MorphStage) = stage
        have hwritten := stage.setValue_written s.config morph value
        have harmature := stage.setValue_armature s.config morph value
        generalize stage.setValue s.config morph value = after at hwritten harmature ⊢
        subst hstage
        have hbound : after.1.state.mesh.unbound = mesh.unbound := by
          refine Mesh.unbound_of_unweighted ?_
          rw [hwritten.mesh, MorphState.writes_unweighted]
        have hobjects : Kept s (s.modifyObject i fun o =>
            { o with morphs := after.1.state.rig, mesh := some after.1.state.mesh }) := by
          refine Kept.modifyObject ho ?_
          simp [SceneObject.unmodified, hmesh, hbound]
        refine ⟨hobjects.objects, ?_, rfl⟩
        simp only [boneLabels?, harmature, Option.map_map]
        congr 1
        funext a
        exact a.commit_labels _

theorem applyMorph_kept {parent : String} {channel : Channel} {m : Modifier}
    (h : s.applyMorph parent channel m = .ok t) : Kept s t := by
  unfold applyMorph at h
  split at h
  · obtain rfl := Except.ok.inj h
    exact .refl s
  · next i _ =>
    have hregistered : Kept s (s.registerOn i m) := registerOn_kept i m
    generalize s.registerOn i m = s' at h hregistered
    dsimp only at h
    split at h
    · obtain rfl := Except.ok.inj h
      exact hregistered
    · next o _ =>
      split at h
      · obtain rfl := Except.ok.inj h
        exact hregistered
      · have hset : Kept s' (s'.setMorph o.name m.id (channel.currentFloat.getD 0.0)).1 :=
          setMorph_kept _ _ _
        generalize s'.setMorph o.name m.id (channel.currentFloat.getD 0.0) = r at h hset
        split at h
        · obtain rfl := Except.ok.inj h
          exact hregistered.trans hset
        · obtain rfl := Except.ok.inj h
          exact hregistered.trans (hset.trans (.noting _ _))
        · cases h

/-! ### The passes after placing -/

theorem applyModifier_kept {bones : List NodeInstance} {m : ModifierInstance}
    (h : applyModifier bones s m = .ok t) : Kept s t := by
  unfold applyModifier at h
  split at h
  · obtain rfl := Except.ok.inj h
    exact .refl s
  · split at h
    · obtain rfl := Except.ok.inj h
      exact applySkin_kept _ _ _
    · exact applyMorph_kept h
    · obtain rfl := Except.ok.inj h
      exact .refl s

theorem applyModifiers_kept {bones : List NodeInstance} {ms : List ModifierInstance}
    (h : s.applyModifiers bones ms = .ok t) : Kept s t :=
  applyModifiers_keeps (fun _ _ _ _ hkept ht => hkept.trans (applyModifier_kept ht)) (.refl s) h

theorem poseBones_kept (bones : List NodeInstance) : Kept s (s.poseBones bones) := by
  refine ⟨?_, ?_, ?_⟩
  · unfold poseBones
    split <;> rfl
  · rw [boneLabels?, poseBones_armature, Option.map_map]
    refine congrArg (Option.map · s.armature) (funext fun a => ?_)
    exact Armature.applyRotations_map (fun _ _ => rfl) a _
  · unfold poseBones
    split <;> rfl

theorem markDeformed_kept : Kept s s.markDeformed := by
  unfold markDeformed
  split
  · exact .refl s
  · refine ⟨?_, rfl, rfl⟩
    refine List.ext_getElem? fun i => ?_
    simp only [List.getElem?_map, List.getElem?_mapIdx, Option.map_map]
    rfl

/-! ### Names that lead to the same objects and bones -/

theorem objectForGeometry?_congr (h : t.objects.map SceneObject.key = s.objects.map SceneObject.key)
    (id : String) : t.objectForGeometry? id = s.objectForGeometry? id := by
  have hkeys : ∀ s : ImportedScene, s.objectForGeometry? id =
      (s.objects.map SceneObject.key).findIdx? fun k =>
        (k.2.map fun n => n == plainName id).getD false := by
    intro s
    simp only [ objectForGeometry?, List.findIdx?_map, Function.comp_def, SceneObject.key,
      Option.map_map]
  rw [hkeys, hkeys, h]

/-- An object is found by a name if it has it, as a reference is read, and none before it has. -/
theorem objectIndex?_eq_some_iff {name : String} : s.objectIndex? name = some i ↔
    (s.objects[i]?).map SceneObject.name = some (plainName name) ∧
      plainName name ∉ (s.objects.take i).map SceneObject.name := by
  rw [objectIndex?, List.findIdx?_eq_some_iff_getElem]
  constructor
  · rintro ⟨hi, hname, hbefore⟩
    refine ⟨by simpa [hi] using hname, fun hmem => ?_⟩
    obtain ⟨o, ho, hsame⟩ := List.mem_map.1 hmem
    obtain ⟨j, hj, rfl⟩ := List.mem_take_iff_getElem.1 ho
    exact hbefore j (by omega) (by simpa using hsame)
  · rintro ⟨hname, hbefore⟩
    obtain ⟨o, ho, hname⟩ := Option.map_eq_some_iff.1 hname
    obtain ⟨hi, rfl⟩ := List.getElem?_eq_some_iff.1 ho
    refine ⟨hi, by simpa using hname, fun j hj hsame => hbefore ?_⟩
    refine List.mem_map.2 ⟨s.objects[j], ?_, by simpa using hsame⟩
    exact List.mem_take_iff_getElem.2 ⟨j, by omega, rfl⟩

/-- The objects and bones are looked up by the same names in both scenes. -/
structure SameNames (s t : ImportedScene) : Prop where
  keys : t.objects.map SceneObject.key = s.objects.map SceneObject.key
  bones : t.boneLabels? = s.boneLabels?

theorem Kept.sameNames (h : Kept s t) : SameNames s t where
  keys := by simpa [Function.comp_def] using congrArg (List.map SceneObject.key) h.objects
  bones := h.bones

namespace SameNames

theorem symm (h : SameNames s t) : SameNames t s := ⟨h.keys.symm, h.bones.symm⟩

theorem trans (h : SameNames s s') (h' : SameNames s' s'') : SameNames s s'' :=
  ⟨h'.keys.trans h.keys, h'.bones.trans h.bones⟩

theorem objectIndex? (h : SameNames s t) (name : String) :
    t.objectIndex? name = s.objectIndex? name := by
  have hlabel : SceneObject.label = (fun k => (k.1, k.2.isSome)) ∘ SceneObject.key := by
    funext o
    simp [SceneObject.label, SceneObject.key]
  refine objectIndex?_congr ?_
  rw [hlabel, ← List.map_map, ← List.map_map, h.keys]

theorem objectFor? (h : SameNames s t) (reference : String) :
    t.objectFor? reference = s.objectFor? reference := by
  rw [ImportedScene.objectFor?, ImportedScene.objectFor?, objectForGeometry?_congr h.keys,
    h.objectIndex?]

/-- **A reference to a parent leads to the same.** -/
theorem link? (h : SameNames s t) (reference : String) : t.link? reference = s.link? reference := by
  unfold ImportedScene.link?
  rw [h.objectFor?]
  cases s.objectFor? reference with
  | some i =>
    have hname := congrArg (fun ks => (ks[i]?).map fun k => ObjectParent.object k.1) h.keys
    simpa [Function.comp_def, SceneObject.key] using hname
  | none =>
    have hbones := h.bones
    unfold boneLabels? at hbones
    cases hs : s.armature with
    | none =>
      have hnone : t.armature = none := by simpa [hs] using hbones
      rw [hnone]
    | some a =>
      rw [hs] at hbones
      obtain ⟨a', ha', hlabels⟩ := Option.map_eq_some_iff.1 hbones
      have hfind := Armature.find?_name_congr hlabels (plainName reference)
      rw [ha']
      cases hb : a.find? (plainName reference) with
      | none =>
        have hnone : a'.find? (plainName reference) = none := by simpa [hb] using hfind
        simp [hb, hnone]
      | some b =>
        rw [hb] at hfind
        obtain ⟨b', hb', hname⟩ := Option.map_eq_some_iff.1 hfind
        simp [hb, hb', hname]

theorem armature_isSome (h : SameNames s t) : t.armature.isSome = s.armature.isSome := by
  simpa [boneLabels?] using congrArg Option.isSome h.bones

end SameNames

/-- The links of objects lead to the armature from the same objects. -/
theorem rootedAtArmature_congr (h : SameNames s t)
    (hparents : t.objects.map SceneObject.parent = s.objects.map SceneObject.parent) (i : Nat) :
    t.rootedAtArmature i = s.rootedAtArmature i := by
  have hparent : ∀ i : Nat, (t.objects[i]?).bind SceneObject.parent =
      (s.objects[i]?).bind SceneObject.parent := by
    intro i
    simpa [Option.bind_map] using congrArg (fun ps => (ps[i]?).bind id) hparents
  have hlength : t.objects.length = s.objects.length := by
    simpa using congrArg List.length hparents
  have hwithin : ∀ steps i, t.rootedWithin steps i = s.rootedWithin steps i := by
    intro steps
    induction steps with
    | zero =>
      intro i
      unfold rootedWithin
      rw [hparent]
    | succ steps ih =>
      intro i
      unfold rootedWithin
      rw [hparent]
      cases (s.objects[i]?).bind SceneObject.parent with
      | none => rfl
      | some parent =>
        cases parent with
        | armature => rfl
        | bone name => rfl
        | object name =>
          simp only [h.objectIndex?]
          cases s.objectIndex? name with
          | none => rfl
          | some p => exact ih p
  rw [rootedAtArmature, rootedAtArmature, hlength, hwithin]

end ImportedScene

end RiggedScene
