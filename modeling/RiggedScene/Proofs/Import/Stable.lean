import RiggedScene.Proofs.Armature.Lookup
import RiggedScene.Proofs.Import.Making

/-!
# What the passes of an import keep of each object

After the objects are made, an import changes their links, their places, and their meshes together
with the morphs. What such changes keep of an object, all passes keep of all objects.

* `SceneObject.Stable` : properties of objects that are kept by these changes;
* `ImportedScene.All` : all objects of a scene have a property;
* `ImportedScene.All.addMaterial` up to `ImportedScene.All.applyModifier` are the passes.
-/

namespace RiggedScene

open Load (Yields)

/-- A property that stays when an object is linked, placed, or given a mesh with morphs. -/
structure SceneObject.Stable (P : SceneObject → Prop) : Prop where
  parent : ∀ {o : SceneObject} (parent : Option ObjectParent), P o → P { o with parent := parent }
  transform : ∀ {o : SceneObject} (transform : ObjectTransform),
    P o → P { o with transform := transform }
  mesh : ∀ {o : SceneObject} (rig : MorphRig) (mesh : Mesh),
    P o → P { o with morphs := rig, mesh := some mesh }

namespace ImportedScene

/-- All objects have a property. -/
def All (P : SceneObject → Prop) (s : ImportedScene) : Prop := ∀ o ∈ s.objects, P o

variable {c : ContentRoot} {d : Document} {P : SceneObject → Prop} {s t : ImportedScene}

theorem All.modifyObject (h : s.All P) {i : Nat} {f : SceneObject → SceneObject}
    (hf : ∀ o, P o → P (f o)) : (s.modifyObject i f).All P :=
  Armature.forall_modify h hf

namespace All

variable (hP : SceneObject.Stable P) (h : s.All P)
include hP h

/-! ### Passes that give no error -/

theorem addMaterial (m : MaterialInstance) : Yields (ImportedScene.addMaterial c d s m) (All P) := by
  refine (addMaterial_yields s m).imp fun t ht => ?_
  cases ht with
  | alone => exact h
  | assigned => exact h.modifyObject fun o ho => hP.mesh o.morphs _ ho

theorem addArmature (d : Document) : (s.addArmature d).All P := by
  unfold ImportedScene.addArmature
  dsimp only
  split
  · exact All.modifyObject (s := { s.noting _ with armature := _ }) h fun o ho => hP.parent _ ho
  · exact h

theorem linkParent (n : NodeInstance) : (s.linkParent n).All P := by
  unfold ImportedScene.linkParent
  split
  · exact h.modifyObject fun o ho => hP.parent _ ho
  · exact h

theorem placeObject (n : NodeInstance) : (s.placeObject n).All P := by
  unfold ImportedScene.placeObject
  split
  · exact h
  · dsimp only
    split
    · exact h
    · split
      · exact h
      · exact h.modifyObject fun o ho => hP.transform _ ho

omit hP in
theorem poseBones (bones : List NodeInstance) : (s.poseBones bones).All P := by
  unfold ImportedScene.poseBones
  split <;> exact h

/-! ### Modifiers -/

theorem applySkin (bones : List NodeInstance) (parent : String) (skin : Skin) :
    (s.applySkin bones parent skin).All P := by
  unfold ImportedScene.applySkin
  split
  · exact h
  · split
    · exact h
    · exact h.modifyObject fun o ho => hP.mesh o.morphs _ ho

theorem registerOn (i : Nat) (m : Modifier) : (s.registerOn i m).All P := by
  unfold ImportedScene.registerOn
  split
  · exact h
  · split
    · split
      · exact h.modifyObject fun o ho => hP.mesh _ _ ho
      · exact h
    · exact h

theorem setMorph (object morph : String) (value : Float) :
    (s.setMorph object morph value).1.All P := by
  unfold ImportedScene.setMorph
  split
  · exact h
  · split
    · exact h
    · split
      · exact h
      · exact h.modifyObject fun o ho => hP.mesh _ _ ho

theorem applyMorph {parent : String} {channel : Channel} {m : Modifier}
    (ht : s.applyMorph parent channel m = .ok t) : t.All P := by
  unfold ImportedScene.applyMorph at ht
  split at ht
  · obtain rfl := Except.ok.inj ht
    exact h
  · next i _ =>
    have hregistered := h.registerOn hP i m
    generalize s.registerOn i m = s' at ht hregistered
    dsimp only at ht
    split at ht
    · obtain rfl := Except.ok.inj ht
      exact hregistered
    · next o _ =>
      split at ht
      · obtain rfl := Except.ok.inj ht
        exact hregistered
      · have hset := hregistered.setMorph hP o.name m.id (channel.currentFloat.getD 0.0)
        generalize s'.setMorph o.name m.id (channel.currentFloat.getD 0.0) = r at ht hset
        split at ht
        · obtain rfl := Except.ok.inj ht
          exact hset
        · obtain rfl := Except.ok.inj ht
          exact hset
        · cases ht

theorem applyModifier {bones : List NodeInstance} {m : ModifierInstance}
    (ht : ImportedScene.applyModifier bones s m = .ok t) : t.All P := by
  unfold ImportedScene.applyModifier at ht
  split at ht
  · obtain rfl := Except.ok.inj ht
    exact h
  · split at ht
    · obtain rfl := Except.ok.inj ht
      exact h.applySkin hP _ _ _
    · exact h.applyMorph hP ht
    · obtain rfl := Except.ok.inj ht
      exact h

end All

end ImportedScene

end RiggedScene
