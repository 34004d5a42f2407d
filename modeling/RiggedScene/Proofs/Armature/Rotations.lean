import RiggedScene.Armature.ScenePose
import RiggedScene.Proofs.Armature.Posing

/-!
# Poses after recorded rotations

* `Armature.applyRotations_getElem?` : recorded rotations turn each bone by those whose name leads to
  it, and `Armature.applyRotations_map` that they change nothing else;
* `Bone.turnedBy_rotation` : of several rotations the last one decides.
-/

namespace RiggedScene

namespace Bone

variable {v : Vec3} {rs : List BoneRotation} {b : Bone}

/-- Source angles in the slots of a bone, in radians. -/
def slotAngles (v : Vec3) (b : Bone) : Vec3 :=
  (b.slotValues (v.map some)).map fun x => Units.toRadians (x.getD 0.0)

theorem rotated_rotation : (b.rotated (v.map some)).pose.rotation = b.slotAngles v := by
  change Pose.overlay Units.toRadians b.pose.rotation (b.slotValues (v.map some)) = _
  unfold Pose.overlay slotAngles slotValues
  obtain ⟨axis, positive⟩ := b.axis.sign
  cases axis <;> cases positive <;> rfl

/-- The bone, turned by rotations one after another. -/
def turnedBy (rs : List BoneRotation) (b : Bone) : Bone :=
  rs.foldl (fun b r => b.rotated (r.rotation.map some)) b

theorem turnedBy_of {α : Type} {g : Bone → α} (hg : ∀ values b, g (rotated values b) = g b) :
    g (turnedBy rs b) = g b := by
  induction rs generalizing b with
  | nil => rfl
  | cons r rs ih => exact (ih (b := b.rotated _)).trans (hg _ b)

/-- **The last rotation decides.** -/
theorem turnedBy_rotation : (turnedBy rs b).pose.rotation =
    (rs.getLast?.map fun r => b.slotAngles r.rotation).getD b.pose.rotation := by
  -- from the end of the list: a rotation of a source is about all axes, so the last one covers all
  induction rs using List.reverseRecOn with
  | nil => rfl
  | append_singleton rs r _ =>
    have hangles : (turnedBy rs b).slotAngles r.rotation = b.slotAngles r.rotation := by
      have haxis : (turnedBy rs b).axis = b.axis := turnedBy_of fun _ _ => rfl
      simp only [slotAngles, slotValues, haxis]
    rw [turnedBy, List.foldl_concat, rotated_rotation, List.getLast?_concat]
    exact hangles

end Bone

namespace Armature

variable {a : Armature} {p : Posed} {r : BoneRotation} {rs : List BoneRotation} {i : Nat}

theorem applyRotation_armature :
    (applyRotation p r).1 = (p.1.rotate? r.bone (r.rotation.map some)).getD p.1 := by
  unfold applyRotation
  dsimp only
  cases p.1.rotate? r.bone (r.rotation.map some) <;> rfl

/-- The rotations whose name leads to the bone at a place. -/
def rotationsAt (a : Armature) (i : Nat) (rs : List BoneRotation) : List BoneRotation :=
  rs.filter fun r => a.position? r.bone = some i

/-- Recorded rotations turn each bone by those whose name leads to it. -/
theorem applyRotations_getElem? (a : Armature) (i : Nat) (rs : List BoneRotation) :
    (a.applyRotations rs).1.bones[i]? =
      (a.bones[i]?).map (Bone.turnedBy (a.rotationsAt i rs)) := by
  have hfold : ∀ p : Posed, (rs.foldl applyRotation p).1.bones[i]? =
      (p.1.bones[i]?).map (Bone.turnedBy (p.1.rotationsAt i rs)) := by
    intro p
    induction rs generalizing p with
    | nil => exact Option.map_id_apply.symm
    | cons r rs ih =>
      -- what is turned keeps its labels, so the other names lead to the same bones
      have hlabels : (applyRotation p r).1.bones.map Bone.labels = p.1.bones.map Bone.labels := by
        rw [applyRotation_armature]
        exact modify?_labels (Bone.rotated_labels _)
      have hsame : (applyRotation p r).1.rotationsAt i rs = p.1.rotationsAt i rs := by
        simp only [rotationsAt, position?_congr hlabels]
      rw [List.foldl_cons, ih, hsame, applyRotation_armature, rotate?, modify?_getElem?,
        Option.map_map]
      congr 1
      funext b
      by_cases hi : p.1.position? r.bone = some i <;>
        simp [rotationsAt, hi, Bone.turnedBy]
  exact hfold (a, 0, [])

/-- What a rotation of a bone does not change is as before, for all bones. -/
theorem applyRotations_map {α : Type} {g : Bone → α}
    (hg : ∀ values b, g (Bone.rotated values b) = g b) (a : Armature) (rs : List BoneRotation) :
    (a.applyRotations rs).1.bones.map g = a.bones.map g := by
  refine List.ext_getElem? fun i => ?_
  rw [List.getElem?_map, List.getElem?_map, applyRotations_getElem?, Option.map_map]
  congr 1
  funext b
  exact Bone.turnedBy_of hg

end Armature

end RiggedScene
