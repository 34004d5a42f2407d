import RiggedScene.Armature.Posing
import RiggedScene.Document.Basic

/-!
# Pose documents

The animations of a document record a pose; `Armature.applyRotations` puts it on an armature.
-/

namespace RiggedScene

namespace Armature

/-- An armature, the number of rotations applied to it, and what was noted. -/
abbrev Posed := Armature × Nat × List Diagnostic

/-- Applies one recorded rotation; a missing bone is noted. -/
def applyRotation (p : Posed) (r : BoneRotation) : Posed :=
  let (a, count, notes) := p
  match a.rotate? r.bone (r.rotation.map some) with
  | some a' => (a', count + 1, notes)
  | none => (a, count, notes ++ [.missingBone r.bone])

/-- Applies recorded rotations in order. -/
def applyRotations (a : Armature) (rs : List BoneRotation) : Posed :=
  rs.foldl applyRotation (a, 0, [])

end Armature

end RiggedScene
