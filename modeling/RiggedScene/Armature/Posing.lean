import RiggedScene.Armature.Basic
import RiggedScene.Space.Remap

/-!
# Posing

Values come by source axis, in degrees and centimetres, and go to the slots of a bone. An axis
without value leaves its slot alone.

* `Armature.rotate?` and `translate?` set, `Armature.rescale?` adds;
* each is `none` when the bone is missing.
-/

namespace RiggedScene

namespace Pose

/-- Replaces the slots that have a value. -/
def overlay (convert : Float → Float) (current : Vec3) (values : AxisValues) : Vec3 :=
  current.zipWith (fun old new => (new.map convert).getD old) values

/-- Adds to the slots that have a value. -/
def increase (current : Vec3) (values : AxisValues) : Vec3 :=
  current.zipWith (fun old new => (new.map fun v => old + v).getD old) values

end Pose

namespace Bone

variable (values : AxisValues) (b : Bone)

/-- The values for the slots of a bone. -/
def slotValues : AxisValues := b.axis.sign.remap (fun v => -v) values

/-- Sets the rotation from degrees. -/
def rotated : Bone :=
  { b with pose := { b.pose with
      rotation := Pose.overlay Units.toRadians b.pose.rotation (b.slotValues values) } }

/-- Sets the location from centimetres. -/
def translated : Bone :=
  { b with pose := { b.pose with
      location := Pose.overlay (· / Units.centimetresPerMetre) b.pose.location
        (b.slotValues values) } }

/-- Adds to the scale; Y and Z change places, and no sign is changed. -/
def rescaled : Bone :=
  { b with pose := { b.pose with scale := Pose.increase b.pose.scale values.swapYZ } }

end Bone

namespace Armature

variable (a : Armature) (bone : String) (values : AxisValues)

/-- Sets the rotation of a bone. -/
def rotate? : Option Armature := a.modify? bone (Bone.rotated values)

/-- Sets the location of a bone. -/
def translate? : Option Armature := a.modify? bone (Bone.translated values)

/-- Adds to the scale of a bone. -/
def rescale? : Option Armature := a.modify? bone (Bone.rescaled values)

end Armature

end RiggedScene
