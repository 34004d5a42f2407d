import RiggedScene.Space.Matrix

/-!
# The rest frame of a bone

A bone lies along one signed axis with the length `|end - center|`, is turned by its orientation
and moved to its center point.

* `BoneAxis.derive` chooses the signed axis and the order of the pose channels;
* `BoneSegment.build` lays the bone out.
-/

namespace RiggedScene

/-- The axis data of a bone, fixed when the bone is made. -/
structure BoneAxis where
  /-- The direction the tail lies in. -/
  sign : AxisSign
  /-- Rotation order of the pose channels. -/
  poseOrder : RotationOrder
  deriving Repr, DecidableEq

namespace BoneAxis

/-- Along Y, turned in the order X, Y, Z. -/
def default : BoneAxis := ⟨⟨.y, true⟩, .xyz⟩

instance : Inhabited BoneAxis := ⟨default⟩

end BoneAxis

/-- How far the end point of a bone without length is moved along Z. -/
def nudge : Float := 0.3

/-- Moves an end point that coincides with the center, and tells whether it did. -/
def nudged (center tip : Vec3) : Bool × Vec3 :=
  if center.same tip then (true, { tip with z := tip.z + nudge }) else (false, tip)

/-- The axis data of a bone: the first axis of its order, pointing to the side on which the end
point lies. -/
def BoneAxis.derive (center tip : Vec3) (order : RotationOrder) : BoneAxis :=
  let tip := (nudged center tip).2
  let a := order.dominant
  ⟨⟨a, center.get a < tip.get a⟩, order.poseOrder⟩

/-- A bone in armature space. -/
structure BoneSegment where
  head : Vec3
  tail : Vec3
  /-- The turn of the bone from its axis. -/
  rest : Mat3
  /-- The end point coincided with the center and was moved. -/
  degenerate : Bool
  deriving Repr, Inhabited

namespace BoneSegment

/-- Turns about X, then Z, then Y, the last one backwards. -/
def restRotation (orientation : Vec3) : Mat3 :=
  ((Mat3.rotation .y (-orientation.y)).mul (Mat3.rotation .z orientation.z)).mul
    (Mat3.rotation .x orientation.x)

/-- Lays a bone out along `sign`. -/
def build (center tip orientation : Vec3) (sign : AxisSign) : BoneSegment :=
  let (degenerate, tip) := nudged center tip
  let length := (center.sub tip).length
  let localTail := Vec3.zero.set sign.axis (sign.factor * length)
  let rest := restRotation orientation
  ⟨center, (rest.apply localTail).add center, rest, degenerate⟩

variable (s : BoneSegment)

/-- The distance from head to tail. -/
def length : Float := (s.tail.sub s.head).length

/-- The unit vector from head to tail. -/
def direction : Vec3 := (s.tail.sub s.head).normalisedOrZero

end BoneSegment

end RiggedScene
