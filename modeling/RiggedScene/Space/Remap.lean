import RiggedScene.Space.Vector

/-!
# Source axes and the slots of a bone

Pose values come by source axis; a bone stores them by its own axes. `AxisSign.remap` says which
value goes where and which ones change their sign.
-/

namespace RiggedScene

/-- A value for some of the axes. -/
abbrev AxisValues := Triple (Option Float)

namespace AxisSign

variable {α : Type} (negate : α → α)

/-- The values for a bone's slots. Bones along X read `z, x, y`, bones along Y read `x, z, y`,
bones along Z read `x, y, z`; a bone that points backwards negates the two values next to its
own axis or the one across it. -/
def remap (s : AxisSign) (v : Triple (Option α)) : Triple (Option α) :=
  let turned (w : Option α) := if s.positive then w else w.map negate
  match s.axis with
  | .x => ⟨turned v.z, turned v.x, v.y⟩
  | .y => ⟨turned v.x, v.z, v.y⟩
  | .z => ⟨v.x, turned v.y, turned v.z⟩

end AxisSign

end RiggedScene
