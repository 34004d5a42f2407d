import RiggedScene.Space.Vector

/-!
# Matrices

* `Mat3` is a matrix of three columns, `Mat3.rotation` the turn about one axis;
* `Mat4` is a matrix of four columns of four entries;
* `RotationOrder.matrix` composes three turns.
-/

namespace RiggedScene

/-- A matrix given by its columns. -/
structure Mat3 where
  x : Vec3
  y : Vec3
  z : Vec3
  deriving Repr, Inhabited

namespace Mat3

/-- The identity. -/
def one : Mat3 := ⟨⟨1.0, 0.0, 0.0⟩, ⟨0.0, 1.0, 0.0⟩, ⟨0.0, 0.0, 1.0⟩⟩

/-- The image of a vector. -/
def apply (m : Mat3) (v : Vec3) : Vec3 :=
  ((m.x.scale v.x).add (m.y.scale v.y)).add (m.z.scale v.z)

/-- Product, column by column. -/
def mul (m n : Mat3) : Mat3 := ⟨m.apply n.x, m.apply n.y, m.apply n.z⟩

/-- The turn by `angle` radians about an axis. -/
def rotation (a : Axis) (angle : Float) : Mat3 :=
  let s := angle.sin
  let c := angle.cos
  match a with
  | .x => ⟨⟨1.0, 0.0, 0.0⟩, ⟨0.0, c, s⟩, ⟨0.0, -s, c⟩⟩
  | .y => ⟨⟨c, 0.0, -s⟩, ⟨0.0, 1.0, 0.0⟩, ⟨s, 0.0, c⟩⟩
  | .z => ⟨⟨c, s, 0.0⟩, ⟨-s, c, 0.0⟩, ⟨0.0, 0.0, 1.0⟩⟩

/-- The entries, column by column. -/
def toList (m : Mat3) : List Float := m.x.toList ++ m.y.toList ++ m.z.toList

end Mat3

/-- The composition of three turns, the first axis of the order applied first. -/
def RotationOrder.matrix (o : RotationOrder) (angles : Vec3) : Mat3 :=
  o.axes.foldl (fun m a => (Mat3.rotation a (angles.get a)).mul m) Mat3.one

end RiggedScene
