import RiggedScene.Space.Matrix

/-!
# Transforms

* `Quaternion.ofMat3` is the turn of a rotation matrix;
* `Mat4.ofScaleRotationTranslation` scales, turns and moves;
* `Mat4.inverse` divides the cofactors by the determinant.
-/

namespace RiggedScene

/-- A quaternion. -/
structure Quaternion where
  x : Float
  y : Float
  z : Float
  w : Float
  deriving Repr, Inhabited

namespace Quaternion

/-- The turn of a rotation matrix. The largest of the four components is computed from the
diagonal, the others from it. -/
def ofMat3 (m : Mat3) : Quaternion :=
  let c := m.x
  let d := m.y
  let e := m.z
  if e.z ≤ 0.0 then
    let difference := d.y - c.x
    let rest := 1.0 - e.z
    if difference ≤ 0.0 then
      let square := rest - difference
      let k := 0.5 / square.sqrt
      ⟨square * k, (c.y + d.x) * k, (c.z + e.x) * k, (d.z - e.y) * k⟩
    else
      let square := rest + difference
      let k := 0.5 / square.sqrt
      ⟨(c.y + d.x) * k, square * k, (d.z + e.y) * k, (e.x - c.z) * k⟩
  else
    let sum := d.y + c.x
    let rest := 1.0 + e.z
    if sum ≤ 0.0 then
      let square := rest - sum
      let k := 0.5 / square.sqrt
      ⟨(c.z + e.x) * k, (d.z + e.y) * k, square * k, (c.y - d.x) * k⟩
    else
      let square := rest + sum
      let k := 0.5 / square.sqrt
      ⟨(d.z - e.y) * k, (e.x - c.z) * k, (c.y - d.x) * k, square * k⟩

/-- The rotation matrix of a turn. -/
def toMat3 (q : Quaternion) : Mat3 :=
  let x2 := q.x + q.x
  let y2 := q.y + q.y
  let z2 := q.z + q.z
  let xx := q.x * x2
  let xy := q.x * y2
  let xz := q.x * z2
  let yy := q.y * y2
  let yz := q.y * z2
  let zz := q.z * z2
  let wx := q.w * x2
  let wy := q.w * y2
  let wz := q.w * z2
  ⟨⟨1.0 - (yy + zz), xy + wz, xz - wy⟩, ⟨xy - wz, 1.0 - (xx + zz), yz + wx⟩,
    ⟨xz + wy, yz - wx, 1.0 - (xx + yy)⟩⟩

end Quaternion

/-- A vector of four numbers. -/
structure Vec4 where
  x : Float
  y : Float
  z : Float
  w : Float
  deriving Repr, Inhabited

namespace Vec4

/-- A vector of three numbers with a fourth one. -/
def extend (v : Vec3) (w : Float) : Vec4 := ⟨v.x, v.y, v.z, w⟩

/-- Combines two vectors entry by entry. -/
def zipWith (f : Float → Float → Float) (a b : Vec4) : Vec4 :=
  ⟨f a.x b.x, f a.y b.y, f a.z b.z, f a.w b.w⟩

/-- Sum. -/
def add (a b : Vec4) : Vec4 := zipWith (· + ·) a b

/-- Difference. -/
def sub (a b : Vec4) : Vec4 := zipWith (· - ·) a b

/-- Product entry by entry. -/
def mul (a b : Vec4) : Vec4 := zipWith (· * ·) a b

/-- Multiple. -/
def scale (a : Vec4) (k : Float) : Vec4 := ⟨a.x * k, a.y * k, a.z * k, a.w * k⟩

/-- The entries in order. -/
def toList (a : Vec4) : List Float := [a.x, a.y, a.z, a.w]

end Vec4

/-- A matrix of four columns. -/
structure Mat4 where
  x : Vec4
  y : Vec4
  z : Vec4
  w : Vec4
  deriving Repr, Inhabited

namespace Mat4

/-- The image of a vector. -/
def apply (m : Mat4) (v : Vec4) : Vec4 :=
  (((m.x.scale v.x).add (m.y.scale v.y)).add (m.z.scale v.z)).add (m.w.scale v.w)

/-- Product, column by column. -/
def mul (m n : Mat4) : Mat4 := ⟨m.apply n.x, m.apply n.y, m.apply n.z, m.apply n.w⟩

/-- Turns and moves. -/
def ofRotationTranslation (q : Quaternion) (t : Vec3) : Mat4 :=
  let r := q.toMat3
  ⟨.extend r.x 0.0, .extend r.y 0.0, .extend r.z 0.0, .extend t 1.0⟩

/-- Scales, turns and moves. -/
def ofScaleRotationTranslation (s : Vec3) (q : Quaternion) (t : Vec3) : Mat4 :=
  let r := q.toMat3
  ⟨.extend (r.x.scale s.x) 0.0, .extend (r.y.scale s.y) 0.0, .extend (r.z.scale s.z) 0.0,
    .extend t 1.0⟩

/-- The entries, column by column. -/
def toList (m : Mat4) : List Float := m.x.toList ++ m.y.toList ++ m.z.toList ++ m.w.toList

/-- The minors of two rows, picked by `f` and `g`, for the pairs of columns that a row of
cofactors needs. -/
def minors (m : Mat4) (f g : Vec4 → Float) : Vec4 :=
  let minor (a b : Vec4) : Float := f a * g b - f b * g a
  let upper := minor m.z m.w
  ⟨upper, upper, minor m.y m.w, minor m.y m.z⟩

/-- The inverse. -/
def inverse (m : Mat4) : Mat4 :=
  let zw := m.minors Vec4.z Vec4.w
  let yw := m.minors Vec4.y Vec4.w
  let yz := m.minors Vec4.y Vec4.z
  let xw := m.minors Vec4.x Vec4.w
  let xz := m.minors Vec4.x Vec4.z
  let xy := m.minors Vec4.x Vec4.y
  let row (f : Vec4 → Float) : Vec4 := ⟨f m.y, f m.x, f m.x, f m.x⟩
  let rx := row Vec4.x
  let ry := row Vec4.y
  let rz := row Vec4.z
  let rw := row Vec4.w
  let combined (a fa b fb c fc : Vec4) : Vec4 := ((a.mul fa).sub (b.mul fb)).add (c.mul fc)
  let plus : Vec4 := ⟨1.0, -1.0, 1.0, -1.0⟩
  let minus : Vec4 := ⟨-1.0, 1.0, -1.0, 1.0⟩
  let adjugate : Mat4 :=
    ⟨(combined ry zw rz yw rw yz).mul plus, (combined rx zw rz xw rw xz).mul minus,
      (combined rx yw ry xw rw xy).mul plus, (combined rx yz ry xz rz xy).mul minus⟩
  let terms := m.x.mul ⟨adjugate.x.x, adjugate.y.x, adjugate.z.x, adjugate.w.x⟩
  let k := 1.0 / (terms.x + terms.y + terms.z + terms.w)
  ⟨adjugate.x.scale k, adjugate.y.scale k, adjugate.z.scale k, adjugate.w.scale k⟩

end Mat4

end RiggedScene
