import RiggedScene.Mesh.Basic

/-!
# Buffers

The triangles and positions of a mesh as a renderer takes them.

* `Mesh.triangles` cuts each face into a fan of triangles;
* `Mesh.positionBytes` and `Mesh.indexBytes` are little-endian words.

A position that is not a number has a sign in its word: set when an operation without result made
it, clear when it was given. `Traced` numbers remember which.
-/

namespace RiggedScene

/-- A number, and whether an operation without result made it when it is none. -/
structure Traced where
  value : Float
  /-- The value is NaN, and no operand was. -/
  invalid : Bool
  deriving Inhabited

namespace Traced

/-- A number that was given. -/
def given (x : Float) : Traced := ⟨x, false⟩

/-- Applies an operation; NaN passes through it, the first operand's before the second's. -/
def apply (f : Float → Float → Float) (a b : Traced) : Traced :=
  let v := f a.value b.value
  ⟨v, if a.value.isNaN then a.invalid else if b.value.isNaN then b.invalid else v.isNaN⟩

/-- The single-precision word of a number. -/
def word (t : Traced) : UInt32 :=
  if t.value.isNaN then if t.invalid then 0xFFC00000 else 0x7FC00000
  else t.value.toFloat32.toBits

/-- Blends one number of a key in. -/
def blend (key base : Float) (value : Float) (out : Traced) : Traced :=
  apply (· + ·) out (apply (· * ·) (apply (· - ·) (given key) (given base)) (given value))

end Traced

namespace Mesh

/-- The triangles of a face from its first corner on. -/
def fan (first : Nat) : List Nat → List (Nat × Nat × Nat)
  | a :: b :: rest => (first, a, b) :: fan first (b :: rest)
  | _ => []

/-- The triangles of a face; fewer than three corners give none. -/
def faceTriangles : List Nat → List (Nat × Nat × Nat)
  | [] => []
  | first :: rest => fan first rest

variable (m : Mesh)

/-- The triangles of all faces. -/
def triangles : List (Nat × Nat × Nat) := m.faces.flatMap faceTriangles

/-- The corners of all triangles as 32-bit words. -/
def triangulate : List UInt32 :=
  m.triangles.flatMap fun (a, b, c) => [UInt32.ofNat a, UInt32.ofNat b, UInt32.ofNat c]

/-- The bytes of a word, low byte first. -/
def wordBytes (w : UInt32) : List UInt8 :=
  [w.toUInt8, (w >>> 8).toUInt8, (w >>> 16).toUInt8, (w >>> 24).toUInt8]

/-- Blends the positions of a key in, as `Mesh.blend` does. -/
def tracedBlend (base : List Vec3) (out : List (Triple Traced)) (k : ShapeKey) :
    List (Triple Traced) :=
  ((out.zip k.positions).zip base).map fun ((o, p), b) =>
    ⟨Traced.blend p.x b.x k.value o.x, Traced.blend p.y b.y k.value o.y,
      Traced.blend p.z b.z k.value o.z⟩

/-- The positions with all keys blended in, as `Mesh.deformed` has them. -/
def tracedPositions : List (Triple Traced) :=
  (m.shapeKeys.filter fun k => k.value != 0.0).foldl (tracedBlend m.positions)
    (m.positions.map fun p => p.map Traced.given)

/-- The blended positions as single-precision numbers. -/
def positionBytes : List UInt8 :=
  m.tracedPositions.flatMap fun p => p.toList.flatMap fun t => wordBytes t.word

/-- The corners of all triangles as bytes. -/
def indexBytes : List UInt8 := m.triangulate.flatMap wordBytes

end Mesh

end RiggedScene
