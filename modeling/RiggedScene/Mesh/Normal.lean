import RiggedScene.Mesh.Basic
import RiggedScene.Space.Units

/-!
# Normals and sharp edges

* `Mesh.faceNormal` is the area-weighted direction of a face, as a unit vector;
* `Mesh.markSharp` marks the edges of a face that bend too much;
* `Mesh.withNormals` computes a normal for each vertex.
-/

namespace RiggedScene

namespace Mesh

variable (m : Mesh)

/-- The position of a vertex. -/
def position (v : Nat) : Vec3 := (m.positions[v]?).getD Vec3.zero

/-- What one edge adds to the normal of a face. -/
def newellTerm (p q : Vec3) : Vec3 :=
  ⟨(p.y - q.y) * (p.z + q.z), (p.z - q.z) * (p.x + q.x), (p.x - q.x) * (p.y + q.y)⟩

/-- Sums the terms of the edges along a list of corners, ending at `first`. -/
def newellSum (first : Nat) : Vec3 → List Nat → Vec3
  | sum, [] => sum
  | sum, [a] => sum.add (newellTerm (m.position a) (m.position first))
  | sum, a :: b :: rest =>
    newellSum first (sum.add (newellTerm (m.position a) (m.position b))) (b :: rest)

/-- The normal of a face given by its corners; zero if it has no area. -/
def normalOf : List Nat → Vec3
  | [] => Vec3.zero
  | a :: rest => (m.newellSum a Vec3.zero (a :: rest)).normalisedOrZero

/-- The corners of a face. -/
def corners (face : Nat) : List Nat := (m.faces[face]?).getD []

/-- The normal of a face. -/
def faceNormal (face : Nat) : Vec3 := m.normalOf (m.corners face)

/-- The edges of a face in corner order. -/
def faceEdges (face : Nat) : List Edge := Edge.around (m.corners face)

/-- The faces at each edge. -/
def edgeFaces : EdgeMap := EdgeMap.ofFaces m.faces

/-- Whether exactly two faces use the edge and meet at `degrees` or more. -/
def isSharp (degrees : Float) (edges : EdgeMap) (e : Edge) : Bool :=
  match edges.faces? e with
  | some [f, g] =>
    let n := m.faceNormal f
    let k := m.faceNormal g
    !n.same Vec3.zero && !k.same Vec3.zero && Units.toDegrees (n.angleBetween k) ≥ degrees
  | _ => false

/-- Marks the sharp edges of a face. -/
def markSharp (face : Nat) (degrees : Float) (edges : EdgeMap) : Mesh :=
  { m with
    sharpEdges := ((m.faceEdges face).filter (m.isSharp degrees edges)).foldl
      (fun s e => EdgeSet.insert e s) m.sharpEdges }

/-- Adds a vector at each corner of a face. -/
def addAtCorners (n : Vec3) (sums : List Vec3) (face : List Nat) : List Vec3 :=
  face.foldl (fun sums v => sums.modify v fun s => s.add n) sums

/-- The sum of the face normals at each vertex. -/
def normalSums : List Vec3 :=
  m.faces.foldl (fun sums face => addAtCorners (m.normalOf face) sums face)
    (m.positions.map fun _ => Vec3.zero)

/-- The unit vector along Y. -/
def up : Vec3 := ⟨0.0, 1.0, 0.0⟩

/-- The normal of each vertex; one that no face turns points up. -/
def vertexNormals : List Vec3 := m.normalSums.map fun s => s.normalised?.getD up

/-- The mesh with its normals. -/
def withNormals : Mesh := { m with normals := some m.vertexNormals }

end Mesh

end RiggedScene
