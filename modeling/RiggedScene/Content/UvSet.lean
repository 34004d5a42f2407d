import RiggedScene.Content.Library
import RiggedScene.Json.Record

/-!
# UV sets

A UV set gives each corner of a face a point of the texture. A corner uses the point numbered like
its vertex unless the set says otherwise for that face.

* `UvSet.index` is the number used by a corner;
* `UvSet.face` are the points of all corners of a face.
-/

namespace RiggedScene

/-- A point of a texture. -/
structure UvPoint where
  u : Float
  v : Float
  deriving Repr, Inhabited

/-- Points of a texture, and which corner uses which. -/
structure UvSet where
  id : String
  points : List UvPoint
  /-- Face, vertex and the number of the point, once for each pair. -/
  overrides : List ((Nat × Nat) × Nat)
  deriving Inhabited

namespace UvSet

instance : Identified UvSet := ⟨UvSet.id⟩

variable (s : UvSet)

/-- The number of the point that a vertex uses in a face. -/
def index (face vertex : Nat) : Nat :=
  ((Keyed.find? Prod.fst (face, vertex) s.overrides).map Prod.snd).getD vertex

/-- The points of the corners of a face; a number beyond the list gives the origin. -/
def face (face : Nat) (vertices : List Nat) : List UvPoint :=
  vertices.map fun v => (s.points[s.index face v]?).getD ⟨0.0, 0.0⟩

/-- Reads a point. -/
def pointOfJson? (j : Json) : Option UvPoint :=
  (Json.asPair Json.asFloat Json.asFloat j).map fun (u, v) => ⟨u, v⟩

/-- Reads an exception: face, vertex, number of the point. -/
def overrideOfJson? (j : Json) : Option ((Nat × Nat) × Nat) :=
  match Json.asTuple 3 Json.asIndex j with
  | some [face, vertex, point] => some ((face, vertex), point)
  | _ => none

/-- Reads a UV set; of several exceptions for one corner the last one counts. -/
def ofJson? (j : Json) : Option UvSet := do
  let fs ← j.record? ["id", "uvs", "polygon_vertex_indices"]
  let id ← fs.required "id" Json.asString
  let points ← fs.orDefault "uvs" (Json.asValues pointOfJson?) []
  let overrides ← fs.orDefault "polygon_vertex_indices" (Json.asList overrideOfJson?) []
  return { id, points, overrides := Keyed.ofList Prod.fst overrides }

end UvSet

end RiggedScene
