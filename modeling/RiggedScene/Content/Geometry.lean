import RiggedScene.Content.UvSet
import RiggedScene.Indexed
import RiggedScene.Space.Units
import RiggedScene.Text.Path

/-!
# Geometries

A geometry is a list of vertices and a list of polygons, each polygon in a polygon group and a
material group.

* `GeometryRecord` is a geometry as written, `Geometry.ofRecord` its output-space form;
* `Geometry.polyGroups` and `Geometry.materialGroups` are the vertices of each group;
* `Geometry.materialGroupFaces` are the polygons of a material group.
-/

namespace RiggedScene

/-- A geometry as it is written. -/
structure GeometryRecord where
  id : String
  polyGroups : List String
  materialGroups : List String
  /-- Positions in source space. -/
  vertices : List Vec3
  /-- Polygon group, material group and vertices of each polygon. -/
  polygons : List (List Nat)
  /-- Reference to the default UV set. -/
  defaultUvSet : Option String
  deriving Inhabited

namespace GeometryRecord

/-- Reads three numbers. -/
def vectorOfJson? (j : Json) : Option Vec3 :=
  match Json.asTuple 3 Json.asFloat j with
  | some [x, y, z] => some ⟨x, y, z⟩
  | _ => none

/-- Reads a geometry. -/
def ofJson? (j : Json) : Option GeometryRecord := do
  let fs ← j.record?
    ["id", "polygon_groups", "polygon_material_groups", "vertices", "polylist", "default_uv_set"]
  let id ← fs.required "id" Json.asString
  let polyGroups ← fs.orDefault "polygon_groups" (Json.asValues Json.asString) []
  let materialGroups ← fs.orDefault "polygon_material_groups" (Json.asValues Json.asString) []
  let vertices ← fs.orDefault "vertices" (Json.asValues vectorOfJson?) []
  let polygons ← fs.orDefault "polylist" (Json.asValues (Json.asList Json.asIndex)) []
  let defaultUvSet ← fs.optional "default_uv_set" Json.asString
  return { id, polyGroups, materialGroups, vertices, polygons, defaultUvSet }

end GeometryRecord

/-- A polygon and its groups. -/
structure Polygon where
  polyGroup : Option Nat
  materialGroup : Option Nat
  vertices : List Nat
  deriving Repr, DecidableEq, Inhabited

namespace Polygon

/-- At least three vertices, all distinct. -/
def isValid (p : Polygon) : Bool := decide (3 ≤ p.vertices.length ∧ p.vertices.Nodup)

/-- An entry of fewer than two numbers has neither groups nor vertices. -/
def ofEntry : List Nat → Polygon
  | poly :: material :: vertices => ⟨some poly, some material, vertices⟩
  | _ => ⟨none, none, []⟩

end Polygon

/-- A named set of vertices. -/
structure VertexSet where
  name : String
  vertices : IndexSet
  deriving Repr, DecidableEq, Inhabited

/-- A geometry in output space. -/
structure Geometry where
  id : String
  /-- The document it is defined in. -/
  sourcePath : Path
  vertices : List Vec3
  polygons : List Polygon
  polyGroupNames : List String
  materialGroupNames : List String
  defaultUvSet : Option UvSet
  deriving Inhabited

namespace Geometry

instance : Identified Geometry := ⟨Geometry.id⟩

/-- The geometry of a record, defined in the document at `path`. -/
def ofRecord (r : GeometryRecord) (path : Path) (uvSet : Option UvSet) : Geometry where
  id := r.id
  sourcePath := path
  vertices := r.vertices.map Units.pointToOutput
  polygons := r.polygons.map Polygon.ofEntry
  polyGroupNames := r.polyGroups
  materialGroupNames := r.materialGroups
  defaultUvSet := uvSet

variable (g : Geometry)

/-- The vertices of the polygons with a group of the given number. -/
def groupVertices (group : Polygon → Option Nat) (i : Nat) : IndexSet :=
  IndexSet.ofList ((g.polygons.filter fun p => group p = some i).flatMap Polygon.vertices)

/-- The vertex set of each named group. -/
def groupSets (names : List String) (group : Polygon → Option Nat) : List VertexSet :=
  names.mapIdx fun i name => ⟨name, g.groupVertices group i⟩

/-- Vertex sets of the polygon groups. -/
def polyGroups : List VertexSet := g.groupSets g.polyGroupNames Polygon.polyGroup

/-- Vertex sets of the material groups. -/
def materialGroups : List VertexSet := g.groupSets g.materialGroupNames Polygon.materialGroup

/-- The polygons of the first material group with this name. -/
def materialGroupFaces (name : String) : IndexSet :=
  match g.materialGroupNames.findIdx? (· == name) with
  | none => []
  | some i =>
    ((g.polygons.mapIdx fun k p => (k, p)).filter fun e => e.2.materialGroup = some i).map Prod.fst

/-- The directory of the document it is defined in. -/
def sourceDir? : Option Path := g.sourcePath.parent?

end Geometry

end RiggedScene
