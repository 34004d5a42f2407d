import RiggedScene.Content.Geometry
import RiggedScene.Content.Modifier
import RiggedScene.Diagnostic
import RiggedScene.Mesh.Edge

/-!
# Meshes

A mesh is made from a geometry. Its faces keep the numbers of the polygons; a malformed polygon
leaves an empty face.

* `Mesh.ofGeometry` makes a mesh, moved so that `origin` is its zero point;
* `Mesh.addUvLayer`, `addVertexGroup`, `setVertexGroup`, `addSlot` add data to it;
* `Mesh.addShapeKey` adds a blend shape, `Mesh.deformed` blends all of them in.
-/

namespace RiggedScene

/-- A named weight for some vertices. -/
structure VertexGroup where
  name : String
  weights : IndexMap Float
  deriving Inhabited

/-- A texture point for each corner of each face. -/
structure UvLayer where
  name : String
  faces : List (List UvPoint)
  deriving Inhabited

/-- A blend shape: positions and how far they are blended in. -/
structure ShapeKey where
  name : String
  positions : List Vec3
  value : Float
  deriving Inhabited

/-- A mesh. -/
structure Mesh where
  /-- Id of the geometry it was made from. -/
  name : String
  /-- Positions relative to the origin of the object. -/
  positions : List Vec3
  /-- The corners of each face, none for a malformed one. -/
  faces : List (List Nat)
  /-- Material slot of each face. -/
  faceMaterials : List (Option Nat)
  /-- Smooth shading of each face. -/
  faceSmooth : List Bool
  sharpEdges : EdgeSet := []
  materialSlots : List String := []
  uvLayers : List UvLayer := []
  vertexGroups : List VertexGroup := []
  shapeKeys : List ShapeKey := []
  /-- Normals of the vertices, once computed. -/
  normals : Option (List Vec3) := none
  deriving Inhabited

namespace Mesh

/-- A mesh of positions and faces only. -/
def ofFaces (name : String) (positions : List Vec3) (faces : List (List Nat)) : Mesh where
  name := name
  positions := positions
  faces := faces
  faceMaterials := faces.map fun _ => none
  faceSmooth := faces.map fun _ => false

variable (m : Mesh)

/-- Number of vertices. -/
def vertexCount : Nat := m.positions.length

/-- Number of faces. -/
def faceCount : Nat := m.faces.length

/-! ### Layers and groups -/

/-- The layer of a name. -/
def uvLayer? (name : String) : Option UvLayer := m.uvLayers.find? fun l => l.name == name

/-- Adds the layer of a UV set unless there is one of its name. -/
def addUvLayer (s : UvSet) : Mesh :=
  match m.uvLayer? s.id with
  | some _ => m
  | none =>
    let layer : UvLayer := ⟨s.id, m.faces.mapIdx fun i face => s.face i face⟩
    { m with uvLayers := m.uvLayers ++ [layer] }

/-- Adds a group, whether or not there is one of its name. -/
def addVertexGroup (name : String) (weights : IndexMap Float) : Mesh :=
  { m with vertexGroups := m.vertexGroups ++ [⟨name, weights⟩] }

/-- Replaces all groups of a name by one at the end. -/
def setVertexGroup (name : String) (weights : IndexMap Float) : Mesh :=
  { m with vertexGroups := (m.vertexGroups.filter fun g => g.name != name) ++ [⟨name, weights⟩] }

/-- The first group of a name. -/
def vertexGroup? (name : String) : Option VertexGroup :=
  m.vertexGroups.find? fun g => g.name == name

/-- Adds a material slot; its number is the number of slots before. -/
def addSlot (name : String) : Mesh := { m with materialSlots := m.materialSlots ++ [name] }

/-! ### Faces of a geometry -/

/-- A face has at least three corners, all distinct and all vertices of the geometry. -/
def isFace (vertexCount : Nat) (p : Polygon) : Bool :=
  p.isValid && p.vertices.all fun v => decide (v < vertexCount)

/-- The corners of a polygon, none if it is malformed. -/
def faceOf (vertexCount : Nat) (p : Polygon) : List Nat :=
  if isFace vertexCount p then p.vertices else []

/-- The numbers of the malformed polygons. -/
def malformedFaces (g : Geometry) : List Nat :=
  ((g.polygons.mapIdx fun i p => (i, p)).filter fun e => !isFace g.vertices.length e.2).map Prod.fst

/-- Adds a group of weight one for each vertex set. -/
def addGroups (sets : List VertexSet) : Mesh :=
  sets.foldl (fun m s => m.addVertexGroup s.name (s.vertices.map fun v => (v, 1.0))) m

/-- The mesh of a geometry: its polygon groups and then its material groups become vertex groups,
and its default UV set becomes the first layer. -/
def ofGeometry (g : Geometry) (origin : Vec3) : Mesh × List Diagnostic :=
  let faces := g.polygons.map (faceOf g.vertices.length)
  let bare := ofFaces g.id (g.vertices.map fun v => v.sub origin) faces
  let grouped := bare.addGroups (g.polyGroups ++ g.materialGroups)
  let mesh :=
    match g.defaultUvSet with
    | some s => grouped.addUvLayer s
    | none => grouped
  (mesh, (malformedFaces g).map fun i => .malformedFace g.id i)

/-! ### Shape keys -/

/-- Name of the shape key that holds the positions as they are. -/
def basisName : String := "base"

/-- Moves one position; an index beyond the list moves nothing. -/
def moved (positions : List Vec3) (d : VertexDelta) : List Vec3 :=
  positions.modify d.index fun p => p.add d.output

/-- The keys of a mesh, with the basis in front if there are none. -/
def keysWithBasis : List ShapeKey :=
  if m.shapeKeys.isEmpty then [⟨basisName, m.positions, 0.0⟩] else m.shapeKeys

/-- Adds a shape key at the end, in place of those of its name. -/
def addShapeKey (name : String) (deltas : List VertexDelta) : Mesh :=
  { m with
    shapeKeys := (m.keysWithBasis.filter fun k => k.name != name) ++
      [⟨name, deltas.foldl moved m.positions, 0.0⟩] }

/-- The first shape key of a name. -/
def shapeKey? (name : String) : Option ShapeKey := m.shapeKeys.find? fun k => k.name == name

/-- Sets how far a shape key is blended in. -/
def setShapeKey (name : String) (value : Float) : Mesh :=
  { m with shapeKeys :=
      Keyed.modify ShapeKey.name name (fun k => { k with value := value }) m.shapeKeys }

/-- Adds the offsets of a key, times its value. -/
def blend (base : List Vec3) (out : List Vec3) (k : ShapeKey) : List Vec3 :=
  ((out.zip k.positions).zip base).map fun ((o, p), b) => o.add ((p.sub b).scale k.value)

/-- The positions with all keys blended in. -/
def deformed : List Vec3 :=
  (m.shapeKeys.filter fun k => k.value != 0.0).foldl (blend m.positions) m.positions

end Mesh

end RiggedScene
