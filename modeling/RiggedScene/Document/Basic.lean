import RiggedScene.Document.Record

/-!
# Documents

A document is a set of libraries and a scene whose instances are bound to their templates.

* `Libraries.ofRecord` fills the libraries;
* `NodeInstance`, `MaterialInstance` and `ModifierInstance` are bound instances;
* `Scene.boneRotations` is the pose that the animations record.
-/

namespace RiggedScene

/-- All assets of a document. -/
structure Libraries where
  uvSets : Library UvSet
  geometries : Library Geometry
  materials : Library Material
  images : Library Image
  nodes : Library Node
  modifiers : Library Modifier
  deriving Inhabited

namespace Libraries

/-- The assets of a record; its geometries come with their default UV sets. -/
def ofRecord (r : DocumentRecord) (geometries : Library Geometry) : Libraries where
  uvSets := Library.ofList r.uvSets
  geometries := geometries
  materials := Library.ofList (r.materials.map Material.ofRecord)
  images := Library.ofList r.images
  nodes := Library.ofList (r.nodes.map Node.ofRecord)
  modifiers := Library.ofList (r.modifiers.map Modifier.ofRecord)

/-- The assets known while geometries are read: UV sets only. -/
def ofUvSets (uvSets : Library UvSet) : Libraries :=
  ⟨uvSets, .empty, .empty, .empty, .empty, .empty⟩

end Libraries

/-- A geometry of an instance. -/
structure GeometryInstance where
  id : String
  url : String
  geometry : Geometry
  deriving Inhabited

/-- A node of the scene. -/
structure NodeInstance where
  id : String
  url : String
  name : String
  label : String
  conformTarget : Option String
  template : Node
  /-- The template with what the instance says on top. -/
  node : Node
  geometries : List GeometryInstance
  deriving Inhabited

namespace NodeInstance

/-- The instance of a record, bound to its template and geometries. -/
def ofRecord (r : NodeRecord) (url : String) (template : Node)
    (geometries : List GeometryInstance) : NodeInstance where
  id := r.id
  url := url
  name := r.name.getD r.id
  label := r.label.getD template.label
  conformTarget := r.conformTarget
  template := template
  node := template.apply r
  geometries := geometries

variable (n : NodeInstance)

/-- Id of the template. -/
def templateId : String := n.template.id

/-- Reference to the parent. -/
def parent : Option String := n.node.parent

end NodeInstance

/-- A material of the scene. -/
structure MaterialInstance where
  id : String
  url : String
  /-- The template with the instance on top. -/
  material : Material
  deriving Inhabited

/-- A modifier of the scene. -/
structure ModifierInstance where
  id : String
  url : String
  parent : Option String
  channel : Option Channel
  modifier : Modifier
  deriving Inhabited

/-- The rotation that a pose records for a bone, in degrees about the source axes. -/
structure BoneRotation where
  bone : String
  rotation : Vec3
  deriving Inhabited

/-- The scene of a document. -/
structure Scene where
  nodes : List NodeInstance
  materials : List MaterialInstance
  modifiers : List ModifierInstance
  animations : List Animation
  deriving Inhabited

namespace BoneRotation

/-- The part of a reference that marks the rotation about an axis. -/
def mark : Axis → String
  | .x => "rotation/x/value"
  | .y => "rotation/y/value"
  | .z => "rotation/z/value"

/-- Takes over the value of an animation for the axes it is marked with; no number is zero. -/
def take (r : BoneRotation) (a : Animation) : BoneRotation :=
  { r with
    rotation := Axis.all.foldl (fun v axis =>
      if Split.contains a.url (mark axis) then v.set axis (a.firstValue.getD 0.0) else v)
      r.rotation }

/-- Takes an animation into the list; every animation of a bone puts the bone in. -/
def takeIn (rs : List BoneRotation) (a : Animation) : List BoneRotation :=
  match a.bone with
  | none => rs
  | some bone =>
    let old := (Keyed.find? BoneRotation.bone bone rs).getD ⟨bone, Vec3.zero⟩
    Keyed.insert BoneRotation.bone (old.take a) rs

end BoneRotation

namespace Scene

variable (s : Scene)

/-- The rotations that the animations record, in order of first occurrence of their bones. -/
def boneRotations : List BoneRotation := s.animations.foldl BoneRotation.takeIn []

/-- The node of an id. -/
def findNode? (id : String) : Option NodeInstance := s.nodes.find? fun n => n.id == id

/-- The first geometry of an id, with the node that carries it. -/
def findGeometry? (id : String) : Option (NodeInstance × GeometryInstance) :=
  s.nodes.findSome? fun n => (n.geometries.find? fun g => g.id == id).map fun g => (n, g)

end Scene

/-- Documents loaded for references, by the file path in the references. -/
abbrev Supporting := List (String × Libraries)

/-- A document that has been loaded. -/
structure Document where
  path : Path
  assetId : String
  libraries : Libraries
  scene : Scene
  /-- The documents loaded for its references so far. -/
  supporting : Supporting
  deriving Inhabited

end RiggedScene
