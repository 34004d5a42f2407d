import RiggedScene.Content.Geometry
import RiggedScene.Content.Image
import RiggedScene.Content.Material
import RiggedScene.Content.Modifier
import RiggedScene.Content.Node
import RiggedScene.Reference

/-!
# Documents as they are written

A document holds libraries of assets and a scene of instances.

* `DocumentRecord.parse?` reads a whole text;
* `DocumentRecord.eagerReferences` are the references that must lead somewhere while the document
  is loaded;
* `Animation.ofJson?` reads one animated property with its first key.
-/

namespace RiggedScene

/-- An animated property with its first key. -/
structure Animation where
  url : String
  /-- The bone it moves, when the reference has the form of one. -/
  bone : Option String
  firstValue : Option Float
  deriving Inhabited

namespace Animation

/-- The bone in a reference: the fourth piece between slashes, up to a colon. -/
def boneOf? (url : String) : Option String :=
  ((Split.pieces '/' url.toList)[3]?).map fun piece =>
    match Split.cut ':' piece with
    | some (bone, _) => String.ofList bone
    | none => String.ofList piece

/-- The number of a key, which is a list of a time and a value. -/
def keyValue (key : List Json) : Option Float := (key[1]?).bind Json.number?

/-- Reads an animation. -/
def ofJson? (j : Json) : Option Animation := do
  let fs ← j.record? ["url", "keys"]
  let url ← fs.required "url" Json.asString
  let keys ← fs.orDefault "keys" (Json.asList (Json.asList Json.keep?)) []
  return { url, bone := boneOf? url, firstValue := keys.head?.bind keyValue }

end Animation

/-- The scene of a document as it is written. -/
structure SceneRecord where
  nodes : List NodeRecord
  materials : List MaterialRecord
  modifiers : List ModifierRecord
  animations : List Animation
  deriving Inhabited

namespace SceneRecord

/-- A scene without instances. -/
def empty : SceneRecord := ⟨[], [], [], []⟩

/-- Reads a scene. -/
def ofJson? (j : Json) : Option SceneRecord := do
  let fs ← j.record? ["nodes", "materials", "modifiers", "animations"]
  let nodes ← fs.orDefault "nodes" (Json.asList NodeRecord.ofJson?) []
  let materials ← fs.orDefault "materials" (Json.asList MaterialRecord.ofJson?) []
  let modifiers ← fs.orDefault "modifiers" (Json.asList ModifierRecord.ofJson?) []
  let animations ← fs.orDefault "animations" (Json.asList Animation.ofJson?) []
  return { nodes, materials, modifiers, animations }

end SceneRecord

/-- A document as it is written. -/
structure DocumentRecord where
  assetId : String
  uvSets : List UvSet
  geometries : List GeometryRecord
  materials : List MaterialRecord
  images : List Image
  nodes : List NodeRecord
  modifiers : List ModifierRecord
  scene : SceneRecord
  deriving Inhabited

namespace DocumentRecord

/-- Reads the id of a document. -/
def assetIdOfJson? (j : Json) : Option String := do
  let fs ← j.record? ["id"]
  fs.required "id" Json.asString

/-- Reads a document. -/
def ofJson? (j : Json) : Option DocumentRecord := do
  let fs ← j.record?
    ["asset_info", "uv_set_library", "geometry_library", "material_library", "image_library",
      "node_library", "modifier_library", "scene"]
  let assetId ← fs.required "asset_info" assetIdOfJson?
  let uvSets ← fs.orDefault "uv_set_library" (Json.asList UvSet.ofJson?) []
  let geometries ← fs.orDefault "geometry_library" (Json.asList GeometryRecord.ofJson?) []
  let materials ← fs.orDefault "material_library" (Json.asList MaterialRecord.ofJson?) []
  let images ← fs.orDefault "image_library" (Json.asList Image.ofJson?) []
  let nodes ← fs.orDefault "node_library" (Json.asList NodeRecord.ofJson?) []
  let modifiers ← fs.orDefault "modifier_library" (Json.asList ModifierRecord.ofJson?) []
  let scene ← fs.orDefault "scene" SceneRecord.ofJson? .empty
  return { assetId, uvSets, geometries, materials, images, nodes, modifiers, scene }

/-- The document of a text. -/
def parse? (text : String) : Option DocumentRecord := (Json.parse? text.toList).bind ofJson?

variable (r : DocumentRecord)

/-- The references that must lead somewhere while the document is loaded. -/
def eagerReferences : List String :=
  r.geometries.filterMap GeometryRecord.defaultUvSet ++
    r.scene.nodes.flatMap (fun n => n.url.toList ++ n.geometries.map GeometryLink.url) ++
    r.scene.materials.filterMap MaterialRecord.url ++
    r.scene.modifiers.filterMap ModifierRecord.url

/-- The files that these references lead into. -/
def eagerFiles : List String :=
  (r.eagerReferences.filterMap Reference.parse?).filterMap fun u =>
    if u.isExternal then some u.filePath else none

end DocumentRecord

end RiggedScene
