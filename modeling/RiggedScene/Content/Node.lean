import RiggedScene.Content.Library
import RiggedScene.Json.Record
import RiggedScene.Space.Units

/-!
# Nodes

A node is a place in the scene: a figure, a bone, or anything else. A record overlays a node: what
it does not say stays.

* `NodeRecord` is a node as written;
* `Node.ofRecord` makes a template, `Node.apply` overlays an instance;
* `Node.center`, `Node.rotation` and the like convert to the output frame.
-/

namespace RiggedScene

/-- What a node stands for. -/
inductive NodeKind where
  | node
  | bone
  | figure
  | other (word : String)
  deriving Repr, DecidableEq, Inhabited

namespace NodeKind

/-- The kind of a word. -/
def ofText (s : String) : NodeKind :=
  if s = "node" then .node
  else if s = "bone" then .bone
  else if s = "figure" then .figure
  else .other s

/-- Figures and bones become bones of an armature. -/
def isSkeletal : NodeKind → Bool
  | bone | figure => true
  | node | other _ => false

end NodeKind

/-- A setting of one component. -/
structure AxisEntry where
  id : Option String
  value : Option Float
  currentValue : Option Float
  deriving Inhabited

namespace AxisEntry

/-- The axis that an entry names. -/
def axis? (e : AxisEntry) : Option Axis :=
  match e.id with
  | some s => if s = "x" then some .x else if s = "y" then some .y else if s = "z" then some .z
    else none
  | none => none

/-- The value set later, else the authored one. -/
def setting (e : AxisEntry) : Option Float := e.currentValue.or e.value

/-- Overlays one entry; one without axis or value says nothing. -/
def applyTo (v : Vec3) (e : AxisEntry) : Vec3 :=
  match e.axis?, e.setting with
  | some a, some x => v.set a x
  | _, _ => v

/-- Reads an entry. -/
def ofJson? (j : Json) : Option AxisEntry := do
  let fs ← j.record? ["id", "value", "current_value"]
  let id ← fs.optional "id" Json.asString
  let value ← fs.optional "value" Json.asFloat
  let currentValue ← fs.optional "current_value" Json.asFloat
  return { id, value, currentValue }

end AxisEntry

/-- Overlays entries in order. -/
def Vec3.overlay (v : Vec3) (entries : List AxisEntry) : Vec3 := entries.foldl AxisEntry.applyTo v

/-- A geometry that an instance carries. -/
structure GeometryLink where
  url : String
  id : Option String
  deriving Repr, DecidableEq, Inhabited

/-- Reads a geometry link. -/
def GeometryLink.ofJson? (j : Json) : Option GeometryLink := do
  let fs ← j.record? ["url", "id"]
  let url ← fs.required "url" Json.asString
  let id ← fs.optional "id" Json.asString
  return { url, id }

/-- A node as it is written. -/
structure NodeRecord where
  id : String
  /-- Reference to the template, for an instance. -/
  url : Option String
  name : Option String
  label : Option String
  kind : Option String
  parent : Option String
  conformTarget : Option String
  rotationOrder : Option String
  inheritsScale : Option Bool
  center : List AxisEntry
  tip : List AxisEntry
  orientation : List AxisEntry
  rotation : List AxisEntry
  translation : List AxisEntry
  scale : List AxisEntry
  /-- The setting in force of the general scale. -/
  generalScale : Option Float
  geometries : List GeometryLink
  deriving Inhabited

namespace NodeRecord

/-- Reads the setting in force of a single number. -/
def scalarOfJson? (j : Json) : Option (Option Float) := do
  let fs ← j.record? ["value", "current_value"]
  let value ← fs.optional "value" Json.asFloat
  let currentValue ← fs.optional "current_value" Json.asFloat
  return currentValue.or value

/-- Reads a node. -/
def ofJson? (j : Json) : Option NodeRecord := do
  let fs ← j.record?
    ["id", "url", "name", "label", "type", "parent", "conform_target", "rotation_order",
      "inherits_scale", "center_point", "end_point", "orientation", "rotation", "translation",
      "scale", "general_scale", "geometries"]
  let id ← fs.required "id" Json.asString
  let url ← fs.optional "url" Json.asString
  let name ← fs.optional "name" Json.asString
  let label ← fs.optional "label" Json.asString
  let kind ← fs.optional "type" Json.asString
  let parent ← fs.optional "parent" Json.asString
  let conformTarget ← fs.optional "conform_target" Json.asString
  let rotationOrder ← fs.optional "rotation_order" Json.asString
  let inheritsScale ← fs.optional "inherits_scale" Json.asBool
  let entries (name : String) : Option (List AxisEntry) :=
    fs.orDefault name (Json.asList AxisEntry.ofJson?) []
  let center ← entries "center_point"
  let tip ← entries "end_point"
  let orientation ← entries "orientation"
  let rotation ← entries "rotation"
  let translation ← entries "translation"
  let scale ← entries "scale"
  let generalScale ← fs.optional "general_scale" scalarOfJson?
  let geometries ← fs.orDefault "geometries" (Json.asList GeometryLink.ofJson?) []
  return {
    id, url, name, label, kind, parent, conformTarget, rotationOrder, inheritsScale, center, tip
    orientation, rotation, translation, scale, geometries
    generalScale := generalScale.join }

end NodeRecord

/-- A node. Vectors are kept as authored: source axes, centimetres, degrees. -/
structure Node where
  id : String
  name : String
  label : String
  kind : NodeKind
  parent : Option String
  inheritsScale : Bool
  generalScale : Float
  sourceOrder : RotationOrder
  sourceCenter : Vec3
  sourceTip : Vec3
  sourceOrientation : Vec3
  sourceRotation : Vec3
  sourceTranslation : Vec3
  sourceScale : Vec3
  deriving Inhabited

namespace Node

instance : Identified Node := ⟨Node.id⟩

/-- A node that says nothing but its id. -/
def plain (id : String) : Node where
  id := id
  name := id
  label := id
  kind := .node
  parent := none
  inheritsScale := true
  generalScale := 1.0
  sourceOrder := .xyz
  sourceCenter := Vec3.zero
  sourceTip := Vec3.zero
  sourceOrientation := Vec3.zero
  sourceRotation := Vec3.zero
  sourceTranslation := Vec3.zero
  sourceScale := Vec3.one

variable (n : Node)

/-- Overlays what a record says. A rotation order that cannot be read says nothing. -/
def apply (r : NodeRecord) : Node :=
  { n with
    kind := (r.kind.map NodeKind.ofText).getD n.kind
    parent := r.parent.or n.parent
    sourceOrder := (r.rotationOrder.bind RotationOrder.ofText?).getD n.sourceOrder
    inheritsScale := r.inheritsScale.getD n.inheritsScale
    sourceCenter := n.sourceCenter.overlay r.center
    sourceTip := n.sourceTip.overlay r.tip
    sourceOrientation := n.sourceOrientation.overlay r.orientation
    sourceRotation := n.sourceRotation.overlay r.rotation
    sourceTranslation := n.sourceTranslation.overlay r.translation
    sourceScale := n.sourceScale.overlay r.scale
    generalScale := r.generalScale.getD n.generalScale }

/-- The template of a record. It is called by its id, and labelled by its name. -/
def ofRecord (r : NodeRecord) : Node :=
  let name := r.name.getD r.id
  { plain r.id with name := name, label := r.label.getD name }.apply r

/-- Rotation order in the output frame. -/
def rotationOrder : RotationOrder := n.sourceOrder.toOutput

/-- Center point in the output frame. -/
def center : Vec3 := Units.pointToOutput n.sourceCenter

/-- End point in the output frame. -/
def tip : Vec3 := Units.pointToOutput n.sourceTip

/-- Orientation in radians about the output axes. -/
def orientation : Vec3 := Units.rotationToOutput n.sourceOrientation

/-- Rotation in radians about the output axes. -/
def rotation : Vec3 := Units.rotationToOutput n.sourceRotation

/-- Translation in the output frame. -/
def translation : Vec3 := Units.pointToOutput n.sourceTranslation

/-- Scale factors by output axis. -/
def scale : Vec3 := Units.scaleToOutput n.sourceScale

end Node

end RiggedScene
