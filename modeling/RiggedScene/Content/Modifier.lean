import RiggedScene.Content.Channel
import RiggedScene.Content.Library
import RiggedScene.Formula
import RiggedScene.Space.Units
import RiggedScene.Weights

/-!
# Modifiers

A modifier is a morph, which moves vertices and drives other properties by formulas, or a skin,
which binds vertices to bones.

* `ModifierRecord` is a modifier as written, an instance included;
* `Modifier.ofRecord` makes a template.
-/

namespace RiggedScene

/-- The offset of a vertex, in source space. -/
structure VertexDelta where
  index : Nat
  delta : Vec3
  deriving Inhabited

namespace VertexDelta

/-- The offset in output space. -/
def output (d : VertexDelta) : Vec3 := Units.pointToOutput d.delta

/-- Reads an index and three components; the index is cut to a whole number in range. -/
def ofJson? (j : Json) : Option VertexDelta :=
  match Json.asTuple 4 Json.asFloat j with
  | some [i, x, y, z] => some ⟨i.toUInt64.toNat, ⟨x, y, z⟩⟩
  | _ => none

end VertexDelta

/-- What a slider does. -/
structure Morph where
  /-- Offsets, when the morph changes the shape. -/
  deltas : Option (List VertexDelta)
  formulas : List (Formula Float)
  deriving Inhabited

/-- The binding of a geometry to bones. -/
structure Skin where
  node : Option String
  geometry : Option String
  /-- One joint for each bone. -/
  joints : List Joint
  deriving Inhabited

namespace Skin

/-- The skin of the joints that are written; of several joints of one bone the last one counts. -/
def ofJoints (node geometry : Option String) (joints : List Joint) : Skin :=
  { node, geometry, joints := Keyed.ofList Joint.node joints }

/-- Reads a skin. -/
def ofJson? (j : Json) : Option Skin := do
  let fs ← j.record? ["node", "geometry", "joints"]
  let node ← fs.optional "node" Json.asString
  let geometry ← fs.optional "geometry" Json.asString
  let joints ← fs.orDefault "joints" (Json.asList Joint.ofJson?) []
  return ofJoints node geometry joints

end Skin

/-- What a modifier does. -/
inductive ModifierKind where
  | morph (m : Morph)
  | skin (s : Skin)
  | unknown
  deriving Inhabited

/-- A modifier as it is written. -/
structure ModifierRecord where
  id : String
  /-- Reference to the template, for an instance. -/
  url : Option String
  name : Option String
  parent : Option String
  channel : Option Channel
  kind : ModifierKind
  deriving Inhabited

namespace ModifierRecord

/-- Reads the offsets of a morph. -/
def deltasOfJson? (j : Json) : Option (List VertexDelta) := do
  let fs ← j.record? ["vertex_count", "deltas"]
  let _ ← fs.optional "vertex_count" Json.asIndex
  fs.orDefault "deltas" (Json.asValues VertexDelta.ofJson?) []

/-- A skin block decides; offsets or formulas, even none of them in a list, make a morph. -/
def kindOf (skin : Option Skin) (deltas : Option (List VertexDelta))
    (formulas : Option (List (Formula Float))) : ModifierKind :=
  match skin, deltas, formulas with
  | some s, _, _ => .skin s
  | none, none, none => .unknown
  | none, deltas, formulas => .morph ⟨deltas, formulas.getD []⟩

/-- Reads a modifier. -/
def ofJson? (j : Json) : Option ModifierRecord := do
  let fs ← j.record?
    ["id", "url", "name", "parent", "channel", "group", "morph", "formulas", "skin"]
  let id ← fs.required "id" Json.asString
  let url ← fs.optional "url" Json.asString
  let name ← fs.optional "name" Json.asString
  let parent ← fs.optional "parent" Json.asString
  let channel ← fs.optional "channel" Channel.ofJson?
  let group ← fs.optional "group" Json.asString
  let deltas ← fs.optional "morph" deltasOfJson?
  let formulas ← fs.optional "formulas" (Json.asList Formula.ofJson?)
  let skin ← fs.optional "skin" Skin.ofJson?
  return {
    id, url, name, parent
    channel := channel.map fun c => c.inGroup group
    kind := kindOf skin deltas formulas }

end ModifierRecord

/-- A modifier. -/
structure Modifier where
  id : String
  name : String
  parent : Option String
  channel : Option Channel
  kind : ModifierKind
  deriving Inhabited

namespace Modifier

instance : Identified Modifier := ⟨Modifier.id⟩

/-- The template of a record; it is called by its id unless it has a name. -/
def ofRecord (r : ModifierRecord) : Modifier where
  id := r.id
  name := r.name.getD r.id
  parent := r.parent
  channel := r.channel
  kind := r.kind

variable (m : Modifier)

/-- The morph, if it is one. -/
def morph? : Option Morph :=
  match m.kind with
  | .morph x => some x
  | _ => none

end Modifier

end RiggedScene
