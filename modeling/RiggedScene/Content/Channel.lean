import RiggedScene.Json.Record

/-!
# Channels

A channel is an adjustable value of a material or a modifier.

* `Channel.current` is the value in force;
* `Channel.merge` overlays the values that another channel supplies.
-/

namespace RiggedScene

/-- An adjustable value with its authored and its present setting. -/
structure Channel where
  id : String
  kind : String
  label : String
  group : String
  /-- The authored value. -/
  value : Option Json
  /-- The value set later. -/
  currentValue : Option Json
  visible : Bool
  /-- Reference to an image. -/
  image : Option String
  /-- Path of an image. -/
  imageFile : Option String
  deriving Inhabited

namespace Channel

variable (c : Channel)

/-- The value set later, else the authored one. -/
def current : Option Json := c.currentValue.or c.value

/-- The value in force, when it is a number. -/
def currentFloat : Option Float := c.current.bind Json.number?

/-- The value in force as a switch; every number but zero is on. -/
def currentBool : Option Bool :=
  match c.current with
  | some (.bool b) => some b
  | some v => v.number?.map (· != 0.0)
  | none => none

/-- Takes over the values and the image file that `other` supplies. -/
def merge (other : Channel) : Channel :=
  { c with
    value := other.value.or c.value
    currentValue := other.currentValue.or c.currentValue
    imageFile := other.imageFile.or c.imageFile }

/-- Reads a channel without its group. -/
def ofJson? (j : Json) : Option Channel := do
  let fs ← j.record?
    ["id", "type", "label", "value", "current_value", "visible", "image", "image_file"]
  let id ← fs.required "id" Json.asString
  let kind ← fs.optional "type" Json.asString
  let label ← fs.optional "label" Json.asString
  let value ← fs.optional "value" Json.keep?
  let currentValue ← fs.optional "current_value" Json.keep?
  let visible ← fs.optional "visible" Json.asBool
  let image ← fs.optional "image" Json.asString
  let imageFile ← fs.optional "image_file" Json.asString
  return {
    id, value, currentValue, image, imageFile
    group := ""
    kind := kind.getD ""
    label := label.getD ""
    visible := visible.getD true }

/-- Puts a channel into a group. -/
def inGroup (group : Option String) : Channel := { c with group := group.getD "" }

/-- Reads a channel together with its group. -/
def ofEntry? (j : Json) : Option Channel := do
  let fs ← j.record? ["channel", "group"]
  let channel ← fs.required "channel" ofJson?
  let group ← fs.optional "group" Json.asString
  return channel.inGroup group

end Channel

end RiggedScene
