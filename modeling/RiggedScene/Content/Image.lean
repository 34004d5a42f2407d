import RiggedScene.Content.Library
import RiggedScene.Json.Record

/-!
# Images

An image entry names the file of its first map.
-/

namespace RiggedScene

/-- An image entry. -/
structure Image where
  id : String
  name : String
  mapGamma : Float
  /-- Path of the first map that has one. -/
  url : Option String
  deriving Inhabited

namespace Image

instance : Identified Image := ⟨Image.id⟩

/-- Reads the path of a map. -/
def mapOfJson? (j : Json) : Option (Option String) := do
  let fs ← j.record? ["url"]
  fs.optional "url" Json.asString

/-- Reads an image; it is called by its id unless it has a name. -/
def ofJson? (j : Json) : Option Image := do
  let fs ← j.record? ["id", "name", "map_gamma", "map"]
  let id ← fs.required "id" Json.asString
  let name ← fs.optional "name" Json.asString
  let gamma ← fs.optional "map_gamma" Json.asFloat
  let maps ← fs.orDefault "map" (Json.asList mapOfJson?) []
  return {
    id, name := name.getD id, mapGamma := gamma.getD 0.0, url := maps.findSome? fun url => url }

end Image

end RiggedScene
