import RiggedScene.Content.Channel
import RiggedScene.Content.Library

/-!
# Materials

A material is a set of channels, some of them in extra blocks, for the faces of some groups.

* `MaterialRecord` is a material as written;
* `Material.ofRecord` makes a template, `Material.update` overlays an instance;
* `Extra.merge` overlays a block on one of the same kind.
-/

namespace RiggedScene

/-- A block of further channels, by their ids. -/
structure Extra where
  kind : String
  channels : List Channel
  deriving Inhabited

namespace Extra

/-- Merges channels of both blocks and adds the others. -/
def merge (e other : Extra) : Extra :=
  { e with
    channels := other.channels.foldl (fun mine c =>
      match Keyed.find? Channel.id c.id mine with
      | some old => Keyed.insert Channel.id (old.merge c) mine
      | none => Keyed.insert Channel.id c mine) e.channels }

/-- The channel with an id. -/
def find? (e : Extra) (id : String) : Option Channel := Keyed.find? Channel.id id e.channels

/-- Reads a block; of several channels with one id the last one counts. -/
def ofJson? (j : Json) : Option Extra := do
  let fs ← j.record? ["type", "channels"]
  let kind ← fs.orDefault "type" Json.asString ""
  let channels ← fs.orDefault "channels" (Json.asList Channel.ofEntry?) []
  return { kind, channels := Keyed.ofList Channel.id channels }

end Extra

/-- A material as it is written. -/
structure MaterialRecord where
  id : String
  /-- Reference to the template, for an instance. -/
  url : Option String
  kind : Option String
  uvSet : Option String
  groups : List String
  geometry : Option String
  extras : List Extra
  /-- The standard channels that are given and can be read. -/
  channels : List (String × Channel)
  deriving Inhabited

namespace MaterialRecord

/-- Channels that stand beside the fields of a material. -/
def standardChannels : List String :=
  ["diffuse", "diffuse_strength", "specular", "specular_strength", "glossiness", "ambient",
    "ambient_strength", "reflection", "reflection_strength", "refraction", "refraction_strength",
    "ior", "bump", "bump_min", "bump_max", "displacement", "displacement_min",
    "displacement_max", "transparency", "normal", "u_offset", "v_offset", "v_scale"]

/-- Reads the standard channels; one that cannot be read is left out. -/
def channelsOf (others : Json.Fields) : List (String × Channel) :=
  standardChannels.filterMap fun name =>
    ((others.lookup name).bind Channel.ofEntry?).map fun c => (name, c)

/-- Reads a material. All its further fields must have values. -/
def ofJson? (j : Json) : Option MaterialRecord := do
  let (fs, others) ← j.openRecord? ["id", "url", "type", "uv_set", "groups", "geometry", "extra"]
  let id ← fs.required "id" Json.asString
  let url ← fs.optional "url" Json.asString
  let kind ← fs.optional "type" Json.asString
  let uvSet ← fs.optional "uv_set" Json.asString
  let groups ← fs.orDefault "groups" (Json.asList Json.asString) []
  let geometry ← fs.optional "geometry" Json.asString
  let extras ← fs.orDefault "extra" (Json.asList Extra.ofJson?) []
  return { id, url, kind, uvSet, groups, geometry, extras, channels := channelsOf others }

end MaterialRecord

/-- A material. -/
structure Material where
  id : String
  kind : String
  /-- Standard channels by name. -/
  channels : List (String × Channel)
  /-- Blocks by kind. -/
  extras : List Extra
  uvSet : Option String
  /-- Names of the groups it is meant for. -/
  groups : List String
  geometry : Option String
  deriving Inhabited

namespace Material

instance : Identified Material := ⟨Material.id⟩

variable (m : Material)

/-- Replaces the standard channels that are given. -/
def withChannels (given : List (String × Channel)) : Material :=
  { m with channels := Keyed.insertAll Prod.fst m.channels given }

/-- Merges a block into the first one of its kind, or adds it. -/
def withExtra (e : Extra) : Material :=
  match Keyed.find? Extra.kind e.kind m.extras with
  | some old => { m with extras := Keyed.insert Extra.kind (old.merge e) m.extras }
  | none => { m with extras := Keyed.insert Extra.kind e m.extras }

/-- Merges blocks in order. -/
def withExtras (es : List Extra) : Material := es.foldl withExtra m

/-- The template of a record. -/
def ofRecord (r : MaterialRecord) : Material :=
  let start : Material :=
    { id := r.id, kind := r.kind.getD "unknown", channels := [], extras := [], uvSet := r.uvSet
      groups := r.groups, geometry := r.geometry }
  (start.withChannels r.channels).withExtras r.extras

/-- Overlays an instance: its groups replace those of the template, channels and blocks are
overlaid, and id and kind stay. -/
def update (r : MaterialRecord) : Material :=
  let overlaid := (m.withChannels r.channels).withExtras r.extras
  { overlaid with
    groups := r.groups, geometry := r.geometry.or m.geometry, uvSet := r.uvSet.or m.uvSet }

/-- The standard channel of a name. -/
def channel? (name : String) : Option Channel :=
  (Keyed.find? Prod.fst name m.channels).map Prod.snd

/-- The block of a kind. -/
def extra? (kind : String) : Option Extra := Keyed.find? Extra.kind kind m.extras

/-- The first block channel with an id. -/
def extraChannel? (id : String) : Option Channel := m.extras.findSome? fun e => e.find? id

end Material

end RiggedScene
