import RiggedScene.Document.Loading
import RiggedScene.Mesh.Normal

/-!
# Shading

What a renderer is given for a material, and which faces it is for.

* `ShadingMaterial.ofMaterial` collects the inputs of a material;
* `Mesh.uvMapFor` chooses the UV layer of a material;
* `Mesh.assignMaterial` gives the faces of the material's groups its slot.
-/

namespace RiggedScene

/-- What a renderer input takes. -/
inductive InputKind where
  | color
  | scalar
  deriving Repr, DecidableEq

/-- The value of a renderer input. -/
inductive InputValue where
  | color (red green blue : Float)
  | scalar (x : Float)
  deriving Inhabited

namespace InputValue

/-- A color is a list that begins with three numbers. -/
def ofJson? (kind : InputKind) (j : Json) : Option InputValue :=
  match kind with
  | .scalar => j.number?.map .scalar
  | .color =>
    match j.items? with
    | some (r :: g :: b :: _) =>
      match r.number?, g.number?, b.number? with
      | some x, some y, some z => some (.color x y z)
      | _, _, _ => none
    | _ => none

end InputValue

/-- A renderer input: a value, an image, or both. -/
structure MaterialInput where
  value : Option InputValue
  image : Option Path
  deriving Inhabited

/-- Takes over what a later channel supplies. -/
def MaterialInput.merge (i later : MaterialInput) : MaterialInput :=
  ⟨later.value.or i.value, later.image.or i.image⟩

/-- A material for a renderer. -/
structure ShadingMaterial where
  name : String
  kind : String
  /-- The object it is assigned to. -/
  object : Option String
  /-- Its slot on the mesh of that object. -/
  slot : Option Nat
  /-- The UV layer of its images. -/
  uvMap : Option String
  inputs : List (String × MaterialInput)
  deriving Inhabited

namespace ShadingMaterial

/-- The standard channels that are inputs. -/
def standardInputs : List (String × InputKind) :=
  [("diffuse", .color), ("diffuse_strength", .scalar), ("specular", .color),
    ("specular_strength", .scalar), ("glossiness", .scalar), ("ambient", .color),
    ("ambient_strength", .scalar), ("reflection", .color), ("reflection_strength", .scalar),
    ("refraction", .color), ("refraction_strength", .scalar), ("ior", .scalar), ("bump", .scalar),
    ("bump_min", .scalar), ("bump_max", .scalar), ("displacement", .scalar),
    ("displacement_min", .scalar), ("displacement_max", .scalar), ("transparency", .scalar),
    ("normal", .color)]

/-- The block whose channels add to some inputs. -/
def studioBlock : String := "studio_material_channels"

/-- Channels of that block, and the inputs they add to. -/
def studioInputs : List (String × String × InputKind) :=
  [("Bump Strength", "bump", .scalar), ("Displacement Strength", "displacement", .scalar),
    ("Specular Color", "specular", .color)]

/-- Some input has an image. -/
def hasTextures (m : ShadingMaterial) : Bool := m.inputs.any fun i => i.2.image.isSome

variable (c : ContentRoot) (d : Document)

/-- The path of an image file, repaired if nothing is there. -/
def imagePath (relative : String) : Path := c.source.imageDisk.repaired (c.filePath relative)

/-- The image of a channel: its file, else the file of the image it refers to. -/
def channelImage (ch : Channel) : Load (Option Path) :=
  match ch.imageFile, ch.image with
  | some file, _ => return some (imagePath c (Percent.decode file))
  | none, none => return none
  | none, some reference => do
    try
      let image ← c.find d Libraries.images reference
      return image.url.map fun url => imagePath c (Percent.decode url)
    catch _ => return none

/-- The input that a channel makes. -/
def channelInput (kind : InputKind) (ch : Channel) : Load MaterialInput := do
  let image ← channelImage c d ch
  return ⟨ch.current.bind (InputValue.ofJson? kind), image⟩

/-- Adds the input of a channel to what is there. -/
def addInput (inputs : List (String × MaterialInput)) (name : String) (kind : InputKind)
    (ch : Channel) : Load (List (String × MaterialInput)) := do
  let input ← channelInput c d kind ch
  let old := ((Keyed.find? Prod.fst name inputs).map Prod.snd).getD ⟨none, none⟩
  return Keyed.insert Prod.fst (name, old.merge input) inputs

/-- The inputs of the standard channels, those of the studio block on top. -/
def inputsOf (m : Material) : Load (List (String × MaterialInput)) := do
  let standard ← standardInputs.foldlM (fun inputs (name, kind) =>
    match m.channel? name with
    | some ch => addInput c d inputs name kind ch
    | none => return inputs) []
  match m.extra? studioBlock with
  | none => return standard
  | some block =>
    studioInputs.foldlM (fun inputs (channel, name, kind) =>
      match block.find? channel with
      | some ch => addInput c d inputs name kind ch
      | none => return inputs) standard

/-- The material for a renderer, not yet assigned to an object. -/
def ofMaterial (m : Material) : Load ShadingMaterial := do
  let inputs ← inputsOf c d m
  return { name := m.id, kind := m.kind, object := none, slot := none, uvMap := none, inputs }

end ShadingMaterial

namespace Mesh

/-- The layer of a material: its own UV set, added if it is missing, else the first layer. -/
def uvMapFor (c : ContentRoot) (d : Document) (material : Material) (m : Mesh) :
    Load (Option String × Mesh) := do
  let first := m.uvLayers.head?.map UvLayer.name
  match material.uvSet with
  | none => return (first, m)
  | some url =>
    try
      let s ← c.find d Libraries.uvSets url
      return (some s.id, m.addUvLayer s)
    catch _ => return (first, m)

/-- How a material shades its faces: smoothly or not, and the angle from which edges are sharp, if
there is one. -/
def smoothing (material : Material) : Bool × Option Float :=
  let smooth := ((material.extraChannel? "Smooth On").bind Channel.currentBool).getD false
  let angle := ((material.extraChannel? "Smooth Angle").bind Channel.currentFloat).getD (-1.0)
  (smooth, if angle ≥ 0.0 then some angle else none)

/-- Gives one face a slot. -/
def assignFace (slot : Nat) (smooth : Bool) (angle : Option Float) (edges : EdgeMap) (m : Mesh)
    (face : Nat) : Mesh :=
  let m := { m with
    faceMaterials := m.faceMaterials.set face (some slot)
    faceSmooth := m.faceSmooth.set face smooth }
  match angle with
  | some degrees => m.markSharp face degrees edges
  | none => m

/-- The faces that the groups of a material cover, group after group. -/
def coveredFaces (material : Material) (g : Geometry) (faceCount : Nat) : List Nat :=
  (material.groups.flatMap g.materialGroupFaces).filter fun f => decide (f < faceCount)

/-- Gives the faces of the material's groups a slot; the answer counts them, repeated ones again. -/
def assignMaterial (material : Material) (g : Geometry) (slot : Nat) (edges : EdgeMap) (m : Mesh) :
    Mesh × Nat :=
  let (smooth, angle) := smoothing material
  let faces := coveredFaces material g m.faceCount
  (faces.foldl (assignFace slot smooth angle edges) m, faces.length)

end Mesh

end RiggedScene
