import RiggedScene.Morph.Commit
import RiggedScene.Shading

/-!
# Imported scenes

An imported scene has objects, an armature and materials. Objects are linked to other objects, to
the armature, or to one of its bones.

* `ImportedScene.objectIndex?` and `objectForGeometry?` are how objects are looked up;
* `ImportedScene.rootedAtArmature` follows the links of an object;
* `ImportedScene.setMorph` changes a slider.
-/

namespace RiggedScene

/-- The place of an object: its rotation is in radians about X, Y and Z. -/
structure ObjectTransform where
  location : Vec3
  rotation : Vec3
  scale : Vec3
  deriving Inhabited

namespace ObjectTransform

/-- At the origin. -/
def identity : ObjectTransform := ⟨Vec3.zero, Vec3.zero, Vec3.one⟩

/-- Adds the translation of a node and takes its rotation and scale over. -/
def place (t : ObjectTransform) (n : Node) : ObjectTransform :=
  ⟨t.location.add n.translation, n.rotation, n.scale.scale n.generalScale⟩

end ObjectTransform

/-- What an object hangs from. -/
inductive ObjectParent where
  | object (name : String)
  | armature
  | bone (name : String)
  deriving Repr, DecidableEq

/-- Hangs from the armature or one of its bones. -/
def ObjectParent.isArmature : ObjectParent → Bool
  | armature | bone _ => true
  | object _ => false

/-- An object of the scene. -/
structure SceneObject where
  /-- Id of the node it was made for. -/
  name : String
  kind : NodeKind
  /-- Its mesh; an empty object has none. -/
  mesh : Option Mesh
  parent : Option ObjectParent
  transform : ObjectTransform
  morphs : MorphRig
  /-- Deformed by the armature. -/
  deform : Bool
  deriving Inhabited

/-- All that an import makes. -/
structure ImportedScene where
  objects : List SceneObject
  armature : Option Armature
  armatureTransform : ObjectTransform
  materials : List ShadingMaterial
  notes : List Diagnostic
  config : ImportConfig
  deriving Inhabited

/-- The name that a reference such as `#id` gives. -/
def plainName (reference : String) : String := Split.dropLeading '#' (Percent.decode reference)

namespace ImportedScene

/-- A scene with nothing in it. -/
def empty (config : ImportConfig) : ImportedScene := ⟨[], none, .identity, [], [], config⟩

variable (s : ImportedScene)

/-! ### Looking objects up -/

/-- The first object of a name. -/
def objectIndex? (name : String) : Option Nat :=
  s.objects.findIdx? fun o => o.name == plainName name

/-- The first object of a name. -/
def findObject? (name : String) : Option SceneObject :=
  (s.objectIndex? name).bind fun i => s.objects[i]?

/-- The first object whose mesh was made from a geometry of this id. -/
def objectForGeometry? (id : String) : Option Nat :=
  s.objects.findIdx? fun o => (o.mesh.map fun m => m.name == plainName id).getD false

/-- The object made for a geometry, else the object of a name. -/
def objectFor? (reference : String) : Option Nat :=
  (s.objectForGeometry? reference).or (s.objectIndex? reference)

/-- Follows the links of the object `i` up to `steps` times. -/
def rootedWithin : Nat → Nat → Bool
  | steps, i =>
    match s.objects[i]?.bind SceneObject.parent with
    | none => false
    | some .armature | some (.bone _) => true
    | some (.object name) =>
      match steps, s.objectIndex? name with
      | steps + 1, some p => rootedWithin steps p
      | _, _ => false

/-- Whether an object hangs, by way of others, from the armature. -/
def rootedAtArmature (i : Nat) : Bool := s.rootedWithin s.objects.length i

/-! ### Changing objects -/

/-- Changes the object `i`. -/
def modifyObject (i : Nat) (f : SceneObject → SceneObject) : ImportedScene :=
  { s with objects := s.objects.modify i f }

/-- Adds notes. -/
def noting (notes : List Diagnostic) : ImportedScene := { s with notes := s.notes ++ notes }

/-- The value of a morph of an object. -/
def morphValue? (object morph : String) : Option Float :=
  (s.findObject? object).bind fun o => o.morphs.value? morph

/-- Sets a morph of an object and all that it drives; the answer tells whether it was applied. -/
def setMorph (object morph : String) (value : Float) : ImportedScene × Except Error Bool :=
  match s.objectIndex? object with
  | none => (s, .error (.unknownObject object))
  | some i =>
    match s.objects[i]? with
    | none => (s, .error (.unknownObject object))
    | some o =>
      match o.mesh with
      | none => (s, .error (.unknownMorph morph))
      | some mesh =>
        let stage : MorphStage := ⟨⟨o.morphs, mesh, s.notes⟩, s.armature⟩
        let (after, result) := stage.setValue s.config morph value
        ({ s.modifyObject i fun o =>
            { o with morphs := after.state.rig, mesh := some after.state.mesh } with
          armature := after.armature, notes := after.state.notes }, result)

end ImportedScene

end RiggedScene
