import RiggedScene.Content.Node
import RiggedScene.Diagnostic
import RiggedScene.Error
import RiggedScene.Space.Bone
import RiggedScene.Space.Transform

/-!
# Armatures

An armature is a list of bones, parents before children. A bone keeps the points it was made
from, so that later edits and poses are relative to them. The bones change only in edit mode.

* `Armature.position?` is how bones are looked up, by name and then by template;
* `Armature.insertBone?`, `insertHierarchy?` and `transformBone?` are the structural changes;
* `Armature.build?` makes an armature of bones given in any order;
* `Armature.editing` runs a change in edit mode and restores the mode.
-/

namespace RiggedScene

/-- A bone to be made. -/
structure BoneSource where
  /-- Id of the node instance; the bone is named after it. -/
  id : String
  templateId : String
  /-- Reference to the parent, such as `#hip`. -/
  parent : Option String
  node : Node
  deriving Inhabited

/-- What is put on top of the rest position of a bone. -/
structure Pose where
  /-- Angles in radians, one for each axis of the bone. -/
  rotation : Vec3
  location : Vec3
  scale : Vec3
  order : RotationOrder
  deriving Inhabited

namespace Pose

/-- Nothing is moved. -/
def rest : Pose := ⟨Vec3.zero, Vec3.zero, Vec3.one, .xyz⟩

/-- The transform of a pose. -/
def matrix (p : Pose) : Mat4 :=
  .ofScaleRotationTranslation p.scale (.ofMat3 (p.order.matrix p.rotation)) p.location

end Pose

/-- A bone. -/
structure Bone where
  /-- Id of the node instance it was made from. -/
  name : String
  templateId : String
  /-- Name of the bone it was put under. -/
  parent : Option String
  /-- The parent was there when the bone was put in. -/
  attached : Bool
  children : List String
  axis : BoneAxis
  /-- Center point, in output space. -/
  center : Vec3
  /-- End point, in output space. -/
  tip : Vec3
  orientation : Vec3
  /-- How the bone lies at rest. -/
  segment : BoneSegment
  pose : Pose
  deriving Inhabited

/-- The rest position in armature space. -/
def Bone.restMatrix (b : Bone) : Mat4 :=
  .ofRotationTranslation (.ofMat3 b.segment.rest) b.segment.head

/-- The bone with another child behind the others. -/
def Bone.withChild (id : String) (b : Bone) : Bone := { b with children := b.children ++ [id] }

/-- The bone, posed in the rotation order of its axis. -/
def Bone.withPoseOrder (b : Bone) : Bone :=
  { b with pose := { b.pose with order := b.axis.poseOrder } }

/-- Whether the structure of an armature may change. -/
inductive ArmatureMode where
  | object
  | edit
  deriving Repr, DecidableEq, Inhabited

/-- A skeleton. -/
structure Armature where
  name : String
  bones : List Bone
  mode : ArmatureMode
  deriving Inhabited

namespace Armature

/-- An armature without bones. -/
def empty (name : String) : Armature := ⟨name, [], .object⟩

variable (a : Armature)

/-! ### Looking bones up -/

/-- The place of the last element that satisfies `p`. -/
def lastIdx? {α : Type} (p : α → Bool) : List α → Option Nat
  | [] => none
  | x :: xs =>
    match lastIdx? p xs with
    | some i => some (i + 1)
    | none => if p x then some 0 else none

/-- The last bone of a name, else the first one made from a template of this id. -/
def position? (name : String) : Option Nat :=
  (lastIdx? (fun b : Bone => b.name == name) a.bones).or
    (a.bones.findIdx? fun b => b.templateId == name)

/-- The bone found under a name. -/
def find? (name : String) : Option Bone := (a.position? name).bind fun i => a.bones[i]?

/-- Whether a bone has this name. -/
def hasBone (name : String) : Bool := a.bones.any fun b => b.name == name

/-- Changes the bone found under a name. -/
def modify? (name : String) (f : Bone → Bone) : Option Armature :=
  (a.position? name).map fun i => { a with bones := a.bones.modify i f }

/-- The bones without parent. -/
def roots : List Bone := a.bones.filter fun b => b.parent.isNone

/-! ### Structural changes -/

/-- A change that is allowed in edit mode only. -/
def whenEditing {α : Type} (change : Except Error α) : Except Error α :=
  match a.mode with
  | .edit => change
  | .object => .error .notInEditMode

/-- The bone of a source. -/
def makeBone (s : BoneSource) (parent : Option String) (attached : Bool) : Bone :=
  let center := s.node.center
  let axis := BoneAxis.derive center s.node.tip s.node.rotationOrder
  { name := s.id, templateId := s.templateId, parent, attached, children := [], axis, center
    tip := (nudged center s.node.tip).2
    orientation := s.node.orientation
    segment := BoneSegment.build center s.node.tip s.node.orientation axis.sign
    pose := .rest }

/-- The place of the last bone with the name of a parent. -/
def parentPosition? (parent : Option String) : Option Nat :=
  parent.bind fun p => lastIdx? (fun b : Bone => b.name == p) a.bones

/-- Puts a bone at the end, under `parent`. -/
def addBone (s : BoneSource) (parent : Option String) : Armature × List Diagnostic :=
  let place := a.parentPosition? parent
  let bone := makeBone s parent place.isSome
  let bones :=
    match place with
    | some i => a.bones.modify i (Bone.withChild s.id)
    | none => a.bones
  ({ a with bones := bones ++ [bone] },
    if bone.segment.degenerate then [.degenerateBone s.id] else [])

/-- Puts one bone in under `parent`. -/
def insertBone? (s : BoneSource) (parent : Option String) :
    Except Error (Armature × List Diagnostic) :=
  a.whenEditing (.ok (a.addBone s parent))

/-- The reference by which children name their parent. -/
def childMark (parent : Option String) : Option String := parent.map fun id => "#" ++ id

/-- Puts the sources in that are not there yet, and lists the ids of those put in. -/
def insertChildren? (parent : Option String) :
    List BoneSource → Armature → Except Error (Armature × List Diagnostic × List String)
  | [], a => .ok (a, [], [])
  | s :: ss, a =>
    if s.parent = childMark parent ∧ a.hasBone s.id = false then do
      let (a', notes) ← a.insertBone? s parent
      let (a'', notes', ids) ← insertChildren? parent ss a'
      return (a'', notes ++ notes', s.id :: ids)
    else insertChildren? parent ss a

/-- Puts the children of all queued bones in, breadth first; `fuel` bounds the number of bones
taken from the queue. -/
def insertLevels? (sources : List BoneSource) :
    Nat → List (Option String) → Armature → Except Error (Armature × List Diagnostic)
  | 0, _, a => .ok (a, [])
  | _ + 1, [], a => .ok (a, [])
  | fuel + 1, parent :: queue, a => do
    let (a', notes, ids) ← insertChildren? parent sources a
    let (a'', notes') ← insertLevels? sources fuel (queue ++ ids.map some) a'
    return (a'', notes ++ notes')

/-- Puts in all sources that hang from a root. Each one is queued at most once. -/
def insertHierarchy? (sources : List BoneSource) : Except Error (Armature × List Diagnostic) :=
  a.whenEditing (insertLevels? sources (sources.length + 1) [none] a)

/-- Lays a bone out again from the points it was made from, each moved by a delta. -/
def relaid (center tip orientation : Vec3) (b : Bone) : Bone :=
  { b with
    segment := BoneSegment.build (b.center.add center) (b.tip.add tip)
      (b.orientation.add orientation) b.axis.sign }

/-- Lays the bone found under a name out again. -/
def transformBone? (name : String) (center tip orientation : Vec3) : Except Error Armature :=
  a.whenEditing <|
    match a.modify? name (relaid center tip orientation) with
    | some a' => .ok a'
    | none => .error (.unknownObject name)

/-- Runs a change in edit mode and restores the mode afterwards. -/
def editing {β : Type} (change : Armature → Armature × β) : Armature × β :=
  let (a', result) := change { a with mode := .edit }
  ({ a' with mode := a.mode }, result)

/-- Runs a change that may fail in edit mode and restores the mode afterwards. -/
def editing? {β : Type} (change : Armature → Except Error (Armature × β)) :
    Except Error (Armature × β) :=
  (change { a with mode := .edit }).map fun (a', result) => ({ a' with mode := a.mode }, result)

/-- Gives each bone the rotation order of its axis. -/
def withPoseOrders : Armature := { a with bones := a.bones.map Bone.withPoseOrder }

/-- The armature of some bones, named after the first one; `none` if there are no bones. -/
def build? : List BoneSource → Except Error (Option Armature × List Diagnostic)
  | [] => .ok (none, [])
  | s :: ss => do
    let (a, notes) ← (empty ("rig-" ++ s.id)).editing? fun a => a.insertHierarchy? (s :: ss)
    return (some a.withPoseOrders, notes)

/-- The armature of some bones. The mode is right all along, so that no error is left out here. -/
def build (sources : List BoneSource) : Option Armature × List Diagnostic :=
  match build? sources with
  | .ok built => built
  | .error _ => (none, [])

/-! ### Posed bones -/

/-- The transform of a bone on top of those of its parents; `fuel` bounds their number. -/
def posedFrom : Nat → String → Option Mat4
  | 0, _ => none
  | fuel + 1, name => do
    let bone ← a.find? name
    let own := bone.restMatrix.mul bone.pose.matrix
    match bone.parent.bind a.find? with
    | some parent =>
      let posed ← posedFrom fuel parent.name
      return (posed.mul parent.restMatrix.inverse).mul own
    | none => return own

/-- The transform of a bone in its pose, in armature space. A chain of parents that never ends
has none. -/
def posed? (name : String) : Option Mat4 := a.posedFrom (a.bones.length + 1) name

end Armature

end RiggedScene
