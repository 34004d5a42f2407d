import RiggedScene.Armature.Posing
import RiggedScene.Morph.Application

/-!
# Committing outputs to an armature

Outputs that name no morph address a property of a bone.

* `BoneProperty.ofPath?` reads a property path such as `rotation/x/value`;
* `BoneChange` gathers the values for one bone;
* `Armature.commit` carries the changes out, poses first and rest positions afterwards;
* `MorphRig.setValue` is a whole change of a slider, undone as a whole when it meets a cycle.
-/

namespace RiggedScene

/-- A vector of a bone that an output may address. -/
inductive BoneProperty where
  | rotation
  | translation
  | scale
  | center
  | tip
  | orientation
  deriving Repr, DecidableEq

namespace BoneProperty

/-- The property of a word. -/
def ofText? (s : String) : Option BoneProperty :=
  if s = "rotation" then some .rotation
  else if s = "translation" then some .translation
  else if s = "scale" then some .scale
  else if s = "center_point" then some .center
  else if s = "end_point" then some .tip
  else if s = "orientation" then some .orientation
  else none

/-- Changes the rest position rather than the pose. -/
def isEdit : BoneProperty → Bool
  | center | tip | orientation => true
  | rotation | translation | scale => false

/-- The component that a word names; `some none` stands for all of a scale at once. -/
def component? (p : BoneProperty) (word : String) : Option (Option Axis) :=
  if word = "x" then some (some .x)
  else if word = "y" then some (some .y)
  else if word = "z" then some (some .z)
  else if word = "general" ∧ p = .scale then some none
  else none

/-- The names of a path without a final `value` behind two others. -/
def withoutValue (names : List String) : List String :=
  if 2 < names.length ∧ names.getLast? = some "value" then names.dropLast else names

/-- The property and component at the end of a path. -/
def ofPath? (path : String) : Option (BoneProperty × Option Axis) :=
  match (withoutValue (Reference.segments path)).reverse with
  | word :: property :: _ =>
    (ofText? property).bind fun p => (p.component? word).map fun c => (p, c)
  | _ => none

end BoneProperty

/-- The bone and property path that an output addresses. Without an asset id the node path is the
bone and the rest is the property path. -/
def Reference.boneTarget (u : Reference) : String × String :=
  if u.hasAsset then (u.assetId, u.propertyPath) else (u.nodePath, u.filePath)

/-- Values for one bone, by source axis. -/
structure BoneChange where
  /-- The bone as the outputs name it. -/
  bone : String
  rotation : AxisValues
  translation : Vec3
  scale : Vec3
  center : Vec3
  tip : Vec3
  orientation : Vec3
  deriving Inhabited

namespace BoneChange

/-- No values yet. -/
def start (bone : String) : BoneChange :=
  ⟨bone, .replicate none, Vec3.zero, Vec3.zero, Vec3.zero, Vec3.zero, Vec3.zero⟩

/-- Sets a component; without axis, all components of the scale. -/
def update (c : BoneChange) (p : BoneProperty) (axis : Option Axis) (value : Float) : BoneChange :=
  match axis, p with
  | none, .scale => { c with scale := .replicate value }
  | none, _ => c
  | some a, .rotation => { c with rotation := c.rotation.set a (some value) }
  | some a, .translation => { c with translation := c.translation.set a value }
  | some a, .scale => { c with scale := c.scale.set a value }
  | some a, .center => { c with center := c.center.set a value }
  | some a, .tip => { c with tip := c.tip.set a value }
  | some a, .orientation => { c with orientation := c.orientation.set a value }

/-- Updates the change of a bone, beginning one if there is none. -/
def updateIn (bone : String) (p : BoneProperty) (axis : Option Axis) (value : Float)
    (changes : List BoneChange) : List BoneChange :=
  let old := (Keyed.find? BoneChange.bone bone changes).getD (start bone)
  Keyed.insert BoneChange.bone (old.update p axis value) changes

end BoneChange

/-- What the outputs of an application amount to. -/
structure Commitment where
  /-- Changes of poses, in order of first occurrence of their bones. -/
  poses : List BoneChange
  /-- Changes of rest positions. -/
  edits : List BoneChange
  notes : List Diagnostic
  deriving Inhabited

namespace Commitment

/-- Nothing to do. -/
def empty : Commitment := ⟨[], [], []⟩

/-- Takes one output in. Outputs that address no property of a bone are passed over. -/
def add (armature : Option Armature) (morph : String) (c : Commitment) (o : Output Float) :
    Commitment :=
  match Reference.parse? o.target with
  | none =>
    { c with notes := c.notes ++ [.malformedFormula morph o.target "invalid output reference"] }
  | some u =>
    let (bone, path) := u.boneTarget
    match BoneProperty.ofPath? path with
    | none => c
    | some (p, axis) =>
      if (armature.bind fun a => a.find? bone).isNone then
        { c with notes := c.notes ++ [.missingBone bone] }
      else if p.isEdit then { c with edits := BoneChange.updateIn bone p axis o.value c.edits }
      else { c with poses := BoneChange.updateIn bone p axis o.value c.poses }

/-- What a list of outputs amounts to. -/
def ofOutputs (armature : Option Armature) (morph : String) (os : List (Output Float)) :
    Commitment :=
  os.foldl (add armature morph) empty

end Commitment

namespace Armature

variable (a : Armature)

/-- Poses a bone: its rotation is set where given, the scale is increased, the location is set. -/
def applyPose (c : BoneChange) : Armature :=
  let a := (a.rotate? c.bone c.rotation).getD a
  let a := (a.rescale? c.bone (c.scale.map some)).getD a
  (a.translate? c.bone (c.translation.map some)).getD a

/-- Lays a bone out again; a missing bone is noted. -/
def applyEdit (c : BoneChange) : Armature × List Diagnostic :=
  match a.transformBone? c.bone (Units.pointToOutput c.center) (Units.pointToOutput c.tip)
      (Units.rotationToOutput c.orientation) with
  | .ok a' => (a', [])
  | .error _ => (a, [.missingBone c.bone])

/-- Lays a bone out again and adds to the notes taken before. -/
def applyNextEdit (r : Armature × List Diagnostic) (c : BoneChange) : Armature × List Diagnostic :=
  let laid := r.1.applyEdit c
  (laid.1, r.2 ++ laid.2)

/-- Lays bones out again one after another. -/
def applyEdits (cs : List BoneChange) : Armature × List Diagnostic :=
  cs.foldl applyNextEdit (a, [])

/-- Carries all changes out in edit mode. -/
def commit (c : Commitment) : Armature × List Diagnostic :=
  a.editing fun a => (c.poses.foldl applyPose a).applyEdits c.edits

end Armature

/-- A rig with all that its morphs may change. -/
structure MorphStage where
  state : MorphState
  armature : Option Armature
  deriving Inhabited

namespace MorphStage

variable (t : MorphStage)

/-- Commits the outputs of the morph `name`. -/
def commit (name : String) (os : List (Output Float)) : MorphStage :=
  let c := Commitment.ofOutputs t.armature name os
  let state := t.state.noting c.notes
  match t.armature with
  | none => { t with state := state }
  | some a =>
    let (a', notes) := a.commit c
    { state := state.noting notes, armature := some a' }

/-- Whether a new value is too near to the one that is set. -/
def ignores (config : ImportConfig) (m : RiggedMorph) (value : Float) : Bool :=
  match m.setting with
  | some current => (value - current).abs ≤ config.morphEpsilon
  | none => false

/-- Sets a morph and applies it; the answer tells whether it was applied. After an error the values
and weights from before are put back. -/
def setValue (config : ImportConfig) (name : String) (value : Float) :
    MorphStage × Except Error Bool :=
  match t.state.rig.find? name with
  | none => (t, .error (.unknownMorph name))
  | some m =>
    if ignores config m value then (t, .ok false)
    else
      match MorphRig.apply config.maxMorphDepth [] m value t.state with
      | (s, .error e) => ({ t with state := (MorphSnapshot.ofState t.state).restore s }, .error e)
      | (s, .ok outputs) =>
        ({ t with state := s }.commit name (Output.combine .binary64 outputs), .ok true)

end MorphStage

end RiggedScene
