import RiggedScene.Config
import RiggedScene.Mesh.Basic
import RiggedScene.Reference

/-!
# Morph rigs

A rig holds the morphs of one mesh with their values.

* `MorphRig.register` takes a morph in and gives it a shape key;
* `MorphRig.evaluate` runs the formulas of a morph;
* `MorphRig.target?` is the morph that an output drives.
-/

namespace RiggedScene

/-- A morph of a mesh. -/
structure RiggedMorph where
  name : String
  /-- Shown as a slider; others are driven by formulas only. -/
  visible : Bool
  formulas : List (Formula Float)
  /-- The mesh has a shape key of this name. -/
  hasShapeKey : Bool
  /-- The value, once set. -/
  setting : Option Float
  deriving Inhabited

/-- The value; zero until it is set. -/
def RiggedMorph.value (m : RiggedMorph) : Float := m.setting.getD 0.0

/-- The morphs of a mesh, once for each name. -/
structure MorphRig where
  morphs : List RiggedMorph
  deriving Inhabited

namespace MorphRig

/-- The rig without morphs. -/
def empty : MorphRig := ⟨[]⟩

variable (r : MorphRig)

/-- The morph of a name. -/
def find? (name : String) : Option RiggedMorph := Keyed.find? RiggedMorph.name name r.morphs

/-- The value of a morph. -/
def value? (name : String) : Option Float := (r.find? name).map RiggedMorph.value

/-- Sets the value of a morph. -/
def setting (name : String) (value : Float) : MorphRig :=
  ⟨Keyed.modify RiggedMorph.name name (fun m => { m with setting := some value }) r.morphs⟩

/-! ### Registration -/

/-- The formulas all of whose steps are known. -/
def supported (fs : List (Formula Float)) : List (Formula Float) :=
  fs.filter fun f => f.unsupportedOperation.isNone

/-- What is noted about the other formulas. -/
def unsupportedNotes (name : String) (fs : List (Formula Float)) : List Diagnostic :=
  (fs.filter fun f => f.unsupportedOperation.isSome).map fun f =>
    .unsupportedFormula name f.output

/-- The morph of a modifier, not yet set. -/
def ofModifier (m : Modifier) (x : Morph) : RiggedMorph where
  name := m.id
  visible := (m.channel.map Channel.visible).getD true
  formulas := supported x.formulas
  hasShapeKey := x.deltas.isSome
  setting := none

/-- Takes a modifier in, in place of the morph of the same id. Offsets become a shape key, and
formulas with unknown steps are left out. `none` if the modifier is no morph. -/
def register? (m : Modifier) (mesh : Mesh) : Option (MorphRig × Mesh × List Diagnostic) :=
  m.morph?.map fun x =>
    (⟨Keyed.insert RiggedMorph.name (ofModifier m x) r.morphs⟩,
      match x.deltas with
      | some deltas => mesh.addShapeKey m.id deltas
      | none => mesh,
      unsupportedNotes m.id x.formulas)

/-! ### Formulas of a morph -/

/-- The value of the morph that a reference names. -/
def resolve (url : String) : Option Float :=
  (Reference.parse? url).bind fun u => r.value? u.assetId

/-- The morph that an output names. -/
def target? (output : String) : Option RiggedMorph :=
  (Reference.parse? output).bind fun u => r.find? u.assetId

/-- The result of a formula, or nothing, and what is noted about it. -/
def result (name : String) (f : Formula Float) : Option (Output Float) × List Diagnostic :=
  match f.evaluate .binary64 r.resolve with
  | .ok e =>
    (some ⟨f.output, f.stage, e.value⟩, e.unresolved.map fun url => .unresolvedOperand name url)
  | .error e => (none, [.malformedFormula name f.output e.message])

/-- The results of all formulas of a morph, at the present values, and what is noted. -/
def evaluate (m : RiggedMorph) : List (Output Float) × List Diagnostic :=
  ((m.formulas.filterMap fun f => (r.result m.name f).1),
    m.formulas.flatMap fun f => (r.result m.name f).2)

end MorphRig

end RiggedScene
