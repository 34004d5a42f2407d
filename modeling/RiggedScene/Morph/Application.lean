import RiggedScene.Error
import RiggedScene.Morph.Rig

/-!
# Applying a morph

Setting a morph blends its shape key in and runs its formulas. An output that names another morph
sets that one in turn, an output that names the morph itself blends its shape key only, and all
others are handed back.

* `MorphRig.apply` applies a morph and all that it drives;
* a morph that is reached while it is being applied, or too deep, is a cycle;
* `MorphSnapshot` keeps what an application overwrites, so that it can be put back.
-/

namespace RiggedScene

/-- What the application of a morph changes: values, blend weights, and notes. -/
structure MorphState where
  rig : MorphRig
  mesh : Mesh
  notes : List Diagnostic
  deriving Inhabited

namespace MorphState

variable (s : MorphState)

/-- Blends the shape key of a morph in, if it has one. -/
def blend (m : RiggedMorph) (value : Float) : MorphState :=
  if m.hasShapeKey then { s with mesh := s.mesh.setShapeKey m.name value } else s

/-- Sets the value of a morph and its shape key. -/
def settle (m : RiggedMorph) (value : Float) : MorphState :=
  { s with rig := s.rig.setting m.name value }.blend m value

/-- Adds notes. -/
def noting (notes : List Diagnostic) : MorphState := { s with notes := s.notes ++ notes }

end MorphState

/-- Values of morphs and weights of shape keys, in the order of the lists they were taken from. -/
structure MorphSnapshot where
  settings : List (Option Float)
  weights : List Float
  deriving Inhabited

namespace MorphSnapshot

/-- What a state holds. -/
def ofState (s : MorphState) : MorphSnapshot :=
  ⟨s.rig.morphs.map RiggedMorph.setting, s.mesh.shapeKeys.map ShapeKey.value⟩

/-- Puts values into entries by position; entries without a value stay as they are. -/
def putBack {α β : Type} (put : α → β → α) : List α → List β → List α
  | x :: xs, v :: vs => put x v :: putBack put xs vs
  | xs, _ => xs

/-- The state with the values and weights of the snapshot put back. -/
def restore (b : MorphSnapshot) (s : MorphState) : MorphState :=
  { s with
    rig := ⟨putBack (fun m v => { m with setting := v }) s.rig.morphs b.settings⟩
    mesh := { s.mesh with
      shapeKeys := putBack (fun k w => { k with value := w }) s.mesh.shapeKeys b.weights } }

end MorphSnapshot

namespace MorphRig

/-- A way of applying a morph: the outputs that are handed back, or a cycle. -/
abbrev Application :=
  RiggedMorph → Float → MorphState → MorphState × Except Error (List (Output Float))

/-- Carries out one result of the morph `self`, applying other morphs by `apply`. -/
def deliver (apply : Application) (self : RiggedMorph) (o : Output Float) (s : MorphState) :
    MorphState × Except Error (List (Output Float)) :=
  match s.rig.target? o.target with
  | none => (s, .ok [o])
  | some t => if t.name = self.name then (s.blend self o.value, .ok []) else apply t o.value s

/-- Carries out the results of the morph `self` in order. -/
def propagate (apply : Application) (self : RiggedMorph) :
    List (Output Float) → MorphState → MorphState × Except Error (List (Output Float))
  | [], s => (s, .ok [])
  | o :: os, s =>
    match deliver apply self o s with
    | (s, .error e) => (s, .error e)
    | (s, .ok here) =>
      match propagate apply self os s with
      | (s, .error e) => (s, .error e)
      | (s, .ok later) => (s, .ok (here ++ later))

/-- Applies a morph and all that it drives. `room` is how much deeper it may go, and `applying`
are the names of the morphs being applied. -/
def apply : Nat → List String → Application
  | 0, _, m, _, s => (s, .error (.formulaCycle m.name))
  | room + 1, applying, m, value, s =>
    if m.name ∈ applying then (s, .error (.formulaCycle m.name))
    else
      let s := s.settle m value
      let (results, notes) := s.rig.evaluate m
      propagate (apply room (m.name :: applying)) m results (s.noting notes)

end MorphRig

end RiggedScene
