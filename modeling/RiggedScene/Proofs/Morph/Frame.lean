import RiggedScene.Morph.Application
import RiggedScene.Proofs.Keyed

/-!
# What an application leaves alone

Applying a morph goes through three kinds of single changes: a shape key is blended in, a morph is
settled on a value, and notes are added.

* `MorphState.Kept R` says that every single change keeps the relation `R` to the state before;
* `MorphRig.apply_kept` carries such a relation through a whole application, cycles included;
* `MorphState.Frame` is the relation we need most often: only values of morphs, weights of shape
  keys and notes differ, and no note is lost.
-/

namespace RiggedScene

@[simp] theorem MorphState.blend_rig (s : MorphState) (m : RiggedMorph) (value : Float) :
    (s.blend m value).rig = s.rig := by
  unfold blend
  split <;> rfl

/-! ### Relations kept by an application -/

/-- `R` relates a state to itself and to what one change makes of it, and can be chained. -/
structure MorphState.Kept (R : MorphState → MorphState → Prop) : Prop where
  refl : ∀ s, R s s
  trans : ∀ {s s' s''}, R s s' → R s' s'' → R s s''
  blend : ∀ s m value, R s (s.blend m value)
  settle : ∀ s m value, R s (s.settle m value)
  noting : ∀ s notes, R s (s.noting notes)

namespace MorphRig

open MorphState (Kept)

variable {R : MorphState → MorphState → Prop} {apply' : Application}

theorem deliver_kept (hR : Kept R) (happly : ∀ m value s, R s (apply' m value s).1)
    (self : RiggedMorph) (o : Output Float) (s : MorphState) :
    R s (deliver apply' self o s).1 := by
  unfold deliver
  cases s.rig.target? o.target with
  | none => exact hR.refl s
  | some t =>
    dsimp only
    split
    · exact hR.blend s self o.value
    · exact happly t o.value s

theorem propagate_kept (hR : Kept R) (happly : ∀ m value s, R s (apply' m value s).1)
    (self : RiggedMorph) (os : List (Output Float)) (s : MorphState) :
    R s (propagate apply' self os s).1 := by
  induction os generalizing s with
  | nil => exact hR.refl s
  | cons o os ih =>
    have hfirst := deliver_kept hR happly self o s
    simp only [propagate]
    generalize deliver apply' self o s = first at hfirst ⊢
    obtain ⟨s', e | here⟩ := first
    · exact hfirst
    · have hrest := hR.trans hfirst (ih s')
      dsimp only
      generalize propagate apply' self os s' = rest at hrest ⊢
      obtain ⟨s'', e | later⟩ := rest <;> exact hrest

/-- The state in which the results of a morph are delivered: it is settled, and what its formulas
met is noted. -/
def enter (m : RiggedMorph) (value : Float) (s : MorphState) : MorphState :=
  (s.settle m value).noting ((s.settle m value).rig.evaluate m).2

theorem apply_of_mem {room : Nat} {applying : List String} {m : RiggedMorph}
    (h : m.name ∈ applying) (value : Float) (s : MorphState) :
    apply (room + 1) applying m value s = (s, .error (.formulaCycle m.name)) := by
  simp [apply, h]

theorem apply_of_notMem {room : Nat} {applying : List String} {m : RiggedMorph}
    (h : m.name ∉ applying) (value : Float) (s : MorphState) :
    apply (room + 1) applying m value s =
      propagate (apply room (m.name :: applying)) m ((s.settle m value).rig.evaluate m).1
        (enter m value s) := by
  simp [apply, h, enter]

/-- **A relation that every single change keeps is kept by a whole application**, whether it goes
through or meets a cycle. -/
theorem apply_kept (hR : Kept R) (room : Nat) (applying : List String) (m : RiggedMorph)
    (value : Float) (s : MorphState) : R s (apply room applying m value s).1 := by
  -- the room shrinks with each morph that is entered
  induction room generalizing applying m value s with
  | zero => exact hR.refl s
  | succ room ih =>
    by_cases hmem : m.name ∈ applying
    · rw [apply_of_mem hmem]
      exact hR.refl s
    · rw [apply_of_notMem hmem]
      have henter : R s (enter m value s) := hR.trans (hR.settle s m value) (hR.noting _ _)
      exact hR.trans henter (propagate_kept hR (ih _) m _ _)

end MorphRig

/-! ### Rigs and meshes without their values -/

/-- The morph as it is before it is set. -/
def RiggedMorph.unset (m : RiggedMorph) : RiggedMorph := { m with setting := none }

namespace RiggedMorph

variable {m m' : RiggedMorph}

/-- Morphs that differ in nothing but their values have the same name. -/
theorem name_of_unset (h : m'.unset = m.unset) : m'.name = m.name :=
  congrArg (fun m => m.name) h

theorem hasShapeKey_of_unset (h : m'.unset = m.unset) : m'.hasShapeKey = m.hasShapeKey :=
  congrArg (fun m => m.hasShapeKey) h

theorem formulas_of_unset (h : m'.unset = m.unset) : m'.formulas = m.formulas :=
  congrArg (fun m => m.formulas) h

end RiggedMorph

/-- The rig with no morph set. -/
def MorphRig.unset (r : MorphRig) : MorphRig := ⟨r.morphs.map RiggedMorph.unset⟩

/-- The shape key blended out. -/
def ShapeKey.unweighted (k : ShapeKey) : ShapeKey := { k with value := 0.0 }

/-- The mesh with all shape keys blended out. -/
def Mesh.unweighted (m : Mesh) : Mesh :=
  { m with shapeKeys := m.shapeKeys.map ShapeKey.unweighted }

namespace MorphRig

variable (r : MorphRig)

@[simp] theorem unset_setting (name : String) (value : Float) :
    (r.setting name value).unset = r.unset :=
  congrArg MorphRig.mk (Keyed.map_modify fun _ => rfl)

theorem find?_unset (name : String) : r.unset.find? name = (r.find? name).map RiggedMorph.unset :=
  Keyed.find?_map fun _ => rfl

end MorphRig

@[simp] theorem Mesh.unweighted_setShapeKey (m : Mesh) (name : String) (value : Float) :
    (m.setShapeKey name value).unweighted = m.unweighted := by
  have hkeys : (m.setShapeKey name value).shapeKeys.map ShapeKey.unweighted =
      m.shapeKeys.map ShapeKey.unweighted := Keyed.map_modify fun _ => rfl
  simp only [unweighted, hkeys]
  rfl

namespace MorphState

/-- Only values of morphs and weights of shape keys differ, and notes may have been added. -/
structure Frame (s s' : MorphState) : Prop where
  rig : s'.rig.unset = s.rig.unset
  mesh : s'.mesh.unweighted = s.mesh.unweighted
  notes : s.notes <+: s'.notes

namespace Frame

theorem refl (s : MorphState) : Frame s s := ⟨rfl, rfl, List.prefix_rfl⟩

theorem trans {s s' s'' : MorphState} (h : Frame s s') (h' : Frame s' s'') : Frame s s'' :=
  ⟨h'.rig.trans h.rig, h'.mesh.trans h.mesh, h.notes.trans h'.notes⟩

theorem blend (s : MorphState) (m : RiggedMorph) (value : Float) : Frame s (s.blend m value) := by
  unfold MorphState.blend
  split
  · exact ⟨rfl, by simp, List.prefix_rfl⟩
  · exact refl s

theorem settle (s : MorphState) (m : RiggedMorph) (value : Float) :
    Frame s (s.settle m value) := by
  have hset : Frame s { s with rig := s.rig.setting m.name value } :=
    ⟨by simp, rfl, List.prefix_rfl⟩
  exact hset.trans (blend _ m value)

theorem noting (s : MorphState) (notes : List Diagnostic) : Frame s (s.noting notes) :=
  ⟨rfl, rfl, List.prefix_append s.notes notes⟩

/-- Every single change stays in the frame. -/
theorem kept : Kept Frame := ⟨refl, trans, blend, settle, noting⟩

end Frame

end MorphState

/-- An application changes values, weights and notes only. -/
theorem MorphRig.apply_frame (room : Nat) (applying : List String) (m : RiggedMorph)
    (value : Float) (s : MorphState) : s.Frame (apply room applying m value s).1 :=
  apply_kept MorphState.Frame.kept room applying m value s

end RiggedScene
