import RiggedScene.Morph.Commit
import RiggedScene.Proofs.Morph.Frame

/-!
# Changes of a slider

An application may have settled many morphs before it meets a cycle. What it has overwritten is
put back by position, which is right since an application stays in the frame of `MorphState.Frame`:
no morph and no shape key is added, taken away, moved or changed in anything but its value.

* `MorphSnapshot.restore_ofState` : putting a snapshot back undoes everything but the notes;
* `MorphStage.setValue_cases` are the four ways a change of a slider may go, and
  `MorphStage.setValue_unset` is what it keeps of the rig in each of them;
* `MorphStage.outputs` are the outputs of a change that name no morph.
-/

namespace RiggedScene

/-! ### Putting a snapshot back -/

namespace MorphSnapshot

theorem putBack_eq {α β γ : Type} {put : α → β → α} (get : α → β) (others : α → γ)
    (hput : ∀ x y, others y = others x → put y (get x) = x) {xs ys : List α}
    (h : ys.map others = xs.map others) : putBack put ys (xs.map get) = xs := by
  induction xs generalizing ys with
  | nil =>
    obtain rfl : ys = [] := by simpa using h
    rfl
  | cons x xs ih =>
    cases ys with
    | nil => simp at h
    | cons y ys =>
      obtain ⟨hy, hys⟩ := List.cons.inj h
      rw [List.map_cons, putBack, hput x y hy, ih hys]

theorem restore_morphs {r r' : MorphRig} (h : r'.unset = r.unset) :
    putBack (fun m v => { m with setting := v }) r'.morphs (r.morphs.map RiggedMorph.setting) =
      r.morphs := by
  refine putBack_eq RiggedMorph.setting RiggedMorph.unset (fun x y hxy => ?_)
    (congrArg MorphRig.morphs h)
  cases x
  cases y
  simpa [RiggedMorph.unset] using hxy

theorem restore_shapeKeys {m m' : Mesh} (h : m'.unweighted = m.unweighted) :
    putBack (fun k w => { k with value := w }) m'.shapeKeys (m.shapeKeys.map ShapeKey.value) =
      m.shapeKeys := by
  refine putBack_eq ShapeKey.value ShapeKey.unweighted (fun x y hxy => ?_)
    (congrArg Mesh.shapeKeys h)
  cases x
  cases y
  simpa [ShapeKey.unweighted] using hxy

/-- **Putting a snapshot back undoes all that stays in the frame.** Only notes are kept. -/
theorem restore_ofState {s s' : MorphState} (h : s.Frame s') :
    (ofState s).restore s' = { s with notes := s'.notes } := by
  have hmesh : { s'.mesh with shapeKeys := s.mesh.shapeKeys } = s.mesh := by
    have hothers := h.mesh
    generalize s.mesh = m at hothers ⊢
    generalize s'.mesh = m' at hothers ⊢
    cases m
    cases m'
    simp only [Mesh.unweighted, Mesh.mk.injEq] at hothers ⊢
    grind
  simp only [restore, ofState, restore_morphs h.rig, restore_shapeKeys h.mesh, hmesh]

end MorphSnapshot

/-! ### The ways a change may go -/

namespace MorphStage

variable (t : MorphStage) (config : ImportConfig) (name : String) (value : Float)

/-- **The four ways a change of a slider may go.** The morph is unknown; the value is too near to
the one that is set; a cycle is met, and only notes are left of the application; or it goes through
and its outputs are committed. -/
theorem setValue_cases :
    (t.state.rig.find? name = none ∧
      t.setValue config name value = (t, .error (.unknownMorph name))) ∨
    ∃ m, t.state.rig.find? name = some m ∧
      ((ignores config m value = true ∧ t.setValue config name value = (t, .ok false)) ∨
      (ignores config m value = false ∧ ∃ s e notes,
        MorphRig.apply config.maxMorphDepth [] m value t.state = (s, .error e) ∧
        t.setValue config name value = ({ t with state := t.state.noting notes }, .error e)) ∨
      (ignores config m value = false ∧ ∃ s os,
        MorphRig.apply config.maxMorphDepth [] m value t.state = (s, .ok os) ∧
        t.setValue config name value =
          ({ t with state := s }.commit name (Output.combine .binary64 os), .ok true))) := by
  unfold setValue
  cases t.state.rig.find? name with
  | none => exact .inl ⟨rfl, rfl⟩
  | some m =>
    refine .inr ⟨m, rfl, ?_⟩
    by_cases hi : ignores config m value = true
    · exact .inl ⟨hi, if_pos hi⟩
    · have happlied : ignores config m value = false := by simpa using hi
      dsimp only
      rw [if_neg hi]
      -- however far the application has come, it has stayed in the frame
      have hframe := MorphRig.apply_frame config.maxMorphDepth [] m value t.state
      generalize MorphRig.apply config.maxMorphDepth [] m value t.state = after at hframe ⊢
      obtain ⟨s, e | os⟩ := after
      · obtain ⟨notes, hnotes⟩ := hframe.notes
        refine .inr (.inl ⟨happlied, s, e, notes, rfl, ?_⟩)
        dsimp only
        rw [MorphSnapshot.restore_ofState hframe, ← hnotes]
        rfl
      · exact .inr (.inr ⟨happlied, s, os, rfl, rfl⟩)

theorem commit_state (t : MorphStage) (name : String) (os : List (Output Float)) :
    ∃ notes, (t.commit name os).state = t.state.noting notes := by
  unfold commit
  cases t.armature with
  | none => exact ⟨_, rfl⟩
  | some a =>
    refine ⟨(Commitment.ofOutputs (some a) name os).notes ++
      (a.commit (Commitment.ofOutputs (some a) name os)).2, ?_⟩
    simp [MorphState.noting]

/-- A change keeps the rig but for the values of its morphs. -/
theorem setValue_unset :
    (t.setValue config name value).1.state.rig.unset = t.state.rig.unset := by
  rcases t.setValue_cases config name value with ⟨-, hset⟩ | ⟨m, -, ⟨-, hset⟩ |
    ⟨-, s, e, notes, -, hset⟩ | ⟨-, s, os, happly, hset⟩⟩
  · rw [hset]
  · rw [hset]
  · rw [hset]
    rfl
  · have hframe := MorphRig.apply_frame config.maxMorphDepth [] m value t.state
    rw [happly] at hframe
    obtain ⟨notes, hstate⟩ := commit_state { t with state := s } name
      (Output.combine .binary64 os)
    rw [hset, hstate]
    exact hframe.rig

/-- The outputs of a change of a slider that name no morph; none if it is ignored or refused. -/
def outputs : List (Output Float) :=
  match t.state.rig.find? name with
  | none => []
  | some m =>
    if ignores config m value then []
    else (MorphRig.apply config.maxMorphDepth [] m value t.state).2.toOption.getD []

theorem setValue_outputs :
    (t.outputs config name value = [] ∧ ∃ notes,
      (t.setValue config name value).1 = { t with state := t.state.noting notes }) ∨
    ∃ s, (t.setValue config name value).1 = { t with state := s }.commit name
      (Output.combine .binary64 (t.outputs config name value)) := by
  have hnothing : t = { t with state := t.state.noting [] } := by simp [MorphState.noting]
  rcases t.setValue_cases config name value with ⟨hm, hset⟩ | ⟨m, hm, ⟨hi, hset⟩ |
    ⟨hi, s, e, notes, happly, hset⟩ | ⟨hi, s, os, happly, hset⟩⟩
  · exact .inl ⟨by simp [outputs, hm], [], by rw [hset]; exact hnothing⟩
  · exact .inl ⟨by simp [outputs, hm, hi], [], by rw [hset]; exact hnothing⟩
  · exact .inl ⟨by simp [outputs, hm, hi, happly, Except.toOption], notes, by rw [hset]⟩
  · exact .inr ⟨s, by simp [outputs, hm, hi, happly, hset, Except.toOption]⟩

end MorphStage

end RiggedScene
