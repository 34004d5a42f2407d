import RiggedScene.Import.Scene
import RiggedScene.Proofs.Morph.DriveGraph

/-!
# Changes that are refused change nothing

`ImportedScene.unchanged_of_error` : a change of a slider that is refused leaves the rig, the mesh
and the armature as they were, at the stage and in the scene.
-/

namespace RiggedScene

theorem MorphStage.setValue_of_error {t : MorphStage} {config : ImportConfig} {name : String}
    {value : Float} {e : Error} (h : (t.setValue config name value).2 = .error e) :
    ∃ notes, (t.setValue config name value).1 = { t with state := t.state.noting notes } := by
  rcases t.setValue_cases config name value with ⟨-, hset⟩ | ⟨m, -, ⟨-, hset⟩ |
    ⟨-, s, e, notes, -, hset⟩ | ⟨-, s, os, -, hset⟩⟩
  · exact ⟨[], by simp [hset, MorphState.noting]⟩
  · rw [hset] at h
    cases h
  · exact ⟨notes, by rw [hset]⟩
  · rw [hset] at h
    cases h

namespace ImportedScene

variable (s : ImportedScene)

/-- Changing an object into itself changes nothing. -/
theorem modifyObject_eq_self {i : Nat} {o : SceneObject} {f : SceneObject → SceneObject}
    (ho : s.objects[i]? = some o) (hf : f o = o) : s.modifyObject i f = s := by
  have hobjects : s.objects.modify i f = s.objects := by
    refine List.ext_getElem? fun j => ?_
    rw [List.getElem?_modify]
    split
    · next hij => simp [← hij, ho, hf]
    · simp
  simp only [modifyObject, hobjects]

theorem setMorph_of_error {object morph : String} {value : Float} {e : Error}
    (h : (s.setMorph object morph value).2 = .error e) :
    ∃ notes, (s.setMorph object morph value).1 = s.noting notes := by
  have hnothing : s = s.noting [] := by simp [noting]
  unfold setMorph at h ⊢
  cases hi : s.objectIndex? object with
  | none => exact ⟨[], hnothing⟩
  | some i =>
    cases ho : s.objects[i]? with
    | none => exact ⟨[], by simpa [ho] using hnothing⟩
    | some o =>
      cases hmesh : o.mesh with
      | none => exact ⟨[], by simpa [ho, hmesh] using hnothing⟩
      | some mesh =>
        simp only [hi, ho, hmesh] at h ⊢
        obtain ⟨notes, hstage⟩ := MorphStage.setValue_of_error h
        refine ⟨notes, ?_⟩
        rw [hstage]
        have hsame : { o with morphs := o.morphs, mesh := some mesh } = o := by rw [← hmesh]
        rw [modifyObject_eq_self s ho hsame]
        rfl

/-- **A change of a slider that is refused changes nothing but the notes.** This is so whether the
object or the morph is unknown, or a cycle is met after many morphs were settled: the values of all
morphs, the mesh with the weights of its shape keys, and the armature are those from before. -/
theorem unchanged_of_error :
    (∀ (t : MorphStage) (config : ImportConfig) (name : String) (value : Float) (e : Error),
      (t.setValue config name value).2 = .error e →
        ∃ notes, (t.setValue config name value).1 = { t with state := t.state.noting notes }) ∧
    (∀ (s : ImportedScene) (object morph : String) (value : Float) (e : Error),
      (s.setMorph object morph value).2 = .error e →
        ∃ notes, (s.setMorph object morph value).1 = s.noting notes) :=
  ⟨fun _ _ _ _ _ h => MorphStage.setValue_of_error h,
    fun s _ _ _ _ h => setMorph_of_error s h⟩

/-- A scene with one object, whose two morphs drive each other. -/
def mutualScene : ImportedScene :=
  { empty .standard with
    objects := [⟨"figure", .figure, some MorphStage.mutualStage.state.mesh, none, .identity,
      MorphStage.mutualRig, true⟩] }

theorem unchanged_of_error_mutual :
    (mutualScene.setMorph "figure" "A" 1.0).2 = .error (.formulaCycle "A") ∧
      (∃ notes, (MorphStage.mutualStage.setValue .standard "A" 1.0).1 =
        { MorphStage.mutualStage with state := MorphStage.mutualStage.state.noting notes }) ∧
      ∃ notes, (mutualScene.setMorph "figure" "A" 1.0).1 = mutualScene.noting notes :=
  ⟨rfl, unchanged_of_error.1 MorphStage.mutualStage .standard "A" 1.0 (.formulaCycle "A") rfl,
    unchanged_of_error.2 mutualScene "figure" "A" 1.0 (.formulaCycle "A") rfl⟩

end ImportedScene

end RiggedScene
