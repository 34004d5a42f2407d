import RiggedScene.Proofs.Armature.Committing
import RiggedScene.Proofs.Morph.Commitment
import RiggedScene.Proofs.Morph.SetValue

/-!
# What an application leaves of the poses

A change of poses has rotations for some axes only, but a translation and a scale for all of them,
with zero where no output asks for one. So an application leaves the slots alone that none of its
outputs address, except for locations: these go to zero as soon as any output poses the bone.

* `PoseFrame` says what becomes of slots that are not addressed;
* `MorphStage.setValue_poseFrame` : this holds of every change of a slider, and so a location that
  is not addressed stays exactly when the bone is not posed or the location is zero already;
* `MorphStage.exists_moved_location` : a morph that only rotates a bone moves it.
-/

namespace RiggedScene

/-! ### Changes for the bone at a place -/

namespace Commitment.Gathered

variable {a : Armature} {os : List (Output Float)} {cs : List BoneChange} {i : Nat}

theorem get_of_not_addresses (h : Gathered a os cs) {p : BoneProperty} {slot : Axis}
    (hnot : ¬ a.Addresses os i p slot) :
    ∀ c ∈ a.changesAt i cs, c.get p slot = p.blank := by
  intro c hc
  obtain ⟨hmem, hplace⟩ := List.mem_filter.1 hc
  refine h.unasked c hmem p slot fun o ho hasks => hnot ?_
  obtain ⟨axis, haddress, haxis⟩ := hasks
  exact ⟨o, ho, axis, Armature.address?_eq_some.2 ⟨c.bone, haddress, by simpa using hplace⟩, haxis⟩

theorem changesAt_ne_nil_iff (h : Gathered a os cs) : a.changesAt i cs ≠ [] ↔ a.Poses os i := by
  constructor
  · intro hne
    obtain ⟨c, hc⟩ := List.exists_mem_of_ne_nil _ hne
    obtain ⟨hmem, hplace⟩ := List.mem_filter.1 hc
    obtain ⟨o, ho, p, axis, haddress, hedit⟩ := h.asked c hmem
    have hi : a.position? c.bone = some i := by simpa using hplace
    exact ⟨o, ho, p, axis, Armature.address?_eq_some.2 ⟨c.bone, haddress, hi⟩, hedit⟩
  · rintro ⟨o, ho, p, axis, haddress, hedit⟩
    obtain ⟨bone, hbone, hi⟩ := Armature.address?_eq_some.1 haddress
    obtain ⟨c, hc, rfl⟩ := h.taken o ho bone p axis hbone hedit (by simp [hi])
    exact List.ne_nil_of_mem (List.mem_filter.2 ⟨hc, by simp [hi]⟩)

end Commitment.Gathered

/-! ### The frame of an application -/

/-- The pose of the bone at a place before and after an application with the outputs `os`. -/
structure PoseFrame (a : Armature) (os : List (Output Float)) (i : Nat) (b b' : Bone) :
    Prop where
  axis : b'.axis = b.axis
  unposed : ¬ a.Poses os i → b'.pose = b.pose
  rotation : ∀ slot, ¬ a.Addresses os i .rotation (b.axis.sign.source slot) →
    b'.pose.rotation.get slot = b.pose.rotation.get slot
  /-- Zero is added, which is seen in a minus zero only. -/
  scale : ∀ slot, ¬ a.Addresses os i .scale (slot.swapped .y .z) →
    b'.pose.scale.get slot = b.pose.scale.get slot ∨
      b.pose.scale.get slot = -0.0 ∧ b'.pose.scale.get slot = 0.0
  location : ∀ slot, ¬ a.Addresses os i .translation (b.axis.sign.source slot) →
    a.Poses os i → b'.pose.location.get slot = b.axis.sign.home slot
  location_iff : ∀ slot, ¬ a.Addresses os i .translation (b.axis.sign.source slot) →
    (b'.pose.location.get slot = b.pose.location.get slot ↔
      ¬ a.Poses os i ∨ b.pose.location.get slot = b.axis.sign.home slot)

namespace PoseFrame

variable {a : Armature} {os : List (Output Float)} {i : Nat} {b b' : Bone}

theorem of_gathered {cs : List BoneChange} (h : Commitment.Gathered a os cs)
    (haxis : b'.axis = b.axis)
    (hpose : b'.pose = (BoneChange.applyAll (a.changesAt i cs) b).pose) :
    PoseFrame a os i b b' := by
  have hunposed : ¬ a.Poses os i → b'.pose = b.pose := by
    intro hnot
    have hnil : a.changesAt i cs = [] := by
      by_contra hne
      exact hnot (h.changesAt_ne_nil_iff.1 hne)
    rw [hpose, hnil]
    rfl
  have hlocation : ∀ slot, ¬ a.Addresses os i .translation (b.axis.sign.source slot) →
      a.Poses os i → b'.pose.location.get slot = b.axis.sign.home slot := by
    intro slot hnot hposes
    rw [hpose]
    exact BoneChange.applyAll_location (h.changesAt_ne_nil_iff.2 hposes) fun c hc =>
      Option.some.inj (h.get_of_not_addresses hnot c hc)
  refine ⟨haxis, hunposed, ?_, ?_, hlocation, ?_⟩
  · intro slot hnot
    rw [hpose]
    exact BoneChange.applyAll_rotation (h.get_of_not_addresses hnot)
  · intro slot hnot
    rw [hpose]
    exact BoneChange.applyAll_scale fun c hc => Option.some.inj (h.get_of_not_addresses hnot c hc)
  · intro slot hnot
    -- a bone that is posed has its location at home
    by_cases hposes : a.Poses os i
    · rw [hlocation slot hnot hposes]
      simp [hposes, eq_comm]
    · simp [hunposed hposes, hposes]

theorem of_combine {A : Arithmetic Float} (h : PoseFrame a (Output.combine A os) i b b') :
    PoseFrame a os i b b' := by
  obtain ⟨h₁, h₂, h₃, h₄, h₅, h₆⟩ := h
  simp only [Armature.poses_combine, Armature.addresses_combine] at h₂ h₃ h₄ h₅ h₆
  exact ⟨h₁, h₂, h₃, h₄, h₅, h₆⟩

end PoseFrame

namespace MorphStage

theorem poseFrame_refl (a : Armature) (i : Nat) (b : Bone) : PoseFrame a [] i b b :=
  .of_gathered (Commitment.gathered_ofOutputs a "" []) rfl rfl

/-- **What a change of a slider leaves of the poses.** Rotations and scales that no output
addresses stay as they are. A location that no output addresses stays if no output poses the bone,
or if it is zero already, and only then: otherwise it goes to zero. -/
theorem setValue_poseFrame (t : MorphStage) (config : ImportConfig) (name : String) (value : Float)
    {a : Armature} (ha : t.armature = some a) {i : Nat} {b : Bone} (hb : a.bones[i]? = some b) :
    ∃ a' b', (t.setValue config name value).1.armature = some a' ∧ a'.bones[i]? = some b' ∧
      PoseFrame a (t.outputs config name value) i b b' := by
  rcases t.setValue_outputs config name value with ⟨hnone, notes, hset⟩ | ⟨s, hset⟩
  · rw [hset, hnone]
    exact ⟨a, b, ha, hb, poseFrame_refl a i b⟩
  · rw [hset]
    generalize t.outputs config name value = os
    obtain ⟨b', hb', haxis, hpose⟩ := Armature.commit_getElem? hb
      (k := .ofOutputs (some a) name (Output.combine .binary64 os))
    refine ⟨_, b', ?_, hb', ?_⟩
    · simp only [commit, ha]
    · exact (PoseFrame.of_gathered (Commitment.gathered_ofOutputs a name _) haxis hpose).of_combine

/-- One bone, which one morph moves and another one turns. -/
def thighStage : MorphStage :=
  ⟨⟨⟨[⟨"bend", true, [⟨"thigh:#thigh?translation/y", [.push 50.0 none], .sum⟩], false, none⟩,
      ⟨"kick", true, [⟨"thigh:#thigh?rotation/x", [.push 1.0 none], .sum⟩], false, none⟩]⟩,
      .ofFaces "body" [] [], []⟩,
    some ⟨"rig-thigh",
      [{ (default : Bone) with name := "thigh", templateId := "thigh", pose := .rest }], .object⟩⟩

theorem setValue_poseFrame_thigh : ∃ a b a' b', thighStage.armature = some a ∧
    a.bones[0]? = some b ∧ (thighStage.setValue .standard "kick" 1.0).1.armature = some a' ∧
      a'.bones[0]? = some b' ∧ PoseFrame a (thighStage.outputs .standard "kick" 1.0) 0 b b' := by
  obtain ⟨a', b', ha', hb', hframe⟩ :=
    setValue_poseFrame thighStage .standard "kick" 1.0 rfl (i := 0) rfl
  exact ⟨_, _, a', b', rfl, rfl, ha', hb', hframe⟩

/-- The stage once the bone is moved. -/
def movedStage : MorphStage := (thighStage.setValue .standard "bend" 1.0).1

/-- **A morph that only turns a bone moves it back.** The bone has been moved before; no output of
the second morph addresses a location, and still the location changes. -/
theorem exists_moved_location : ∃ (t : MorphStage) (name : String) (a a' : Armature) (b b' : Bone),
    (t.setValue .standard name 1.0).2 = .ok true ∧ t.armature = some a ∧
      (t.setValue .standard name 1.0).1.armature = some a' ∧ a.bones[0]? = some b ∧
      a'.bones[0]? = some b' ∧
      (∀ slot, ¬ a.Addresses (t.outputs .standard name 1.0) 0 .translation slot) ∧
      b'.pose.location ≠ b.pose.location := by
  refine ⟨movedStage, "kick", _, _, _, _, rfl, rfl, rfl, rfl, rfl, ?_, by decide +kernel⟩
  rintro slot ⟨o, ho, axis, haddress, -⟩
  have houtputs : movedStage.outputs .standard "kick" 1.0 =
      [⟨"thigh:#thigh?rotation/x", .sum, 1.0⟩] := rfl
  rw [houtputs] at ho
  obtain rfl := List.mem_singleton.1 ho
  have hrotation : some (0, BoneProperty.rotation, some Axis.x) =
    some (0, BoneProperty.translation, axis) := haddress
  cases hrotation

end MorphStage

end RiggedScene
