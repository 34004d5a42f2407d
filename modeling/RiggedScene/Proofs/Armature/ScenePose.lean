import RiggedScene.Proofs.Armature.Rotations
import RiggedScene.Proofs.Keyed
import Mathlib.Data.List.Induction

/-!
# What the animations of a document make of a pose

The animations are gathered in a table first, with one rotation for each bone that an animation
names. The rotation is about all axes, with zero for those that no animation is about, and it is put
on the bone as a whole. So the slots of a bone that nothing turns are left alone only if no
animation names the bone at all, not even one that moves or scales it.

* `Animation.angle?` is the angle that an animation gives, and `Animation.lastAngle?` the last one;
* `BoneRotation.find?_table` : the table has the last angle about each axis, and else zero;
* `ScenePosed` says what becomes of one bone, slot by slot;
* `Armature.applyRotations_scenePosed` : this is what a document makes of every bone that one entry
  of the table is for;
* `Armature.exists_slot_reset` : slots that nothing turns are reset.
-/

namespace RiggedScene

/-! ### Angles -/

namespace Animation

variable {axis : Axis} {as : List Animation} {x : Animation}

/-- The angle about an axis in degrees, if the animation is about this axis; no number is zero. -/
def angle? (axis : Axis) (x : Animation) : Option Float :=
  if Split.contains x.url (BoneRotation.mark axis) then some (x.firstValue.getD 0.0) else none

/-- The last angle about an axis. -/
def lastAngle? (axis : Axis) (as : List Animation) : Option Float :=
  (as.filterMap (angle? axis)).getLast?

theorem lastAngle?_concat :
    lastAngle? axis (as ++ [x]) = (x.angle? axis).or (lastAngle? axis as) := by
  rw [lastAngle?, List.filterMap_append, List.getLast?_append]
  cases h : x.angle? axis <;> simp [h, lastAngle?]

end Animation

/-! ### The table -/

namespace BoneRotation

variable {as : List Animation} {x : Animation} {bone : String} {r : BoneRotation}

/-- The rotation that the animations of one bone record. -/
def ofAnimations (bone : String) (as : List Animation) : BoneRotation :=
  let angle (axis : Axis) := (Animation.lastAngle? axis as).getD 0.0
  ⟨bone, ⟨angle .x, angle .y, angle .z⟩⟩

theorem get_ofAnimations (axis : Axis) : (ofAnimations bone as).rotation.get axis =
    (Animation.lastAngle? axis as).getD 0.0 := by
  cases axis <;> rfl

theorem take_ofAnimations : (ofAnimations bone as).take x = ofAnimations bone (as ++ [x]) := by
  simp only [ofAnimations, take, Axis.all, Animation.lastAngle?_concat, Animation.angle?,
    List.foldl_cons, List.foldl_nil]
  by_cases hx : Split.contains x.url (mark .x) <;> by_cases hy : Split.contains x.url (mark .y) <;>
    by_cases hz : Split.contains x.url (mark .z) <;> simp [hx, hy, hz, Triple.set]

/-- The animations that name a bone. -/
def naming (bone : String) (as : List Animation) : List Animation :=
  as.filter fun x => x.bone = some bone

/-- **The table has an entry for each bone that is named**, with the last angle about each axis. -/
theorem find?_table (as : List Animation) (bone : String) :
    Keyed.find? BoneRotation.bone bone (as.foldl takeIn []) =
      if naming bone as = [] then none else some (ofAnimations bone (naming bone as)) := by
  induction as using List.reverseRecOn generalizing bone with
  | nil => rfl
  | append_singleton as x ih =>
    rw [List.foldl_concat, takeIn, naming, List.filter_append, ← naming]
    cases hx : x.bone with
    | none => simpa [hx] using ih bone
    | some named =>
      have hold : (Keyed.find? BoneRotation.bone named (as.foldl takeIn [])).getD
          ⟨named, Vec3.zero⟩ = ofAnimations named (naming named as) := by
        rw [ih named]
        split
        · next hnil =>
          rw [hnil]
          rfl
        · rfl
      simp only [hold, take_ofAnimations]
      by_cases hname : named = bone
      · subst hname
        rw [List.filter_cons_of_pos (by simpa using hx), List.filter_nil, if_neg (by simp)]
        exact Keyed.find?_insert_self (ofAnimations named (naming named as ++ [x]))
      · rw [List.filter_cons_of_neg (by simpa [hx] using hname), List.filter_nil, List.append_nil,
          ← ih bone]
        exact Keyed.find?_insert_of_ne hname

theorem nodup_table (as : List Animation) : ((as.foldl takeIn []).map BoneRotation.bone).Nodup := by
  induction as using List.reverseRecOn with
  | nil => exact List.nodup_nil
  | append_singleton as x ih =>
    rw [List.foldl_concat, takeIn]
    cases x.bone with
    | none => exact ih
    | some named => exact Keyed.nodup_insert ih

theorem eq_ofAnimations (hr : r ∈ as.foldl takeIn []) :
    r = ofAnimations r.bone (naming r.bone as) := by
  have hfind := Keyed.find?_of_mem (nodup_table as) hr
  rw [find?_table] at hfind
  split at hfind
  · cases hfind
  · exact (Option.some.inj hfind).symm

theorem exists_mem_table (hx : x ∈ as) (hbone : x.bone = some bone) :
    ∃ r ∈ as.foldl takeIn [], r.bone = bone := by
  have hne : naming bone as ≠ [] :=
    List.ne_nil_of_mem (List.mem_filter.2 ⟨hx, by simpa using hbone⟩)
  have hfind := find?_table as bone
  rw [if_neg hne] at hfind
  exact ⟨_, Keyed.mem_of_find? hfind, rfl⟩

end BoneRotation

/-! ### Bones -/

theorem Bone.get_slotAngles (v : Vec3) (b : Bone) (slot : Axis) : (b.slotAngles v).get slot =
    Units.toRadians (if b.axis.sign.turns slot then -v.get (b.axis.sign.source slot)
      else v.get (b.axis.sign.source slot)) := by
  simp only [slotAngles, slotValues, Triple.get_map, AxisSign.get_remap, Option.map_some]
  split <;> rfl

theorem AxisSign.toRadians_home (s : AxisSign) (slot : Axis) :
    Units.toRadians (if s.turns slot then -0.0 else 0.0) = s.home slot := by
  unfold home
  split <;> decide

/-- The animations that name the bone at a place. -/
def Armature.animationsAt (a : Armature) (i : Nat) (as : List Animation) : List Animation :=
  as.filter fun x => x.bone.bind a.position? = some i

/-- The bone at a place before and after the animations of a document have been put on. -/
structure ScenePosed (a : Armature) (as : List Animation) (i : Nat) (b b' : Bone) : Prop where
  /-- The bone is turned, and that is all. -/
  turned : ∃ v, b' = { b with pose := { b.pose with rotation := v } }
  unnamed : a.animationsAt i as = [] → b' = b
  /-- The last angle about the source axis of a slot goes to the slot. -/
  animated : ∀ slot angle,
    Animation.lastAngle? (b.axis.sign.source slot) (a.animationsAt i as) = some angle →
      b'.pose.rotation.get slot =
        Units.toRadians (if b.axis.sign.turns slot then -angle else angle)
  still : ∀ slot,
    Animation.lastAngle? (b.axis.sign.source slot) (a.animationsAt i as) = none →
      a.animationsAt i as ≠ [] → b'.pose.rotation.get slot = b.axis.sign.home slot
  still_iff : ∀ slot,
    Animation.lastAngle? (b.axis.sign.source slot) (a.animationsAt i as) = none →
      (b'.pose.rotation.get slot = b.pose.rotation.get slot ↔
        a.animationsAt i as = [] ∨ b.pose.rotation.get slot = b.axis.sign.home slot)

namespace ScenePosed

variable {a : Armature} {as : List Animation} {i : Nat} {b : Bone} {r : BoneRotation}

/-- A bone that no animation names. -/
theorem refl (h : a.animationsAt i as = []) : ScenePosed a as i b b where
  turned := ⟨b.pose.rotation, rfl⟩
  unnamed _ := rfl
  animated slot angle hangle := by
    rw [h] at hangle
    cases hangle
  still _ _ hne := absurd h hne
  still_iff slot _ := by simp [h]

theorem of_rotation {bone : String} (h : a.animationsAt i as ≠ []) : ScenePosed a as i b
    (b.rotated ((BoneRotation.ofAnimations bone (a.animationsAt i as)).rotation.map some)) := by
  have hget : ∀ slot, (b.rotated ((BoneRotation.ofAnimations bone
      (a.animationsAt i as)).rotation.map some)).pose.rotation.get slot =
        Units.toRadians (if b.axis.sign.turns slot then
          -(Animation.lastAngle? (b.axis.sign.source slot) (a.animationsAt i as)).getD 0.0
          else (Animation.lastAngle? (b.axis.sign.source slot) (a.animationsAt i as)).getD 0.0) := by
    intro slot
    rw [Bone.rotated_rotation, Bone.get_slotAngles, BoneRotation.get_ofAnimations]
  have hstill : ∀ slot,
      Animation.lastAngle? (b.axis.sign.source slot) (a.animationsAt i as) = none →
        (b.rotated ((BoneRotation.ofAnimations bone
          (a.animationsAt i as)).rotation.map some)).pose.rotation.get slot =
            b.axis.sign.home slot := by
    intro slot hnone
    rw [hget, hnone]
    exact AxisSign.toRadians_home b.axis.sign slot
  refine ⟨⟨_, rfl⟩, fun hnil => absurd hnil h, ?_, fun slot hnone _ => hstill slot hnone, ?_⟩
  · intro slot angle hangle
    rw [hget, hangle]
    rfl
  · intro slot hnone
    rw [hstill slot hnone]
    simp [h, eq_comm]

end ScenePosed

namespace Armature

variable {a : Armature} {as : List Animation} {i : Nat} {r : BoneRotation}

theorem animationsAt_eq_nil_iff :
    a.animationsAt i as = [] ↔ a.rotationsAt i (as.foldl BoneRotation.takeIn []) = [] := by
  simp only [animationsAt, rotationsAt, List.filter_eq_nil_iff, decide_eq_true_eq]
  constructor
  · intro h r hr hposition
    have hne : BoneRotation.naming r.bone as ≠ [] := by
      intro hnil
      have hfind := Keyed.find?_of_mem (BoneRotation.nodup_table as) hr
      rw [BoneRotation.find?_table, if_pos hnil] at hfind
      cases hfind
    obtain ⟨x, hx⟩ := List.exists_mem_of_ne_nil _ hne
    obtain ⟨hmem, hbone⟩ := List.mem_filter.1 hx
    refine h x hmem ?_
    rw [of_decide_eq_true hbone]
    exact hposition
  · intro h x hx hposition
    obtain ⟨bone, hbone, hposition⟩ := Option.bind_eq_some_iff.1 hposition
    obtain ⟨r, hr, rfl⟩ := BoneRotation.exists_mem_table hx hbone
    exact h r hr hposition

/-- If one entry is for a bone, the animations that name the bone are those of the entry. -/
theorem animationsAt_eq_naming (h : a.rotationsAt i (as.foldl BoneRotation.takeIn []) = [r]) :
    a.animationsAt i as = BoneRotation.naming r.bone as := by
  have hr : r ∈ a.rotationsAt i (as.foldl BoneRotation.takeIn []) := h ▸ List.mem_singleton_self r
  have hposition : a.position? r.bone = some i := of_decide_eq_true (List.mem_filter.1 hr).2
  refine List.filter_congr fun x hx => decide_eq_decide.2 ⟨fun hbind => ?_, fun hbone => ?_⟩
  · obtain ⟨bone, hbone, hbind⟩ := Option.bind_eq_some_iff.1 hbind
    obtain ⟨r', hr', rfl⟩ := BoneRotation.exists_mem_table hx hbone
    have hr' : r' ∈ a.rotationsAt i (as.foldl BoneRotation.takeIn []) :=
      List.mem_filter.2 ⟨hr', decide_eq_true hbind⟩
    rw [h, List.mem_singleton] at hr'
    rw [hbone, hr']
  · rw [hbone]
    exact hposition

/-- **What the animations of a document make of a bone** that at most one entry of their table is
for. The last angle about each axis goes to the slot of the axis. A slot that no animation turns
stays if no animation names the bone, or if it is zero already, and only then. -/
theorem applyRotations_scenePosed (s : Scene) (a : Armature) {i : Nat} {b : Bone}
    (hb : a.bones[i]? = some b) (hone : (a.rotationsAt i s.boneRotations).length ≤ 1) :
    ∃ b', (a.applyRotations s.boneRotations).1.bones[i]? = some b' ∧
      ScenePosed a s.animations i b b' := by
  rw [applyRotations_getElem?, hb, Option.map_some]
  refine ⟨_, rfl, ?_⟩
  cases hrotations : a.rotationsAt i s.boneRotations with
  | nil => exact .refl (animationsAt_eq_nil_iff.2 hrotations)
  | cons r rs =>
    obtain rfl : rs = [] := by
      rw [hrotations] at hone
      exact List.length_eq_zero_iff.1 (by simpa using hone)
    have hr : r ∈ s.boneRotations :=
      (List.mem_filter.1 (hrotations ▸ List.mem_singleton_self r)).1
    have hne : a.animationsAt i s.animations ≠ [] := by
      rw [Ne, animationsAt_eq_nil_iff]
      exact hrotations ▸ List.cons_ne_nil r []
    have hentry : r = BoneRotation.ofAnimations r.bone (a.animationsAt i s.animations) := by
      rw [animationsAt_eq_naming hrotations]
      exact BoneRotation.eq_ofAnimations hr
    have hturned : Bone.turnedBy [r] b = b.rotated (r.rotation.map some) := rfl
    rw [hturned, hentry]
    exact .of_rotation hne

/-- A hip and a thigh that are turned about all axes. -/
def turnedLeg : Armature :=
  let bone (name : String) : Bone :=
    { (default : Bone) with
      name := name, templateId := name, pose := { Pose.rest with rotation := Vec3.one } }
  ⟨"rig-hip", [bone "hip", bone "thigh"], .object⟩

/-- The hip is moved, and the thigh is turned about one axis. -/
def stride : Scene :=
  let animation (url : String) (value : Float) : Animation :=
    ⟨url, Animation.boneOf? url, some value⟩
  ⟨[], [], [], [animation "name://@selection/hip:?translation/x/value" 3.0,
    animation "name://@selection/thigh:?rotation/x/value" 20.0]⟩

theorem length_rotationsAt_stride (i : Nat) :
    (turnedLeg.rotationsAt i stride.boneRotations).length ≤ 1 := by
  have htable : stride.boneRotations.map BoneRotation.bone = ["hip", "thigh"] := by decide +kernel
  have hlength : (turnedLeg.rotationsAt i stride.boneRotations).length =
      (["hip", "thigh"].filter fun bone => turnedLeg.position? bone = some i).length := by
    rw [← htable, List.filter_map, List.length_map]
    rfl
  have hhip : turnedLeg.position? "hip" = some 0 := rfl
  have hthigh : turnedLeg.position? "thigh" = some 1 := rfl
  rw [hlength]
  rcases i with _ | _ | i <;> simp [hhip, hthigh]

theorem applyRotations_scenePosed_thigh : ∃ b b', turnedLeg.bones[1]? = some b ∧
    (turnedLeg.rotationsAt 1 stride.boneRotations).length ≤ 1 ∧
      (turnedLeg.applyRotations stride.boneRotations).1.bones[1]? = some b' ∧
      ScenePosed turnedLeg stride.animations 1 b b' ∧
      b'.pose.rotation.get .x = Units.toRadians 20.0 := by
  obtain ⟨b', hb', hposed⟩ :=
    applyRotations_scenePosed stride turnedLeg (i := 1) rfl (length_rotationsAt_stride 1)
  have hangle : Animation.lastAngle? .x (turnedLeg.animationsAt 1 stride.animations) =
      some 20.0 := by decide +kernel
  exact ⟨_, b', rfl, length_rotationsAt_stride 1, hb', hposed, hposed.animated .x 20.0 hangle⟩

/-- **Slots that nothing turns are reset.** One bone is moved only, the other one is turned about
one axis, and each is named by one entry of the table; still the first bone and another slot of the
second one are turned back. -/
theorem exists_slot_reset : ∃ (s : Scene) (a : Armature) (b c b' c' : Bone) (slot : Axis),
    (∀ i, (a.rotationsAt i s.boneRotations).length ≤ 1) ∧
      a.bones = [b, c] ∧ (a.applyRotations s.boneRotations).1.bones = [b', c'] ∧
      (∀ axis, Animation.lastAngle? axis (a.animationsAt 0 s.animations) = none) ∧
      b'.pose.rotation ≠ b.pose.rotation ∧
      Animation.lastAngle? (c.axis.sign.source slot) (a.animationsAt 1 s.animations) = none ∧
      c'.pose.rotation.get slot ≠ c.pose.rotation.get slot := by
  refine ⟨stride, turnedLeg, _, _, _, _, .y, length_rotationsAt_stride, rfl, rfl, ?_, ?_, ?_, ?_⟩
  · intro axis
    cases axis <;> decide +kernel
  all_goals decide +kernel

end Armature

end RiggedScene
