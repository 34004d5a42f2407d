import RiggedScene.Proofs.Armature.Overwrite
import RiggedScene.Proofs.Morph.Totals

/-!
# What is written to a component

Each change of a bone has values for all its components. What changes write to a component one after
another replaces what was there, apart from the scale, to which all values are added.

* `Armature.written` lists what is written to a component of a bone, and `BoneProperty.pick?` is the
  value that counts;
* `Armature.commit_carried` : a bone gets the values that count, and all of those for its scale.
-/

namespace RiggedScene

/-! ### Values that are written one after another -/

/-- The one that counts of those that come one after another: the last one. Scales are added, and
there only a single one counts for itself. -/
def BoneProperty.pick? {α : Type} (p : BoneProperty) (xs : List α) : Option α :=
  if p = .scale then
    match xs with
    | [x] => some x
    | _ => none
  else xs.getLast?

theorem BoneProperty.mem_of_pick? {α : Type} {p : BoneProperty} {xs : List α} {x : α}
    (h : p.pick? xs = some x) : x ∈ xs := by
  unfold pick? at h
  split at h
  · match xs, h with
    | [_], h => exact List.mem_singleton.2 (Option.some.inj h).symm
  · exact List.mem_of_getLast? h

theorem replaceAll_eq_getLast? (vs : List (Option Float)) (old : Float) :
    replaceAll vs old = ((vs.filterMap id).getLast?).getD old := by
  induction vs using List.reverseRecOn with
  | nil => rfl
  | append_singleton vs v ih =>
    have hlast : replaceAll (vs ++ [v]) old = v.getD (replaceAll vs old) := List.foldl_append
    rw [hlast, List.filterMap_append]
    cases v with
    | none => simpa using ih
    | some x => simp

theorem BoneProperty.pick?_filterMap {α β : Type} {f : α → Option β} {xs : List α}
    (h : ∀ x ∈ xs, (f x).isSome = true) (p : BoneProperty) :
    p.pick? (xs.filterMap f) = (p.pick? xs).bind f := by
  unfold pick?
  split
  · match xs, h with
    | [], _ => rfl
    | [x], h =>
      obtain ⟨y, hy⟩ := Option.isSome_iff_exists.1 (h x (by simp))
      simp [hy]
    | x :: x' :: xs, h =>
      obtain ⟨y, hy⟩ := Option.isSome_iff_exists.1 (h x (by simp))
      obtain ⟨y', hy'⟩ := Option.isSome_iff_exists.1 (h x' (by simp))
      simp [hy, hy']
  · rcases List.eq_nil_or_concat xs with rfl | ⟨xs, x, rfl⟩
    · rfl
    · obtain ⟨y, hy⟩ := Option.isSome_iff_exists.1 (h x (by simp))
      simp [hy]

/-- A number with the sign that a slot gives it. -/
def AxisSign.signed (s : AxisSign) (slot : Axis) (v : Float) : Float :=
  if s.turns slot then -v else v

namespace Armature

variable (a : Armature) (k : Commitment) (i : Nat)

/-- The values that are written to a component of the bone at a place, one after another. -/
def written (p : BoneProperty) (slot : Axis) : List Float :=
  (a.changesAt i (k.changes p.isEdit)).filterMap fun c => c.get p slot

/-- A bone before and after a commitment: it gets the values that count, and all of those for its
scale. -/
structure Carried (b b' : Bone) : Prop where
  rotation : ∀ slot v,
    BoneProperty.pick? .rotation (a.written k i .rotation (b.axis.sign.source slot)) = some v →
    b'.pose.rotation.get slot = Units.toRadians (b.axis.sign.signed slot v)
  location : ∀ slot v,
    BoneProperty.pick? .translation (a.written k i .translation (b.axis.sign.source slot)) =
      some v →
    b'.pose.location.get slot = b.axis.sign.signed slot v / Units.centimetresPerMetre
  scale : ∀ slot, b'.pose.scale.get slot =
    (a.written k i .scale (slot.swapped .y .z)).foldl (· + ·) (b.pose.scale.get slot)
  segment : ∀ c, (a.changesAt i k.edits).getLast? = some c →
    b'.segment = (BoneChange.relayTo b c).segment ∧
      ∀ p slot, p.isEdit = true → p.pick? (a.written k i p slot) = c.get p slot

end Armature

namespace BoneChange

variable {c : BoneChange} {cs : List BoneChange} {b : Bone} {slot : Axis} {v : Float}

theorem turn_eq : turn b slot = fun c => (c.get .rotation (b.axis.sign.source slot)).map fun v =>
    Units.toRadians (b.axis.sign.signed slot v) := by
  funext c
  unfold turn AxisSign.signed
  rw [Bone.slotValues, AxisSign.get_remap]
  split <;> simp [get, Function.comp_def]

theorem shift_eq : shift b slot = fun c =>
    (c.get .translation (b.axis.sign.source slot)).map fun v =>
      b.axis.sign.signed slot v / Units.centimetresPerMetre := by
  funext c
  unfold shift AxisSign.signed
  rw [Bone.slotValues, AxisSign.get_remap]
  split <;> simp [get]

theorem filterMap_id_map {f : BoneChange → Option Float} {g : Float → Float} :
    (cs.map fun c => (f c).map g).filterMap id = (cs.filterMap f).map g := by
  simp [List.filterMap_map, List.map_filterMap]

theorem applyAll_rotation_of_last
    (h : (cs.filterMap (·.get .rotation (b.axis.sign.source slot))).getLast? = some v) :
    (applyAll cs b).pose.rotation.get slot = Units.toRadians (b.axis.sign.signed slot v) := by
  rw [applyAll_rotation_eq, turn_eq, replaceAll_eq_getLast?, filterMap_id_map, List.getLast?_map, h]
  rfl

theorem applyAll_location_of_last
    (h : (cs.filterMap (·.get .translation (b.axis.sign.source slot))).getLast? = some v) :
    (applyAll cs b).pose.location.get slot =
      b.axis.sign.signed slot v / Units.centimetresPerMetre := by
  rw [applyAll_location_eq, shift_eq, replaceAll_eq_getLast?, filterMap_id_map, List.getLast?_map,
    h]
  rfl

/-- Every change has a scale, and so all of them are added. -/
theorem map_growth_eq :
    cs.map (growth slot) = cs.filterMap fun c => c.get .scale (slot.swapped .y .z) := by
  rw [← List.filterMap_eq_map]
  rfl

theorem relayAll_segment_of_last (h : cs.getLast? = some c) :
    (relayAll cs b).segment = (relayTo b c).segment := by
  obtain ⟨before, rfl⟩ := List.getLast?_eq_some_iff.1 h
  have hlast : relayAll (before ++ [c]) b = relayTo (relayAll before b) c := List.foldl_append
  rw [hlast]
  exact relayTo_segment_congr relayAll_bare

theorem get_isSome {p : BoneProperty} (hp : p ≠ .rotation) : (c.get p slot).isSome = true := by
  cases p <;> first | rfl | exact absurd rfl hp

end BoneChange

namespace Armature

variable {a : Armature} {i : Nat} {b : Bone}

/-- **A bone gets the values that count.** -/
theorem commit_carried (k : Commitment) (hb : a.bones[i]? = some b) :
    ∃ b', (a.commit k).1.bones[i]? = some b' ∧ Carried a k i b b' := by
  rw [commit_bone, hb]
  refine ⟨_, rfl, fun slot v h => ?_, fun slot v h => ?_, fun slot => ?_, fun c hc => ?_⟩
  · rw [BoneChange.relayAll_pose]
    exact BoneChange.applyAll_rotation_of_last h
  · rw [BoneChange.relayAll_pose]
    exact BoneChange.applyAll_location_of_last h
  · rw [BoneChange.relayAll_pose]
    rw [BoneChange.applyAll_scale_eq, BoneChange.map_growth_eq]
    rfl
  · -- the last change of the rest position says all of it, and the pose is not looked at
    refine ⟨?_, fun p slot hp => ?_⟩
    · rw [BoneChange.relayAll_segment_of_last hc]
      exact BoneChange.relayTo_segment_congr BoneChange.applyAll_bare
    · have hne : p ≠ .rotation := by rintro rfl; cases hp
      have hlast : p.pick? (a.changesAt i k.edits) = some c := by
        cases p <;> first | exact hc | cases hp
      have hcs : a.changesAt i (k.changes p.isEdit) = a.changesAt i k.edits := by
        rw [Commitment.changes, hp]
        rfl
      rw [written, hcs, BoneProperty.pick?_filterMap fun c _ => BoneChange.get_isSome hne, hlast]
      rfl

end Armature

end RiggedScene
