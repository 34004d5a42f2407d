import RiggedScene.Morph.Commit
import RiggedScene.Proofs.Armature.Lookup
import RiggedScene.Proofs.Numeric.AddZero

/-!
# Poses after a list of changes

* `AxisSign.source` is the source axis that a slot of a bone reads, and `AxisSign.home` the location
  of the slot when that value is zero;
* `BoneChange.applyTo` is what a change makes of one bone;
* `Armature.foldl_getElem?` : what changes of one bone each make of the bones, one after another;
* `Armature.posed_getElem?` : posing changes each bone by the changes whose name leads to it;
* `BoneChange.applyAll_rotation`, `applyAll_location` and `applyAll_scale` are what changes without
  value for a slot do to it: only the rotation is left alone.
-/

namespace RiggedScene

/-! ### Slots and source axes -/

namespace AxisSign

variable (s : AxisSign)

/-- The source axis that a slot reads. -/
def source (slot : Axis) : Axis :=
  match s.axis, slot with
  | .x, .x => .z
  | .x, .y => .x
  | .x, .z => .y
  | .y, .y => .z
  | .y, .z => .y
  | _, slot => slot

/-- Whether a slot negates what it reads. -/
def turns (slot : Axis) : Bool :=
  !s.positive && match s.axis, slot with
    | .x, .x | .x, .y | .y, .x | .z, .y | .z, .z => true
    | _, _ => false

/-- Zero in a slot, with the sign that the slot gives it. -/
def home (slot : Axis) : Float := if s.turns slot then -0.0 else 0.0

theorem home_div (slot : Axis) : s.home slot / Units.centimetresPerMetre = s.home slot := by
  unfold home
  split <;> decide

theorem get_remap {α : Type} (negate : α → α) (v : Triple (Option α)) (slot : Axis) :
    (s.remap negate v).get slot =
      if s.turns slot then (v.get (s.source slot)).map negate else v.get (s.source slot) := by
  obtain ⟨axis, positive⟩ := s
  cases axis <;> cases slot <;> cases positive <;> rfl

end AxisSign

namespace Triple

variable {α β γ : Type}

@[simp] theorem get_map (f : α → β) (t : Triple α) (slot : Axis) :
    (t.map f).get slot = f (t.get slot) := by
  cases slot <;> rfl

@[simp] theorem get_zipWith (f : α → β → γ) (s : Triple α) (t : Triple β) (slot : Axis) :
    (s.zipWith f t).get slot = f (s.get slot) (t.get slot) := by
  cases slot <;> rfl

@[simp] theorem get_swapYZ (t : Triple α) (slot : Axis) :
    t.swapYZ.get slot = t.get (slot.swapped .y .z) := by
  cases slot <;> rfl

end Triple

/-! ### Changes of one bone -/

namespace Bone

variable (values : AxisValues) (b : Bone)

theorem rotated_labels : (b.rotated values).labels = b.labels := rfl

theorem translated_labels : (b.translated values).labels = b.labels := rfl

theorem rescaled_labels : (b.rescaled values).labels = b.labels := rfl

end Bone

namespace BoneChange

variable {c : BoneChange} {cs : List BoneChange} {b : Bone} {slot : Axis}

/-- The bone after a change. -/
def applyTo (b : Bone) (c : BoneChange) : Bone :=
  ((b.rotated c.rotation).rescaled (c.scale.map some)).translated (c.translation.map some)

/-- The bone after all changes. -/
def applyAll (cs : List BoneChange) (b : Bone) : Bone := cs.foldl applyTo b

@[simp] theorem applyTo_axis : (applyTo b c).axis = b.axis := rfl

theorem applyTo_rotation (h : c.rotation.get (b.axis.sign.source slot) = none) :
    (applyTo b c).pose.rotation.get slot = b.pose.rotation.get slot := by
  have hslot : (b.slotValues c.rotation).get slot = none := by
    simp [Bone.slotValues, AxisSign.get_remap, h]
  change (Pose.overlay Units.toRadians b.pose.rotation (b.slotValues c.rotation)).get slot = _
  simp [Pose.overlay, hslot]

/-- A location for which a change has no value goes to zero. -/
theorem applyTo_location (h : c.translation.get (b.axis.sign.source slot) = 0.0) :
    (applyTo b c).pose.location.get slot = b.axis.sign.home slot := by
  have hslot : (b.slotValues (c.translation.map some)).get slot =
      some (b.axis.sign.home slot) := by
    by_cases hturns : b.axis.sign.turns slot = true <;>
      simp [Bone.slotValues, AxisSign.get_remap, AxisSign.home, h, hturns]
  change (Pose.overlay (· / Units.centimetresPerMetre) b.pose.location
    (b.slotValues (c.translation.map some))).get slot = _
  simp only [Pose.overlay, Triple.get_zipWith, hslot, Option.map_some, Option.getD_some]
  exact AxisSign.home_div _ slot

/-- A scale for which a change has no value gets zero added. -/
theorem applyTo_scale (h : c.scale.get (slot.swapped .y .z) = 0.0) :
    (applyTo b c).pose.scale.get slot = b.pose.scale.get slot + 0.0 := by
  change (Pose.increase b.pose.scale (c.scale.map some).swapYZ).get slot = _
  simp [Pose.increase, h]

/-! ### Changes one after another -/

@[simp] theorem applyAll_nil : applyAll [] = id := rfl

@[simp] theorem applyAll_axis : (applyAll cs b).axis = b.axis := by
  induction cs generalizing b with
  | nil => rfl
  | cons c cs ih => exact ih.trans applyTo_axis

theorem applyAll_rotation (h : ∀ c ∈ cs, c.rotation.get (b.axis.sign.source slot) = none) :
    (applyAll cs b).pose.rotation.get slot = b.pose.rotation.get slot := by
  induction cs generalizing b with
  | nil => rfl
  | cons c cs ih =>
    obtain ⟨hc, hcs⟩ := List.forall_mem_cons.1 h
    exact (ih (b := applyTo b c) hcs).trans (applyTo_rotation hc)

theorem applyAll_location (hne : cs ≠ [])
    (h : ∀ c ∈ cs, c.translation.get (b.axis.sign.source slot) = 0.0) :
    (applyAll cs b).pose.location.get slot = b.axis.sign.home slot := by
  induction cs generalizing b with
  | nil => exact absurd rfl hne
  | cons c cs ih =>
    obtain ⟨hc, hcs⟩ := List.forall_mem_cons.1 h
    -- the last change decides
    cases cs with
    | nil => exact applyTo_location hc
    | cons c' cs => exact ih (List.cons_ne_nil c' cs) hcs

/-- Adding zero any number of times makes at most a zero of a minus zero. -/
theorem applyAll_scale (h : ∀ c ∈ cs, c.scale.get (slot.swapped .y .z) = 0.0) :
    (applyAll cs b).pose.scale.get slot = b.pose.scale.get slot ∨
      b.pose.scale.get slot = -0.0 ∧ (applyAll cs b).pose.scale.get slot = 0.0 := by
  induction cs generalizing b with
  | nil => exact .inl rfl
  | cons c cs ih =>
    obtain ⟨hc, hcs⟩ := List.forall_mem_cons.1 h
    have hrest := ih (b := applyTo b c) hcs
    rw [applyTo_scale hc] at hrest
    change (applyAll cs (applyTo b c)).pose.scale.get slot = _ ∨
      _ ∧ (applyAll cs (applyTo b c)).pose.scale.get slot = _
    rcases Binary64.add_zero_cases (b.pose.scale.get slot) with hsame | ⟨hminus, hzero⟩
    · rwa [hsame] at hrest
    · -- from a plus zero on nothing changes any more
      rw [hzero] at hrest
      refine .inr ⟨hminus, ?_⟩
      rcases hrest with hrest | ⟨habsurd, -⟩
      · exact hrest
      · exact absurd habsurd (by decide)

end BoneChange

/-! ### Changes of an armature -/

namespace Armature

variable {a : Armature} {b : Bone} {c : BoneChange} {cs : List BoneChange} {i : Nat}

section Modify

variable {f : Bone → Bone} {name : String}

theorem modify?_getElem? : ((a.modify? name f).getD a).bones[i]? =
    (a.bones[i]?).map fun b => if a.position? name = some i then f b else b := by
  unfold modify?
  cases a.position? name with
  | none => simp
  | some j =>
    simp only [Option.map_some, Option.getD_some, List.getElem?_modify, Option.some.injEq]
    by_cases hij : j = i <;> simp [hij]

theorem modify?_labels (hf : ∀ b, (f b).labels = b.labels) :
    ((a.modify? name f).getD a).bones.map Bone.labels = a.bones.map Bone.labels := by
  unfold modify?
  cases a.position? name with
  | none => rfl
  | some j => exact map_modify_of f hf a.bones j

end Modify

theorem applyPose_labels :
    (a.applyPose c).bones.map Bone.labels = a.bones.map Bone.labels := by
  simp only [applyPose, rotate?, rescale?, translate?]
  rw [modify?_labels (Bone.translated_labels _), modify?_labels (Bone.rescaled_labels _),
    modify?_labels (Bone.rotated_labels _)]

theorem applyPose_getElem? : (a.applyPose c).bones[i]? =
    (a.bones[i]?).map fun b =>
      if a.position? c.bone = some i then BoneChange.applyTo b c else b := by
  -- the name leads to the same place before each of the three changes
  have hrotate : ((a.rotate? c.bone c.rotation).getD a).position? c.bone = a.position? c.bone :=
    position?_congr (modify?_labels (Bone.rotated_labels _))
  unfold applyPose
  dsimp only
  generalize hr : (a.rotate? c.bone c.rotation).getD a = r at hrotate ⊢
  have hrescale : ((r.rescale? c.bone (c.scale.map some)).getD r).position? c.bone =
      r.position? c.bone := position?_congr (modify?_labels (Bone.rescaled_labels _))
  rw [translate?, modify?_getElem?, hrescale, rescale?, modify?_getElem?, hrotate, ← hr, rotate?,
    modify?_getElem?, Option.map_map, Option.map_map]
  congr 1
  funext b
  by_cases hi : a.position? c.bone = some i
  · simp [hi, BoneChange.applyTo]
  · simp [hi]

/-- The changes whose name leads to the bone at a place. -/
def changesAt (a : Armature) (i : Nat) (cs : List BoneChange) : List BoneChange :=
  cs.filter fun c => a.position? c.bone = some i

/-- What no step changes is the same after all of them. -/
theorem foldl_kept {β γ : Type} (g : Armature → γ) {step : Armature → β → Armature}
    (h : ∀ a x, g (step a x) = g a) (a : Armature) (xs : List β) :
    g (xs.foldl step a) = g a := by
  induction xs generalizing a with
  | nil => rfl
  | cons x xs ih => exact (ih (step a x)).trans (h a x)

/-- **Changes of one bone each, one after another.** If every step changes the bone that a name leads
to and no names, then all of them change each bone by those whose name leads to it at the outset. -/
theorem foldl_getElem? {β : Type} (name : β → String) (change : Bone → β → Bone)
    (step : Armature → β → Armature)
    (hlabels : ∀ a x, (step a x).bones.map Bone.labels = a.bones.map Bone.labels)
    (hstep : ∀ a x (i : Nat), (step a x).bones[i]? =
      (a.bones[i]?).map fun b => if a.position? (name x) = some i then change b x else b)
    (a : Armature) (i : Nat) (xs : List β) :
    (xs.foldl step a).bones[i]? =
      (a.bones[i]?).map ((xs.filter fun x => a.position? (name x) = some i).foldl change) := by
  induction xs generalizing a with
  | nil => simp
  | cons x xs ih =>
    have hsame : ∀ y, (step a x).position? y = a.position? y := fun y => position?_congr (hlabels a x)
    rw [List.foldl_cons, ih, hstep, Option.map_map]
    congr 1
    funext b
    by_cases hi : a.position? (name x) = some i <;> simp [hi, hsame]

/-- Posing changes each bone by the changes whose name leads to it. -/
theorem posed_getElem? (a : Armature) (i : Nat) (cs : List BoneChange) :
    (cs.foldl applyPose a).bones[i]? =
      (a.bones[i]?).map (BoneChange.applyAll (a.changesAt i cs)) :=
  foldl_getElem? BoneChange.bone BoneChange.applyTo applyPose (fun _ _ => applyPose_labels)
    (fun _ _ _ => applyPose_getElem?) a i cs

end Armature

end RiggedScene
