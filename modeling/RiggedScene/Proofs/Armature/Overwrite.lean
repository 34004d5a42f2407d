import RiggedScene.Proofs.Armature.Committing

/-!
# Committing changes twice

A change of a bone replaces rotations, the location and the segment, while the scale is increased.
So little is left of changes that are followed by others for the same components.

* `BoneChange.Alike` : changes that have values for the same components of the same bone;
* `BoneChange.unscaled_overwrite` : alike changes of one bone leave nothing of each other but the
  scale;
* `Armature.commit_commit_unscaled` : the same for an armature;
* `Armature.commit_scale?` : what is added to the scale of a bone.
-/

namespace RiggedScene

/-! ### Values that are replaced -/

/-- A number after values that replace it, where they are given. -/
def replaceAll (vs : List (Option Float)) (old : Float) : Float :=
  vs.foldl (fun old v => v.getD old) old

section Replace

variable {vs ws : List (Option Float)}

theorem replaceAll_eq_self (h : true ∉ vs.map Option.isSome) (old : Float) :
    replaceAll vs old = old := by
  induction vs generalizing old with
  | nil => rfl
  | cons v vs ih =>
    obtain ⟨hv, hvs⟩ := not_or.1 (mt List.mem_cons.2 h)
    cases v with
    | none => exact ih hvs old
    | some x => exact absurd rfl hv

theorem replaceAll_congr (h : true ∈ vs.map Option.isSome) (old old' : Float) :
    replaceAll vs old = replaceAll vs old' := by
  induction vs generalizing old old' with
  | nil => cases h
  | cons v vs ih =>
    cases v with
    | some x => rfl
    | none => exact ih (by simpa using h) old old'

/-- Values are lost if values are given at the same places later. -/
theorem replaceAll_replaceAll (h : ws.map Option.isSome = vs.map Option.isSome) (old : Float) :
    replaceAll ws (replaceAll vs old) = replaceAll ws old := by
  by_cases hsome : true ∈ vs.map Option.isSome
  · exact replaceAll_congr (h ▸ hsome) _ _
  · rw [replaceAll_eq_self hsome]

end Replace

/-! ### One bone -/

namespace Bone

/-- The bone in its own size. -/
def unscaled (b : Bone) : Bone := { b with pose := { b.pose with scale := Vec3.one } }

/-- The bone without all that a commitment may change. -/
def bare (b : Bone) : Bone :=
  { b with segment := default, pose := { Pose.rest with order := b.pose.order } }

variable {b b' : Bone}

theorem unscaled_ext (hbare : b.bare = b'.bare) (hsegment : b.segment = b'.segment)
    (hrotation : ∀ slot, b.pose.rotation.get slot = b'.pose.rotation.get slot)
    (hlocation : ∀ slot, b.pose.location.get slot = b'.pose.location.get slot) :
    b.unscaled = b'.unscaled := by
  have hturned := Triple.ext_get hrotation
  have hmoved := Triple.ext_get hlocation
  obtain ⟨name, templateId, parent, attached, children, axis, center, tip, orientation, segment,
    rotation, location, scale, order⟩ := b
  obtain ⟨name', templateId', parent', attached', children', axis', center', tip', orientation',
    segment', rotation', location', scale', order'⟩ := b'
  simp only [bare, unscaled, Bone.mk.injEq, Pose.mk.injEq] at *
  simp_all

theorem slotValues_isSome (values : AxisValues) (slot : Axis) :
    ((b.slotValues values).get slot).isSome = (values.get (b.axis.sign.source slot)).isSome := by
  rw [slotValues, AxisSign.get_remap]
  split <;> simp

end Bone

namespace BoneChange

variable {b b' : Bone} {c c' : BoneChange} {cs cs' : List BoneChange}

@[simp] theorem applyAll_bare : (applyAll cs b).bare = b.bare := by
  induction cs generalizing b with
  | nil => rfl
  | cons c cs ih => exact ih (b := applyTo b c)

@[simp] theorem applyAll_segment : (applyAll cs b).segment = b.segment := by
  induction cs generalizing b with
  | nil => rfl
  | cons c cs ih => exact ih (b := applyTo b c)

@[simp] theorem relayAll_bare : (relayAll cs b).bare = b.bare := by
  induction cs generalizing b with
  | nil => rfl
  | cons c cs ih => exact ih (b := relayTo b c)

theorem relayTo_segment_congr (h : b.bare = b'.bare) :
    (relayTo b c).segment = (relayTo b' c).segment := by
  simp only [Bone.bare, Bone.mk.injEq] at h
  obtain ⟨-, -, -, -, -, haxis, hcenter, htip, horientation, -⟩ := h
  simp only [relayTo, Armature.relaid, haxis, hcenter, htip, horientation]

theorem relayAll_segment_congr (hne : cs ≠ []) (h : b.bare = b'.bare) :
    (relayAll cs b).segment = (relayAll cs b').segment := by
  induction cs generalizing b b' with
  | nil => exact absurd rfl hne
  | cons c cs ih =>
    cases cs with
    | nil => exact relayTo_segment_congr h
    | cons c' cs => exact ih (List.cons_ne_nil c' cs) h

/-! ### Slots of a pose after all changes -/

/-- The rotation that a change has for a slot, in radians. -/
def turn (b : Bone) (slot : Axis) (c : BoneChange) : Option Float :=
  ((b.slotValues c.rotation).get slot).map Units.toRadians

/-- The location that a change has for a slot, in metres. -/
def shift (b : Bone) (slot : Axis) (c : BoneChange) : Option Float :=
  ((b.slotValues (c.translation.map some)).get slot).map (· / Units.centimetresPerMetre)

/-- What a change adds to a slot of the scale. -/
def growth (slot : Axis) (c : BoneChange) : Float := c.scale.get (slot.swapped .y .z)

variable {slot : Axis}

theorem applyAll_rotation_eq : (applyAll cs b).pose.rotation.get slot =
    replaceAll (cs.map (turn b slot)) (b.pose.rotation.get slot) := by
  induction cs generalizing b with
  | nil => rfl
  | cons c cs ih =>
    refine (ih (b := applyTo b c)).trans (congrArg (replaceAll _) ?_)
    exact Triple.get_zipWith _ _ _ slot

theorem applyAll_location_eq : (applyAll cs b).pose.location.get slot =
    replaceAll (cs.map (shift b slot)) (b.pose.location.get slot) := by
  induction cs generalizing b with
  | nil => rfl
  | cons c cs ih =>
    refine (ih (b := applyTo b c)).trans (congrArg (replaceAll _) ?_)
    exact Triple.get_zipWith _ _ _ slot

theorem applyAll_scale_eq : (applyAll cs b).pose.scale.get slot =
    (cs.map (growth slot)).foldl (· + ·) (b.pose.scale.get slot) := by
  induction cs generalizing b with
  | nil => rfl
  | cons c cs ih =>
    refine (ih (b := applyTo b c)).trans (congrArg (List.foldl _ · _) ?_)
    change (Pose.increase b.pose.scale (c.scale.map some).swapYZ).get slot = _
    simp [Pose.increase, growth]

/-! ### Changes with values for the same components -/

/-- The changes are for one bone and turn it about the same axes. -/
structure Alike (c c' : BoneChange) : Prop where
  bone : c'.bone = c.bone
  turns : ∀ axis, (c'.rotation.get axis).isSome = (c.rotation.get axis).isSome

theorem map_turn_isSome (h : List.Forall₂ Alike cs cs') (b : Bone) (slot : Axis) :
    (cs'.map (turn b slot)).map Option.isSome = (cs.map (turn b slot)).map Option.isSome := by
  induction h with
  | nil => rfl
  | cons hc _ ih =>
    simp only [List.map_cons, ih, turn, Option.isSome_map, Bone.slotValues_isSome, hc.turns]

theorem map_shift_isSome (h : List.Forall₂ Alike cs cs') (b : Bone) (slot : Axis) :
    (cs'.map (shift b slot)).map Option.isSome = (cs.map (shift b slot)).map Option.isSome := by
  induction h with
  | nil => rfl
  | cons _ _ ih =>
    simp only [List.map_cons, ih, shift, Option.isSome_map, Bone.slotValues_isSome,
      Triple.get_map, Option.isSome_some]

theorem slotValues_congr (h : b.bare = b'.bare) (values : AxisValues) :
    b.slotValues values = b'.slotValues values := by
  have haxis : b.axis = b'.axis := congrArg (fun b => b.axis) h
  rw [Bone.slotValues, Bone.slotValues, haxis]

/-- **Changes before alike changes leave nothing but the scale.** -/
theorem unscaled_overwrite {ps ps' es es' : List BoneChange} (hps : List.Forall₂ Alike ps ps')
    (hes : List.Forall₂ Alike es es') (b : Bone) :
    (relayAll es' (applyAll ps' (relayAll es (applyAll ps b)))).unscaled =
      (relayAll es' (applyAll ps' b)).unscaled := by
  have hbare : (relayAll es (applyAll ps b)).bare = b.bare := by simp
  have hturn : turn (relayAll es (applyAll ps b)) = turn b := by
    funext slot c
    rw [turn, turn, slotValues_congr hbare]
  have hshift : shift (relayAll es (applyAll ps b)) = shift b := by
    funext slot c
    rw [shift, shift, slotValues_congr hbare]
  refine Bone.unscaled_ext (by simp) ?_ (fun slot => ?_) (fun slot => ?_)
  · cases hes with
    | nil => simp
    | cons _ _ => exact relayAll_segment_congr (List.cons_ne_nil _ _) (by simp)
  · rw [relayAll_pose, relayAll_pose, applyAll_rotation_eq, applyAll_rotation_eq, hturn,
      relayAll_pose, applyAll_rotation_eq]
    exact replaceAll_replaceAll (map_turn_isSome hps b slot) _
  · rw [relayAll_pose, relayAll_pose, applyAll_location_eq, applyAll_location_eq, hshift,
      relayAll_pose, applyAll_location_eq]
    exact replaceAll_replaceAll (map_shift_isSome hps b slot) _

end BoneChange

/-! ### Adding zero again -/

theorem foldl_add_zero {gs : List Float} (h : ∀ g ∈ gs, g = 0.0) (hne : gs ≠ []) (x : Float) :
    gs.foldl (· + ·) x = x + 0.0 := by
  induction gs generalizing x with
  | nil => exact absurd rfl hne
  | cons g gs ih =>
    obtain ⟨rfl, hgs⟩ := List.forall_mem_cons.1 h
    cases gs with
    | nil => rfl
    | cons g gs => exact (ih hgs (List.cons_ne_nil g gs) _).trans (Binary64.add_zero_add_zero x)

/-- Adding zeros before others leaves nothing. -/
theorem foldl_add_zero_foldl {gs gs' : List Float} (h : ∀ g ∈ gs, g = 0.0)
    (h' : ∀ g ∈ gs', g = 0.0) (hlength : gs'.length = gs.length) (x : Float) :
    gs'.foldl (· + ·) (gs.foldl (· + ·) x) = gs'.foldl (· + ·) x := by
  by_cases hne : gs = []
  · rw [hne]
    rfl
  · have hne' : gs' ≠ [] := fun hnil => hne (List.length_eq_zero_iff.1 (by rw [← hlength, hnil]; rfl))
    rw [foldl_add_zero h hne, foldl_add_zero h' hne', foldl_add_zero h' hne',
      Binary64.add_zero_add_zero]

/-! ### An armature -/

/-- The changes have values for the same components of the same bones. -/
structure Commitment.Alike (k k' : Commitment) : Prop where
  poses : List.Forall₂ BoneChange.Alike k.poses k'.poses
  edits : List.Forall₂ BoneChange.Alike k.edits k'.edits

namespace Armature

variable {a : Armature} {k k' : Commitment} {cs cs' : List BoneChange}

/-- The armature with all bones in their own sizes. -/
def unscaled (a : Armature) : Armature := { a with bones := a.bones.map Bone.unscaled }

theorem changesAt_alike (h : List.Forall₂ BoneChange.Alike cs cs') (i : Nat) :
    List.Forall₂ BoneChange.Alike (a.changesAt i cs) (a.changesAt i cs') := by
  refine List.rel_filter (fun c c' hc => ?_) h
  dsimp only
  rw [hc.bone]

/-- **Committing alike changes twice leaves nothing of the first ones but the scale.** -/
theorem commit_commit_unscaled (h : k.Alike k') :
    ((a.commit k).1.commit k').1.unscaled = (a.commit k').1.unscaled := by
  have hbones : ((a.commit k).1.commit k').1.bones.map Bone.unscaled =
      (a.commit k').1.bones.map Bone.unscaled := by
    refine List.ext_getElem? fun i => ?_
    rw [List.getElem?_map, List.getElem?_map, commit_bone, commit_bone, commit_bone,
      changesAt_commit, changesAt_commit, Option.map_map, Option.map_map, Option.map_map]
    congr 1
    funext b
    exact BoneChange.unscaled_overwrite (changesAt_alike h.poses i) (changesAt_alike h.edits i) b
  have hboneless : ((a.commit k).1.commit k').1.boneless = (a.commit k').1.boneless := by
    rw [commit_boneless, commit_boneless, commit_boneless]
  obtain ⟨hname, -, hmode⟩ := Armature.mk.inj hboneless
  exact (Armature.mk.injEq ..).mpr ⟨hname, hbones, hmode⟩

/-- A slot of the scale of the bone at a place. -/
def scale? (a : Armature) (i : Nat) (slot : Axis) : Option Float :=
  (a.bones[i]?).map fun b => b.pose.scale.get slot

/-- Committing adds to the scales. -/
theorem commit_scale? (a : Armature) (k : Commitment) (i : Nat) (slot : Axis) :
    (a.commit k).1.scale? i slot = (a.scale? i slot).map
      (((a.changesAt i k.poses).map (BoneChange.growth slot)).foldl (· + ·)) := by
  rw [scale?, commit_bone, scale?, Option.map_map, Option.map_map]
  congr 1
  funext b
  exact (congrArg (fun p => p.scale.get slot) BoneChange.relayAll_pose).trans
    BoneChange.applyAll_scale_eq

/-- Committing alike changes twice leaves nothing of the first ones where both add zero. -/
theorem commit_commit_scale? (h : k.Alike k') {i : Nat} {slot : Axis}
    (hzero : ∀ g ∈ (a.changesAt i k.poses).map (BoneChange.growth slot), g = 0.0)
    (hzero' : ∀ g ∈ (a.changesAt i k'.poses).map (BoneChange.growth slot), g = 0.0) :
    ((a.commit k).1.commit k').1.scale? i slot = (a.commit k').1.scale? i slot := by
  have hlength := (changesAt_alike (a := a) h.poses i).length_eq
  rw [commit_scale?, commit_scale?, commit_scale?, changesAt_commit, Option.map_map]
  congr 1
  funext x
  exact foldl_add_zero_foldl hzero hzero' (by simp [hlength]) x

end Armature

end RiggedScene
