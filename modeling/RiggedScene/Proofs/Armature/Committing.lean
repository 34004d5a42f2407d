import RiggedScene.Proofs.Armature.Coherent
import RiggedScene.Proofs.Armature.Posing

/-!
# What committing makes of an armature

* `BoneChange.relayAll` lays one bone out again by a list of changes;
* `Armature.commit_bone` : committing lays each bone out again after it is posed, by the changes
  whose name leads to it;
* `Armature.commit_getElem?` : what becomes of its pose;
* `Armature.commit_labels`, `Armature.commit_links` and `Armature.commit_boneless` : nothing else is
  changed;
* `Armature.commit_comm` : commitments that change different bones can be carried out in either
  order.
-/

namespace RiggedScene

/-! ### Laying bones out again -/

namespace BoneChange

variable {c : BoneChange} {cs : List BoneChange} {b b' : Bone}

/-- The bone, laid out again by a change. -/
def relayTo (b : Bone) (c : BoneChange) : Bone :=
  Armature.relaid (Units.pointToOutput c.center) (Units.pointToOutput c.tip)
    (Units.rotationToOutput c.orientation) b

/-- The bone, laid out again by all changes. -/
def relayAll (cs : List BoneChange) (b : Bone) : Bone := cs.foldl relayTo b

theorem relayTo_labels : (relayTo b c).labels = b.labels := rfl

@[simp] theorem relayAll_nil : relayAll [] = id := rfl

@[simp] theorem relayAll_pose : (relayAll cs b).pose = b.pose := by
  induction cs generalizing b with
  | nil => rfl
  | cons c cs ih => exact ih (b := relayTo b c)

@[simp] theorem relayAll_axis : (relayAll cs b).axis = b.axis := by
  induction cs generalizing b with
  | nil => rfl
  | cons c cs ih => exact ih (b := relayTo b c)

theorem applyAll_link : (applyAll cs b).link = b.link := by
  induction cs generalizing b with
  | nil => rfl
  | cons c cs ih => exact ih (b := applyTo b c)

theorem relayAll_link : (relayAll cs b).link = b.link := by
  induction cs generalizing b with
  | nil => rfl
  | cons c cs ih => exact ih (b := relayTo b c)

end BoneChange

namespace Armature

variable {a : Armature} {b : Bone} {c : BoneChange} {cs : List BoneChange} {i : Nat}

/-- All of an armature but its bones. -/
def boneless (a : Armature) : Armature := { a with bones := [] }

theorem mode_eq_of_boneless {a' : Armature} (h : a'.boneless = a.boneless) : a'.mode = a.mode :=
  (Armature.mk.inj h).2.2

theorem modify?_boneless {f : Bone → Bone} {name : String} :
    ((a.modify? name f).getD a).boneless = a.boneless := by
  unfold modify?
  cases a.position? name <;> rfl

theorem foldl_applyPose_boneless : (cs.foldl applyPose a).boneless = a.boneless :=
  foldl_kept boneless (fun a c => by
    simp only [applyPose, rotate?, rescale?, translate?, modify?_boneless]) a cs

theorem foldl_applyPose_labels :
    (cs.foldl applyPose a).bones.map Bone.labels = a.bones.map Bone.labels :=
  foldl_kept (·.bones.map Bone.labels) (fun _ _ => applyPose_labels) a cs

/-- In edit mode a change lays the bone out again that its name leads to. -/
theorem applyEdit_eq (hmode : a.mode = .edit) :
    (a.applyEdit c).1 = (a.modify? c.bone (BoneChange.relayTo · c)).getD a := by
  unfold applyEdit transformBone? whenEditing modify?
  rw [hmode]
  cases a.position? c.bone <;> rfl

theorem foldl_applyNextEdit_fst (r : Armature × List Diagnostic) (cs : List BoneChange) :
    (cs.foldl applyNextEdit r).1 = cs.foldl (fun a c => (a.applyEdit c).1) r.1 := by
  induction cs generalizing r with
  | nil => rfl
  | cons c cs ih => exact ih (applyNextEdit r c)

theorem applyEdit_boneless : (a.applyEdit c).1.boneless = a.boneless := by
  unfold applyEdit transformBone? whenEditing modify?
  cases hmode : a.mode with
  | object => rfl
  | edit =>
    cases a.position? c.bone with
    | none => rfl
    | some i => exact congrArg (Armature.mk a.name []) hmode.symm

theorem applyEdit_mode : (a.applyEdit c).1.mode = a.mode := mode_eq_of_boneless applyEdit_boneless

theorem applyEdits_boneless : (a.applyEdits cs).1.boneless = a.boneless := by
  rw [applyEdits, foldl_applyNextEdit_fst]
  exact foldl_kept boneless (fun _ _ => applyEdit_boneless) a cs

/-- In edit mode all changes lay bones out again. -/
theorem applyEdits_eq (hmode : a.mode = .edit) : (a.applyEdits cs).1 =
    cs.foldl (fun a c => (a.modify? c.bone (BoneChange.relayTo · c)).getD a) a := by
  rw [applyEdits, foldl_applyNextEdit_fst]
  induction cs generalizing a with
  | nil => rfl
  | cons c cs ih =>
    rw [List.foldl_cons, List.foldl_cons, ← applyEdit_eq hmode]
    exact ih (applyEdit_mode.trans hmode)

theorem applyEdits_labels (hmode : a.mode = .edit) :
    (a.applyEdits cs).1.bones.map Bone.labels = a.bones.map Bone.labels := by
  rw [applyEdits_eq hmode]
  exact foldl_kept (·.bones.map Bone.labels)
    (fun _ _ => modify?_labels fun _ => BoneChange.relayTo_labels) a cs

/-- Laying out again changes each bone by the changes whose name leads to it. -/
theorem applyEdits_getElem? (hmode : a.mode = .edit) (i : Nat) (cs : List BoneChange) :
    (a.applyEdits cs).1.bones[i]? =
      (a.bones[i]?).map (BoneChange.relayAll (a.changesAt i cs)) := by
  rw [applyEdits_eq hmode]
  exact foldl_getElem? BoneChange.bone BoneChange.relayTo _
    (fun _ _ => modify?_labels fun _ => BoneChange.relayTo_labels)
    (fun _ _ _ => modify?_getElem?) a i cs

theorem foldl_applyPose_mode (cs : List BoneChange) :
    (cs.foldl applyPose { a with mode := .edit }).mode = .edit :=
  mode_eq_of_boneless (a := { a with mode := .edit }) foldl_applyPose_boneless

/-- **Committing lays each bone out again after it is posed**, by the changes whose name leads to
it. -/
theorem commit_bone (a : Armature) (k : Commitment) (i : Nat) : (a.commit k).1.bones[i]? =
    (a.bones[i]?).map fun b =>
      BoneChange.relayAll (a.changesAt i k.edits) (BoneChange.applyAll (a.changesAt i k.poses) b) := by
  have hedits : (k.poses.foldl applyPose { a with mode := .edit }).changesAt i k.edits =
      a.changesAt i k.edits := by
    simp only [changesAt, position?_congr foldl_applyPose_labels]
    rfl
  refine (applyEdits_getElem? (foldl_applyPose_mode k.poses) i k.edits).trans ?_
  rw [hedits, posed_getElem?, Option.map_map]
  rfl

/-- **What committing makes of a bone.** Its pose is changed by the changes whose name leads to it,
and its axis stays. -/
theorem commit_getElem? {k : Commitment} (hb : a.bones[i]? = some b) :
    ∃ b', (a.commit k).1.bones[i]? = some b' ∧ b'.axis = b.axis ∧
      b'.pose = (BoneChange.applyAll (a.changesAt i k.poses) b).pose := by
  rw [commit_bone, hb]
  exact ⟨_, rfl, by simp, BoneChange.relayAll_pose⟩

theorem commit_labels (a : Armature) (k : Commitment) :
    (a.commit k).1.bones.map Bone.labels = a.bones.map Bone.labels :=
  (applyEdits_labels (foldl_applyPose_mode k.poses)).trans foldl_applyPose_labels

theorem commit_boneless (a : Armature) (k : Commitment) : (a.commit k).1.boneless = a.boneless := by
  have hname : (a.commit k).1.name = a.name :=
    (Armature.mk.inj (applyEdits_boneless.trans foldl_applyPose_boneless)).1
  exact congrArg (Armature.mk · [] a.mode) hname

/-- Bones keep their names and parents. -/
theorem commit_links (a : Armature) (k : Commitment) : (a.commit k).1.links = a.links := by
  refine List.ext_getElem? fun i => ?_
  rw [links, links, List.getElem?_map, List.getElem?_map, commit_bone, Option.map_map]
  congr 1
  funext b
  exact BoneChange.relayAll_link.trans BoneChange.applyAll_link

/-! ### Two commitments -/

theorem eq_of_boneless {a' : Armature} (hboneless : a'.boneless = a.boneless)
    (hbones : ∀ i : Nat, a'.bones[i]? = a.bones[i]?) : a' = a := by
  obtain ⟨hname, -, hmode⟩ := Armature.mk.inj hboneless
  exact (Armature.mk.injEq ..).mpr ⟨hname, List.ext_getElem? hbones, hmode⟩

@[simp] theorem commit_empty (a : Armature) : (a.commit .empty).1 = a := by
  refine eq_of_boneless (commit_boneless a _) fun i => ?_
  rw [commit_bone]
  exact Option.map_id_apply

theorem changesAt_commit {k : Commitment} (i : Nat) (cs : List BoneChange) :
    (a.commit k).1.changesAt i cs = a.changesAt i cs := by
  simp only [changesAt, position?_congr (commit_labels a k)]

/-- The commitment changes the bone at a place. -/
def ChangedBy (a : Armature) (k : Commitment) (i : Nat) : Prop :=
  a.changesAt i k.poses ≠ [] ∨ a.changesAt i k.edits ≠ []

/-- A bone that is not changed stays as it is. -/
theorem commit_bone_of_not_changedBy {k : Commitment} (h : ¬ a.ChangedBy k i) :
    (a.commit k).1.bones[i]? = a.bones[i]? := by
  obtain ⟨hposes, hedits⟩ := not_or.1 h
  rw [commit_bone, not_not.1 hposes, not_not.1 hedits]
  exact Option.map_id_apply

/-- **Commitments that change different bones can be carried out in either order.** -/
theorem commit_comm {k k' : Commitment} (h : ∀ i, a.ChangedBy k i → ¬ a.ChangedBy k' i) :
    ((a.commit k).1.commit k').1 = ((a.commit k').1.commit k).1 := by
  have hchanged : ∀ (k k' : Commitment) (i : Nat),
      (a.commit k).1.ChangedBy k' i ↔ a.ChangedBy k' i := fun k k' i => by
    rw [ChangedBy, ChangedBy, changesAt_commit, changesAt_commit]
  refine eq_of_boneless (by simp only [commit_boneless]) fun i => ?_
  by_cases hk : a.ChangedBy k i
  · have hk' := h i hk
    rw [commit_bone_of_not_changedBy ((hchanged k k' i).not.2 hk'), commit_bone, commit_bone,
      commit_bone_of_not_changedBy hk', changesAt_commit, changesAt_commit]
  · rw [commit_bone_of_not_changedBy ((hchanged k' k i).not.2 hk), commit_bone,
      commit_bone_of_not_changedBy hk, commit_bone, changesAt_commit, changesAt_commit]

end Armature

end RiggedScene
