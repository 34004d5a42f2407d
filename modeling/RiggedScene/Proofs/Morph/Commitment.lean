import RiggedScene.Proofs.Armature.Committing
import RiggedScene.Proofs.Formula
import RiggedScene.Proofs.Keyed

/-!
# What the outputs of an application ask for

* `Reference.boneAddress?` is the bone, property and component that an output addresses, and
  `Armature.address?` the same with the place of the bone;
* `Armature.Poses` and `Armature.Addresses` say that some output poses a bone, or addresses a
  component of one of its properties;
* `Commitment.Gathered` relates the changes of poses to the outputs they are gathered from, and
  `Commitment.gathered_ofOutputs` says that `Commitment.ofOutputs` gathers them so.
-/

namespace RiggedScene

/-! ### Addresses -/

/-- The bone, property and component that an output addresses. -/
def Reference.boneAddress? (target : String) : Option (String × BoneProperty × Option Axis) :=
  (Reference.parse? target).bind fun u =>
    (BoneProperty.ofPath? u.boneTarget.2).map fun (p, axis) => (u.boneTarget.1, p, axis)

namespace Armature

variable (a : Armature) (os : List (Output Float)) (i : Nat)

/-- The place of the bone, the property and the component that an output addresses. -/
def address? (target : String) : Option (Nat × BoneProperty × Option Axis) :=
  (Reference.boneAddress? target).bind fun (bone, p, axis) =>
    (a.position? bone).map fun i => (i, p, axis)

/-- Some output addresses the pose of the bone at a place. -/
def Poses : Prop :=
  ∃ o ∈ os, ∃ p axis, a.address? o.target = some (i, p, axis) ∧ p.isEdit = false

/-- Some output addresses a component of the bone at a place, alone or with the others. -/
def Addresses (p : BoneProperty) (slot : Axis) : Prop :=
  ∃ o ∈ os, ∃ axis, a.address? o.target = some (i, p, axis) ∧ (axis = none ∨ axis = some slot)

variable {a os i} {A : Arithmetic Float}

theorem poses_combine : a.Poses (Output.combine A os) i ↔ a.Poses os i :=
  Output.exists_combine fun target =>
    ∃ p axis, a.address? target = some (i, p, axis) ∧ p.isEdit = false

theorem addresses_combine {p : BoneProperty} {slot : Axis} :
    a.Addresses (Output.combine A os) i p slot ↔ a.Addresses os i p slot :=
  Output.exists_combine fun target =>
    ∃ axis, a.address? target = some (i, p, axis) ∧ (axis = none ∨ axis = some slot)

theorem addresses_congr {os' : List (Output Float)}
    (h : os'.map Output.target = os.map Output.target) {p : BoneProperty} {slot : Axis} :
    a.Addresses os' i p slot ↔ a.Addresses os i p slot := by
  have htarget : ∀ os : List (Output Float), a.Addresses os i p slot ↔
      ∃ target ∈ os.map Output.target, ∃ axis, a.address? target = some (i, p, axis) ∧
        (axis = none ∨ axis = some slot) := fun os => by
    simp [Addresses]
  rw [htarget, htarget, h]

/-- Where an address leads, the name in it leads to that place. -/
theorem address?_eq_some {target : String} {p : BoneProperty} {axis : Option Axis} :
    a.address? target = some (i, p, axis) ↔ ∃ bone, Reference.boneAddress? target =
      some (bone, p, axis) ∧ a.position? bone = some i := by
  simp only [address?, Option.bind_eq_some_iff, Option.map_eq_some_iff]
  constructor
  · rintro ⟨⟨bone, q, c⟩, haddress, j, hj, heq⟩
    obtain ⟨rfl, rfl, rfl⟩ : j = i ∧ q = p ∧ c = axis := by simpa using heq
    exact ⟨bone, haddress, hj⟩
  · rintro ⟨bone, haddress, hi⟩
    exact ⟨(bone, p, axis), haddress, i, hi, rfl⟩

theorem find?_isNone {bone : String} : (a.find? bone).isNone = (a.position? bone).isNone := by
  unfold find?
  cases hi : a.position? bone with
  | none => rfl
  | some i =>
    obtain ⟨b, hb⟩ := getElem?_of_position? hi
    simp [hb]

end Armature

/-! ### Changes and the outputs they are gathered from -/

/-- What a change holds for a component that no output asks for. -/
def BoneProperty.blank : BoneProperty → Option Float
  | .rotation => none
  | _ => some 0.0

namespace BoneChange

/-- The value of a component; a rotation may have none. -/
def get (c : BoneChange) (p : BoneProperty) (slot : Axis) : Option Float :=
  match p with
  | .rotation => c.rotation.get slot
  | .translation => some (c.translation.get slot)
  | .scale => some (c.scale.get slot)
  | .center => some (c.center.get slot)
  | .tip => some (c.tip.get slot)
  | .orientation => some (c.orientation.get slot)

theorem get_start {bone : String} {p : BoneProperty} {slot : Axis} :
    (start bone).get p slot = p.blank := by
  cases p <;> cases slot <;> rfl

theorem get_update_of_ne {c : BoneChange} {p q : BoneProperty} {axis : Option Axis} {slot : Axis}
    {value : Float} (h : p = q → axis ≠ none ∧ axis ≠ some slot) :
    (c.update p axis value).get q slot = c.get q slot := by
  by_cases hpq : p = q
  · subst hpq
    obtain ⟨hnone, hslot⟩ := h rfl
    obtain ⟨a, rfl⟩ := Option.ne_none_iff_exists'.1 hnone
    have hne : slot ≠ a := fun heq => hslot (congrArg some heq.symm)
    cases p <;> simp [update, get, Triple.get_set_of_ne _ _ hne]
  · cases axis <;> cases p <;> cases q <;> first | rfl | exact absurd rfl hpq

theorem bone_update {c : BoneChange} {p : BoneProperty} {axis : Option Axis} {value : Float} :
    (c.update p axis value).bone = c.bone := by
  cases axis <;> cases p <;> rfl

end BoneChange

namespace Commitment

variable {a : Armature} {morph : String} {os : List (Output Float)} {o : Output Float}

/-- The output asks for a value of a component of the bone it names. -/
def Asks (o : Output Float) (bone : String) (p : BoneProperty) (slot : Axis) : Prop :=
  ∃ axis, Reference.boneAddress? o.target = some (bone, p, axis) ∧
    (axis = none ∨ axis = some slot)

/-- Changes of poses gathered from outputs: one for each bone that is asked for, with nothing in
components that are not. -/
structure Gathered (a : Armature) (os : List (Output Float)) (cs : List BoneChange) : Prop where
  asked : ∀ c ∈ cs, ∃ o ∈ os, ∃ p axis,
    Reference.boneAddress? o.target = some (c.bone, p, axis) ∧ p.isEdit = false
  taken : ∀ o ∈ os, ∀ bone p axis, Reference.boneAddress? o.target = some (bone, p, axis) →
    p.isEdit = false → (a.position? bone).isSome → ∃ c ∈ cs, c.bone = bone
  unasked : ∀ c ∈ cs, ∀ p slot, (∀ o ∈ os, ¬ Asks o c.bone p slot) →
    c.get p slot = p.blank

/-- What one output does to the changes of poses. -/
theorem add_poses {k : Commitment} : (add (some a) morph k o).poses =
    match Reference.boneAddress? o.target with
    | none => k.poses
    | some (bone, p, axis) =>
      if (a.position? bone).isSome ∧ p.isEdit = false then
        BoneChange.updateIn bone p axis o.value k.poses
      else k.poses := by
  unfold add Reference.boneAddress?
  cases Reference.parse? o.target with
  | none => rfl
  | some u =>
    dsimp only
    cases hpath : BoneProperty.ofPath? u.boneTarget.2 with
    | none => simp [hpath]
    | some x =>
      obtain ⟨p, axis⟩ := x
      simp only [hpath, Option.bind_some, Option.map_some, Armature.find?_isNone]
      cases a.position? u.boneTarget.1 with
      | none => simp
      | some i => cases p.isEdit <;> simp

/-- An output that asks for no pose of a bone that is there changes nothing. -/
theorem Gathered.skip {cs : List BoneChange} (h : Gathered a os cs)
    (hskip : ∀ bone p axis, Reference.boneAddress? o.target = some (bone, p, axis) →
      p.isEdit = false → ¬ (a.position? bone).isSome) : Gathered a (os ++ [o]) cs := by
  refine ⟨?_, ?_, ?_⟩
  · intro c hc
    obtain ⟨o', ho', hasked⟩ := h.asked c hc
    exact ⟨o', List.mem_append_left _ ho', hasked⟩
  · intro o' ho' bone p axis haddress hedit hsome
    rcases List.mem_append.1 ho' with ho' | ho'
    · exact h.taken o' ho' bone p axis haddress hedit hsome
    · obtain rfl := List.mem_singleton.1 ho'
      exact absurd hsome (hskip bone p axis haddress hedit)
  · intro c hc p slot hnot
    exact h.unasked c hc p slot fun o' ho' => hnot o' (List.mem_append_left _ ho')

theorem Gathered.updateIn {cs : List BoneChange} {bone : String} {p : BoneProperty}
    {axis : Option Axis} (h : Gathered a os cs)
    (ho : Reference.boneAddress? o.target = some (bone, p, axis)) (hedit : p.isEdit = false) :
    Gathered a (os ++ [o]) (BoneChange.updateIn bone p axis o.value cs) := by
  unfold BoneChange.updateIn
  -- the change that is updated: one of those from before, or a new one of this bone
  generalize hold : (Keyed.find? BoneChange.bone bone cs).getD (.start bone) = old
  have hbone : old.bone = bone := by
    cases hfind : Keyed.find? BoneChange.bone bone cs with
    | none => simp [← hold, hfind, BoneChange.start]
    | some c => simpa [← hold, hfind] using Keyed.key_of_find? hfind
  have hnew : (old.update p axis o.value).bone = bone := BoneChange.bone_update.trans hbone
  refine ⟨?_, ?_, ?_⟩
  · intro c hc
    rcases Keyed.mem_insert hc with rfl | hc
    · exact ⟨o, by simp, p, axis, hnew ▸ ho, hedit⟩
    · obtain ⟨o', ho', hasked⟩ := h.asked c hc
      exact ⟨o', List.mem_append_left _ ho', hasked⟩
  · intro o' ho' bone' p' axis' haddress hedit' hsome
    rcases List.mem_append.1 ho' with ho' | ho'
    · obtain ⟨c, hc, rfl⟩ := h.taken o' ho' bone' p' axis' haddress hedit' hsome
      exact Keyed.exists_key_insert _ hc
    · obtain rfl := List.mem_singleton.1 ho'
      obtain ⟨rfl, -⟩ := Prod.mk.inj (Option.some.inj (ho.symm.trans haddress))
      exact ⟨_, Keyed.mem_insert_self _, hnew⟩
  · intro c hc q slot hnot
    rcases Keyed.mem_insert hc with rfl | hc
    · rw [hnew] at hnot
      have hothers : p = q → axis ≠ none ∧ axis ≠ some slot := by
        rintro rfl
        have ho' := hnot o (by simp)
        exact ⟨fun hn => ho' ⟨axis, ho, .inl hn⟩, fun hs => ho' ⟨axis, ho, .inr hs⟩⟩
      -- the update leaves the component alone, and so it is blank as it was before
      rw [BoneChange.get_update_of_ne hothers]
      cases hfind : Keyed.find? BoneChange.bone bone cs with
      | none => simp [← hold, hfind, BoneChange.get_start]
      | some c =>
        obtain rfl : c = old := by simpa [hfind] using hold
        rw [← hbone] at hnot
        exact h.unasked c (Keyed.mem_of_find? hfind) q slot
          fun o' ho' => hnot o' (List.mem_append_left _ ho')
    · exact h.unasked c hc q slot fun o' ho' => hnot o' (List.mem_append_left _ ho')

/-- **The changes of poses are gathered from the outputs.** -/
theorem gathered_ofOutputs (a : Armature) (morph : String) (os : List (Output Float)) :
    Gathered a os (ofOutputs (some a) morph os).poses := by
  induction os using List.reverseRecOn with
  | nil => exact ⟨by simp [ofOutputs, empty], by simp, by simp [ofOutputs, empty]⟩
  | append_singleton os o ih =>
    have hlast : ofOutputs (some a) morph (os ++ [o]) =
        add (some a) morph (ofOutputs (some a) morph os) o := List.foldl_append
    rw [hlast, add_poses]
    cases haddress : Reference.boneAddress? o.target with
    | none => exact ih.skip (by simp [haddress])
    | some x =>
      obtain ⟨bone, p, axis⟩ := x
      dsimp only
      split
      · next hpose => exact ih.updateIn haddress hpose.2
      · next hpose =>
        refine ih.skip fun bone' p' axis' haddress' hedit hsome => hpose ?_
        obtain ⟨rfl, rfl, -⟩ : bone = bone' ∧ p = p' ∧ axis = axis' := by
          simpa [haddress] using haddress'
        exact ⟨hsome, hedit⟩

theorem mem_add_edits {k : Commitment} {c : BoneChange} (h : c ∈ (add (some a) morph k o).edits) :
    c ∈ k.edits ∨ ∃ p axis, Reference.boneAddress? o.target = some (c.bone, p, axis) := by
  unfold add at h
  cases hu : Reference.parse? o.target with
  | none => exact .inl (by simpa [hu] using h)
  | some u =>
    simp only [hu] at h
    cases hpath : BoneProperty.ofPath? u.boneTarget.2 with
    | none => exact .inl (by simpa [hpath] using h)
    | some x =>
      obtain ⟨p, axis⟩ := x
      have haddress : Reference.boneAddress? o.target = some (u.boneTarget.1, p, axis) := by
        simp [Reference.boneAddress?, hu, hpath]
      simp only [hpath] at h
      split at h
      · exact .inl h
      · split at h
        · rcases Keyed.mem_insert h with rfl | hc
          · refine .inr ⟨p, axis, ?_⟩
            rw [BoneChange.bone_update, haddress]
            cases hfind : Keyed.find? BoneChange.bone u.boneTarget.1 k.edits with
            | none => rfl
            | some old => rw [Option.getD_some, Keyed.key_of_find? hfind]
          · exact .inl hc
        · exact .inl h

theorem asked_edits {c : BoneChange} (h : c ∈ (ofOutputs (some a) morph os).edits) :
    ∃ o ∈ os, ∃ p axis, Reference.boneAddress? o.target = some (c.bone, p, axis) := by
  induction os using List.reverseRecOn with
  | nil => simp [ofOutputs, empty] at h
  | append_singleton os o ih =>
    have hlast : ofOutputs (some a) morph (os ++ [o]) =
        add (some a) morph (ofOutputs (some a) morph os) o := List.foldl_append
    rw [hlast] at h
    rcases mem_add_edits h with hc | hasked
    · obtain ⟨o', ho', hasked⟩ := ih hc
      exact ⟨o', List.mem_append_left _ ho', hasked⟩
    · exact ⟨o, by simp, hasked⟩

theorem exists_address_of_changedBy {i : Nat} (h : a.ChangedBy (ofOutputs (some a) morph os) i) :
    ∃ o ∈ os, ∃ p axis, a.address? o.target = some (i, p, axis) := by
  rcases h with h | h
  · obtain ⟨c, hc⟩ := List.exists_mem_of_ne_nil _ h
    obtain ⟨hmem, hplace⟩ := List.mem_filter.1 hc
    obtain ⟨o, ho, p, axis, haddress, -⟩ := (gathered_ofOutputs a morph os).asked c hmem
    exact ⟨o, ho, p, axis, Armature.address?_eq_some.2 ⟨_, haddress, by simpa using hplace⟩⟩
  · obtain ⟨c, hc⟩ := List.exists_mem_of_ne_nil _ h
    obtain ⟨hmem, hplace⟩ := List.mem_filter.1 hc
    obtain ⟨o, ho, p, axis, haddress⟩ := asked_edits hmem
    exact ⟨o, ho, p, axis, Armature.address?_eq_some.2 ⟨_, haddress, by simpa using hplace⟩⟩

end Commitment

end RiggedScene
