import RiggedScene.Proofs.Armature.Lookup

/-!
# What bones have from their sources

`Armature.forall_build` : a property of the bones that are made of the sources, and that survives
getting children and an order of poses, holds of all bones of the armature.
-/

namespace RiggedScene

/-- A computation in two steps that goes through. -/
theorem exists_of_bind {α β : Type} {x : Except Error α} {f : α → Except Error β} {y : β}
    (h : (x >>= f) = .ok y) : ∃ z, x = .ok z ∧ f z = .ok y := by
  cases x with
  | error e => cases h
  | ok z => exact ⟨z, rfl, h⟩

namespace Armature

variable {P : Bone → Prop} {sources : List BoneSource} {a a' : Armature} {parent : Option String}
  {notes : List Diagnostic}

/-- The property holds of what is made of the sources, and it survives getting a child. -/
structure Inherited (sources : List BoneSource) (P : Bone → Prop) : Prop where
  make : ∀ s ∈ sources, ∀ parent attached, P (makeBone s parent attached)
  child : ∀ b id, P b → P (b.withChild id)

theorem Inherited.addBone (hP : Inherited sources P) {s : BoneSource} (hs : s ∈ sources)
    (h : ∀ b ∈ a.bones, P b) : ∀ b ∈ (a.addBone s parent).1.bones, P b := by
  intro b hb
  unfold Armature.addBone at hb
  rcases List.mem_append.1 hb with hold | hnew
  · split at hold
    · exact forall_modify h (fun b hb => hP.child b s.id hb) b hold
    · exact h b hold
  · obtain rfl := List.mem_singleton.1 hnew
    exact hP.make s hs parent _

theorem insertBone?_eq {s : BoneSource} (h : a.insertBone? s parent = .ok (a', notes)) :
    a' = (a.addBone s parent).1 := by
  unfold insertBone? whenEditing at h
  split at h
  · exact (congrArg Prod.fst (Except.ok.inj h)).symm
  · cases h

theorem Inherited.insertBone? (hP : Inherited sources P) {s : BoneSource} (hs : s ∈ sources)
    (h : ∀ b ∈ a.bones, P b) (hinsert : a.insertBone? s parent = .ok (a', notes)) :
    ∀ b ∈ a'.bones, P b := by
  obtain rfl := insertBone?_eq hinsert
  exact hP.addBone hs h

theorem Inherited.insertChildren? (hP : Inherited sources P) {ss : List BoneSource}
    (hss : ∀ s ∈ ss, s ∈ sources) {ids : List String} (h : ∀ b ∈ a.bones, P b)
    (hinsert : Armature.insertChildren? parent ss a = .ok (a', notes, ids)) :
    ∀ b ∈ a'.bones, P b := by
  induction ss generalizing a notes ids with
  | nil =>
    obtain rfl : a = a' := congrArg Prod.fst (Except.ok.inj hinsert)
    exact h
  | cons s ss ih =>
    obtain ⟨hs, hss⟩ := List.forall_mem_cons.1 hss
    unfold Armature.insertChildren? at hinsert
    split at hinsert
    · obtain ⟨⟨a₁, notes₁⟩, hone, hinsert⟩ := exists_of_bind hinsert
      obtain ⟨⟨a₂, notes₂, ids₂⟩, hrest, hinsert⟩ := exists_of_bind hinsert
      obtain rfl : a₂ = a' := congrArg Prod.fst (Except.ok.inj hinsert)
      exact ih hss (hP.insertBone? hs h hone) hrest
    · exact ih hss h hinsert

theorem Inherited.insertLevels? (hP : Inherited sources P) {fuel : Nat}
    {queue : List (Option String)} (h : ∀ b ∈ a.bones, P b)
    (hinsert : Armature.insertLevels? sources fuel queue a = .ok (a', notes)) :
    ∀ b ∈ a'.bones, P b := by
  induction fuel generalizing a queue notes with
  | zero =>
    obtain rfl : a = a' := congrArg Prod.fst (Except.ok.inj hinsert)
    exact h
  | succ fuel ih =>
    cases queue with
    | nil =>
      obtain rfl : a = a' := congrArg Prod.fst (Except.ok.inj hinsert)
      exact h
    | cons parent queue =>
      obtain ⟨⟨a₁, notes₁, ids⟩, hchildren, hinsert⟩ := exists_of_bind hinsert
      obtain ⟨⟨a₂, notes₂⟩, hrest, hinsert⟩ := exists_of_bind hinsert
      obtain rfl : a₂ = a' := congrArg Prod.fst (Except.ok.inj hinsert)
      exact ih (hP.insertChildren? (fun s hs => hs) h hchildren) hrest

/-- **What all bones of an armature have from their sources.** -/
theorem forall_build (hP : Inherited sources P) (horder : ∀ b, P b → P b.withPoseOrder)
    (hbuild : (build sources).1 = some a) : ∀ b ∈ a.bones, P b := by
  unfold build at hbuild
  cases hbuilt : build? sources with
  | error e => simp [hbuilt] at hbuild
  | ok built =>
    simp only [hbuilt] at hbuild
    cases sources with
    | nil =>
      obtain rfl : (none, []) = built := Except.ok.inj hbuilt
      cases hbuild
    | cons s ss =>
      obtain ⟨⟨a₁, notes⟩, hinsert, hbuilt⟩ := exists_of_bind hbuilt
      obtain rfl : (some a₁.withPoseOrders, notes) = built := Except.ok.inj hbuilt
      obtain rfl : a₁.withPoseOrders = a := Option.some.inj hbuild
      unfold editing? insertHierarchy? whenEditing at hinsert
      dsimp only at hinsert
      cases hlevels : Armature.insertLevels? (s :: ss) ((s :: ss).length + 1) [none]
          { empty ("rig-" ++ s.id) with mode := .edit } with
      | error e =>
        rw [hlevels] at hinsert
        cases hinsert
      | ok levels =>
        obtain ⟨grown, found⟩ := levels
        rw [hlevels] at hinsert
        obtain rfl : ({ grown with mode := .object } : Armature) = a₁ :=
          congrArg Prod.fst (Except.ok.inj hinsert)
        have hgrown : ∀ b ∈ grown.bones, P b := hP.insertLevels? (List.forall_mem_nil P) hlevels
        exact List.forall_mem_map.2 fun b hb => horder b (hgrown b hb)

end Armature

end RiggedScene
