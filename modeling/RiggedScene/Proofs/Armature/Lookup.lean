import RiggedScene.Armature.Basic
import Mathlib.Data.List.Nodup

/-!
# Looking bones up

* `Armature.position?_congr` : where a name leads depends on the names and templates only;
* `Armature.labels_of_find?` : a name leads to a bone of this name or template;
* `Armature.find?_of_mem` : in an armature that has each name once, the name of a bone leads to it.
-/

namespace RiggedScene

/-- What bones are looked up by. -/
def Bone.labels (b : Bone) : String × String := (b.name, b.templateId)

namespace Armature

/-! ### Last elements -/

section LastIdx

variable {α β : Type} {p : α → Bool} {xs : List α} {i : Nat}

theorem lastIdx?_eq_some (h : lastIdx? p xs = some i) : ∃ x, xs[i]? = some x ∧ p x = true := by
  induction xs generalizing i with
  | nil => cases h
  | cons x xs ih =>
    simp only [lastIdx?] at h
    cases hlast : lastIdx? p xs with
    | some j =>
      obtain rfl : j + 1 = i := by simpa [hlast] using h
      simpa using ih hlast
    | none =>
      obtain ⟨hx, rfl⟩ : p x = true ∧ 0 = i := by simpa [hlast] using h
      exact ⟨x, rfl, hx⟩

theorem lastIdx?_isSome {x : α} (hmem : x ∈ xs) (hx : p x = true) : (lastIdx? p xs).isSome := by
  induction xs with
  | nil => cases hmem
  | cons y ys ih =>
    simp only [lastIdx?]
    cases hlast : lastIdx? p ys with
    | some j => rfl
    | none =>
      rcases List.mem_cons.1 hmem with rfl | hys
      · simp [hx]
      · simp [hlast] at ih
        exact absurd hys ih

theorem lastIdx?_map {p : β → Bool} (f : α → β) :
    lastIdx? p (xs.map f) = lastIdx? (fun x => p (f x)) xs := by
  induction xs with
  | nil => rfl
  | cons x xs ih => simp only [List.map_cons, lastIdx?, ih]

end LastIdx

/-- A change of one element that a projection does not see. -/
theorem map_modify_of {α β : Type} (f : α → α) {g : α → β} (h : ∀ x, g (f x) = g x) (xs : List α)
    (i : Nat) : (xs.modify i f).map g = xs.map g := by
  refine List.ext_getElem? fun j => ?_
  simp only [List.getElem?_map, List.getElem?_modify]
  split
  · simp [Function.comp_def, h]
  · simp

/-- What holds of all elements still does after a change of one that keeps it. -/
theorem forall_modify {α : Type} {P : α → Prop} {f : α → α} {xs : List α} {i : Nat}
    (h : ∀ x ∈ xs, P x) (hf : ∀ x, P x → P (f x)) : ∀ x ∈ xs.modify i f, P x := by
  intro x hx
  obtain ⟨j, hj⟩ := List.getElem?_of_mem hx
  rw [List.getElem?_modify] at hj
  obtain ⟨y, hy, rfl⟩ := Option.map_eq_some_iff.1 hj
  have hold := h y (List.mem_of_getElem? hy)
  split
  · exact hf y hold
  · exact hold

/-! ### Bones by name -/

variable {a a' : Armature} {b : Bone} {i : Nat} {name : String}

theorem hasBone_iff : a.hasBone name = true ↔ name ∈ a.bones.map Bone.name := by
  simp [hasBone]

theorem position?_eq_labels : a.position? name =
    (lastIdx? (fun l => l.1 == name) (a.bones.map Bone.labels)).or
      ((a.bones.map Bone.labels).findIdx? fun l => l.2 == name) := by
  simp only [position?, lastIdx?_map, List.findIdx?_map, Function.comp_def]
  rfl

theorem position?_congr (h : a'.bones.map Bone.labels = a.bones.map Bone.labels) :
    a'.position? name = a.position? name := by
  rw [position?_eq_labels, position?_eq_labels, h]

theorem getElem?_of_position? (h : a.position? name = some i) : ∃ b, a.bones[i]? = some b := by
  unfold position? at h
  rcases Option.or_eq_some_iff.1 h with hname | ⟨-, htemplate⟩
  · obtain ⟨b, hb, -⟩ := lastIdx?_eq_some hname
    exact ⟨b, hb⟩
  · obtain ⟨hi, -⟩ := List.findIdx?_eq_some_iff_getElem.1 htemplate
    exact ⟨_, List.getElem?_eq_getElem hi⟩

/-- A name leads to a bone of this name or template. -/
theorem labels_of_find? (h : a.find? name = some b) :
    b ∈ a.bones ∧ (b.name = name ∨ b.templateId = name) := by
  obtain ⟨i, hi, hb⟩ := Option.bind_eq_some_iff.1 h
  refine ⟨List.mem_of_getElem? hb, ?_⟩
  unfold position? at hi
  rcases Option.or_eq_some_iff.1 hi with hname | ⟨-, htemplate⟩
  · obtain ⟨c, hc, hname⟩ := lastIdx?_eq_some hname
    obtain rfl : c = b := Option.some.inj (hc.symm.trans hb)
    exact .inl (beq_iff_eq.1 hname)
  · obtain ⟨hlt, htemplate, -⟩ := List.findIdx?_eq_some_iff_getElem.1 htemplate
    obtain rfl : a.bones[i] = b := Option.some.inj ((List.getElem?_eq_getElem hlt).symm.trans hb)
    exact .inr (beq_iff_eq.1 htemplate)

theorem find?_template_isSome (hb : b ∈ a.bones) : (a.find? b.templateId).isSome = true := by
  have hposition : (a.position? b.templateId).isSome = true := by
    simp only [position?, Option.isSome_or, List.findIdx?_isSome, Bool.or_eq_true]
    exact .inr (List.any_eq_true.2 ⟨b, hb, by simp⟩)
  obtain ⟨i, hi⟩ := Option.isSome_iff_exists.1 hposition
  obtain ⟨c, hc⟩ := getElem?_of_position? hi
  simp [find?, hi, hc]

/-- The last bone of a name is the only one, if each name is there once. -/
theorem lastIdx?_name (hnodup : (a.bones.map Bone.name).Nodup) (hb : a.bones[i]? = some b) :
    lastIdx? (fun c : Bone => c.name == b.name) a.bones = some i := by
  have hmem : b ∈ a.bones := List.mem_of_getElem? hb
  obtain ⟨j, hj⟩ := Option.isSome_iff_exists.1 (lastIdx?_isSome (p := fun c => c.name == b.name)
    hmem (by simp))
  obtain ⟨c, hc, hname⟩ := lastIdx?_eq_some hj
  have hlt : i < (a.bones.map Bone.name).length := by
    simpa using (List.getElem?_eq_some_iff.1 hb).1
  have hij : i = j :=
    (List.getElem?_inj hlt hnodup).1 (by simp [hb, hc, beq_iff_eq.1 hname])
  rw [hj, hij]

theorem find?_of_mem (hnodup : (a.bones.map Bone.name).Nodup) (hb : b ∈ a.bones) :
    a.find? b.name = some b := by
  obtain ⟨i, hi⟩ := List.getElem?_of_mem hb
  simp only [find?, position?, lastIdx?_name hnodup hi, Option.some_or, Option.bind_some, hi]

end Armature

end RiggedScene
