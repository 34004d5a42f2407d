import RiggedScene.Proofs.Armature.Lookup
import Mathlib.Data.List.Nodup

/-!
# Armatures whose bones fit together

* `Armature.links` are the names of the bones with those of their parents, and `Depth` is how deep
  a bone is among them;
* `Founded` : each name is there once, behind that of its parent, and `founded_concat_iff` is what one
  more link takes;
* `Armature.Coherent` says that each name is there once, behind that of its parent, and that a bone
  lists its children as they were put in;
* `Armature.Coherent.addBone` : a bone of a new name under a bone that is there keeps this.
-/

namespace RiggedScene

/-- The name of a bone and that of its parent. -/
abbrev BoneLink := String × Option String

/-- The name of a bone and that of its parent. -/
def Bone.link (b : Bone) : BoneLink := (b.name, b.parent)

/-- The depth of a bone in a list of links. What roots hang from has depth zero, and a bone is one
deeper than its parent. -/
inductive Depth (links : List BoneLink) : Option String → Nat → Prop
  | top : Depth links none 0
  | under {name : String} {parent : Option String} {n : Nat} (h : (name, parent) ∈ links)
      (hp : Depth links parent n) : Depth links (some name) (n + 1)

namespace Depth

variable {links links' : List BoneLink} {x y z : Option String} {m n : Nat}

theorem mono (hsub : ∀ l ∈ links, l ∈ links') (h : Depth links x n) : Depth links' x n := by
  induction h with
  | top => exact .top
  | under hl _ ih => exact .under (hsub _ hl) ih

/-- Where each name has one parent, it has one depth. -/
theorem unique (hnodup : (links.map Prod.fst).Nodup) (hm : Depth links x m)
    (hn : Depth links x n) : m = n := by
  induction hm generalizing n with
  | top =>
    cases hn
    rfl
  | under hl _ ih =>
    cases hn with
    | under hl' hn =>
      have hparent := List.inj_on_of_nodup_map hnodup hl hl' rfl
      simp only [Prod.mk.injEq, true_and] at hparent
      rw [ih (hparent ▸ hn)]

end Depth

/-! ### Founded links -/

/-- The name is new, and the parent is there if there is one. -/
def Fits (links : List BoneLink) (name : String) (parent : Option String) : Prop :=
  name ∉ links.map Prod.fst ∧ ∀ p, parent = some p → p ∈ links.map Prod.fst

/-- Each name is there once, behind that of its parent. -/
structure Founded (links : List BoneLink) : Prop where
  nodup : (links.map Prod.fst).Nodup
  parent_before : ∀ (j : Nat) (name p : String), links[j]? = some (name, some p) →
    ∃ i < j, ∃ q, links[i]? = some (p, q)

theorem founded_nil : Founded [] := ⟨List.nodup_nil, nofun⟩

/-- **Links are founded exactly if they are so without the last one, and that one fits.** -/
theorem founded_concat_iff {links : List BoneLink} {name : String} {parent : Option String} :
    Founded (links ++ [(name, parent)]) ↔ Founded links ∧ Fits links name parent := by
  constructor
  · intro h
    have hnodup := h.nodup
    rw [List.map_append, List.nodup_append] at hnodup
    obtain ⟨hbefore, -, hnew⟩ := hnodup
    refine ⟨⟨hbefore, ?_⟩, fun hmem => hnew name hmem name (by simp) rfl, ?_⟩
    · intro j x p hj
      have hlt : j < links.length := (List.getElem?_eq_some_iff.1 hj).1
      obtain ⟨i, hi, q, hq⟩ := h.parent_before j x p (by rwa [List.getElem?_append_left hlt])
      exact ⟨i, hi, q, by rwa [List.getElem?_append_left (by omega)] at hq⟩
    · rintro p rfl
      obtain ⟨i, hi, q, hq⟩ := h.parent_before links.length name p (by simp)
      rw [List.getElem?_append_left hi] at hq
      exact List.mem_map_of_mem (List.mem_of_getElem? hq)
  · rintro ⟨h, hnew, hparent⟩
    refine ⟨?_, ?_⟩
    · rw [List.map_append, List.nodup_append]
      refine ⟨h.nodup, List.nodup_singleton name, ?_⟩
      intro x hx y hy hxy
      obtain rfl : y = name := List.mem_singleton.1 hy
      exact hnew (hxy ▸ hx)
    · intro j x p hj
      rcases Nat.lt_or_ge j links.length with hlt | hge
      · rw [List.getElem?_append_left hlt] at hj
        obtain ⟨i, hi, q, hq⟩ := h.parent_before j x p hj
        exact ⟨i, hi, q, by rwa [List.getElem?_append_left (by omega)]⟩
      · -- the new link is the last one, and its parent is among those before
        rw [List.getElem?_append_right hge, List.getElem?_singleton] at hj
        split at hj
        · obtain ⟨rfl, rfl⟩ : name = x ∧ parent = some p := by simpa using hj
          obtain ⟨l, hl, rfl⟩ := List.mem_map.1 (hparent p rfl)
          obtain ⟨i, hi⟩ := List.getElem?_of_mem hl
          have hlt : i < links.length := (List.getElem?_eq_some_iff.1 hi).1
          exact ⟨i, by omega, l.2, by rwa [List.getElem?_append_left hlt]⟩
        · cases hj

namespace Armature

/-- The links of all bones in order. -/
def links (a : Armature) : List BoneLink := a.bones.map Bone.link

/-- Names, parents and children of the bones fit together. -/
structure Coherent (a : Armature) : Prop where
  nodup : (a.bones.map Bone.name).Nodup
  parent_before : ∀ (j : Nat) (name p : String), a.links[j]? = some (name, some p) →
    ∃ i < j, ∃ q, a.links[i]? = some (p, q)
  children : ∀ b ∈ a.bones,
    b.children = (a.links.filter fun l => l.2 = some b.name).map Prod.fst

variable {a : Armature} {s : BoneSource} {parent : Option String}

theorem links_map_fst : a.links.map Prod.fst = a.bones.map Bone.name := by
  simp [links, Bone.link, Function.comp_def]

theorem exists_link {name : String} (h : name ∈ a.bones.map Bone.name) :
    ∃ parent, (name, parent) ∈ a.links := by
  obtain ⟨b, hb, rfl⟩ := List.mem_map.1 h
  exact ⟨b.parent, List.mem_map.2 ⟨b, hb, rfl⟩⟩

theorem name_mem_of_link {name : String} (h : (name, parent) ∈ a.links) :
    name ∈ a.bones.map Bone.name := by
  rw [← links_map_fst]
  exact List.mem_map_of_mem h

theorem Coherent.founded (h : a.Coherent) : Founded a.links :=
  ⟨links_map_fst ▸ h.nodup, h.parent_before⟩

theorem Coherent.parent_mem (h : a.Coherent) {name p : String} (hl : (name, some p) ∈ a.links) :
    p ∈ a.bones.map Bone.name := by
  obtain ⟨j, hj⟩ := List.getElem?_of_mem hl
  obtain ⟨i, -, q, hq⟩ := h.parent_before j name p hj
  exact name_mem_of_link (List.mem_of_getElem? hq)

/-! ### Adding one bone -/

@[simp] theorem addBone_mode : (a.addBone s parent).1.mode = a.mode := rfl

@[simp] theorem addBone_links : (a.addBone s parent).1.links = a.links ++ [(s.id, parent)] := by
  simp only [links, addBone, List.map_append, List.map_cons, List.map_nil]
  congr 1
  split
  · exact map_modify_of (Bone.withChild s.id) (fun _ => rfl) _ _
  · rfl

theorem addBone_names :
    (a.addBone s parent).1.bones.map Bone.name = a.bones.map Bone.name ++ [s.id] := by
  simp [← links_map_fst]

/-- The bones after adding one: the new one, and those from before, where the parent has got a
child. -/
theorem mem_addBone {b : Bone} (hnodup : (a.bones.map Bone.name).Nodup)
    (hparent : ∀ p, parent = some p → p ∈ a.bones.map Bone.name)
    (hb : b ∈ (a.addBone s parent).1.bones) :
    (b.name = s.id ∧ b.children = []) ∨ ∃ c ∈ a.bones, b.name = c.name ∧
      b.children = c.children ++ if parent = some c.name then [s.id] else [] := by
  simp only [addBone, List.mem_append, List.mem_singleton] at hb
  rcases hb with hold | rfl
  · refine .inr ?_
    cases hplace : a.parentPosition? parent with
    | none =>
      simp only [hplace] at hold
      refine ⟨b, hold, rfl, ?_⟩
      cases parent with
      | none => simp
      | some p =>
        obtain ⟨c, hc, hname⟩ := List.mem_map.1 (hparent p rfl)
        have hsome := lastIdx?_isSome (p := fun c : Bone => c.name == p) hc (by simp [hname])
        simp [show lastIdx? (fun c : Bone => c.name == p) a.bones = none from hplace] at hsome
    | some i =>
      simp only [hplace] at hold
      obtain ⟨p, rfl, hi⟩ := Option.bind_eq_some_iff.1 hplace
      obtain ⟨c, hc, hname⟩ := lastIdx?_eq_some hi
      obtain ⟨j, hj⟩ := List.getElem?_of_mem hold
      rw [List.getElem?_modify] at hj
      split at hj
      · next hij =>
        obtain rfl : c.withChild s.id = b := by simpa [← hij, hc] using hj
        exact ⟨c, List.mem_of_getElem? hc, rfl, by simp [Bone.withChild, beq_iff_eq.1 hname]⟩
      · next hij =>
        replace hj : a.bones[j]? = some b := by simpa using hj
        refine ⟨b, List.mem_of_getElem? hj, rfl, ?_⟩
        -- another bone of the parent's name would stand at its place
        have hne : p ≠ b.name := fun hp =>
          hij (Option.some.inj (hi.symm.trans (hp ▸ lastIdx?_name hnodup hj)))
        simp [hne]
  · exact .inl ⟨rfl, rfl⟩

theorem Coherent.addBone (h : a.Coherent) (hnew : s.id ∉ a.bones.map Bone.name)
    (hparent : ∀ p, parent = some p → p ∈ a.bones.map Bone.name) :
    (a.addBone s parent).1.Coherent := by
  have hfits : Fits a.links s.id parent := by
    rw [Fits, links_map_fst]
    exact ⟨hnew, hparent⟩
  have hfounded : Founded (a.addBone s parent).1.links := by
    rw [addBone_links]
    exact founded_concat_iff.2 ⟨h.founded, hfits⟩
  refine ⟨links_map_fst ▸ hfounded.nodup, hfounded.parent_before, ?_⟩
  · intro b hb
    rw [addBone_links, List.filter_append, List.map_append]
    rcases mem_addBone h.nodup hparent hb with ⟨hname, hchildren⟩ | ⟨c, hc, hname, hchildren⟩
    · -- no bone hangs from the new one, since its name is new
      have hnone : ∀ l ∈ a.links, ¬ l.2 = some s.id := by
        rintro ⟨name, p⟩ hl rfl
        exact hnew (h.parent_mem hl)
      have hself : ¬ parent = some s.id := fun hp => hnew (hparent _ hp)
      simpa [hname, hchildren, hself] using hnone
    · rw [hname, hchildren, h.children c hc]
      congr 1
      by_cases hp : parent = some c.name <;> simp [hp]

/-! ### Depth and orders of poses -/

theorem withPoseOrders_links : a.withPoseOrders.links = a.links := by
  simp only [links, withPoseOrders, List.map_map]
  rfl

namespace Coherent

theorem exists_depth (h : a.Coherent) {name : String} (hl : (name, parent) ∈ a.links) :
    ∃ n, Depth a.links (some name) n := by
  obtain ⟨j, hj⟩ := List.getElem?_of_mem hl
  -- along the places of the links, since parents stand before their children
  induction j using Nat.strongRecOn generalizing name parent with
  | ind j ih =>
    cases parent with
    | none => exact ⟨1, .under hl .top⟩
    | some p =>
      obtain ⟨i, hi, q, hq⟩ := h.parent_before j name p hj
      obtain ⟨n, hn⟩ := ih i hi (List.mem_of_getElem? hq) hq
      exact ⟨n + 1, .under hl hn⟩

/-- Orders of poses are not part of the hierarchy. -/
theorem withPoseOrders (h : a.Coherent) : a.withPoseOrders.Coherent := by
  refine ⟨?_, ?_, ?_⟩
  · rw [← links_map_fst, withPoseOrders_links, links_map_fst]
    exact h.nodup
  · rw [withPoseOrders_links]
    exact h.parent_before
  · rw [withPoseOrders_links]
    exact List.forall_mem_map.2 h.children

theorem links_nodup (h : a.Coherent) : (a.links.map Prod.fst).Nodup := h.founded.nodup

theorem children_nodup (h : a.Coherent) {b : Bone} (hb : b ∈ a.bones) : b.children.Nodup := by
  rw [h.children b hb]
  exact h.links_nodup.sublist (List.filter_sublist.map _)

end Coherent

end Armature

end RiggedScene
