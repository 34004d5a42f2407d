import RiggedScene.Proofs.Armature.Coherent
import RiggedScene.Proofs.Armature.Sources

/-!
# Armatures after any calls

An armature starts without bones and is changed by calls: bones are put in one by one or as a whole
hierarchy, and laid out again, all of it in edit mode. Putting in a hierarchy passes over ids that
are there and puts bones under bones that are there. Putting in a single bone looks at neither.

* `ArmatureCall` are the calls, and `ArmatureCall.runAll` is what they make of an armature;
* `ArmatureCall.OrderlyAll` says that each single bone that goes in has a new name, and no parent or
  one that is there;
* `Armature.Grounded` : names are different, parents stand before their children, every bone has a
  root above it, and the chain of transforms of a posed bone ends;
* `ArmatureCall.grounded_iff_orderly` : calls lead to a grounded armature exactly when they are
  orderly.
-/

namespace RiggedScene

/-! ### Calls -/

/-- A call that changes an armature. What `edit` holds is called in edit mode. -/
inductive ArmatureCall where
  | edit (calls : List ArmatureCall)
  | insertBone (s : BoneSource) (parent : Option String)
  | insertHierarchy (sources : List BoneSource)
  | transformBone (name : String) (center tip orientation : Vec3)

/-- The armature after a change; one that fails leaves it as it is. -/
def Armature.after {β : Type} (a : Armature) (change : Except Error (Armature × β)) : Armature :=
  match change with
  | .ok (a', _) => a'
  | .error _ => a

namespace ArmatureCall

mutual

/-- What a call makes of an armature. -/
def run : ArmatureCall → Armature → Armature
  | edit calls, a => (a.editing fun a => (runAll calls a, ())).1
  | insertBone s parent, a => a.after (a.insertBone? s parent)
  | insertHierarchy sources, a => a.after (a.insertHierarchy? sources)
  | transformBone name center tip orientation, a =>
    a.after ((a.transformBone? name center tip orientation).map fun a' => (a', ()))

/-- What calls make of an armature, one after another. -/
def runAll : List ArmatureCall → Armature → Armature
  | [], a => a
  | c :: cs, a => runAll cs (c.run a)

end

mutual

/-- Each single bone that a call puts in has a new name, and no parent or one that is there. -/
def Orderly : ArmatureCall → Armature → Prop
  | edit calls, a => OrderlyAll calls { a with mode := .edit }
  | insertBone s parent, a => a.mode = .edit → Fits a.links s.id parent
  | insertHierarchy _, _ => True
  | transformBone _ _ _ _, _ => True

/-- The same for calls one after another. -/
def OrderlyAll : List ArmatureCall → Armature → Prop
  | [], _ => True
  | c :: cs, a => c.Orderly a ∧ OrderlyAll cs (c.run a)

end

end ArmatureCall

/-! ### What calls do to the links -/

namespace Armature

variable {a a' : Armature} {parent : Option String} {notes : List Diagnostic}

theorem founded_insertBone?_iff {s : BoneSource} (hmode : a.mode = .edit) :
    Founded (a.after (a.insertBone? s parent)).links ↔
      Founded a.links ∧ Fits a.links s.id parent := by
  have hinsert : a.after (a.insertBone? s parent) = (a.addBone s parent).1 := by
    simp [after, insertBone?, whenEditing, hmode]
  rw [hinsert, addBone_links, founded_concat_iff]

theorem insertChildren?_founded {ss : List BoneSource} {ids : List String}
    (hparent : ∀ p, parent = some p → p ∈ a.links.map Prod.fst)
    (h : insertChildren? parent ss a = .ok (a', notes, ids)) :
    (Founded a'.links ↔ Founded a.links) ∧
      a'.links.map Prod.fst = a.links.map Prod.fst ++ ids := by
  induction ss generalizing a notes ids with
  | nil =>
    obtain ⟨rfl, -, rfl⟩ : a = a' ∧ [] = notes ∧ [] = ids := by simpa [insertChildren?] using h
    simp
  | cons s ss ih =>
    unfold insertChildren? at h
    split at h
    · next hs =>
      obtain ⟨⟨a₁, notes₁⟩, hone, h⟩ := exists_of_bind h
      obtain ⟨⟨a₂, notes₂, ids₂⟩, hrest, h⟩ := exists_of_bind h
      obtain ⟨rfl, -, rfl⟩ : a₂ = a' ∧ notes₁ ++ notes₂ = notes ∧ s.id :: ids₂ = ids := by
        simpa [pure, Except.pure] using h
      have hadded : a₁ = (a.addBone s parent).1 := insertBone?_eq hone
      have hnew : s.id ∉ a.links.map Prod.fst := by
        rw [links_map_fst, ← hasBone_iff, hs.2]
        exact Bool.false_ne_true
      have hnames : a₁.links.map Prod.fst = a.links.map Prod.fst ++ [s.id] := by simp [hadded]
      obtain ⟨hfounded, hgrown⟩ := ih
        (fun p hp => by rw [hnames]; exact List.mem_append_left _ (hparent p hp)) hrest
      refine ⟨?_, by rw [hgrown, hnames, List.append_assoc, List.singleton_append]⟩
      rw [hfounded, hadded, addBone_links, founded_concat_iff]
      exact and_iff_left ⟨hnew, hparent⟩
    · exact ih hparent h

theorem insertLevels?_founded {sources : List BoneSource} {fuel : Nat}
    {queue : List (Option String)}
    (hqueue : ∀ p, some p ∈ queue → p ∈ a.links.map Prod.fst)
    (h : insertLevels? sources fuel queue a = .ok (a', notes)) :
    Founded a'.links ↔ Founded a.links := by
  induction fuel generalizing a queue notes with
  | zero =>
    obtain rfl : a = a' := congrArg Prod.fst (Except.ok.inj h)
    rfl
  | succ fuel ih =>
    cases queue with
    | nil =>
      obtain rfl : a = a' := congrArg Prod.fst (Except.ok.inj h)
      rfl
    | cons parent queue =>
      obtain ⟨⟨a₁, notes₁, ids⟩, hchildren, h⟩ := exists_of_bind h
      obtain ⟨⟨a₂, notes₂⟩, hrest, h⟩ := exists_of_bind h
      obtain rfl : a₂ = a' := congrArg Prod.fst (Except.ok.inj h)
      obtain ⟨hfounded, hnames⟩ := insertChildren?_founded
        (fun p hp => hqueue p (hp ▸ List.mem_cons_self)) hchildren
      rw [ih ?_ hrest, hfounded]
      intro p hp
      rw [hnames]
      rcases List.mem_append.1 hp with hp | hp
      · exact List.mem_append_left _ (hqueue p (List.mem_cons_of_mem _ hp))
      · exact List.mem_append_right _ (by simpa using hp)

theorem founded_insertHierarchy?_iff (sources : List BoneSource) :
    Founded (a.after (a.insertHierarchy? sources)).links ↔ Founded a.links := by
  unfold after
  split
  · next a' notes hinsert =>
    unfold insertHierarchy? whenEditing at hinsert
    split at hinsert
    · exact insertLevels?_founded (by simp) hinsert
    · cases hinsert
  · rfl

theorem transformBone?_links (name : String) (center tip orientation : Vec3) :
    (a.after ((a.transformBone? name center tip orientation).map fun a' => (a', ()))).links =
      a.links := by
  unfold transformBone? whenEditing modify?
  cases a.mode with
  | object => rfl
  | edit =>
    cases a.position? name with
    | none => rfl
    | some i => exact map_modify_of (relaid center tip orientation) (fun _ => rfl) a.bones i

end Armature

namespace ArmatureCall

mutual

/-- **One call.** The links are founded after it exactly if they are so before it, and it is
orderly. -/
theorem founded_run_iff (c : ArmatureCall) (a : Armature) :
    Founded (c.run a).links ↔ Founded a.links ∧ c.Orderly a := by
  cases c with
  | edit calls => exact founded_runAll_iff calls { a with mode := .edit }
  | insertBone s parent =>
    by_cases hmode : a.mode = .edit
    · simp only [run, Orderly, hmode, forall_const, Armature.founded_insertBone?_iff hmode]
    · have hfailed : a.after (a.insertBone? s parent) = a := by
        cases hm : a.mode with
        | edit => exact absurd hm hmode
        | object => simp [Armature.after, Armature.insertBone?, Armature.whenEditing, hm]
      simp [run, Orderly, hmode, hfailed]
  | insertHierarchy sources =>
    simp [run, Orderly, Armature.founded_insertHierarchy?_iff]
  | transformBone name center tip orientation =>
    simp [run, Orderly, Armature.transformBone?_links]

theorem founded_runAll_iff (calls : List ArmatureCall) (a : Armature) :
    Founded (runAll calls a).links ↔ Founded a.links ∧ OrderlyAll calls a := by
  cases calls with
  | nil => simp [runAll, OrderlyAll]
  | cons c cs =>
    rw [runAll, OrderlyAll, founded_runAll_iff cs, founded_run_iff c, and_assoc]

end

end ArmatureCall

/-! ### Chains of parents -/

/-- A bone is `n` steps below a bone without parent. Each step looks the name of the parent up. -/
inductive Ascent (a : Armature) : Bone → Nat → Prop
  | root {b : Bone} (h : b.parent = none) : Ascent a b 0
  | up {b c : Bone} {p : String} {n : Nat} (hp : b.parent = some p) (hc : a.find? p = some c)
      (h : Ascent a c n) : Ascent a b (n + 1)

namespace Armature

variable {a : Armature} {b : Bone} {n : Nat}

theorem find?_of_link {p : String} {q : Option String} {i : Nat} (h : Founded a.links)
    (hi : a.links[i]? = some (p, q)) : ∃ c, a.bones[i]? = some c ∧ a.find? p = some c := by
  rw [links, List.getElem?_map] at hi
  obtain ⟨c, hc, hlink⟩ := Option.map_eq_some_iff.1 hi
  obtain ⟨rfl, -⟩ := Prod.mk.inj hlink
  exact ⟨c, hc, find?_of_mem (links_map_fst ▸ h.nodup) (List.mem_of_getElem? hc)⟩

/-- **A bone is not further from its root than from the beginning of the list.** -/
theorem exists_ascent (h : Founded a.links) {i : Nat} (hi : a.bones[i]? = some b) :
    ∃ n ≤ i, Ascent a b n := by
  induction i using Nat.strongRecOn generalizing b with
  | ind i ih =>
    cases hp : b.parent with
    | none => exact ⟨0, Nat.zero_le i, .root hp⟩
    | some p =>
      have hlink : a.links[i]? = some (b.name, some p) := by
        simp [links, hi, Bone.link, hp]
      obtain ⟨j, hj, q, hq⟩ := h.parent_before i b.name p hlink
      obtain ⟨c, hc, hfind⟩ := find?_of_link h hq
      obtain ⟨n, hn, hascent⟩ := ih j hj hc
      exact ⟨n + 1, by omega, .up hp hfind hascent⟩

theorem posedFrom_root {name : String} {fuel : Nat} (hb : a.find? name = some b)
    (hp : b.parent = none) :
    a.posedFrom (fuel + 1) name = some (b.restMatrix.mul b.pose.matrix) := by
  simp [posedFrom, hb, hp]

theorem posedFrom_up {name p : String} {c : Bone} {fuel : Nat} (hb : a.find? name = some b)
    (hp : b.parent = some p) (hc : a.find? p = some c) :
    a.posedFrom (fuel + 1) name = (a.posedFrom fuel c.name).map fun posed =>
      (posed.mul c.restMatrix.inverse).mul (b.restMatrix.mul b.pose.matrix) := by
  simp only [posedFrom, hb, hp, hc, Option.bind_some, bind, pure]
  cases a.posedFrom fuel c.name <;> rfl

theorem posedFrom_of_ascent (hnodup : (a.bones.map Bone.name).Nodup) (h : Ascent a b n)
    {name : String} (hb : a.find? name = some b) (extra : Nat) :
    (a.posedFrom (n + 1 + extra) name).isSome = true ∧
      a.posedFrom (n + 1 + extra) name = a.posedFrom (n + 1) name := by
  induction h generalizing name with
  | root hp =>
    rw [Nat.add_right_comm, posedFrom_root hb hp, posedFrom_root hb hp]
    exact ⟨rfl, rfl⟩
  | @up b c p n hp hc _ ih =>
    have hself : a.find? c.name = some c := find?_of_mem hnodup (labels_of_find? hc).1
    obtain ⟨hsome, hsame⟩ := ih hself
    rw [Nat.add_right_comm, posedFrom_up hb hp hc, posedFrom_up hb hp hc, hsame]
    exact ⟨by rwa [Option.isSome_map, ← hsame], rfl⟩

theorem endless_of_own_parent (hb : a.find? b.name = some b) (hp : b.parent = some b.name) :
    (∀ n, ¬ Ascent a b n) ∧ ∀ fuel, a.posedFrom fuel b.name = none := by
  constructor
  · intro n
    induction n with
    | zero =>
      intro h
      cases h with
      | root hroot => cases hp.symm.trans hroot
    | succ n ih =>
      intro h
      cases h with
      | up hp' hc hup =>
        obtain rfl := Option.some.inj (hp.symm.trans hp')
        obtain rfl := Option.some.inj (hb.symm.trans hc)
        exact ih hup
  · intro fuel
    induction fuel with
    | zero => rfl
    | succ fuel ih => rw [posedFrom_up hb hp hb, ih, Option.map_none]

/-! ### Grounded armatures -/

/-- The bones of an armature have different names and stand behind their parents. So there are fewer
steps to the root of a bone than there are bones, and the chain of transforms of a posed bone ends
before it has passed more bones than there are. -/
structure Grounded (a : Armature) : Prop where
  nodup : (a.bones.map Bone.name).Nodup
  parent_before : ∀ (j : Nat) (b : Bone) (p : String), a.bones[j]? = some b → b.parent = some p →
    ∃ i < j, ∃ c, a.bones[i]? = some c ∧ c.name = p
  ascends : ∀ b ∈ a.bones, ∃ n < a.bones.length, Ascent a b n
  posed : ∀ (name : String) (fuel : Nat), a.bones.length ≤ fuel →
    (a.posedFrom fuel name).isSome = (a.find? name).isSome ∧
      a.posedFrom fuel name = a.posed? name

theorem Grounded.founded (h : a.Grounded) : Founded a.links where
  nodup := links_map_fst ▸ h.nodup
  parent_before j name p hj := by
    rw [links, List.getElem?_map] at hj
    obtain ⟨b, hb, hlink⟩ := Option.map_eq_some_iff.1 hj
    obtain ⟨-, hp⟩ := Prod.mk.inj hlink
    obtain ⟨i, hi, c, hc, rfl⟩ := h.parent_before j b p hb hp
    exact ⟨i, hi, c.parent, by simp [links, hc, Bone.link]⟩

/-- **Founded links make an armature grounded.** -/
theorem grounded_of_founded (h : Founded a.links) : a.Grounded := by
  have hnodup : (a.bones.map Bone.name).Nodup := links_map_fst ▸ h.nodup
  have hascends : ∀ b ∈ a.bones, ∃ n < a.bones.length, Ascent a b n := by
    intro b hb
    obtain ⟨i, hi⟩ := List.getElem?_of_mem hb
    obtain ⟨n, hn, hascent⟩ := exists_ascent h hi
    have hlt : i < a.bones.length := (List.getElem?_eq_some_iff.1 hi).1
    exact ⟨n, by omega, hascent⟩
  refine ⟨hnodup, ?_, hascends, ?_⟩
  · intro j b p hb hp
    have hlink : a.links[j]? = some (b.name, some p) := by simp [links, hb, Bone.link, hp]
    obtain ⟨i, hi, q, hq⟩ := h.parent_before j b.name p hlink
    obtain ⟨c, hc, -⟩ := find?_of_link h hq
    have hname : a.links[i]? = some (c.name, c.parent) := by simp [links, hc, Bone.link]
    exact ⟨i, hi, c, hc, congrArg Prod.fst (Option.some.inj (hname.symm.trans hq))⟩
  · intro name fuel hfuel
    cases hb : a.find? name with
    | none => cases fuel <;> simp [posed?, posedFrom, hb]
    | some b =>
      obtain ⟨n, hn, hascent⟩ := hascends b (labels_of_find? hb).1
      have hends : ∀ room, a.bones.length ≤ room →
          (a.posedFrom room name).isSome = true ∧
            a.posedFrom room name = a.posedFrom (n + 1) name := by
        intro room hroom
        obtain ⟨extra, rfl⟩ := Nat.exists_eq_add_of_le (show n + 1 ≤ room by omega)
        exact posedFrom_of_ascent hnodup hascent hb extra
      obtain ⟨hsome, hsame⟩ := hends fuel hfuel
      exact ⟨hsome, hsame.trans (hends _ (Nat.le_succ _)).2.symm⟩

end Armature

/-- **Calls lead to a grounded armature exactly when they are orderly.** The names of the bones are
different, parents stand before their children, following parents reaches a root in fewer steps
than there are bones, and every bone that is found has a posed transform. Hierarchies, edits and
bones that are laid out again keep this in any case. A single bone keeps it only if its name is new
and its parent is there. -/
theorem ArmatureCall.grounded_iff_orderly (name : String) (calls : List ArmatureCall) :
    (runAll calls (Armature.empty name)).Grounded ↔ OrderlyAll calls (Armature.empty name) := by
  have hrun := founded_runAll_iff calls (Armature.empty name)
  have hempty : Founded (Armature.empty name).links := founded_nil
  constructor
  · intro h
    exact (hrun.1 h.founded).2
  · intro h
    exact Armature.grounded_of_founded (hrun.2 ⟨hempty, h⟩)

/-- A hip without a node of its own. -/
def hipSource : BoneSource := ⟨"hip", "hip", none, default⟩

/-- **Bones that are put in one by one may be ungrounded.** The same bone goes in twice, and a bone
goes in under itself, so that its chain of transforms has no end. -/
theorem ArmatureCall.exists_ungrounded :
    (∃ calls : List ArmatureCall,
      ((runAll calls (Armature.empty "rig")).bones.map Bone.name) = ["hip", "hip"]) ∧
    ∃ (calls : List ArmatureCall) (b : Bone),
      (runAll calls (Armature.empty "rig")).bones = [b] ∧ b.parent = some b.name ∧
      (∀ n, ¬ Ascent (runAll calls (Armature.empty "rig")) b n) ∧
      ((runAll calls (Armature.empty "rig")).find? b.name).isSome = true ∧
      ∀ fuel, (runAll calls (Armature.empty "rig")).posedFrom fuel b.name = none := by
  refine ⟨⟨[.edit [.insertBone hipSource none, .insertBone hipSource none]], rfl⟩,
    [.edit [.insertBone hipSource (some "hip")]], _, rfl, rfl, ?_⟩
  have hfind : (runAll [.edit [.insertBone hipSource (some "hip")]] (Armature.empty "rig")).find?
      (Armature.makeBone hipSource (some "hip") false).name =
        some (Armature.makeBone hipSource (some "hip") false) := rfl
  obtain ⟨hascent, hposed⟩ := Armature.endless_of_own_parent hfind rfl
  exact ⟨hascent, rfl, hposed⟩

end RiggedScene
