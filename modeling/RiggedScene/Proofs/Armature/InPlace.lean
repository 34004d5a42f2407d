import RiggedScene.Armature.Basic

/-!
# Structural changes in place

A structural change may also be carried out in place, bone by bone, while notes go to the end of a
list. An error does not undo what has been done before it comes up.

* `InPlace` are programs of this kind, and `InPlace.insertBone`, `InPlace.insertHierarchy` and
  `InPlace.transformBone` carry the changes out;
* `InPlace.settled` is the outcome of a change that is made as a whole or, after an error, not at
  all;
* `InPlace.run_insertBone`, `InPlace.run_insertHierarchy` and `InPlace.run_transformBone` : the
  programs settle what the changes say, and so leave nothing behind when they fail;
* `Armature.insertBone?_eq_error_iff`, `Armature.insertHierarchy?_eq_error_iff` and
  `Armature.transformBone?_eq_error_iff` : when they fail, and with what error.
-/

namespace RiggedScene

/-! ### Programs -/

/-- An armature with the notes that have been taken. -/
abbrev NotedArmature := Armature × List Diagnostic

/-- Programs that change an armature and its notes in place. -/
abbrev InPlace := EStateM Error NotedArmature

namespace InPlace

/-- A program that needs edit mode. -/
def whenEditing (p : InPlace Unit) : InPlace Unit := do
  if (← get).1.mode = .object then throw .notInEditMode
  p

/-- Puts a bone in at the end, under `parent`. -/
def insertBone (s : BoneSource) (parent : Option String) : InPlace Unit :=
  whenEditing <| modify fun (a, ds) => ((a.addBone s parent).1, ds ++ (a.addBone s parent).2)

/-- Puts the sources in that are not there yet, and lists the ids of those put in. -/
def insertChildren (parent : Option String) : List BoneSource → InPlace (List String)
  | [] => return []
  | s :: ss => do
    if s.parent = Armature.childMark parent ∧ (← get).1.hasBone s.id = false then
      insertBone s parent
      let ids ← insertChildren parent ss
      return s.id :: ids
    else insertChildren parent ss

/-- Puts the children of all queued bones in, breadth first. -/
def insertLevels (sources : List BoneSource) : Nat → List (Option String) → InPlace Unit
  | 0, _ => return
  | _ + 1, [] => return
  | fuel + 1, parent :: queue => do
    let ids ← insertChildren parent sources
    insertLevels sources fuel (queue ++ ids.map some)

/-- Puts in all sources that hang from a root. -/
def insertHierarchy (sources : List BoneSource) : InPlace Unit :=
  whenEditing <| insertLevels sources (sources.length + 1) [none]

/-- Lays the bone found under a name out again. -/
def transformBone (name : String) (center tip orientation : Vec3) : InPlace Unit :=
  whenEditing do
    match (← get).1.position? name with
    | none => throw (.unknownObject name)
    | some i => modify fun (a, ds) =>
      ({ a with bones := a.bones.modify i (Armature.relaid center tip orientation) }, ds)

/-- The outcome of a change that is made as a whole, or not at all. -/
def settled (r : NotedArmature) :
    Except Error (Armature × List Diagnostic) → EStateM.Result Error NotedArmature Unit
  | .ok (a, notes) => .ok () (a, r.2 ++ notes)
  | .error e => .error e r

end InPlace

/-! ### Edit mode -/

namespace Armature

variable {a : Armature} {α : Type}

theorem whenEditing_edit (h : a.mode = .edit) (change : Except Error α) :
    a.whenEditing change = change := by
  rw [whenEditing, h]

theorem whenEditing_object (h : a.mode = .object) (change : Except Error α) :
    a.whenEditing change = .error .notInEditMode := by
  rw [whenEditing, h]

theorem whenEditing_map {β : Type} (change : Except Error α) (f : α → β) :
    (a.whenEditing change).map f = a.whenEditing (change.map f) := by
  unfold whenEditing
  cases a.mode <;> rfl

/-- A change fails for want of edit mode, or else by itself. -/
theorem whenEditing_eq_error_iff {change : Except Error α} {e : Error} :
    a.whenEditing change = .error e ↔
      a.mode = .object ∧ e = .notInEditMode ∨ a.mode = .edit ∧ change = .error e := by
  cases h : a.mode with
  | object => simp [whenEditing_object h, eq_comm]
  | edit => simp [whenEditing_edit h]

end Armature

namespace InPlace

variable {a : Armature} {ds : List Diagnostic} {p : InPlace Unit}

theorem run_whenEditing_edit (h : a.mode = .edit) :
    (whenEditing p).run (a, ds) = p.run (a, ds) := by
  simp [whenEditing, h]

theorem run_whenEditing_object (h : a.mode = .object) :
    (whenEditing p).run (a, ds) = .error .notInEditMode (a, ds) := by
  simp [whenEditing, h]

theorem run_whenEditing {change : Except Error (Armature × List Diagnostic)}
    (h : a.mode = .edit → p.run (a, ds) = settled (a, ds) change) :
    (whenEditing p).run (a, ds) = settled (a, ds) (a.whenEditing change) := by
  cases hmode : a.mode with
  | object =>
    rw [run_whenEditing_object hmode, Armature.whenEditing_object hmode]
    rfl
  | edit => rw [run_whenEditing_edit hmode, Armature.whenEditing_edit hmode, h hmode]

/-! ### Single bones -/

theorem run_insertBone (s : BoneSource) (parent : Option String) :
    (insertBone s parent).run (a, ds) = settled (a, ds) (a.insertBone? s parent) :=
  run_whenEditing fun _ => by simp [settled]

theorem run_transformBone (name : String) (center tip orientation : Vec3) :
    (transformBone name center tip orientation).run (a, ds) =
      settled (a, ds) ((a.transformBone? name center tip orientation).map fun a' => (a', [])) := by
  rw [Armature.transformBone?, Armature.whenEditing_map]
  refine run_whenEditing fun _ => ?_
  cases h : a.position? name <;> simp [Armature.modify?, h, settled, Except.map]

/-! ### Hierarchies -/

/-- The children of a bone go in without an error. -/
theorem insertChildren_edit (parent : Option String) (ss : List BoneSource) (h : a.mode = .edit) :
    ∃ a' notes ids, Armature.insertChildren? parent ss a = .ok (a', notes, ids) ∧
      a'.mode = .edit ∧
      ∀ ds, (insertChildren parent ss).run (a, ds) = .ok ids (a', ds ++ notes) := by
  induction ss generalizing a with
  | nil => exact ⟨a, [], [], rfl, h, fun ds => by simp [insertChildren]⟩
  | cons s ss ih =>
    by_cases hs : s.parent = Armature.childMark parent ∧ a.hasBone s.id = false
    · have hone : a.insertBone? s parent = .ok (a.addBone s parent) :=
        Armature.whenEditing_edit h _
      obtain ⟨a', notes, ids, hrest, hmode, hrun⟩ := ih (a := (a.addBone s parent).1) h
      refine ⟨a', (a.addBone s parent).2 ++ notes, s.id :: ids, ?_, hmode, fun ds => ?_⟩
      · simp only [Armature.insertChildren?, if_pos hs, hone, bind, Except.bind, hrest]
        rfl
      · simp [insertChildren, hs.1, hs.2, run_insertBone, hone, settled, hrun, -bind_pure_comp]
    · obtain ⟨a', notes, ids, hrest, hmode, hrun⟩ := ih h
      refine ⟨a', notes, ids, ?_, hmode, fun ds => ?_⟩
      · rw [Armature.insertChildren?, if_neg hs, hrest]
      · simp [insertChildren, hs, hrun]

/-- The queue is worked off without an error. -/
theorem insertLevels_edit (sources : List BoneSource) (fuel : Nat) (queue : List (Option String))
    (h : a.mode = .edit) :
    ∃ a' notes, Armature.insertLevels? sources fuel queue a = .ok (a', notes) ∧
      ∀ ds, (insertLevels sources fuel queue).run (a, ds) = .ok () (a', ds ++ notes) := by
  induction fuel generalizing a queue with
  | zero => exact ⟨a, [], rfl, fun ds => by simp [insertLevels]⟩
  | succ fuel ih =>
    cases queue with
    | nil => exact ⟨a, [], rfl, fun ds => by simp [insertLevels]⟩
    | cons parent queue =>
      obtain ⟨a₁, notes₁, ids, hchildren, hmode, hrun₁⟩ := insertChildren_edit parent sources h
      obtain ⟨a₂, notes₂, hlevels, hrun₂⟩ := ih (queue ++ ids.map some) hmode
      refine ⟨a₂, notes₁ ++ notes₂, ?_, fun ds => ?_⟩
      · simp only [Armature.insertLevels?, hchildren, hlevels, bind, Except.bind]
        rfl
      · simp [insertLevels, hrun₁, hrun₂]

theorem run_insertHierarchy (sources : List BoneSource) :
    (insertHierarchy sources).run (a, ds) = settled (a, ds) (a.insertHierarchy? sources) := by
  refine run_whenEditing fun h => ?_
  obtain ⟨a', notes, hlevels, hrun⟩ := insertLevels_edit sources (sources.length + 1) [none] h
  rw [hlevels, hrun]
  rfl

end InPlace

/-! ### Errors -/

namespace Armature

variable {a : Armature} {e : Error}

theorem insertBone?_eq_error_iff {s : BoneSource} {parent : Option String} :
    a.insertBone? s parent = .error e ↔ a.mode = .object ∧ e = .notInEditMode := by
  simp [insertBone?, whenEditing_eq_error_iff]

/-- In edit mode a hierarchy goes in without an error. -/
theorem insertHierarchy?_eq_error_iff {sources : List BoneSource} :
    a.insertHierarchy? sources = .error e ↔ a.mode = .object ∧ e = .notInEditMode := by
  rw [insertHierarchy?, whenEditing_eq_error_iff, or_iff_left_iff_imp]
  rintro ⟨h, hlevels⟩
  obtain ⟨a', notes, hgoes, -⟩ := InPlace.insertLevels_edit sources (sources.length + 1) [none] h
  rw [hgoes] at hlevels
  cases hlevels

theorem transformBone?_eq_error_iff {name : String} {center tip orientation : Vec3} :
    a.transformBone? name center tip orientation = .error e ↔
      a.mode = .object ∧ e = .notInEditMode ∨
        a.mode = .edit ∧ a.position? name = none ∧ e = .unknownObject name := by
  rw [transformBone?, whenEditing_eq_error_iff]
  refine or_congr_right (and_congr_right fun _ => ?_)
  cases h : a.position? name <;> simp [modify?, h, eq_comm]

end Armature

end RiggedScene
