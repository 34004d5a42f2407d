import RiggedScene.Proofs.Morph.Frame

/-!
# What an application writes

An application writes values of morphs and weights of shape keys, some of them several times. The
last value that is written to a place is the one that stays.

* `MorphState.writes` carries a list of writes out;
* `MorphState.writes_writes` : what is written to places that are written again does not matter;
* `MorphState.writes_comm` : writes to different places can be carried out in either order;
* `MorphState.Written` says that a state comes from another one by some writes and notes.
-/

namespace RiggedScene

/-- A place that an application writes to. -/
inductive MorphPlace where
  | setting (morph : String)
  | weight (shapeKey : String)
  deriving DecidableEq

/-- The morph that the place belongs to. -/
def MorphPlace.name : MorphPlace → String
  | setting morph => morph
  | weight shapeKey => shapeKey

/-- A value for a place. -/
structure MorphWrite where
  place : MorphPlace
  value : Float

namespace RiggedMorph

/-- What blending a morph in writes. -/
def blendWrites (m : RiggedMorph) (value : Float) : List MorphWrite :=
  if m.hasShapeKey then [⟨.weight m.name, value⟩] else []

/-- What settling a morph writes. -/
def settleWrites (m : RiggedMorph) (value : Float) : List MorphWrite :=
  ⟨.setting m.name, value⟩ :: m.blendWrites value

variable {m m' : RiggedMorph} {value value' : Float}

theorem setting_notMem_blendWrites (name : String) :
    .setting name ∉ (m.blendWrites value).map MorphWrite.place := by
  unfold blendWrites
  split <;> simp

theorem weight_mem_blendWrites {name : String}
    (h : .weight name ∈ (m.blendWrites value).map MorphWrite.place) : name = m.name := by
  unfold blendWrites at h
  split at h
  · simpa using h
  · cases h

theorem setting_mem_settleWrites {name : String} :
    .setting name ∈ (m.settleWrites value).map MorphWrite.place ↔ name = m.name := by
  rw [settleWrites, List.map_cons, List.mem_cons, MorphPlace.setting.injEq]
  exact or_iff_left (setting_notMem_blendWrites name)

theorem blendWrites_congr (h : m'.unset = m.unset) : m'.blendWrites = m.blendWrites := by
  funext value
  rw [blendWrites, blendWrites, name_of_unset h, hasShapeKey_of_unset h]

theorem settleWrites_congr (h : m'.unset = m.unset) : m'.settleWrites = m.settleWrites := by
  funext value
  rw [settleWrites, settleWrites, name_of_unset h, blendWrites_congr h]

theorem blendWrites_places (value value' : Float) :
    (m.blendWrites value').map MorphWrite.place = (m.blendWrites value).map MorphWrite.place := by
  unfold blendWrites
  split <;> rfl

theorem settleWrites_places (value value' : Float) :
    (m.settleWrites value').map MorphWrite.place =
      (m.settleWrites value).map MorphWrite.place :=
  congrArg (MorphPlace.setting m.name :: ·) (blendWrites_places value value')

end RiggedMorph

/-! ### Values that are set twice -/

namespace MorphRig

variable (r : MorphRig) {name name' : String} {value value' : Float}

theorem setting_setting : (r.setting name value).setting name value' = r.setting name value' :=
  congrArg MorphRig.mk (Keyed.modify_modify_self fun _ => rfl)

theorem setting_comm (h : name ≠ name') : (r.setting name value).setting name' value' =
    (r.setting name' value').setting name value :=
  congrArg MorphRig.mk (Keyed.modify_comm h.symm (fun _ => rfl) fun _ => rfl)

theorem find?_setting_self :
    (r.setting name value).find? name =
      (r.find? name).map fun m => { m with setting := some value } :=
  Keyed.find?_modify_self fun _ => rfl

theorem find?_setting_of_ne (h : name ≠ name') :
    (r.setting name value).find? name' = r.find? name' :=
  Keyed.find?_modify_of_ne h fun _ => rfl

end MorphRig

namespace Mesh

variable (m : Mesh) {name name' : String} {value value' : Float}

theorem setShapeKey_setShapeKey :
    (m.setShapeKey name value).setShapeKey name value' = m.setShapeKey name value' := by
  have hkeys : ((m.setShapeKey name value).setShapeKey name value').shapeKeys =
      (m.setShapeKey name value').shapeKeys := Keyed.modify_modify_self fun _ => rfl
  exact congrArg (fun keys => { m with shapeKeys := keys }) hkeys

theorem setShapeKey_comm (h : name ≠ name') :
    (m.setShapeKey name value).setShapeKey name' value' =
      (m.setShapeKey name' value').setShapeKey name value := by
  have hkeys : ((m.setShapeKey name value).setShapeKey name' value').shapeKeys =
      ((m.setShapeKey name' value').setShapeKey name value).shapeKeys :=
    Keyed.modify_comm h.symm (fun _ => rfl) fun _ => rfl
  exact congrArg (fun keys => { m with shapeKeys := keys }) hkeys

end Mesh

namespace MorphState

/-- Carries one write out. -/
def write (s : MorphState) (w : MorphWrite) : MorphState :=
  match w.place with
  | .setting name => { s with rig := s.rig.setting name w.value }
  | .weight name => { s with mesh := s.mesh.setShapeKey name w.value }

/-- Carries writes out one after another. -/
def writes (s : MorphState) (ws : List MorphWrite) : MorphState := ws.foldl write s

variable {s s' s'' : MorphState} {ws ws' : List MorphWrite} {w w' : MorphWrite}
  {notes : List Diagnostic}

/-! ### The last write stays -/

theorem write_write_self (h : w.place = w'.place) : (s.write w).write w' = s.write w' := by
  obtain ⟨place, value⟩ := w
  obtain ⟨place', value'⟩ := w'
  obtain rfl : place = place' := h
  cases place with
  | setting name => exact congrArg (MorphState.mk · s.mesh s.notes) s.rig.setting_setting
  | weight name => exact congrArg (MorphState.mk s.rig · s.notes) s.mesh.setShapeKey_setShapeKey

theorem write_comm (h : w.place ≠ w'.place) : (s.write w).write w' = (s.write w').write w := by
  obtain ⟨place, value⟩ := w
  obtain ⟨place', value'⟩ := w'
  cases place with
  | setting name =>
    cases place' with
    | setting name' =>
      exact congrArg (MorphState.mk · s.mesh s.notes)
        (s.rig.setting_comm fun heq => h (congrArg MorphPlace.setting heq))
    | weight name' => rfl
  | weight name =>
    cases place' with
    | setting name' => rfl
    | weight name' =>
      exact congrArg (MorphState.mk s.rig · s.notes)
        (s.mesh.setShapeKey_comm fun heq => h (congrArg MorphPlace.weight heq))

/-- A write to a place that is written again does not matter. -/
theorem writes_write (h : w.place ∈ ws.map MorphWrite.place) :
    (s.write w).writes ws = s.writes ws := by
  induction ws generalizing s with
  | nil => cases h
  | cons w' ws ih =>
    change ((s.write w).write w').writes ws = (s.write w').writes ws
    by_cases heq : w.place = w'.place
    · rw [write_write_self heq]
    · rw [write_comm heq]
      exact ih (List.mem_of_ne_of_mem heq h)

/-- **What is written to places that are written again does not matter.** -/
theorem writes_writes (h : ∀ w ∈ ws', w.place ∈ ws.map MorphWrite.place) :
    (s.writes ws').writes ws = s.writes ws := by
  induction ws' generalizing s with
  | nil => rfl
  | cons w ws' ih =>
    obtain ⟨hw, hws'⟩ := List.forall_mem_cons.1 h
    change ((s.write w).writes ws').writes ws = _
    rw [ih hws', writes_write hw]

/-! ### Writes to different places -/

theorem writes_write_comm (h : ∀ w' ∈ ws, w.place ≠ w'.place) :
    (s.write w).writes ws = (s.writes ws).write w := by
  induction ws generalizing s with
  | nil => rfl
  | cons w' ws ih =>
    obtain ⟨hw, hws⟩ := List.forall_mem_cons.1 h
    change ((s.write w).write w').writes ws = ((s.write w').writes ws).write w
    rw [write_comm hw, ih hws]

/-- **Writes to different places can be carried out in either order.** -/
theorem writes_comm (h : ∀ w ∈ ws, ∀ w' ∈ ws', w.place ≠ w'.place) :
    (s.writes ws).writes ws' = (s.writes ws').writes ws := by
  induction ws generalizing s with
  | nil => rfl
  | cons w ws ih =>
    obtain ⟨hw, hws⟩ := List.forall_mem_cons.1 h
    change ((s.write w).writes ws).writes ws' = ((s.writes ws').write w).writes ws
    rw [ih hws, writes_write_comm hw]

/-! ### States that come from others by writes -/

theorem noting_writes : (s.noting notes).writes ws = (s.writes ws).noting notes := by
  induction ws generalizing s with
  | nil => rfl
  | cons w ws ih =>
    have hwrite : (s.noting notes).write w = (s.write w).noting notes := by
      unfold write
      split <;> rfl
    change ((s.noting notes).write w).writes ws = _
    rw [hwrite, ih]
    rfl

theorem writes_append : s.writes (ws ++ ws') = (s.writes ws).writes ws' := List.foldl_append

/-- The state comes from `s` by writes and notes. -/
def Written (s : MorphState) (ws : List MorphWrite) (s' : MorphState) : Prop :=
  ∃ notes, s' = (s.writes ws).noting notes

namespace Written

theorem refl (s : MorphState) : Written s [] s := ⟨[], by simp [writes, noting]⟩

theorem trans (h : Written s ws s') (h' : Written s' ws' s'') : Written s (ws ++ ws') s'' := by
  obtain ⟨notes, rfl⟩ := h
  obtain ⟨notes', rfl⟩ := h'
  refine ⟨notes ++ notes', ?_⟩
  rw [noting_writes, ← writes_append]
  simp [noting]

theorem noting (h : Written s ws s') (notes : List Diagnostic) :
    Written s ws (s'.noting notes) := by
  obtain ⟨notes', rfl⟩ := h
  exact ⟨notes' ++ notes, by simp [MorphState.noting]⟩

theorem blend (s : MorphState) (m : RiggedMorph) (value : Float) :
    Written s (m.blendWrites value) (s.blend m value) := by
  unfold MorphState.blend RiggedMorph.blendWrites
  split
  · exact ⟨[], by simp [writes, write, MorphState.noting]⟩
  · exact refl s

theorem settle (s : MorphState) (m : RiggedMorph) (value : Float) :
    Written s (m.settleWrites value) (s.settle m value) :=
  have hset : Written s [⟨.setting m.name, value⟩]
      { s with rig := s.rig.setting m.name value } :=
    ⟨[], by simp [writes, write, MorphState.noting]⟩
  hset.trans (blend _ m value)

theorem rig (h : Written s ws s') : s'.rig = (s.writes ws).rig := by
  obtain ⟨notes, rfl⟩ := h
  rfl

theorem mesh (h : Written s ws s') : s'.mesh = (s.writes ws).mesh := by
  obtain ⟨notes, rfl⟩ := h
  rfl

end Written

/-! ### What writes leave alone -/

theorem write_unset : (s.write w).rig.unset = s.rig.unset := by
  unfold write
  split
  · exact s.rig.unset_setting _ _
  · rfl

theorem writes_unset : (s.writes ws).rig.unset = s.rig.unset := by
  induction ws generalizing s with
  | nil => rfl
  | cons w ws ih => exact (ih (s := s.write w)).trans write_unset

theorem value?_write {name : String} : (s.write w).rig.value? name =
    if w.place = .setting name then (s.rig.find? name).map fun _ => w.value
    else s.rig.value? name := by
  obtain ⟨place, value⟩ := w
  cases place with
  | weight key => rfl
  | setting name' =>
    change ((s.rig.setting name' value).find? name).map RiggedMorph.value = _
    by_cases heq : name' = name
    · subst heq
      rw [MorphRig.find?_setting_self, Option.map_map, if_pos rfl]
      rfl
    · rw [MorphRig.find?_setting_of_ne _ heq, if_neg fun h => heq (MorphPlace.setting.inj h)]
      rfl

/-- A morph that is not written stays as it is. -/
theorem find?_writes {name : String} (h : .setting name ∉ ws.map MorphWrite.place) :
    (s.writes ws).rig.find? name = s.rig.find? name := by
  induction ws generalizing s with
  | nil => rfl
  | cons w ws ih =>
    obtain ⟨hw, hws⟩ := not_or.1 (mt List.mem_cons.2 h)
    refine (ih (s := s.write w) hws).trans ?_
    obtain ⟨place, value⟩ := w
    cases place with
    | weight key => rfl
    | setting name' => exact s.rig.find?_setting_of_ne fun heq => hw (congrArg _ heq.symm)

/-- A morph that is not written keeps its value. -/
theorem value?_writes {name : String} (h : .setting name ∉ ws.map MorphWrite.place) :
    (s.writes ws).rig.value? name = s.rig.value? name :=
  congrArg (Option.map RiggedMorph.value) (find?_writes h)

end MorphState

end RiggedScene
