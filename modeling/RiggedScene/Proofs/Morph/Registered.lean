import RiggedScene.Proofs.Morph.DriveGraph
import RiggedScene.Proofs.Morph.Writes
import Mathlib.Data.List.Nodup

/-!
# Shape keys of registered morphs

The value of a morph is kept twice: with the morph, and as the weight of its shape key. Both are
written when a morph is registered, when it is set or driven, and when a change is undone.

* `MorphState.Maintained` is a property that the changes of an application keep, for the morphs that
  the rig holds, and `MorphRig.apply_maintained` carries it through a whole application;
* `MorphState.Paired` : the shape keys have different names, every registered morph with a shape key
  finds it, and its weight is the value, unless a formula of the morph names the morph itself;
* `RigCall.paired_run` : this is so after any registrations and changes of sliders.
-/

namespace RiggedScene

/-- A formula of the morph names the morph itself. -/
def RiggedMorph.NamesItself (m : RiggedMorph) : Prop :=
  ∃ f ∈ m.formulas, ∃ u, Reference.parse? f.output = some u ∧ u.assetId = m.name

/-! ### Applications of morphs that the rig holds -/

/-- The property is kept when a morph of the rig is settled, when one that names itself is blended
in, and when notes are added. -/
structure MorphState.Maintained (P : MorphState → Prop) : Prop where
  settle : ∀ {s : MorphState} {m : RiggedMorph} (value : Float), P s → s.rig.Holds m →
    P (s.settle m value)
  blend : ∀ {s : MorphState} {m : RiggedMorph} (value : Float), P s → s.rig.Holds m →
    m.NamesItself → P (s.blend m value)
  noting : ∀ {s : MorphState} (notes : List Diagnostic), P s → P (s.noting notes)

namespace MorphRig

open MorphState (Maintained)

variable {P : MorphState → Prop} {app : Application} {self : RiggedMorph} {s : MorphState}

theorem deliver_maintained (hP : Maintained P)
    (happ : ∀ m value (s : MorphState), s.rig.Holds m → P s → P (app m value s).1)
    (hself : s.rig.Holds self) {o : Output Float} (ho : ∃ f ∈ self.formulas, f.output = o.target)
    (h : P s) : P (deliver app self o s).1 := by
  unfold deliver
  cases ht : s.rig.target? o.target with
  | none => exact h
  | some t =>
    obtain ⟨u, hu, hfind⟩ := target?_eq_some_iff.1 ht
    dsimp only
    split
    · next hname =>
      obtain ⟨f, hf, houtput⟩ := ho
      have hasset : u.assetId = self.name := (Keyed.key_of_find? hfind).symm.trans hname
      exact hP.blend o.value h hself ⟨f, hf, u, houtput ▸ hu, hasset⟩
    · exact happ t o.value s (holds_of_find? hfind) h

theorem propagate_maintained (hP : Maintained P)
    (happ : ∀ m value (s : MorphState), s.rig.Holds m → P s → P (app m value s).1)
    (hframe : ∀ m value (s : MorphState), s.Frame (app m value s).1) (hself : s.rig.Holds self)
    {os : List (Output Float)} (hos : ∀ o ∈ os, ∃ f ∈ self.formulas, f.output = o.target)
    (h : P s) : P (propagate app self os s).1 := by
  induction os generalizing s with
  | nil => exact h
  | cons o os ih =>
    obtain ⟨ho, hos⟩ := List.forall_mem_cons.1 hos
    have hfirst := deliver_maintained hP happ hself ho h
    have hunset := (deliver_kept MorphState.Frame.kept hframe self o s).rig
    simp only [propagate]
    generalize deliver app self o s = first at hfirst hunset ⊢
    obtain ⟨s', e | here⟩ := first
    · exact hfirst
    · have hrest := ih (hself.congr hunset.symm) hos hfirst
      dsimp only
      generalize propagate app self os s' = rest at hrest ⊢
      obtain ⟨s'', e | later⟩ := rest <;> exact hrest

/-- **A property that the changes for the morphs of the rig keep is kept by a whole application**,
whether it goes through or meets a cycle. -/
theorem apply_maintained (hP : Maintained P) (room : Nat) (applying : List String) (m : RiggedMorph)
    (value : Float) (s : MorphState) (hm : s.rig.Holds m) (h : P s) :
    P (apply room applying m value s).1 := by
  induction room generalizing applying m value s with
  | zero => exact h
  | succ room ih =>
    by_cases hmem : m.name ∈ applying
    · rw [apply_of_mem hmem]
      exact h
    · rw [apply_of_notMem hmem]
      have hsettle : (s.settle m value).rig.unset = s.rig.unset :=
        (MorphState.Frame.settle s m value).rig
      have hholds : (enter m value s).rig.Holds m := hm.congr hsettle.symm
      refine propagate_maintained hP (ih _) (apply_frame room _) hholds (fun o ho => ?_)
        (hP.noting _ (hP.settle value h hm))
      obtain ⟨f, hf, e, -, rfl⟩ := mem_evaluate.1 ho
      exact ⟨f, hf, rfl⟩

end MorphRig

/-! ### Shape keys by name -/

namespace Mesh

variable (m : Mesh) {name name' : String} {value : Float}

theorem shapeKey?_eq_find? : m.shapeKey? name = Keyed.find? ShapeKey.name name m.shapeKeys := by
  simp only [shapeKey?, Keyed.find?, beq_eq_decide]

theorem shapeKey?_setShapeKey_self : (m.setShapeKey name value).shapeKey? name =
    (m.shapeKey? name).map fun k => { k with value := value } := by
  rw [shapeKey?_eq_find?, shapeKey?_eq_find?]
  exact Keyed.find?_modify_self fun _ => rfl

theorem shapeKey?_setShapeKey_of_ne (h : name ≠ name') :
    (m.setShapeKey name value).shapeKey? name' = m.shapeKey? name' := by
  rw [shapeKey?_eq_find?, shapeKey?_eq_find?]
  exact Keyed.find?_modify_of_ne h fun _ => rfl

theorem names_setShapeKey :
    (m.setShapeKey name value).shapeKeys.map ShapeKey.name = m.shapeKeys.map ShapeKey.name :=
  Keyed.map_modify fun _ => rfl

theorem nodup_keysWithBasis (h : (m.shapeKeys.map ShapeKey.name).Nodup) :
    (m.keysWithBasis.map ShapeKey.name).Nodup := by
  unfold keysWithBasis
  split
  · exact List.nodup_singleton basisName
  · exact h

/-- A shape key that is added has a name of its own. -/
theorem nodup_addShapeKey (deltas : List VertexDelta) (h : (m.shapeKeys.map ShapeKey.name).Nodup) :
    ((m.addShapeKey name deltas).shapeKeys.map ShapeKey.name).Nodup := by
  have hothers : ((m.keysWithBasis.filter fun k => k.name != name).map ShapeKey.name).Nodup :=
    (m.nodup_keysWithBasis h).sublist (List.filter_sublist.map ShapeKey.name)
  simp only [addShapeKey, List.map_append, List.map_cons, List.map_nil]
  refine List.nodup_append.2 ⟨hothers, List.nodup_singleton name, ?_⟩
  intro x hx y hy
  obtain ⟨k, hk, rfl⟩ := List.mem_map.1 hx
  obtain rfl := List.mem_singleton.1 hy
  simpa using (List.mem_filter.1 hk).2

/-- It is found under its name, blended out. -/
theorem shapeKey?_addShapeKey_self (name : String) (deltas : List VertexDelta) :
    ∃ k, (m.addShapeKey name deltas).shapeKey? name = some k ∧ k.value = 0.0 := by
  have hothers :
      (m.keysWithBasis.filter fun k => k.name != name).find? (·.name == name) = none := by
    refine List.find?_eq_none.2 fun k hk => ?_
    simpa using (List.mem_filter.1 hk).2
  refine ⟨⟨name, deltas.foldl moved m.positions, 0.0⟩, ?_, rfl⟩
  simp [shapeKey?, addShapeKey, List.find?_append, hothers]

theorem shapeKey?_addShapeKey_of_ne (deltas : List VertexDelta) (h : name ≠ name') {k : ShapeKey}
    (hk : m.shapeKey? name' = some k) : (m.addShapeKey name deltas).shapeKey? name' = some k := by
  have hne : m.shapeKeys ≠ [] := fun hnil => by simp [shapeKey?, hnil] at hk
  have hkeys : m.keysWithBasis = m.shapeKeys := by simp [keysWithBasis, hne]
  have hfilter : (m.shapeKeys.filter fun k => k.name != name).find? (·.name == name') =
      m.shapeKeys.find? (·.name == name') := by
    rw [List.find?_filter]
    congr 1
    funext k
    by_cases hname : k.name = name' <;> simp [hname, Ne.symm h]
  unfold shapeKey? at hk ⊢
  simp only [addShapeKey, hkeys, List.find?_append, hfilter, hk, Option.some_or]

end Mesh

/-! ### Values and weights -/

theorem RiggedMorph.namesItself_of_unset {m m' : RiggedMorph} (h : m'.unset = m.unset) :
    m'.NamesItself ↔ m.NamesItself := by
  simp only [NamesItself, name_of_unset h, formulas_of_unset h]

namespace MorphState

section Blend

variable (s : MorphState) (m : RiggedMorph) (value : Float) {name : String}

@[simp] theorem blend_names : (s.blend m value).mesh.shapeKeys.map ShapeKey.name =
    s.mesh.shapeKeys.map ShapeKey.name := by
  unfold blend
  split
  · exact s.mesh.names_setShapeKey
  · rfl

theorem blend_shapeKey?_self (h : m.hasShapeKey = true) :
    (s.blend m value).mesh.shapeKey? m.name =
      (s.mesh.shapeKey? m.name).map fun k => { k with value := value } := by
  rw [blend, if_pos h]
  exact s.mesh.shapeKey?_setShapeKey_self

theorem blend_shapeKey?_of_ne (h : m.name ≠ name) :
    (s.blend m value).mesh.shapeKey? name = s.mesh.shapeKey? name := by
  unfold blend
  split
  · exact s.mesh.shapeKey?_setShapeKey_of_ne h
  · rfl

end Blend

/-- Shape keys and morphs have names of their own, and every morph with a shape key finds it, with
its value as the weight. -/
structure Paired (s : MorphState) : Prop where
  morphs : (s.rig.morphs.map RiggedMorph.name).Nodup
  keys : (s.mesh.shapeKeys.map ShapeKey.name).Nodup
  key : ∀ {name m}, s.rig.find? name = some m → m.hasShapeKey = true →
    ∃ k, s.mesh.shapeKey? name = some k ∧ (¬ m.NamesItself → k.value = m.value)

namespace Paired

variable {s : MorphState} {m : RiggedMorph}

theorem noting (h : s.Paired) (notes : List Diagnostic) : (s.noting notes).Paired :=
  ⟨h.morphs, h.keys, h.key⟩

/-- The weight of a morph that names itself does not matter. -/
theorem blend (h : s.Paired) (hm : s.rig.Holds m) (hself : m.NamesItself) (value : Float) :
    (s.blend m value).Paired := by
  refine ⟨by simpa using h.morphs, by simpa using h.keys, fun {name m'} hfind hkey => ?_⟩
  rw [blend_rig] at hfind
  obtain ⟨k, hk, hvalue⟩ := h.key hfind hkey
  by_cases hname : m.name = name
  · subst hname
    obtain ⟨m'', hm'', hunset⟩ := hm.exists_find?
    obtain rfl : m' = m'' := Option.some.inj (hfind.symm.trans hm'')
    have hhas : m.hasShapeKey = true := (RiggedMorph.hasShapeKey_of_unset hunset).symm.trans hkey
    refine ⟨{ k with value := value }, by rw [blend_shapeKey?_self _ _ _ hhas, hk]; rfl, ?_⟩
    exact fun hnot => absurd ((RiggedMorph.namesItself_of_unset hunset).2 hself) hnot
  · exact ⟨k, by rw [blend_shapeKey?_of_ne _ _ _ hname, hk], hvalue⟩

/-- Value and weight are set together. -/
theorem settle (h : s.Paired) (hm : s.rig.Holds m) (value : Float) : (s.settle m value).Paired := by
  have hnames : (s.rig.setting m.name value).morphs.map RiggedMorph.name =
      s.rig.morphs.map RiggedMorph.name := Keyed.map_modify fun _ => rfl
  unfold MorphState.settle
  refine ⟨by simpa [hnames] using h.morphs, by simpa using h.keys, fun {name m'} hfind hkey => ?_⟩
  rw [blend_rig] at hfind
  by_cases hname : m.name = name
  · subst hname
    obtain ⟨m'', hm'', hunset⟩ := hm.exists_find?
    obtain rfl : { m'' with setting := some value } = m' := by
      rw [MorphRig.find?_setting_self, hm''] at hfind
      exact Option.some.inj hfind
    have hhas : m.hasShapeKey = true := (RiggedMorph.hasShapeKey_of_unset hunset).symm.trans hkey
    obtain ⟨k, hk, -⟩ := h.key hm'' hkey
    refine ⟨{ k with value := value }, ?_, fun _ => rfl⟩
    rw [blend_shapeKey?_self _ _ _ hhas, hk]
    rfl
  · rw [MorphRig.find?_setting_of_ne _ hname] at hfind
    obtain ⟨k, hk, hvalue⟩ := h.key hfind hkey
    exact ⟨k, by rw [blend_shapeKey?_of_ne _ _ _ hname, hk], hvalue⟩

theorem maintained : Maintained Paired where
  settle value h hm := h.settle hm value
  blend value h hm hself := h.blend hm hself value
  noting notes h := h.noting notes

end Paired

end MorphState

/-! ### Calls -/

/-- Takes a modifier in; one that is no morph changes nothing. -/
def MorphState.register (s : MorphState) (m : Modifier) : MorphState :=
  match s.rig.register? m s.mesh with
  | some (rig, mesh, notes) => ⟨rig, mesh, s.notes ++ notes⟩
  | none => s

/-- A call of a rig. Configuration and armature may be others at each change of a slider. -/
inductive RigCall where
  | register (m : Modifier)
  | set (config : ImportConfig) (armature : Option Armature) (name : String) (value : Float)

namespace RigCall

/-- What a call makes of a state, whether it goes through, is ignored or fails. -/
def apply (s : MorphState) : RigCall → MorphState
  | register m => s.register m
  | set config armature name value =>
    ((MorphStage.mk s armature).setValue config name value).1.state

/-- The state after calls. -/
def run (calls : List RigCall) (s : MorphState) : MorphState := calls.foldl apply s

end RigCall

namespace MorphState.Paired

variable {s : MorphState}

/-- A morph is registered with a new shape key, blended out, or with none. -/
theorem register (h : s.Paired) (m : Modifier) : (s.register m).Paired := by
  unfold MorphState.register MorphRig.register?
  cases hx : m.morph? with
  | none => exact h
  | some x =>
    simp only [Option.map_some]
    refine ⟨Keyed.nodup_insert h.morphs, ?_, fun {name m'} hfind hkey => ?_⟩
    · cases x.deltas with
      | none => exact h.keys
      | some deltas => exact s.mesh.nodup_addShapeKey deltas h.keys
    · by_cases hname : m.id = name
      · subst hname
        obtain rfl : MorphRig.ofModifier m x = m' := by
          have hself : Keyed.find? RiggedMorph.name (MorphRig.ofModifier m x).name
              (Keyed.insert RiggedMorph.name (MorphRig.ofModifier m x) s.rig.morphs) =
                some (MorphRig.ofModifier m x) := Keyed.find?_insert_self _
          exact Option.some.inj (hself.symm.trans hfind)
        obtain ⟨deltas, hdeltas⟩ := Option.isSome_iff_exists.1 hkey
        obtain ⟨k, hk, hvalue⟩ := s.mesh.shapeKey?_addShapeKey_self m.id deltas
        rw [hdeltas]
        exact ⟨k, hk, fun _ => hvalue⟩
      · have hother : Keyed.find? RiggedMorph.name name (Keyed.insert RiggedMorph.name
            (MorphRig.ofModifier m x) s.rig.morphs) = s.rig.find? name :=
          Keyed.find?_insert_of_ne hname
        obtain ⟨k, hk, hvalue⟩ := h.key (hother.symm.trans hfind) hkey
        refine ⟨k, ?_, hvalue⟩
        cases x.deltas with
        | none => exact hk
        | some deltas => exact s.mesh.shapeKey?_addShapeKey_of_ne deltas hname hk

theorem setValue (h : s.Paired) (config : ImportConfig) (armature : Option Armature) (name : String)
    (value : Float) : ((MorphStage.mk s armature).setValue config name value).1.state.Paired := by
  rcases (MorphStage.mk s armature).setValue_cases config name value with ⟨-, hset⟩ |
    ⟨m, hm, ⟨-, hset⟩ | ⟨-, s', e, notes, -, hset⟩ | ⟨-, s', os, happly, hset⟩⟩
  · rw [hset]
    exact h
  · rw [hset]
    exact h
  · rw [hset]
    exact h.noting notes
  · have happlied := MorphRig.apply_maintained maintained config.maxMorphDepth [] m value s
      (MorphRig.holds_of_find? hm) h
    rw [happly] at happlied
    obtain ⟨notes, hnotes⟩ := MorphStage.commit_state ⟨s', armature⟩ name
      (Output.combine .binary64 os)
    rw [hset, hnotes]
    exact happlied.noting notes

theorem apply (h : s.Paired) (call : RigCall) : (call.apply s).Paired := by
  cases call with
  | register m => exact h.register m
  | set config armature name value => exact h.setValue config armature name value

theorem run (h : s.Paired) (calls : List RigCall) : (RigCall.run calls s).Paired := by
  induction calls generalizing s with
  | nil => exact h
  | cons call calls ih => exact ih (h.apply call)

end MorphState.Paired

/-- **Weights follow values.** After any registrations and changes of sliders, those that fail
included, the shape keys have different names, and every registered morph with a shape key finds it
under its name. Its weight is the value of the morph, unless a formula of the morph names the morph
itself. -/
theorem RigCall.paired_run (calls : List RigCall) (mesh : Mesh) (notes : List Diagnostic)
    (hmesh : mesh.shapeKeys = []) :
    ((run calls ⟨.empty, mesh, notes⟩).mesh.shapeKeys.map ShapeKey.name).Nodup ∧
      ∀ m ∈ (run calls ⟨.empty, mesh, notes⟩).rig.morphs, m.hasShapeKey = true →
        ∃ k, (run calls ⟨.empty, mesh, notes⟩).mesh.shapeKey? m.name = some k ∧
          (¬ m.NamesItself →
            (run calls ⟨.empty, mesh, notes⟩).rig.value? m.name = some k.value) := by
  have hstart : (⟨.empty, mesh, notes⟩ : MorphState).Paired := by
    refine ⟨List.nodup_nil, ?_, nofun⟩
    rw [hmesh]
    exact List.nodup_nil
  have h := hstart.run calls
  refine ⟨h.keys, fun m hm hkey => ?_⟩
  have hfind : (run calls ⟨.empty, mesh, notes⟩).rig.find? m.name = some m :=
    Keyed.find?_of_mem h.morphs hm
  obtain ⟨k, hk, hvalue⟩ := h.key hfind hkey
  refine ⟨k, hk, fun hnot => ?_⟩
  rw [MorphRig.value?, hfind, hvalue hnot]
  rfl

/-- A morph that drives another one twice. The other one has a shape key; while it drives the first
one back, there is a cycle, and then it is registered again. -/
def drivenCalls : List RigCall :=
  let morph (name : String) (x : Morph) : Modifier := ⟨name, name, none, none, .morph x⟩
  [.register (morph "driver" ⟨none, [⟨"body:#driven?value", [.push 0.5 none], .sum⟩,
      ⟨"body:#driven?value", [.push 1.0 none], .sum⟩]⟩),
    .register (morph "driven" ⟨some [], [⟨"body:#driver?value", [.push 0.5 none], .sum⟩]⟩),
    .set .standard none "driver" 2.0,
    .register (morph "driven" ⟨some [], [⟨"thigh:#thigh?rotation/x", [.push 1.0 none], .sum⟩]⟩),
    .set .standard none "driver" 2.0]

theorem RigCall.paired_run_driven :
    (Mesh.ofFaces "body" [Vec3.zero] []).shapeKeys = [] ∧
      ∃ m ∈ (run drivenCalls ⟨.empty, .ofFaces "body" [Vec3.zero] [], []⟩).rig.morphs,
        m.name = "driven" ∧ m.hasShapeKey = true ∧ ¬ m.NamesItself ∧
          ∃ k,
            (run drivenCalls ⟨.empty, .ofFaces "body" [Vec3.zero] [], []⟩).mesh.shapeKey? m.name =
              some k ∧
            (run drivenCalls ⟨.empty, .ofFaces "body" [Vec3.zero] [], []⟩).rig.value? m.name =
              some k.value := by
  have hmem : (⟨"driven", true, [⟨"thigh:#thigh?rotation/x", [.push 1.0 none], .sum⟩], true,
      some 1.0⟩ : RiggedMorph) ∈
        (run drivenCalls ⟨.empty, .ofFaces "body" [Vec3.zero] [], []⟩).rig.morphs :=
    .tail _ (.head _)
  have hnot : ¬ RiggedMorph.NamesItself ⟨"driven", true,
      [⟨"thigh:#thigh?rotation/x", [.push 1.0 none], .sum⟩], true, some 1.0⟩ := by
    rintro ⟨f, hf, u, hu, hname⟩
    obtain rfl := List.mem_singleton.1 hf
    have hasset : (Reference.parse? "thigh:#thigh?rotation/x").map Reference.assetId =
      some "thigh" := rfl
    rw [hu, Option.map_some, hname] at hasset
    exact absurd hasset (by decide)
  obtain ⟨k, hk, hvalue⟩ := (paired_run drivenCalls _ [] rfl).2 _ hmem rfl
  exact ⟨rfl, _, hmem, rfl, rfl, hnot, k, hk, hvalue hnot⟩

end RiggedScene
