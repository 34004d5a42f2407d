import RiggedScene.Proofs.Armature.Overwrite
import RiggedScene.Proofs.Morph.PoseFrame
import RiggedScene.Proofs.Morph.Rerun

/-!
# A slider is set twice

The values of the first change of a slider are overwritten by the second one, as long as no formula
reads what the change itself drives. Only scales are increased each time.

* `MorphRig.ReadsUndriven` : no formula that takes part reads a morph that is driven;
* `Commitment.ofOutputs_alike` : outputs of the same targets ask for changes of the same components;
* `MorphStage.LastDecides` compares the stages after both changes and after the second one alone;
* `MorphStage.setValue_setValue` : what a slider is set to last decides, except for the scales that
  its outputs address;
* `MorphStage.exists_scale_ne_exists_value_ne` : these scales depend on the way, and so do driven
  values if the last change is ignored when it comes alone.
-/

namespace RiggedScene

/-! ### Commitments of outputs with the same targets -/

namespace BoneChange

variable {c c' : BoneChange} {cs cs' : List BoneChange}

theorem Alike.refl (c : BoneChange) : c.Alike c := ⟨rfl, fun _ => rfl⟩

theorem Alike.update (h : c.Alike c') (p : BoneProperty) (axis : Option Axis)
    (value value' : Float) : (c.update p axis value).Alike (c'.update p axis value') := by
  refine ⟨by rw [bone_update, bone_update, h.bone], fun slot => ?_⟩
  cases axis with
  | none => cases p <;> exact h.turns slot
  | some a =>
    cases p with
    | rotation =>
      by_cases hslot : slot = a
      · subst hslot
        simp [BoneChange.update]
      · simpa [BoneChange.update, Triple.get_set_of_ne _ _ hslot] using h.turns slot
    | translation => exact h.turns slot
    | scale => exact h.turns slot
    | center => exact h.turns slot
    | tip => exact h.turns slot
    | orientation => exact h.turns slot

theorem updateIn_alike (h : List.Forall₂ Alike cs cs') (bone : String) (p : BoneProperty)
    (axis : Option Axis) (value value' : Float) :
    List.Forall₂ Alike (updateIn bone p axis value cs) (updateIn bone p axis value' cs') := by
  have hbone : ∀ c c' : BoneChange, c.Alike c' → c'.bone = c.bone := fun _ _ hc => hc.bone
  have hfind := Keyed.find?_related (k := bone) hbone h
  refine Keyed.insert_related hbone h ?_
  generalize Keyed.find? BoneChange.bone bone cs = old at hfind ⊢
  generalize Keyed.find? BoneChange.bone bone cs' = old' at hfind ⊢
  cases hfind with
  | none => exact (Alike.refl _).update p axis value value'
  | some hc => exact hc.update p axis value value'

end BoneChange

namespace Commitment

variable {armature : Option Armature} {morph : String} {k k' : Commitment} {o o' : Output Float}

theorem Alike.add (h : k.Alike k') (ho : o'.target = o.target) :
    (add armature morph k o).Alike (add armature morph k' o') := by
  unfold Commitment.add
  rw [ho]
  cases Reference.parse? o.target with
  | none => exact ⟨h.poses, h.edits⟩
  | some u =>
    dsimp only
    cases BoneProperty.ofPath? u.boneTarget.2 with
    | none => exact h
    | some x =>
      obtain ⟨p, axis⟩ := x
      dsimp only
      split
      · exact ⟨h.poses, h.edits⟩
      · split
        · exact ⟨h.poses, BoneChange.updateIn_alike h.edits _ p axis o.value o'.value⟩
        · exact ⟨BoneChange.updateIn_alike h.poses _ p axis o.value o'.value, h.edits⟩

theorem foldl_add_alike {os os' : List (Output Float)} (h : k.Alike k')
    (hos : os'.map Output.target = os.map Output.target) :
    (os.foldl (add armature morph) k).Alike (os'.foldl (add armature morph) k') := by
  induction os generalizing os' k k' with
  | nil =>
    obtain rfl : os' = [] := by simpa using hos
    exact h
  | cons o os ih =>
    cases os' with
    | nil => simp at hos
    | cons o' os' =>
      obtain ⟨ho, hos⟩ := List.cons.inj hos
      rw [List.foldl_cons, List.foldl_cons]
      exact ih (h.add ho) hos

/-- **Outputs of the same targets ask for changes of the same components.** -/
theorem ofOutputs_alike {os os' : List (Output Float)}
    (hos : os'.map Output.target = os.map Output.target) :
    (ofOutputs armature morph os).Alike (ofOutputs armature morph os') :=
  foldl_add_alike ⟨.nil, .nil⟩ hos

/-- Of an armature only the labels of the bones matter. -/
theorem ofOutputs_congr {a a' : Armature}
    (h : a'.bones.map Bone.labels = a.bones.map Bone.labels) (morph : String)
    (os : List (Output Float)) :
    ofOutputs (some a') morph os = ofOutputs (some a) morph os := by
  have hadd : add (some a') morph = add (some a) morph := by
    funext k o
    simp only [add, Option.bind_some, Armature.find?_isNone, Armature.position?_congr h]
  rw [ofOutputs, ofOutputs, hadd]

end Commitment

namespace Armature

variable {a : Armature} {morph : String} {os : List (Output Float)} {i : Nat} {slot : Axis}

/-- What the outputs of a morph add to a slot of the scale of the bone at a place. -/
def growths (a : Armature) (morph : String) (os : List (Output Float)) (i : Nat) (slot : Axis) :
    List Float :=
  (a.changesAt i (Commitment.ofOutputs (some a) morph (Output.combine .binary64 os)).poses).map
    (BoneChange.growth slot)

theorem growths_eq_zero (h : ¬ a.Addresses os i .scale (slot.swapped .y .z)) :
    ∀ g ∈ a.growths morph os i slot, g = 0.0 := by
  intro g hg
  obtain ⟨c, hc, rfl⟩ := List.mem_map.1 hg
  have hblank := (Commitment.gathered_ofOutputs a morph _).get_of_not_addresses
    (addresses_combine.not.2 h) c hc
  exact Option.some.inj hblank

end Armature

/-! ### Applying a morph again -/

namespace MorphRig

/-- No formula of a morph, or of a morph that it drives, reads another morph that it drives. -/
def ReadsUndriven (r : MorphRig) (name : String) : Prop :=
  ∀ i, Relation.ReflTransGen r.Drives name i → ∀ m, r.find? i = some m → ∀ f ∈ m.formulas,
    ∀ url ∈ f.reads, ∀ u, Reference.parse? url = some u → u.assetId ≠ i →
      ¬ Relation.TransGen r.Drives name u.assetId

variable {r : MorphRig} {name : String}

theorem ReadsUndriven.of_reads_self (h : ∀ m ∈ r.morphs, ∀ f ∈ m.formulas, ∀ url ∈ f.reads,
    (Reference.parse? url).map Reference.assetId = some m.name) : r.ReadsUndriven name := by
  intro i _ m hm f hf url hurl u hu hne
  have hname : m.name = i := Keyed.key_of_find? hm
  have hself := h m (Keyed.mem_of_find? hm) f hf url hurl
  rw [hu, hname] at hself
  exact absurd (Option.some.inj hself) hne

theorem ReadsUndriven.appliesAlike (h : r.ReadsUndriven name) (room : Nat)
    (applying : List String) :
    AppliesAlike r (Relation.ReflTransGen r.Drives name)
      (fun n => ¬ Relation.TransGen r.Drives name n) (apply room applying)
      (applyWrites room applying) :=
  apply_alike_reached name (fun i hi m hm f hf url hurl u hu =>
    or_iff_not_imp_right.2 (h i hi m hm f hf url hurl u hu)) room applying

end MorphRig

namespace MorphState

variable {s s' s₁ s₂ : MorphState} {ws ws' : List MorphWrite}

theorem Written.overwrite (h : s.Written ws s') (hagain : s'.Written ws' s₁)
    (halone : s.Written ws' s₂) (hplaces : ws'.map MorphWrite.place = ws.map MorphWrite.place) :
    s₁.rig = s₂.rig ∧ s₁.mesh = s₂.mesh := by
  have hboth := h.trans hagain
  have hlast : s.writes (ws ++ ws') = s.writes ws' := by
    rw [writes_append]
    exact writes_writes fun w hw => hplaces ▸ List.mem_map_of_mem hw
  exact ⟨by rw [hboth.rig, hlast, halone.rig], by rw [hboth.mesh, hlast, halone.mesh]⟩

theorem Written.agree (h : s.Written ws s') {P : String → Prop}
    (hP : ∀ n, P n → .setting n ∉ ws.map MorphWrite.place) : Agree P s s' where
  unset := by rw [h.rig, writes_unset]
  value n hn := by rw [h.rig, value?_writes (hP n hn)]

end MorphState

/-! ### Changes of a slider -/

namespace MorphStage

open MorphRig MorphState

variable {t : MorphStage} {config : ImportConfig} {name : String} {value a b : Float}

/-- A slot of the scale of the bone at a place. -/
def scale? (t : MorphStage) (i : Nat) (slot : Axis) : Option Float :=
  t.armature.bind fun a => a.scale? i slot

/-- What a change of a slider leaves of another one before it. The change leads from `first` to
`second`, and without the other one from `start` to `alone`; its outputs are `os`. -/
structure LastDecides (name : String) (os : List (Output Float))
    (start first second alone : MorphStage) : Prop where
  values : second.state.rig = alone.state.rig
  weights : second.state.mesh = alone.state.mesh
  bones : second.armature.map Armature.unscaled = alone.armature.map Armature.unscaled
  /-- Scales are increased, by the same amounts either way. -/
  increased : ∀ a, start.armature = some a → ∀ i slot,
    alone.scale? i slot =
        (start.scale? i slot).map ((a.growths name os i slot).foldl (· + ·)) ∧
      second.scale? i slot =
        (first.scale? i slot).map ((a.growths name os i slot).foldl (· + ·))
  scale : ∀ a, start.armature = some a → ∀ i slot,
    ¬ a.Addresses os i .scale (slot.swapped .y .z) → second.scale? i slot = alone.scale? i slot

theorem commit_written (t : MorphStage) (name : String) (os : List (Output Float)) :
    t.state.Written [] (t.commit name os).state := by
  obtain ⟨notes, hnotes⟩ := t.commit_state name os
  rw [hnotes]
  exact (Written.refl _).noting notes

theorem commit_armature (t : MorphStage) (name : String) (os : List (Output Float)) :
    (t.commit name os).armature =
      t.armature.map fun a => (a.commit (.ofOutputs (some a) name os)).1 := by
  unfold commit
  cases t.armature <;> rfl

/-- What an applied change of a slider does. -/
theorem setValue_applied (h : (t.setValue config name value).2 = .ok true) :
    ∃ m s, t.state.rig.find? name = some m ∧
      apply config.maxMorphDepth [] m value t.state = (s, .ok (t.outputs config name value)) ∧
      s.Written [] (t.setValue config name value).1.state ∧
      (t.setValue config name value).1.armature = t.armature.map fun a => (a.commit
        (.ofOutputs (some a) name (Output.combine .binary64 (t.outputs config name value)))).1 := by
  rcases t.setValue_cases config name value with ⟨-, hset⟩ | ⟨m, hm, ⟨-, hset⟩ |
    ⟨-, s, e, notes, -, hset⟩ | ⟨hi, s, os, happly, hset⟩⟩
  · rw [hset] at h
    cases h
  · rw [hset] at h
    cases h
  · rw [hset] at h
    cases h
  · have hos : t.outputs config name value = os := by
      simp [outputs, hm, hi, happly, Except.toOption]
    rw [hset, hos]
    exact ⟨m, s, hm, happly, commit_written _ _ _, commit_armature _ _ _⟩

theorem setValue_applies (ha : (t.setValue config name a).2 = .ok true)
    (hb : (t.setValue config name b).2 ≠ .ok false) :
    (t.setValue config name b).2 = .ok true := by
  obtain ⟨m, s, hm, happly, -, -⟩ := setValue_applied ha
  rcases t.setValue_cases config name b with ⟨hnone, -⟩ | ⟨m', hm', ⟨-, hset⟩ |
    ⟨-, s', e, notes, happly', -⟩ | ⟨-, s', os, -, hset⟩⟩
  · cases hm.symm.trans hnone
  · exact absurd (congrArg Prod.snd hset) hb
  · obtain rfl := Option.some.inj (hm.symm.trans hm')
    have happ : AppliesAlike t.state.rig (fun _ => True) (fun _ => True)
        (apply config.maxMorphDepth []) (applyWrites config.maxMorphDepth []) :=
      apply_alike (fun _ _ _ _ => trivial) (fun _ _ _ _ _ _ _ _ _ => .inl trivial) _ _
    have htargets := (happ a b rfl rfl rfl (holds_of_find? hm) trivial).targets
    rw [happly, happly'] at htargets
    cases htargets
  · rw [hset]

/-- The second change writes over all that the first one wrote, and its outputs are those that it
has alone. -/
theorem setValue_overwrites (hreads : t.state.rig.ReadsUndriven name)
    (ha : (t.setValue config name a).2 = .ok true)
    (hab : ((t.setValue config name a).1.setValue config name b).2 = .ok true)
    (hb : (t.setValue config name b).2 = .ok true) :
    ((t.outputs config name b).map Output.target = (t.outputs config name a).map Output.target ∧
      (t.setValue config name a).1.outputs config name b = t.outputs config name b) ∧
    ((t.setValue config name a).1.setValue config name b).1.state.rig =
        (t.setValue config name b).1.state.rig ∧
      ((t.setValue config name a).1.setValue config name b).1.state.mesh =
        (t.setValue config name b).1.state.mesh := by
  obtain ⟨m, s, hm, happly, hcommit, -⟩ := setValue_applied ha
  obtain ⟨m₂, s₂, hm₂, happly₂, hcommit₂, -⟩ := setValue_applied hb
  obtain ⟨m', s', hm', happly', hcommit', -⟩ := setValue_applied hab
  obtain rfl := Option.some.inj (hm.symm.trans hm₂)
  generalize (t.setValue config name a).1 = first at *
  have hreached : Relation.ReflTransGen t.state.rig.Drives name m.name := by
    rw [show m.name = name from Keyed.key_of_find? hm]
  -- either value makes the application write to the same places
  have hplaces := hreads.appliesAlike config.maxMorphDepth [] a b rfl rfl rfl (holds_of_find? hm)
    hreached
  rw [happly, happly₂] at hplaces
  have hwritten := hplaces.written.trans hcommit
  rw [List.append_nil] at hwritten
  have hunset : first.state.rig.unset = t.state.rig.unset := by
    rw [hwritten.rig, MorphState.writes_unset]
  have hsame : m'.unset = m.unset := by
    have hfind := find?_unset_congr hunset name
    rw [hm, hm'] at hfind
    exact Option.some.inj hfind
  -- what it reads is not among them, but for the morph itself
  have hagree : Agree (fun n => ¬ Relation.TransGen t.state.rig.Drives name n ∧ n ≠ m.name) t.state
      first.state := by
    refine hwritten.agree fun n hn hmem => ?_
    rcases Relation.reflTransGen_iff_eq_or_transGen.1 (hplaces.reached n hmem) with heq | hdriven
    · exact hn.2 (heq.trans (Keyed.key_of_find? hm).symm)
    · exact hn.1 hdriven
  have hagain := hreads.appliesAlike config.maxMorphDepth [] b b rfl hunset hsame
    (holds_of_find? hm) hreached
  rw [happly₂, happly'] at hagain
  obtain ⟨hwrites, houtputs⟩ := hagain.same ⟨rfl, hagree⟩
  have hsecond := hagain.written'.trans hcommit'
  have halone := hagain.written.trans hcommit₂
  rw [List.append_nil, hwrites] at hsecond
  rw [List.append_nil] at halone
  exact ⟨⟨Option.some.inj hplaces.targets, Except.ok.inj houtputs⟩,
    hwritten.overwrite hsecond halone hplaces.places⟩

/-- **What a slider is set to last decides, but for scales.** The formulas of the morph and of all
that it drives read no other morph that it drives. Then the values, the weights and the bones after
both changes are those after the second one alone. Scales are increased by each change, so that
those are the same that no output addresses. -/
theorem setValue_setValue (t : MorphStage) (config : ImportConfig) (name : String) (a b : Float)
    (hreads : t.state.rig.ReadsUndriven name) (ha : (t.setValue config name a).2 = .ok true)
    (hab : ((t.setValue config name a).1.setValue config name b).2 = .ok true)
    (hb : (t.setValue config name b).2 ≠ .ok false) :
    (t.setValue config name b).2 = .ok true ∧
      LastDecides name (t.outputs config name b) t (t.setValue config name a).1
        ((t.setValue config name a).1.setValue config name b).1 (t.setValue config name b).1 := by
  have hb := setValue_applies ha hb
  obtain ⟨⟨htargets, houtputs⟩, hrig, hmesh⟩ := setValue_overwrites hreads ha hab hb
  obtain ⟨-, -, -, -, -, hfirst⟩ := setValue_applied ha
  obtain ⟨-, -, -, -, -, halone⟩ := setValue_applied hb
  obtain ⟨-, -, -, -, -, hsecond⟩ := setValue_applied hab
  rw [houtputs] at hsecond
  cases harmature : t.armature with
  | none =>
    rw [harmature, Option.map_none] at hfirst halone
    rw [hfirst, Option.map_none] at hsecond
    have hnone : ∀ A, t.armature ≠ some A := by simp [harmature]
    exact ⟨hb, hrig, hmesh, by rw [hsecond, halone], fun A hA => absurd hA (hnone A),
      fun A hA => absurd hA (hnone A)⟩
  | some A =>
    rw [harmature, Option.map_some] at hfirst halone
    rw [hfirst, Option.map_some, Commitment.ofOutputs_congr (Armature.commit_labels A _)] at hsecond
    have halike := @Commitment.ofOutputs_alike (some A) name _ _
      (Output.combine_targets (A := .binary64) htargets)
    refine ⟨hb, hrig, hmesh, ?_, fun A' hA' i slot => ?_, fun A' hA' i slot hnot => ?_⟩
    · rw [hsecond, halone, Option.map_some, Option.map_some, Armature.commit_commit_unscaled halike]
    · obtain rfl := Option.some.inj (harmature.symm.trans hA')
      rw [scale?, scale?, scale?, scale?, halone, harmature, hsecond, hfirst]
      refine ⟨Armature.commit_scale? A _ i slot, (Armature.commit_scale? _ _ i slot).trans ?_⟩
      rw [Armature.changesAt_commit]
      rfl
    · obtain rfl := Option.some.inj (harmature.symm.trans hA')
      have hnot' := (Armature.addresses_congr htargets).not.1 hnot
      rw [scale?, hsecond, scale?, halone]
      exact Armature.commit_commit_scale? halike (Armature.growths_eq_zero hnot')
        (Armature.growths_eq_zero hnot)

/-- A morph that drives another one, which turns and scales a bone. -/
def crouchStage : MorphStage :=
  ⟨⟨⟨[⟨"crouch", true, [⟨"body:#bend?value", [.push 0.0 (some "body:#crouch?value")], .sum⟩], false,
        none⟩,
      ⟨"bend", false, [⟨"thigh:#thigh?rotation/x", [.push 0.0 (some "body:#bend?value")], .sum⟩,
        ⟨"thigh:#thigh?scale/x", [.push 0.0 (some "body:#bend?value")], .sum⟩], true, none⟩]⟩,
      (Mesh.ofFaces "body" [] []).addShapeKey "bend" [], []⟩,
    some ⟨"rig-thigh",
      [{ (default : Bone) with name := "thigh", templateId := "thigh", pose := .rest }], .object⟩⟩

theorem crouchStage_readsUndriven : crouchStage.state.rig.ReadsUndriven "crouch" :=
  .of_reads_self (by decide +kernel)

theorem setValue_setValue_crouch :
    crouchStage.state.rig.ReadsUndriven "crouch" ∧
      (crouchStage.setValue .standard "crouch" 1.0).2 = .ok true ∧
      ((crouchStage.setValue .standard "crouch" 1.0).1.setValue .standard "crouch" 2.0).2 =
        .ok true ∧
      (crouchStage.setValue .standard "crouch" 2.0).2 ≠ .ok false ∧
      (crouchStage.setValue .standard "crouch" 2.0).2 = .ok true ∧
      LastDecides "crouch" (crouchStage.outputs .standard "crouch" 2.0) crouchStage
        (crouchStage.setValue .standard "crouch" 1.0).1
        ((crouchStage.setValue .standard "crouch" 1.0).1.setValue .standard "crouch" 2.0).1
        (crouchStage.setValue .standard "crouch" 2.0).1 := by
  have ha : (crouchStage.setValue .standard "crouch" 1.0).2 = .ok true := by rfl
  have hab : ((crouchStage.setValue .standard "crouch" 1.0).1.setValue .standard "crouch" 2.0).2 =
      .ok true := by rfl
  have hb : (crouchStage.setValue .standard "crouch" 2.0).2 ≠ .ok false := nofun
  have hreads := crouchStage_readsUndriven
  exact ⟨hreads, ha, hab, hb,
    setValue_setValue crouchStage .standard "crouch" 1.0 2.0 hreads ha hab hb⟩

/-- The same with the driven morph set by itself afterwards. -/
def unbentStage : MorphStage :=
  ((crouchStage.setValue .standard "crouch" 2.0).1.setValue .standard "bend" 0.0).1

theorem unbentStage_readsUndriven : unbentStage.state.rig.ReadsUndriven "crouch" :=
  .of_reads_self (by decide +kernel)

/-- **The scale depends on the way**, and so do driven values if the second change is ignored
when it comes alone. -/
theorem exists_scale_ne_exists_value_ne :
    (∃ (t : MorphStage) (config : ImportConfig) (name : String) (a b : Float),
      t.state.rig.ReadsUndriven name ∧ (t.setValue config name a).2 = .ok true ∧
        ((t.setValue config name a).1.setValue config name b).2 = .ok true ∧
        (t.setValue config name b).2 = .ok true ∧
        ((t.setValue config name a).1.setValue config name b).1.scale? 0 .x ≠
          (t.setValue config name b).1.scale? 0 .x) ∧
    ∃ (t : MorphStage) (config : ImportConfig) (name driven : String) (a b : Float),
      t.state.rig.ReadsUndriven name ∧ (t.setValue config name a).2 = .ok true ∧
        ((t.setValue config name a).1.setValue config name b).2 = .ok true ∧
        (t.setValue config name b).2 = .ok false ∧
        ((t.setValue config name a).1.setValue config name b).1.state.rig.value? driven ≠
          (t.setValue config name b).1.state.rig.value? driven :=
  ⟨⟨crouchStage, .standard, "crouch", 1.0, 2.0, crouchStage_readsUndriven, rfl, rfl, rfl,
      by decide +kernel⟩,
    ⟨unbentStage, .standard, "crouch", "bend", 1.0, 2.0, unbentStage_readsUndriven, rfl, rfl, rfl,
      by decide +kernel⟩⟩

end MorphStage

end RiggedScene
