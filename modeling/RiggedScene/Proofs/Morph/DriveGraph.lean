import RiggedScene.Proofs.Formula
import RiggedScene.Proofs.Morph.SetValue
import Mathlib.Data.List.Chain

/-!
# The drive graph and its cycles

A morph drives another one when one of its formulas has a result and names the other one. The
graph does not change while values change (`MorphRig.drives_congr`), so that a cycle can be read
off the rig before anything is applied.

* `MorphRig.Drives` are the edges; a formula that names its own morph is no edge;
* `MorphRig.Blocked` says that some walk meets a morph being applied, or has no room left;
* `MorphRig.apply_error_iff` : applying a morph fails exactly when it is blocked;
* `MorphStage.setValue_formulaCycle_iff` : setting a morph is refused exactly when some walk from
  it comes back to one of its morphs or is as long as the depth limit.
-/

namespace RiggedScene

namespace MorphRig

variable (r : MorphRig)

/-- A formula of the morph `i` has a result and names the other morph `t`. -/
def Drives (i t : String) : Prop :=
  t ≠ i ∧ (r.find? t).isSome ∧ ∃ m, r.find? i = some m ∧ ∃ f ∈ m.formulas,
    (∃ e, f.evaluate .binary64 r.resolve = .ok e) ∧
      ∃ u, Reference.parse? f.output = some u ∧ u.assetId = t

/-- Some walk from a morph along the drive graph comes back to a morph it has passed, or has
`depth` edges. -/
def HasCycle (depth : Nat) (name : String) : Prop :=
  ∃ w, (name :: w).IsChain r.Drives ∧ (¬ (name :: w).Nodup ∨ depth ≤ w.length)

/-- Some walk from a morph meets one of the morphs `applying`, or itself, or is of length `room`;
written along the recursion of `apply`. -/
def Blocked : Nat → List String → String → Prop
  | 0, _, _ => True
  | room + 1, applying, name =>
    name ∈ applying ∨ ∃ t, r.Drives name t ∧ Blocked room (name :: applying) t

variable {r} {r' : MorphRig}

/-! ### The graph depends on names and formulas only -/

theorem find?_unset_congr (h : r'.unset = r.unset) (name : String) :
    (r'.find? name).map RiggedMorph.unset = (r.find? name).map RiggedMorph.unset := by
  rw [← find?_unset, ← find?_unset, h]

theorem drives_iff_outcome {i t : String} :
    r.Drives i t ↔ t ≠ i ∧ (r.unset.find? t).isSome ∧ ∃ m, r.unset.find? i = some m ∧
      ∃ f ∈ m.formulas, f.outcome = .ok () ∧
        ∃ u, Reference.parse? f.output = some u ∧ u.assetId = t := by
  simp only [Drives, Formula.exists_evaluate_iff, find?_unset, Option.isSome_map,
    Option.map_eq_some_iff]
  refine and_congr_right fun _ => and_congr_right fun _ => ?_
  constructor
  · rintro ⟨m, hm, hf⟩
    exact ⟨m.unset, ⟨m, hm, rfl⟩, hf⟩
  · rintro ⟨-, ⟨m, hm, rfl⟩, hf⟩
    exact ⟨m, hm, hf⟩

/-- **Setting values does not change the drive graph.** -/
theorem drives_congr (h : r'.unset = r.unset) : r'.Drives = r.Drives := by
  funext i t
  rw [eq_iff_iff, drives_iff_outcome, drives_iff_outcome, h]

theorem target?_name_congr (h : r'.unset = r.unset) (output : String) :
    (r'.target? output).map RiggedMorph.name = (r.target? output).map RiggedMorph.name := by
  unfold target?
  cases Reference.parse? output with
  | none => rfl
  | some u =>
    have hfind := congrArg (Option.map RiggedMorph.name) (find?_unset_congr h u.assetId)
    simpa [Option.map_map, Function.comp_def, RiggedMorph.unset] using hfind

theorem target?_eq_some_iff {output : String} {t : RiggedMorph} :
    r.target? output = some t ↔
      ∃ u, Reference.parse? output = some u ∧ r.find? u.assetId = some t := by
  simp [target?, Option.bind_eq_some_iff]

/-- The morph as it stands in a rig, but for its value. -/
def Holds (r : MorphRig) (m : RiggedMorph) : Prop := r.unset.find? m.name = some m.unset

theorem holds_of_find? {name : String} {m : RiggedMorph} (h : r.find? name = some m) :
    r.Holds m := by
  have hname : m.name = name := Keyed.key_of_find? h
  rw [Holds, find?_unset, hname, h]
  rfl

theorem Holds.congr {m : RiggedMorph} (hm : r'.Holds m) (h : r'.unset = r.unset) : r.Holds m := by
  rwa [Holds, ← h]

theorem Holds.exists_find? {m : RiggedMorph} (hm : r.Holds m) :
    ∃ m', r.find? m.name = some m' ∧ m'.unset = m.unset := by
  simpa [Holds, find?_unset] using hm

/-! ### Results of a morph and the morphs it drives -/

theorem mem_evaluate {m : RiggedMorph} {o : Output Float} :
    o ∈ (r.evaluate m).1 ↔ ∃ f ∈ m.formulas, ∃ e, f.evaluate .binary64 r.resolve = .ok e ∧
      o = ⟨f.output, f.stage, e.value⟩ := by
  simp only [evaluate, List.mem_filterMap, result]
  refine exists_congr fun f => and_congr_right fun _ => ?_
  cases f.evaluate .binary64 r.resolve with
  | error e => simp
  | ok e => simp [eq_comm]

theorem drives_iff_mem_evaluate {m : RiggedMorph} (hm : r.Holds m) {t : String} :
    r.Drives m.name t ↔ ∃ o ∈ (r.evaluate m).1,
      (r.target? o.target).map RiggedMorph.name = some t ∧ t ≠ m.name := by
  obtain ⟨m', hm', hunset⟩ := hm.exists_find?
  have hformulas := RiggedMorph.formulas_of_unset hunset
  constructor
  · rintro ⟨hne, hsome, m'', hm'', f, hf, ⟨e, he⟩, u, hu, rfl⟩
    obtain rfl : m' = m'' := Option.some.inj (hm'.symm.trans hm'')
    obtain ⟨x, hx⟩ := Option.isSome_iff_exists.1 hsome
    have hname : x.name = u.assetId := Keyed.key_of_find? hx
    refine ⟨⟨f.output, f.stage, e.value⟩, mem_evaluate.2 ⟨f, hformulas ▸ hf, e, he, rfl⟩, ?_, hne⟩
    rw [Option.map_eq_some_iff]
    exact ⟨x, target?_eq_some_iff.2 ⟨u, hu, hx⟩, hname⟩
  · rintro ⟨o, ho, ht, hne⟩
    obtain ⟨f, hf, e, he, rfl⟩ := mem_evaluate.1 ho
    obtain ⟨x, hx, rfl⟩ := Option.map_eq_some_iff.1 ht
    obtain ⟨u, hu, hfind⟩ := target?_eq_some_iff.1 hx
    have hname : x.name = u.assetId := Keyed.key_of_find? hfind
    refine ⟨hne, ?_, m', hm', f, hformulas ▸ hf, ⟨e, he⟩, u, hu, hname.symm⟩
    rw [hname, hfind]
    rfl

theorem exists_result_iff (h : r'.unset = r.unset) {m : RiggedMorph} (hm : r'.Holds m)
    {P : String → Prop} :
    (∃ o ∈ (r'.evaluate m).1, ∃ t,
        (r.target? o.target).map RiggedMorph.name = some t ∧ t ≠ m.name ∧ P t) ↔
      ∃ t, r.Drives m.name t ∧ P t := by
  simp only [← drives_congr h, drives_iff_mem_evaluate hm, target?_name_congr h]
  constructor
  · rintro ⟨o, ho, t, ht, hne, hP⟩
    exact ⟨t, ⟨o, ho, ht, hne⟩, hP⟩
  · rintro ⟨t, ⟨o, ho, ht, hne⟩, hP⟩
    exact ⟨o, ho, t, ht, hne, hP⟩

/-! ### Failing applications -/

/-- Applying a morph fails exactly when its name satisfies `P`, whatever the values are. -/
structure FailsWhen (r : MorphRig) (P : String → Prop) (app : Application) : Prop where
  frame : ∀ m value (s : MorphState), s.Frame (app m value s).1
  error_iff : ∀ m value (s : MorphState), s.rig.unset = r.unset → r.Holds m →
    ((∃ e, (app m value s).2 = .error e) ↔ P m.name)

variable {P : String → Prop} {app : Application}

theorem deliver_error_iff (happ : FailsWhen r P app) (self : RiggedMorph) (o : Output Float)
    {s : MorphState} (hs : s.rig.unset = r.unset) :
    (∃ e, (deliver app self o s).2 = .error e) ↔
      ∃ t, (r.target? o.target).map RiggedMorph.name = some t ∧ t ≠ self.name ∧ P t := by
  have htarget := target?_name_congr hs o.target
  rw [← htarget]
  unfold deliver
  cases hx : s.rig.target? o.target with
  | none => simp
  | some t =>
    obtain ⟨u, -, hfind⟩ := target?_eq_some_iff.1 hx
    have hholds : r.Holds t := (holds_of_find? hfind).congr hs
    dsimp only
    split
    · next hself => simp [hself]
    · next hself => simp [happ.error_iff t o.value s hs hholds, hself]

theorem propagate_error_iff (happ : FailsWhen r P app) (self : RiggedMorph)
    (os : List (Output Float)) {s : MorphState} (hs : s.rig.unset = r.unset) :
    (∃ e, (propagate app self os s).2 = .error e) ↔ ∃ o ∈ os,
      ∃ t, (r.target? o.target).map RiggedMorph.name = some t ∧ t ≠ self.name ∧ P t := by
  induction os generalizing s with
  | nil => simp [propagate]
  | cons o os ih =>
    have hfirst := deliver_error_iff happ self o hs
    have hframe := deliver_kept MorphState.Frame.kept happ.frame self o s
    rw [List.exists_mem_cons_iff, ← hfirst]
    simp only [propagate]
    generalize deliver app self o s = first at hframe ⊢
    obtain ⟨s', e | here⟩ := first
    · simp
    · have hrest := ih (hframe.rig.trans hs)
      rw [← hrest]
      dsimp only
      generalize propagate app self os s' = rest
      obtain ⟨s'', e | later⟩ := rest <;> simp

/-- **Applying a morph fails exactly when it is blocked.** The induction is on the room left; the
drive graph stays that of `r`, since the state is only settled on other values. -/
theorem apply_error_iff (room : Nat) (applying : List String) :
    FailsWhen r (r.Blocked room applying) (apply room applying) := by
  induction room generalizing applying with
  | zero =>
    refine ⟨apply_frame 0 applying, fun m value s _ _ => ?_⟩
    simp [apply, Blocked]
  | succ room ih =>
    refine ⟨apply_frame (room + 1) applying, fun m value s hs hm => ?_⟩
    unfold Blocked
    by_cases hmem : m.name ∈ applying
    · simp [apply_of_mem hmem, hmem]
    · rw [apply_of_notMem hmem]
      have hsettle : (s.settle m value).rig.unset = r.unset :=
        (MorphState.Frame.settle s m value).rig.trans hs
      have hholds : (s.settle m value).rig.Holds m := hm.congr hsettle.symm
      have henter : (enter m value s).rig.unset = r.unset := hsettle
      rw [propagate_error_iff (ih (m.name :: applying)) m _ henter,
        exists_result_iff hsettle hholds]
      simp [hmem]

/-! ### Cycles as walks -/

/-- A morph is blocked exactly when some walk from it is too long, repeats a morph, or meets one
that is being applied. -/
theorem blocked_iff_walk {room : Nat} {applying : List String} {name : String} :
    r.Blocked room applying name ↔ ∃ w, (name :: w).IsChain r.Drives ∧
      (room ≤ w.length ∨ ¬ (name :: w).Nodup ∨ ∃ x ∈ name :: w, x ∈ applying) := by
  induction room generalizing applying name with
  | zero => simpa [Blocked] using ⟨[], List.isChain_singleton name⟩
  | succ room ih =>
    constructor
    · rintro (hmem | ⟨t, ht, hblocked⟩)
      · exact ⟨[], .singleton name, .inr (.inr ⟨name, by simp, hmem⟩)⟩
      · obtain ⟨w, hw, hend⟩ := ih.1 hblocked
        refine ⟨t :: w, .cons_cons ht hw, ?_⟩
        rcases hend with hlen | hdup | ⟨x, hx, hmem⟩
        · exact .inl (by simpa using hlen)
        · exact .inr (.inl fun h => hdup h.of_cons)
        · -- the longer walk meets `name`, where it starts, or one applied before
          rcases List.mem_cons.1 hmem with rfl | hmem
          · exact .inr (.inl fun h => (List.nodup_cons.1 h).1 hx)
          · exact .inr (.inr ⟨x, List.mem_cons_of_mem _ hx, hmem⟩)
    · rintro ⟨w, hw, hend⟩
      by_cases hname : name ∈ applying
      · exact .inl hname
      cases w with
      | nil =>
        rcases hend with hlen | hdup | ⟨x, hx, hmem⟩
        · simp at hlen
        · simp at hdup
        · obtain rfl := List.mem_singleton.1 hx
          exact absurd hmem hname
      | cons t w =>
        obtain ⟨ht, hw'⟩ := List.isChain_cons_cons.1 hw
        refine .inr ⟨t, ht, ih.2 ⟨w, hw', ?_⟩⟩
        rcases hend with hlen | hdup | ⟨x, hx, hmem⟩
        · exact .inl (by simpa using hlen)
        · -- the repetition is `name` itself, or it is on the rest of the walk
          by_cases hback : name ∈ t :: w
          · exact .inr (.inr ⟨name, hback, List.mem_cons_self⟩)
          · exact .inr (.inl fun h => hdup (List.nodup_cons.2 ⟨hback, h⟩))
        · rcases List.mem_cons.1 hx with rfl | hx
          · exact absurd hmem hname
          · exact .inr (.inr ⟨x, hx, List.mem_cons_of_mem _ hmem⟩)

theorem hasCycle_iff_blocked {depth : Nat} {name : String} :
    r.HasCycle depth name ↔ r.Blocked depth [] name := by
  simp only [HasCycle, blocked_iff_walk, List.not_mem_nil, and_false, exists_false, or_false]
  exact exists_congr fun w => and_congr_right fun _ => or_comm

/-! ### The error of an application -/

theorem deliver_error {self : RiggedMorph} {o : Output Float} {s : MorphState} {e : Error}
    (h : (deliver app self o s).2 = .error e) : ∃ t, (app t o.value s).2 = .error e := by
  unfold deliver at h
  cases hx : s.rig.target? o.target with
  | none => simp [hx] at h
  | some t =>
    simp only [hx] at h
    split at h
    · cases h
    · exact ⟨t, h⟩

theorem propagate_error {self : RiggedMorph} {os : List (Output Float)} {s : MorphState}
    {e : Error} (h : (propagate app self os s).2 = .error e) :
    ∃ t value s', (app t value s').2 = .error e := by
  induction os generalizing s with
  | nil => cases h
  | cons o os ih =>
    simp only [propagate] at h
    cases hfirst : deliver app self o s with
    | mk s' here =>
      rw [hfirst] at h
      cases here with
      | error e' =>
        obtain rfl : e' = e := Except.error.inj h
        obtain ⟨t, ht⟩ := deliver_error (congrArg Prod.snd hfirst)
        exact ⟨t, o.value, s, ht⟩
      | ok here =>
        cases hrest : propagate app self os s' with
        | mk s'' later =>
          cases later with
          | error e' =>
            simp only [hrest] at h
            obtain rfl : e' = e := Except.error.inj h
            exact ih (congrArg Prod.snd hrest)
          | ok later => simp [hrest] at h

/-- An application fails with nothing but a cycle. -/
theorem apply_error {room : Nat} {applying : List String} {m : RiggedMorph} {value : Float}
    {s : MorphState} {e : Error} (h : (apply room applying m value s).2 = .error e) :
    ∃ c, e = .formulaCycle c := by
  induction room generalizing applying m value s with
  | zero => exact ⟨m.name, (Except.error.inj h).symm⟩
  | succ room ih =>
    by_cases hmem : m.name ∈ applying
    · rw [apply_of_mem hmem] at h
      exact ⟨m.name, (Except.error.inj h).symm⟩
    · rw [apply_of_notMem hmem] at h
      obtain ⟨t, value', s', ht⟩ := propagate_error h
      exact ih ht

end MorphRig

/-! ### Setting a morph -/

namespace MorphStage

open MorphRig

variable {t : MorphStage} {config : ImportConfig} {name : String} {value : Float}

/-- The answer to a change that is not ignored is that of the application. -/
theorem setValue_answer {m : RiggedMorph} (hm : t.state.rig.find? name = some m)
    (hi : ignores config m value = false) : (t.setValue config name value).2 =
      (apply config.maxMorphDepth [] m value t.state).2.map fun _ => true := by
  rcases t.setValue_cases config name value with ⟨hnone, -⟩ | ⟨m', hm', hways⟩
  · cases hm.symm.trans hnone
  obtain rfl : m = m' := Option.some.inj (hm.symm.trans hm')
  rcases hways with ⟨hignored, -⟩ | ⟨-, s, e, notes, happly, hset⟩ | ⟨-, s, os, happly, hset⟩
  · cases hi.symm.trans hignored
  · rw [hset, happly]
    rfl
  · rw [hset, happly]
    rfl

/-- **Setting a morph meets a cycle exactly when the drive graph has one within reach.** A change
that is not ignored is refused if some walk from the morph comes back to a morph on it or has as
many edges as the depth limit, and goes through in every other case. Formulas that name their own
morph are no edges. -/
theorem setValue_formulaCycle_iff {m : RiggedMorph} (hm : t.state.rig.find? name = some m)
    (hi : ignores config m value = false) :
    ((∃ c, (t.setValue config name value).2 = .error (.formulaCycle c)) ↔
        t.state.rig.HasCycle config.maxMorphDepth name) ∧
      ((t.setValue config name value).2 = .ok true ↔
        ¬ t.state.rig.HasCycle config.maxMorphDepth name) := by
  have hname : m.name = name := Keyed.key_of_find? hm
  have hfails := (apply_error_iff config.maxMorphDepth []).error_iff m value t.state rfl
    (holds_of_find? hm)
  rw [setValue_answer hm hi, hasCycle_iff_blocked, ← hname, ← hfails]
  cases hanswer : (apply config.maxMorphDepth [] m value t.state).2 with
  | ok outputs => simp [Except.map]
  | error e =>
    obtain ⟨c, rfl⟩ := apply_error hanswer
    simp [Except.map]

/-- Two morphs that drive each other. The first one names itself too, and the second one has a
shape key. -/
def mutualRig : MorphRig :=
  ⟨[⟨"A", true,
      [⟨"body:#A?value", [.push 0.5 none], .sum⟩, ⟨"body:#B?value", [.push 1.0 none], .sum⟩],
      false, none⟩,
    ⟨"B", false, [⟨"body:#A?value", [.push 1.0 (some "body:#B?value")], .sum⟩], true, none⟩]⟩

/-- Both morphs on a mesh of one point, without an armature. -/
def mutualStage : MorphStage :=
  ⟨⟨mutualRig, (Mesh.ofFaces "body" [Vec3.zero] []).addShapeKey "B" [], []⟩, none⟩

theorem setValue_formulaCycle_mutual :
    (∃ m, mutualRig.find? "A" = some m ∧ ignores .standard m 1.0 = false) ∧
      ∃ c, (mutualStage.setValue .standard "A" 1.0).2 = .error (.formulaCycle c) := by
  have hwalk : mutualRig.HasCycle ImportConfig.standard.maxMorphDepth "A" := by
    refine ⟨["B", "A"], ?_, .inl (by decide)⟩
    have hAB : mutualRig.Drives "A" "B" := ⟨by decide, rfl, _, rfl,
      ⟨"body:#B?value", [.push 1.0 none], .sum⟩, .tail _ (.head _), ⟨_, rfl⟩, _, rfl, by decide⟩
    have hBA : mutualRig.Drives "B" "A" := ⟨by decide, rfl, _, rfl,
      ⟨"body:#A?value", [.push 1.0 (some "body:#B?value")], .sum⟩, .head _, ⟨_, rfl⟩, _, rfl,
      by decide⟩
    exact .cons_cons hAB (.cons_cons hBA (.singleton "A"))
  exact ⟨⟨_, rfl, rfl⟩, (setValue_formulaCycle_iff (t := mutualStage) rfl rfl).1.2 hwalk⟩

end MorphStage

end RiggedScene
