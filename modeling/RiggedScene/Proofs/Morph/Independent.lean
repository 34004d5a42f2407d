import RiggedScene.Proofs.Morph.Tour

/-!
# Independent sliders

Two sliders are independent if they lead to different morphs, read nothing of each other and address
different bones. It does not matter then which one is set first.

* `MorphStage.Independent` says this of two morphs, by the drive graph, the formulas and the bones,
  and `MorphStage.Independent.of_closed` is a way to find it out by going through lists;
* `MorphStage.changeWrites` is what a change of a slider writes, if it is applied;
* `MorphStage.setValue_undisturbed` : a change of one slider neither sees nor disturbs one of the
  other slider that comes before it;
* `MorphStage.setValue_comm` : both orders give the same answers and leave the same values, weights
  and bones, whether the changes are applied, ignored or refused.
-/

namespace RiggedScene

/-! ### Places of one morph -/

namespace MorphRig

variable {app : Application} {writing : Writing} {self m : RiggedMorph} {s : MorphState}
  {os : List (Output Float)} {n : String}

theorem weight_mem_deliverWrites {o : Output Float}
    (hwriting : ∀ m value s, .weight n ∈ (writing m value s).map MorphWrite.place →
      .setting n ∈ (writing m value s).map MorphWrite.place)
    (h : .weight n ∈ (deliverWrites writing self o s).map MorphWrite.place) :
    n = self.name ∨ .setting n ∈ (deliverWrites writing self o s).map MorphWrite.place := by
  unfold deliverWrites at h ⊢
  cases hx : s.rig.target? o.target with
  | none =>
    rw [hx] at h
    cases h
  | some t =>
    simp only [hx] at h ⊢
    by_cases heq : t.name = self.name
    · rw [if_pos heq] at h
      exact .inl (RiggedMorph.weight_mem_blendWrites h)
    · rw [if_neg heq] at h ⊢
      exact .inr (hwriting t o.value s h)

theorem weight_mem_propagateWrites
    (hwriting : ∀ m value s, .weight n ∈ (writing m value s).map MorphWrite.place →
      .setting n ∈ (writing m value s).map MorphWrite.place)
    (h : .weight n ∈ (propagateWrites app writing self os s).map MorphWrite.place) :
    n = self.name ∨ .setting n ∈ (propagateWrites app writing self os s).map MorphWrite.place := by
  induction os generalizing s with
  | nil => cases h
  | cons o os ih =>
    simp only [propagateWrites, List.map_append, List.mem_append] at h ⊢
    rcases h with h | h
    · exact (weight_mem_deliverWrites hwriting h).imp_right .inl
    · cases hfirst : deliver app self o s with
      | mk s' a =>
        rw [hfirst] at h
        cases a with
        | error e => cases h
        | ok here => exact (ih h).imp_right .inr

/-- A shape key is blended in only where its morph is settled. -/
theorem setting_of_weight_mem_applyWrites (room : Nat) (applying : List String) (m : RiggedMorph)
    (value : Float) (s : MorphState)
    (h : .weight n ∈ (applyWrites room applying m value s).map MorphWrite.place) :
    .setting n ∈ (applyWrites room applying m value s).map MorphWrite.place := by
  induction room generalizing applying m value s with
  | zero => cases h
  | succ room ih =>
    simp only [applyWrites] at h ⊢
    by_cases hmem : m.name ∈ applying
    · rw [if_pos hmem] at h
      cases h
    · rw [if_neg hmem, List.map_append, List.mem_append] at h ⊢
      have hself : n = m.name → .setting n ∈ (m.settleWrites value).map MorphWrite.place :=
        RiggedMorph.setting_mem_settleWrites.2
      rcases h with h | h
      · have hblend : .weight n ∈ (m.blendWrites value).map MorphWrite.place := by
          simpa [RiggedMorph.settleWrites] using h
        exact .inl (hself (RiggedMorph.weight_mem_blendWrites hblend))
      · exact (weight_mem_propagateWrites (ih (m.name :: applying)) h).imp_left hself

end MorphRig

/-! ### What a change of a slider writes -/

namespace MorphStage

open MorphRig MorphState

variable {t t' : MorphStage} {config : ImportConfig} {name : String} {value : Float}

/-- What a change of a slider writes; nothing if it is ignored or refused. -/
def changeWrites (t : MorphStage) (config : ImportConfig) (name : String) (value : Float) :
    List MorphWrite :=
  match t.state.rig.find? name with
  | none => []
  | some m =>
    if ignores config m value then []
    else
      match (apply config.maxMorphDepth [] m value t.state).2 with
      | .error _ => []
      | .ok _ => applyWrites config.maxMorphDepth [] m value t.state

theorem setValue_written (t : MorphStage) (config : ImportConfig) (name : String) (value : Float) :
    t.state.Written (t.changeWrites config name value) (t.setValue config name value).1.state := by
  rcases t.setValue_cases config name value with ⟨hm, hset⟩ | ⟨m, hm, ⟨hi, hset⟩ |
    ⟨hi, s, e, notes, happly, hset⟩ | ⟨hi, s, os, happly, hset⟩⟩
  · rw [hset, changeWrites, hm]
    exact .refl t.state
  · simp only [hset, changeWrites, hm, hi, if_true]
    exact .refl t.state
  · simp only [hset, changeWrites, hm, hi, happly]
    exact (Written.refl t.state).noting notes
  · obtain ⟨hwritten, -⟩ := apply_written hm config.maxMorphDepth [] value
    rw [happly] at hwritten
    have hcommitted := hwritten.trans (commit_written { t with state := s } name
      (Output.combine .binary64 os))
    simpa [hset, changeWrites, hm, hi, happly] using hcommitted

theorem changeWrites_reached {w : MorphWrite} (h : w ∈ t.changeWrites config name value) :
    Relation.ReflTransGen t.state.rig.Drives name w.place.name := by
  unfold changeWrites at h
  cases hm : t.state.rig.find? name with
  | none => simp [hm] at h
  | some m =>
    simp only [hm] at h
    split at h
    · cases h
    · split at h
      · cases h
      · obtain ⟨-, hreached⟩ := apply_written hm config.maxMorphDepth [] value
        have hplace : w.place ∈ (applyWrites config.maxMorphDepth [] m value t.state).map
            MorphWrite.place := List.mem_map_of_mem h
        obtain ⟨place, x⟩ := w
        cases place with
        | setting n => exact hreached n hplace
        | weight n =>
          exact hreached n (setting_of_weight_mem_applyWrites _ _ _ _ _ hplace)

theorem notMem_changeWrites (place : MorphPlace)
    (h : ¬ Relation.ReflTransGen t.state.rig.Drives name place.name) :
    place ∉ (t.changeWrites config name value).map MorphWrite.place := by
  intro hmem
  obtain ⟨w, hw, rfl⟩ := List.mem_map.1 hmem
  exact h (changeWrites_reached hw)

theorem setValue_find? {n : String} (h : ¬ Relation.ReflTransGen t.state.rig.Drives name n) :
    (t.setValue config name value).1.state.rig.find? n = t.state.rig.find? n := by
  rw [(t.setValue_written config name value).rig]
  exact find?_writes (notMem_changeWrites (.setting n) h)

/-- **A change of a slider does not see what it does not read.** -/
theorem setValue_congr {P : String → Prop} (hunset : t'.state.rig.unset = t.state.rig.unset)
    (hfind : ∀ n, P n → t'.state.rig.find? n = t.state.rig.find? n) (hname : P name)
    (hreads : ∀ i, Relation.ReflTransGen t.state.rig.Drives name i → ∀ m,
      t.state.rig.find? i = some m → ∀ f ∈ m.formulas, ∀ url ∈ f.reads, ∀ u,
        Reference.parse? url = some u → P u.assetId) :
    (t'.setValue config name value).2 = (t.setValue config name value).2 ∧
      t'.outputs config name value = t.outputs config name value ∧
      t'.changeWrites config name value = t.changeWrites config name value := by
  have hsame := hfind name hname
  cases hm : t.state.rig.find? name with
  | none => simp [setValue, outputs, changeWrites, hsame, hm]
  | some m =>
    have hagree : Agree (fun n => P n ∧ n ≠ m.name) t.state t'.state :=
      ⟨hunset, fun n hn => congrArg (Option.map RiggedMorph.value) (hfind n hn.1)⟩
    have halike := apply_alike_reached name
      (fun i hi m hm f hf url hurl u hu => .inl (hreads i hi m hm f hf url hurl u hu))
      config.maxMorphDepth [] value value rfl hunset rfl (holds_of_find? hm)
      (Keyed.key_of_find? hm ▸ .refl)
    obtain ⟨hwrites, hanswer⟩ := halike.same ⟨rfl, hagree⟩
    rw [hm] at hsame
    by_cases hi : ignores config m value = true
    · simp [setValue, outputs, changeWrites, hsame, hm, hi]
    · have happlied : ignores config m value = false := by simpa using hi
      refine ⟨?_, ?_, ?_⟩
      · rw [setValue_answer hsame happlied, setValue_answer hm happlied, hanswer]
      · simp only [outputs, hsame, hm, hanswer]
      · simp only [changeWrites, hsame, hm, hanswer, hwrites]

/-! ### Bones -/

theorem setValue_armature (t : MorphStage) (config : ImportConfig) (name : String) (value : Float) :
    (t.setValue config name value).1.armature = t.armature.map fun a => (a.commit
      (.ofOutputs (some a) name (Output.combine .binary64 (t.outputs config name value)))).1 := by
  rcases t.setValue_outputs config name value with ⟨hnone, notes, hset⟩ | ⟨s, hset⟩
  · have hnothing : ∀ a : Armature, (a.commit (.ofOutputs (some a) name
        (Output.combine .binary64 []))).1 = a := Armature.commit_empty
    simp [hset, hnone, hnothing]
  · rw [hset, commit_armature]

/-- A result of a morph that the morph `name` leads to names no morph, and it addresses the bone at
a place. -/
def Moves (t : MorphStage) (name : String) (i : Nat) : Prop :=
  ∃ n m output a p axis, Relation.ReflTransGen t.state.rig.Drives name n ∧
    t.state.rig.find? n = some m ∧ output ∈ outcomes m ∧ t.state.rig.target? output = none ∧
    t.armature = some a ∧ a.address? output = some (i, p, axis)

theorem exists_outcome_of_mem_outputs {o : Output Float} (h : o ∈ t.outputs config name value) :
    ∃ n m, Relation.ReflTransGen t.state.rig.Drives name n ∧ t.state.rig.find? n = some m ∧
      o.target ∈ outcomes m ∧ t.state.rig.target? o.target = none := by
  unfold outputs at h
  cases hm : t.state.rig.find? name with
  | none => simp [hm] at h
  | some m =>
    simp only [hm] at h
    split at h
    · cases h
    · cases happly : apply config.maxMorphDepth [] m value t.state with
      | mk s answer =>
        rw [happly] at h
        cases answer with
        | error e => cases h
        | ok os =>
          obtain ⟨own, vs, cs, htour⟩ := apply_tour t.state.rig _ _ rfl (holds_of_find? hm) happly
          obtain ⟨ks, n, x, hpath, hx⟩ := htour.exists_outcome (.here m.name) h
          rw [show m.name = name from Keyed.key_of_find? hm] at hpath
          exact ⟨n, x, hpath.reaches, hx⟩

theorem moves_of_changedBy {a : Armature} {i : Nat} (ha : t.armature = some a)
    (h : a.ChangedBy (.ofOutputs (some a) name
      (Output.combine .binary64 (t.outputs config name value))) i) : t.Moves name i := by
  have haddress : ∃ o ∈ t.outputs config name value, ∃ p axis,
      a.address? o.target = some (i, p, axis) :=
    (Output.exists_combine fun target => ∃ p axis, a.address? target = some (i, p, axis)).1
      (Commitment.exists_address_of_changedBy h)
  obtain ⟨o, ho, p, axis, haddress⟩ := haddress
  obtain ⟨n, m, hreached, hm, houtcome, hnone⟩ := exists_outcome_of_mem_outputs ho
  exact ⟨n, m, o.target, a, p, axis, hreached, hm, houtcome, hnone, ha, haddress⟩

/-! ### Independent sliders -/

end MorphStage

/-- No formula of a morph that the first one leads to reads a morph that the second one leads
to. -/
def MorphRig.Overlooks (r : MorphRig) (first second : String) : Prop :=
  ∀ i, Relation.ReflTransGen r.Drives first i → ∀ m, r.find? i = some m →
    ∀ f ∈ m.formulas, ∀ url ∈ f.reads, ∀ u, Reference.parse? url = some u →
      ¬ Relation.ReflTransGen r.Drives second u.assetId

namespace MorphStage

open MorphRig MorphState

/-- Two morphs lead to different morphs, read nothing of each other and move different bones. -/
structure Independent (t : MorphStage) (first second : String) : Prop where
  apart : ∀ n, Relation.ReflTransGen t.state.rig.Drives first n →
    ¬ Relation.ReflTransGen t.state.rig.Drives second n
  overlooks : t.state.rig.Overlooks first second
  overlooked : t.state.rig.Overlooks second first
  bones : ∀ i, t.Moves first i → ¬ t.Moves second i

variable {t : MorphStage} {config : ImportConfig} {first second : String}

theorem Independent.symm (h : t.Independent first second) : t.Independent second first where
  apart n hsecond hfirst := h.apart n hfirst hsecond
  overlooks := h.overlooked
  overlooked := h.overlooks
  bones i hsecond hfirst := h.bones i hfirst hsecond

/-- A list of morphs that holds all that its morphs drive. -/
def Closed (t : MorphStage) (names : List String) : Prop :=
  ∀ m ∈ t.state.rig.morphs, m.name ∈ names → ∀ f ∈ m.formulas,
    ∀ u ∈ Reference.parse? f.output, (t.state.rig.find? u.assetId).isSome → u.assetId ∈ names

/-- No formula of a morph in `names` reads a morph in `names'`. -/
def Unread (t : MorphStage) (names names' : List String) : Prop :=
  ∀ m ∈ t.state.rig.morphs, m.name ∈ names → ∀ f ∈ m.formulas, ∀ url ∈ f.reads,
    ∀ u ∈ Reference.parse? url, u.assetId ∉ names'

instance (names : List String) : Decidable (t.Closed names) :=
  inferInstanceAs (Decidable (∀ m ∈ t.state.rig.morphs, m.name ∈ names → ∀ f ∈ m.formulas,
    ∀ u ∈ Reference.parse? f.output, (t.state.rig.find? u.assetId).isSome → u.assetId ∈ names))

instance (names names' : List String) : Decidable (t.Unread names names') :=
  inferInstanceAs (Decidable (∀ m ∈ t.state.rig.morphs, m.name ∈ names → ∀ f ∈ m.formulas,
    ∀ url ∈ f.reads, ∀ u ∈ Reference.parse? url, u.assetId ∉ names'))

theorem Closed.mem_of_reaches {names : List String} (hclosed : t.Closed names) {name n : String}
    (hname : name ∈ names) (h : Relation.ReflTransGen t.state.rig.Drives name n) : n ∈ names := by
  induction h with
  | refl => exact hname
  | tail _ hdrives ih =>
    obtain ⟨-, hsome, m, hm, f, hf, -, u, hu, rfl⟩ := hdrives
    have hmem : m.name ∈ names := Keyed.key_of_find? hm ▸ ih
    exact hclosed m (Keyed.mem_of_find? hm) hmem f hf u hu hsome

/-- Morphs are independent if they are in lists that can be told apart by going through them. -/
theorem Independent.of_closed {names names' : List String} (hfirst : first ∈ names)
    (hsecond : second ∈ names') (hclosed : t.Closed names) (hclosed' : t.Closed names')
    (hapart : ∀ n ∈ names, n ∉ names') (hunread : t.Unread names names')
    (hunread' : t.Unread names' names)
    (hbones : ∀ m ∈ t.state.rig.morphs, m.name ∈ names → ∀ output ∈ outcomes m,
      ∀ m' ∈ t.state.rig.morphs, m'.name ∈ names' → ∀ output' ∈ outcomes m',
        ∀ a ∈ t.armature, ∀ x ∈ a.address? output, ∀ x' ∈ a.address? output', x.1 ≠ x'.1) :
    t.Independent first second where
  apart n h h' := hapart n (hclosed.mem_of_reaches hfirst h) (hclosed'.mem_of_reaches hsecond h')
  overlooks i hi m hm f hf url hurl u hu h := by
    have hmem : m.name ∈ names := Keyed.key_of_find? hm ▸ hclosed.mem_of_reaches hfirst hi
    exact hunread m (Keyed.mem_of_find? hm) hmem f hf url hurl u hu
      (hclosed'.mem_of_reaches hsecond h)
  overlooked i hi m hm f hf url hurl u hu h := by
    have hmem : m.name ∈ names' := Keyed.key_of_find? hm ▸ hclosed'.mem_of_reaches hsecond hi
    exact hunread' m (Keyed.mem_of_find? hm) hmem f hf url hurl u hu
      (hclosed.mem_of_reaches hfirst h)
  bones i := by
    rintro ⟨n, m, output, a, p, axis, hn, hm, houtput, -, ha, haddress⟩
      ⟨n', m', output', a', p', axis', hn', hm', houtput', -, ha', haddress'⟩
    obtain rfl := Option.some.inj (ha.symm.trans ha')
    have hmem : m.name ∈ names := Keyed.key_of_find? hm ▸ hclosed.mem_of_reaches hfirst hn
    have hmem' : m'.name ∈ names' := Keyed.key_of_find? hm' ▸ hclosed'.mem_of_reaches hsecond hn'
    exact hbones m (Keyed.mem_of_find? hm) hmem output houtput m' (Keyed.mem_of_find? hm') hmem'
      output' houtput' a ha _ haddress _ haddress' rfl

/-- **A change of a slider neither sees nor disturbs an independent one before it.** -/
theorem setValue_undisturbed (config : ImportConfig) (h : t.Independent first second)
    (a b : Float) :
    ((t.setValue config first a).1.setValue config second b).2 =
        (t.setValue config second b).2 ∧
      (t.setValue config first a).1.outputs config second b = t.outputs config second b ∧
      (t.setValue config first a).1.changeWrites config second b =
        t.changeWrites config second b := by
  have hwritten := t.setValue_written config first a
  refine setValue_congr (P := fun n => ¬ Relation.ReflTransGen t.state.rig.Drives first n) ?_ ?_ ?_
    h.overlooked
  · rw [hwritten.rig, writes_unset]
  · exact fun n hn => setValue_find? hn
  · exact fun hfirst => h.apart second hfirst .refl

/-- **Independent sliders can be set in either order.** Each change has the same answer, and the
values, the weights and the bones are the same in the end. Either change may be applied, ignored or
refused. -/
theorem setValue_comm (config : ImportConfig) (h : t.Independent first second) (a b : Float) :
    ((t.setValue config first a).2 =
        ((t.setValue config second b).1.setValue config first a).2 ∧
      ((t.setValue config first a).1.setValue config second b).2 =
        (t.setValue config second b).2) ∧
    ((t.setValue config first a).1.setValue config second b).1.state.rig =
        ((t.setValue config second b).1.setValue config first a).1.state.rig ∧
      ((t.setValue config first a).1.setValue config second b).1.state.mesh =
        ((t.setValue config second b).1.setValue config first a).1.state.mesh ∧
      ((t.setValue config first a).1.setValue config second b).1.armature =
        ((t.setValue config second b).1.setValue config first a).1.armature := by
  obtain ⟨hanswer, houtputs, hwrites⟩ := setValue_undisturbed config h a b
  obtain ⟨hanswer', houtputs', hwrites'⟩ := setValue_undisturbed config h.symm b a
  -- both orders write the same to the places of the two sliders, which are different ones
  have hfirst := (t.setValue_written config first a).trans (setValue_written _ config second b)
  have hsecond := (t.setValue_written config second b).trans (setValue_written _ config first a)
  rw [hwrites] at hfirst
  rw [hwrites'] at hsecond
  have hplaces : ∀ w ∈ t.changeWrites config first a, ∀ w' ∈ t.changeWrites config second b,
      w.place ≠ w'.place := by
    intro w hw w' hw' heq
    refine h.apart w.place.name (changeWrites_reached hw) ?_
    rw [heq]
    exact changeWrites_reached hw'
  have hcomm := writes_comm (s := t.state) hplaces
  rw [← writes_append, ← writes_append] at hcomm
  refine ⟨⟨hanswer'.symm, hanswer⟩, ?_, ?_, ?_⟩
  · rw [hfirst.rig, hsecond.rig, hcomm]
  · rw [hfirst.mesh, hsecond.mesh, hcomm]
  · simp only [setValue_armature, houtputs, houtputs', Option.map_map]
    cases ha : t.armature with
    | none => rw [Option.map_none, Option.map_none] -- `rfl` would unfold both commitments
    | some A =>
      simp only [Option.map_some, Function.comp_apply,
        Commitment.ofOutputs_congr (Armature.commit_labels A _)]
      exact congrArg some (Armature.commit_comm fun i hi hi' =>
        h.bones i (moves_of_changedBy ha hi) (moves_of_changedBy ha hi'))

/-- Two sliders of one figure. The first one bends the thigh through a morph that is hidden. -/
def figureStage : MorphStage :=
  ⟨⟨⟨[⟨"crouch", true, [⟨"body:#bend?value", [.push 0.0 (some "body:#crouch?value")], .sum⟩], false,
        none⟩,
      ⟨"bend", false, [⟨"thigh:#thigh?rotation/x", [.push 0.0 (some "body:#bend?value")], .sum⟩],
        true, none⟩,
      ⟨"nod", true, [⟨"neck:#neck?rotation/x", [.push 0.0 (some "body:#nod?value")], .sum⟩], true,
        none⟩]⟩,
      ((Mesh.ofFaces "body" [] []).addShapeKey "bend" []).addShapeKey "nod" [], []⟩,
    some ⟨"rig-figure",
      [{ (default : Bone) with name := "thigh", templateId := "thigh", pose := .rest },
        { (default : Bone) with name := "neck", templateId := "neck", pose := .rest }], .object⟩⟩

theorem figureStage_independent : figureStage.Independent "crouch" "nod" :=
  have hclosed : figureStage.Closed ["crouch", "bend"] := by decide +kernel
  have hclosed' : figureStage.Closed ["nod"] := by decide +kernel
  .of_closed (by decide) (by decide) hclosed hclosed' (by decide) (by decide +kernel)
    (by decide +kernel) (by decide +kernel)

theorem setValue_comm_figure : figureStage.Independent "crouch" "nod" ∧
    (figureStage.setValue .standard "crouch" 1.0).2 = .ok true ∧
    (figureStage.setValue .standard "nod" 2.0).2 = .ok true ∧
    ((figureStage.setValue .standard "crouch" 1.0).1.setValue .standard "nod" 2.0).1.armature =
      ((figureStage.setValue .standard "nod" 2.0).1.setValue .standard "crouch" 1.0).1.armature :=
  ⟨figureStage_independent, rfl, rfl,
    (setValue_comm .standard figureStage_independent 1.0 2.0).2.2.2⟩

end MorphStage

end RiggedScene
