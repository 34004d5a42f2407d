import RiggedScene.Proofs.Morph.DriveGraph
import RiggedScene.Proofs.Morph.Writes

/-!
# Applying a morph again

Which places an application writes to, and which outputs it hands back, depends on the drive graph
only. What it writes there depends on the values that its formulas read.

* `MorphState.Agree` : two states of one rig in which some morphs have the same values;
* `MorphRig.applyWrites` is what an application writes, along the recursion of `MorphRig.apply`;
* `MorphRig.Alike` compares what two applications make of two states;
* `MorphRig.apply_alike` : two applications of a morph write to the same places, and the same values
  if they are given the same value and the states agree on what is read.
-/

namespace RiggedScene

/-! ### States of one rig -/

namespace MorphState

/-- The rigs differ in values only, and not in those of the morphs in `P`. -/
structure Agree (P : String → Prop) (s s' : MorphState) : Prop where
  unset : s'.rig.unset = s.rig.unset
  value : ∀ n, P n → s'.rig.value? n = s.rig.value? n

namespace Agree

variable {P Q : String → Prop} {s s' t t' : MorphState} {ws : List MorphWrite} {w : MorphWrite}

theorem mono (h : Agree P s s') (hQ : ∀ n, Q n → P n) : Agree Q s s' :=
  ⟨h.unset, fun n hn => h.value n (hQ n hn)⟩

/-- A morph that is written has the same value afterwards. -/
theorem write (h : Agree P s s') (hQ : ∀ n, Q n → w.place ≠ .setting n → P n) :
    Agree Q (s.write w) (s'.write w) where
  unset := by rw [write_unset, write_unset, h.unset]
  value n hn := by
    rw [value?_write, value?_write]
    split
    · have hfind := congrArg (Option.map fun _ => w.value) (MorphRig.find?_unset_congr h.unset n)
      simpa only [Option.map_map, Function.comp_def] using hfind
    · next hne => exact h.value n (hQ n hn hne)

theorem writes (h : Agree P s s') : Agree P (s.writes ws) (s'.writes ws) := by
  induction ws generalizing s s' with
  | nil => exact h
  | cons w ws ih => exact ih (h.write fun n hn _ => hn)

theorem of_writes {ws' : List MorphWrite} (h : Agree P (s.writes ws) (s'.writes ws'))
    (ht : s.Written ws t) (ht' : s'.Written ws' t') : Agree P t t' := by
  obtain ⟨notes, rfl⟩ := ht
  obtain ⟨notes', rfl⟩ := ht'
  exact ⟨h.unset, h.value⟩

/-- A morph that is settled on a value has it afterwards. -/
theorem settleWrites {m : RiggedMorph} {value : Float}
    (h : Agree (fun n => P n ∧ n ≠ m.name) s s') :
    Agree (fun n => P n ∨ n = m.name) (s.writes (m.settleWrites value))
      (s'.writes (m.settleWrites value)) := by
  have hwrite : Agree (fun n => P n ∨ n = m.name) (s.write ⟨.setting m.name, value⟩)
      (s'.write ⟨.setting m.name, value⟩) := by
    refine h.write fun n hn hne => ?_
    have hother : n ≠ m.name := fun heq => hne (congrArg MorphPlace.setting heq.symm)
    exact ⟨hn.resolve_right hother, hother⟩
  exact hwrite.writes

theorem resolve (h : Agree P s s') {url : String}
    (hurl : ∀ u, Reference.parse? url = some u → P u.assetId) :
    s'.rig.resolve url = s.rig.resolve url := by
  unfold MorphRig.resolve
  cases hu : Reference.parse? url with
  | none => rfl
  | some u => exact h.value u.assetId (hurl u hu)

end Agree

end MorphState

namespace MorphRig

open MorphState (Agree Written)

/-! ### Results of a morph in two rigs -/

section Results

variable {r r' : MorphRig} {m m' : RiggedMorph}

theorem target?_unset_congr (h : r'.unset = r.unset) (output : String) :
    (r'.target? output).map RiggedMorph.unset = (r.target? output).map RiggedMorph.unset := by
  unfold target?
  cases Reference.parse? output with
  | none => rfl
  | some u => exact find?_unset_congr h u.assetId

/-- The outputs of the formulas of a morph that have results. -/
def outcomes (m : RiggedMorph) : List String :=
  m.formulas.filterMap fun f => f.outcome.toOption.map fun _ => f.output

theorem outcomes_congr (h : m'.unset = m.unset) : outcomes m' = outcomes m := by
  rw [outcomes, outcomes, RiggedMorph.formulas_of_unset h]

theorem evaluate_targets (r : MorphRig) (m : RiggedMorph) :
    (r.evaluate m).1.map Output.target = outcomes m := by
  simp only [evaluate, outcomes, List.map_filterMap]
  refine List.filterMap_congr fun f _ => ?_
  rw [← f.evaluate_outcome .binary64 r.resolve, result]
  cases f.evaluate .binary64 r.resolve with
  | error e => rfl
  | ok e => rfl

theorem evaluate_congr (hm : m'.unset = m.unset)
    (h : ∀ f ∈ m.formulas, ∀ url ∈ f.reads, r'.resolve url = r.resolve url) :
    r'.evaluate m' = r.evaluate m := by
  have hname := RiggedMorph.name_of_unset hm
  have hformulas := RiggedMorph.formulas_of_unset hm
  have hresult : ∀ f ∈ m.formulas, r'.result m.name f = r.result m.name f := fun f hf => by
    simp only [result, Formula.evaluate_congr .binary64 (h f hf)]
  simp only [evaluate, hname, hformulas]
  refine Prod.ext (List.filterMap_congr fun f hf => ?_) (List.flatMap_congr fun f hf => ?_)
  · rw [hresult f hf]
  · rw [hresult f hf]

end Results

/-! ### What an application writes -/

/-- What the applications of a morph write, by the morph, its value and the state. -/
abbrev Writing := RiggedMorph → Float → MorphState → List MorphWrite

/-- What carrying out one result writes. -/
def deliverWrites (writing : Writing) (self : RiggedMorph) (o : Output Float) (s : MorphState) :
    List MorphWrite :=
  match s.rig.target? o.target with
  | none => []
  | some t => if t.name = self.name then self.blendWrites o.value else writing t o.value s

/-- What carrying out results in order writes. -/
def propagateWrites (app : Application) (writing : Writing) (self : RiggedMorph) :
    List (Output Float) → MorphState → List MorphWrite
  | [], _ => []
  | o :: os, s =>
    deliverWrites writing self o s ++
      match deliver app self o s with
      | (_, .error _) => []
      | (s, .ok _) => propagateWrites app writing self os s

/-- What applying a morph writes, its own value first. -/
def applyWrites : Nat → List String → Writing
  | 0, _, _, _, _ => []
  | room + 1, applying, m, value, s =>
    if m.name ∈ applying then []
    else
      m.settleWrites value ++
        propagateWrites (apply room (m.name :: applying)) (applyWrites room (m.name :: applying)) m
          ((s.settle m value).rig.evaluate m).1 (enter m value s)

/-! ### Two applications -/

/-- The targets of the outputs that are handed back; none after an error. -/
def targets (answer : Except Error (List (Output Float))) : Option (List String) :=
  answer.toOption.map (List.map Output.target)

/-- What two applications make of the states `s` and `s'`. They write to the same places, and the
morphs among these are `Reached`; if `same` holds, they write the same values. -/
structure Alike (Reached : String → Prop) (same : Prop) (s s' : MorphState)
    (ws ws' : List MorphWrite) (r r' : MorphState × Except Error (List (Output Float))) :
    Prop where
  written : s.Written ws r.1
  written' : s'.Written ws' r'.1
  places : ws'.map MorphWrite.place = ws.map MorphWrite.place
  reached : ∀ n, .setting n ∈ ws.map MorphWrite.place → Reached n
  targets : targets r'.2 = targets r.2
  same : same → ws' = ws ∧ r'.2 = r.2

namespace Alike

variable {Reached : String → Prop} {same same' : Prop} {s s' t t' : MorphState}
  {ws ws' ws₀ ws₀' : List MorphWrite}
  {r r' : MorphState × Except Error (List (Output Float))}

theorem mono (h : Alike Reached same s s' ws ws' r r') (hsame : same' → same) :
    Alike Reached same' s s' ws ws' r r' :=
  { h with same := fun h' => h.same (hsame h') }

theorem answer (s s' : MorphState) {a a' : Except Error (List (Output Float))}
    (htargets : MorphRig.targets a' = MorphRig.targets a) (hsame : same → a' = a) :
    Alike Reached same s s' [] [] (s, a) (s', a') where
  written := .refl s
  written' := .refl s'
  places := rfl
  reached _ hn := nomatch hn
  targets := htargets
  same h := ⟨rfl, hsame h⟩

/-- Something is written before. -/
theorem after (ht : s.Written ws₀ t) (ht' : s'.Written ws₀' t')
    (hplaces : ws₀'.map MorphWrite.place = ws₀.map MorphWrite.place)
    (hreached : ∀ n, .setting n ∈ ws₀.map MorphWrite.place → Reached n)
    (h : Alike Reached same' t t' ws ws' r r') (hsame : same → ws₀' = ws₀ ∧ same') :
    Alike Reached same s s' (ws₀ ++ ws) (ws₀' ++ ws') r r' where
  written := ht.trans h.written
  written' := ht'.trans h.written'
  places := by rw [List.map_append, List.map_append, hplaces, h.places]
  reached n hn := by
    rw [List.map_append, List.mem_append] at hn
    exact hn.elim (hreached n) (h.reached n)
  targets := h.targets
  same hs := by
    obtain ⟨rfl, hs'⟩ := hsame hs
    obtain ⟨rfl, hanswer⟩ := h.same hs'
    exact ⟨rfl, hanswer⟩

theorem append {os os' : List (Output Float)} {a a' : Except Error (List (Output Float))}
    (h : Alike Reached same s s' ws ws' (t, a) (t', a'))
    (htargets : os'.map Output.target = os.map Output.target) (hsame : same → os' = os) :
    Alike Reached same s s' ws ws' (t, a.map (os ++ ·)) (t', a'.map (os' ++ ·)) where
  written := h.written
  written' := h.written'
  places := h.places
  reached := h.reached
  targets := by
    have hlater := h.targets
    cases a <;> cases a' <;> simp_all [MorphRig.targets, Except.map, Except.toOption]
  same hs := by
    obtain ⟨hws, hanswer⟩ := h.same hs
    exact ⟨hws, by rw [hsame hs, show a' = a from hanswer]⟩

end Alike

/-- Applications of one morph to states of the rig `r` are alike. -/
def AppliesAlike (r : MorphRig) (Reached P : String → Prop) (app : Application)
    (writing : Writing) : Prop :=
  ∀ {m m' : RiggedMorph} (value value' : Float) {s s' : MorphState}, s.rig.unset = r.unset →
    s'.rig.unset = r.unset → m'.unset = m.unset → r.Holds m → Reached m.name →
    Alike Reached (value' = value ∧ Agree (fun n => P n ∧ n ≠ m.name) s s') s s'
      (writing m value s) (writing m' value' s') (app m value s) (app m' value' s')

section Deliver

variable {r : MorphRig} {Reached P : String → Prop} {app : Application} {writing : Writing}
  {self self' : RiggedMorph} {s s' : MorphState}

/-- The morphs that an output drives are reached. -/
def TargetReached (r : MorphRig) (Reached : String → Prop) (self : RiggedMorph)
    (o : Output Float) : Prop :=
  ∀ t, (r.target? o.target).map RiggedMorph.name = some t → t ≠ self.name → Reached t

theorem targetReached_of_mem_evaluate {r' : MorphRig} {m : RiggedMorph} (h : r'.unset = r.unset)
    (hm : r.Holds m) (hdrives : ∀ t, r.Drives m.name t → Reached t) :
    ∀ o ∈ (r'.evaluate m).1, TargetReached r Reached m o := by
  intro o ho t ht hne
  refine hdrives t ?_
  rw [← drives_congr h, drives_iff_mem_evaluate (hm.congr h.symm)]
  exact ⟨o, ho, by rw [target?_name_congr h, ht], hne⟩

theorem deliver_alike (happ : AppliesAlike r Reached P app writing) (hs : s.rig.unset = r.unset)
    (hs' : s'.rig.unset = r.unset) (hself : self'.unset = self.unset) {o o' : Output Float}
    (ho : o'.target = o.target) (hreached : TargetReached r Reached self o) :
    Alike Reached (o' = o ∧ Agree P s s') s s' (deliverWrites writing self o s)
      (deliverWrites writing self' o' s') (deliver app self o s) (deliver app self' o' s') := by
  have hname := RiggedMorph.name_of_unset hself
  have htarget := target?_unset_congr (hs'.trans hs.symm) o.target
  unfold deliver deliverWrites
  rw [ho]
  cases hx : s.rig.target? o.target with
  | none =>
    rw [hx] at htarget
    rw [Option.map_eq_none_iff.1 htarget]
    exact .answer s s' (by simp [targets, Except.toOption, ho]) fun h => by rw [h.1]
  | some x =>
    rw [hx] at htarget
    obtain ⟨x', hx', hunset⟩ := Option.map_eq_some_iff.1 htarget
    have hxname := RiggedMorph.name_of_unset hunset
    rw [hx']
    dsimp only
    rw [hxname, hname]
    by_cases heq : x.name = self.name
    · rw [if_pos heq, if_pos heq, if_pos heq, if_pos heq, RiggedMorph.blendWrites_congr hself]
      have hwritten := RiggedMorph.blendWrites_congr hself ▸ Written.blend s' self' o'.value
      refine ⟨.blend s self o.value, hwritten, self.blendWrites_places _ _, fun n hn => ?_, rfl,
        fun h => by rw [h.1]; exact ⟨rfl, rfl⟩⟩
      exact absurd hn (RiggedMorph.setting_notMem_blendWrites n)
    · rw [if_neg heq, if_neg heq, if_neg heq, if_neg heq]
      have hholds : r.Holds x := by
        obtain ⟨u, -, hfind⟩ := target?_eq_some_iff.1 hx
        exact (holds_of_find? hfind).congr hs
      have hmeets : Reached x.name := by
        refine hreached x.name ?_ heq
        rw [← target?_name_congr hs, hx]
        rfl
      refine (happ o.value o'.value hs hs' hunset hholds hmeets).mono fun hsame => ?_
      exact ⟨by rw [hsame.1], hsame.2.mono fun n hn => hn.1⟩

theorem propagate_alike (happ : AppliesAlike r Reached P app writing)
    (hs : s.rig.unset = r.unset) (hs' : s'.rig.unset = r.unset) (hself : self'.unset = self.unset)
    {os os' : List (Output Float)} (hos : os'.map Output.target = os.map Output.target)
    (hreached : ∀ o ∈ os, TargetReached r Reached self o) :
    Alike Reached (os' = os ∧ Agree P s s') s s' (propagateWrites app writing self os s)
      (propagateWrites app writing self' os' s') (propagate app self os s)
      (propagate app self' os' s') := by
  induction os generalizing os' s s' with
  | nil =>
    obtain rfl : os' = [] := by simpa using hos
    exact .answer s s' rfl fun _ => rfl
  | cons o os ih =>
    cases os' with
    | nil => simp at hos
    | cons o' os' =>
      obtain ⟨ho, hos⟩ := List.cons.inj hos
      obtain ⟨hfirst, hrest⟩ := List.forall_mem_cons.1 hreached
      have h := deliver_alike (P := P) happ hs hs' hself ho hfirst
      simp only [propagate, propagateWrites]
      generalize deliver app self o s = first at h ⊢
      generalize deliver app self' o' s' = first' at h ⊢
      obtain ⟨t, a⟩ := first
      obtain ⟨t', a'⟩ := first'
      have htargets := h.targets
      cases a with
      | error e =>
        cases a' with
        | error e' =>
          rw [List.append_nil, List.append_nil]
          exact h.mono fun hsame => ⟨(List.cons.inj hsame.1).1, hsame.2⟩
        | ok here' => cases htargets
      | ok here =>
        cases a' with
        | error e' => cases htargets
        | ok here' =>
          have hhere : here'.map Output.target = here.map Output.target := Option.some.inj htargets
          have ht : t.rig.unset = r.unset := by rw [h.written.rig, MorphState.writes_unset, hs]
          have ht' : t'.rig.unset = r.unset := by rw [h.written'.rig, MorphState.writes_unset, hs']
          have hlater := ih ht ht' hos hrest
          have hsame : o' :: os' = o :: os ∧ Agree P s s' →
              deliverWrites writing self' o' s' = deliverWrites writing self o s ∧
                os' = os ∧ Agree P t t' := by
            rintro ⟨heq, hagree⟩
            obtain ⟨rfl, rfl⟩ := List.cons.inj heq
            have hws := (h.same ⟨rfl, hagree⟩).1
            exact ⟨hws, rfl, hagree.writes.of_writes h.written (hws ▸ h.written')⟩
          have hall := Alike.after h.written h.written' h.places h.reached hlater hsame
          dsimp only
          generalize propagate app self os t = rest at hall ⊢
          generalize propagate app self' os' t' = rest' at hall ⊢
          obtain ⟨u, b⟩ := rest
          obtain ⟨u', b'⟩ := rest'
          have happend := hall.append hhere fun hsame =>
            Except.ok.inj (h.same ⟨(List.cons.inj hsame.1).1, hsame.2⟩).2
          cases b <;> cases b' <;> exact happend

end Deliver

/-! ### Applying -/

/-- **Two applications of a morph are alike.** The formulas of a morph that is reached read itself
and morphs in `P` only. -/
theorem apply_alike {r : MorphRig} {Reached P : String → Prop}
    (hdrives : ∀ i t, Reached i → r.Drives i t → Reached t)
    (hreads : ∀ m, r.Holds m → Reached m.name → ∀ f ∈ m.formulas, ∀ url ∈ f.reads,
      ∀ u, Reference.parse? url = some u → P u.assetId ∨ u.assetId = m.name)
    (room : Nat) (applying : List String) :
    AppliesAlike r Reached P (apply room applying) (applyWrites room applying) := by
  induction room generalizing applying with
  | zero =>
    intro m m' value value' s s' hs hs' hm hholds hmeets
    have hname := RiggedMorph.name_of_unset hm
    exact .answer s s' rfl fun _ => by rw [hname]
  | succ room ih =>
    intro m m' value value' s s' hs hs' hm hholds hmeets
    have hname := RiggedMorph.name_of_unset hm
    simp only [applyWrites, hname]
    by_cases hmem : m.name ∈ applying
    · rw [apply_of_mem hmem, apply_of_mem (hname.symm ▸ hmem), if_pos hmem, if_pos hmem]
      exact .answer s s' rfl fun _ => by rw [hname]
    · rw [apply_of_notMem hmem, apply_of_notMem (hname.symm ▸ hmem), if_neg hmem, if_neg hmem,
        hname, RiggedMorph.settleWrites_congr hm]
      have hsettle := Written.settle s m value
      have hsettle' := RiggedMorph.settleWrites_congr hm ▸ Written.settle s' m' value'
      have henter : s.Written (m.settleWrites value) (enter m value s) := hsettle.noting _
      have henter' : s'.Written (m.settleWrites value') (enter m' value' s') := hsettle'.noting _
      have hunset : (s.settle m value).rig.unset = r.unset := by
        rw [hsettle.rig, MorphState.writes_unset, hs]
      have hunset' : (s'.settle m' value').rig.unset = r.unset := by
        rw [hsettle'.rig, MorphState.writes_unset, hs']
      have htargets : ((s'.settle m' value').rig.evaluate m').1.map Output.target =
          ((s.settle m value).rig.evaluate m).1.map Output.target := by
        rw [evaluate_targets, evaluate_targets, outcomes_congr hm]
      have hdriven := targetReached_of_mem_evaluate hunset hholds fun t => hdrives m.name t hmeets
      have hs : (enter m value s).rig.unset = r.unset := hunset
      have hs' : (enter m' value' s').rig.unset = r.unset := hunset'
      have hrest := propagate_alike (P := P) (ih (m.name :: applying)) hs hs' hm htargets hdriven
      refine .after henter henter' (m.settleWrites_places value value') ?_ hrest ?_
      · intro n hn
        obtain rfl := RiggedMorph.setting_mem_settleWrites.1 hn
        exact hmeets
      · rintro ⟨rfl, hagree⟩
        have hsettled : Agree (fun n => P n ∨ n = m.name) (s.settle m value')
            (s'.settle m' value') := hagree.settleWrites.of_writes hsettle hsettle'
        have hentered : Agree (fun n => P n ∨ n = m.name) (enter m value' s)
            (enter m' value' s') := hagree.settleWrites.of_writes henter henter'
        refine ⟨rfl, ?_, hentered.mono fun n => .inl⟩
        exact congrArg Prod.fst (evaluate_congr hm fun f hf url hurl =>
          hsettled.resolve (hreads m hholds hmeets f hf url hurl))

/-- Two applications of a morph are alike on what it leads to. -/
theorem apply_alike_reached {r : MorphRig} {P : String → Prop} (name : String)
    (hreads : ∀ i, Relation.ReflTransGen r.Drives name i → ∀ m, r.find? i = some m →
      ∀ f ∈ m.formulas, ∀ url ∈ f.reads, ∀ u, Reference.parse? url = some u →
        P u.assetId ∨ u.assetId = i)
    (room : Nat) (applying : List String) :
    AppliesAlike r (Relation.ReflTransGen r.Drives name) P (apply room applying)
      (applyWrites room applying) := by
  refine apply_alike (fun _ _ hi ht => hi.tail ht) (fun m hm hreached f hf => ?_) room applying
  obtain ⟨m', hm', hunset⟩ := hm.exists_find?
  rw [← RiggedMorph.formulas_of_unset hunset] at hf
  exact hreads m.name hreached m' hm' f hf

theorem apply_written {s : MorphState} {name : String} {m : RiggedMorph}
    (hm : s.rig.find? name = some m) (room : Nat) (applying : List String) (value : Float) :
    s.Written (applyWrites room applying m value s) (apply room applying m value s).1 ∧
      ∀ n, .setting n ∈ (applyWrites room applying m value s).map MorphWrite.place →
        Relation.ReflTransGen s.rig.Drives name n := by
  have halike := apply_alike_reached (r := s.rig) (P := fun _ => True) name
    (fun _ _ _ _ _ _ _ _ _ _ => .inl trivial) room applying value value rfl rfl rfl
    (holds_of_find? hm) (Keyed.key_of_find? hm ▸ .refl)
  exact ⟨halike.written, halike.reached⟩

end MorphRig

end RiggedScene
