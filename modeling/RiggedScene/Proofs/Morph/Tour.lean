import RiggedScene.Proofs.Morph.DrivingPath
import RiggedScene.Proofs.Morph.Slider

/-!
# Every driving path counts once

A morph is applied as often as there are driving paths to it. Each time its formulas are evaluated
at the value that it is given then, and the results that name no morph are handed back. So a morph
that is driven once contributes once, at the value that it keeps; a morph that is driven several
times contributes several times, at values that are overwritten later as well.

* `Visit` is one time that an application comes to a morph, and `Contribution` an output with the
  path to the morph that it comes from;
* `MorphRig.Tour` relates the visits of an application to the driving paths, to the values it leaves
  and to the outputs it hands back, and `MorphRig.apply_tour` says that every application that goes
  through has one;
* `MorphStage.setValue_tour` : what a change of a slider commits comes from the driving paths, once
  from each;
* `MorphStage.exists_superseded_contribution` : so values count that are overwritten.
-/

namespace RiggedScene

/-! ### Visits -/

/-- One time that an application comes to a morph: the way it has come, the value that the morph is
given, and the results of its formulas at that value. -/
structure Visit where
  path : List Nat
  morph : String
  value : Float
  results : List (Output Float)

/-- An output that is handed back, with the way to the morph that it comes from. -/
abbrev Contribution := List Nat × Output Float

/-- The visit, seen from a morph whose result number `k` has led to the beginning of its path. -/
def Visit.under (k : Nat) (v : Visit) : Visit := { v with path := k :: v.path }

namespace Contribution

/-- The contribution, seen from a morph whose result number `k` has led to the beginning. -/
def under (k : Nat) (c : Contribution) : Contribution := (k :: c.1, c.2)

/-- What comes from the morph at the end of a path. -/
def ofPath (cs : List Contribution) (path : List Nat) : List (Output Float) :=
  (cs.filter fun c => c.1 = path).map Prod.snd

variable {cs cs' : List Contribution} {path : List Nat}

theorem ofPath_append : ofPath (cs ++ cs') path = ofPath cs path ++ ofPath cs' path := by
  simp [ofPath]

theorem ofPath_eq_nil (h : ∀ c ∈ cs, c.1 ≠ path) : ofPath cs path = [] := by
  have hfilter : (cs.filter fun c => c.1 = path) = [] := by simpa using h
  rw [ofPath, hfilter]
  rfl

theorem ofPath_under (k : Nat) : ofPath (cs.map (under k)) (k :: path) = ofPath cs path := by
  simp [ofPath, List.filter_map, Function.comp_def, under]

theorem ofPath_under_nil (k : Nat) : ofPath (cs.map (under k)) [] = [] :=
  ofPath_eq_nil fun c hc => by
    obtain ⟨c', -, rfl⟩ := List.mem_map.1 hc
    exact List.cons_ne_nil k c'.1

end Contribution

namespace MorphRig

variable {r r' r'' : MorphRig}

/-- The rig after the morphs of visits are settled. -/
def settledBy (r : MorphRig) (vs : List Visit) : MorphRig :=
  vs.foldl (fun r v => r.setting v.morph v.value) r

/-- Each visit has the results of its morph, at the values that it and those before it leave. -/
def Evaluated : MorphRig → List Visit → Prop
  | _, [] => True
  | r, v :: vs =>
    (∃ m, (r.setting v.morph v.value).find? v.morph = some m ∧
      v.results = ((r.setting v.morph v.value).evaluate m).1) ∧
    Evaluated (r.setting v.morph v.value) vs

/-- The results that name no morph. -/
def handedBack (r : MorphRig) (os : List (Output Float)) : List (Output Float) :=
  os.filter fun o => (r.target? o.target).isNone

@[simp] theorem settledBy_append (vs vs' : List Visit) :
    r.settledBy (vs ++ vs') = (r.settledBy vs).settledBy vs' := List.foldl_append

@[simp] theorem unset_settledBy (vs : List Visit) : (r.settledBy vs).unset = r.unset := by
  induction vs generalizing r with
  | nil => rfl
  | cons v vs ih => exact ih.trans (r.unset_setting v.morph v.value)

theorem evaluated_append {vs vs' : List Visit} :
    r.Evaluated (vs ++ vs') ↔ r.Evaluated vs ∧ (r.settledBy vs).Evaluated vs' := by
  induction vs generalizing r with
  | nil => simp [Evaluated, settledBy]
  | cons v vs ih =>
    simp only [List.cons_append, Evaluated, ih, and_assoc]
    rfl

theorem settledBy_under (k : Nat) (vs : List Visit) :
    r.settledBy (vs.map (Visit.under k)) = r.settledBy vs := by
  simp [settledBy, List.foldl_map, Visit.under]

theorem evaluated_under {k : Nat} {vs : List Visit} :
    r.Evaluated (vs.map (Visit.under k)) ↔ r.Evaluated vs := by
  induction vs generalizing r with
  | nil => rfl
  | cons v vs ih => exact and_congr_right fun _ => ih

theorem handedBack_congr (h : r'.unset = r.unset) : r'.handedBack = r.handedBack := by
  funext os
  refine List.filter_congr fun o _ => ?_
  have hname := congrArg Option.isNone (target?_name_congr h o.target)
  simpa using hname

theorem value_of_find?_setting {name : String} {value : Float} {m : RiggedMorph}
    (h : (r.setting name value).find? name = some m) : m.value = value := by
  rw [find?_setting_self] at h
  obtain ⟨x, -, rfl⟩ := Option.map_eq_some_iff.1 h
  rfl

theorem Evaluated.value? {vs : List Visit} (h : r.Evaluated vs) (n : String) :
    (r.settledBy vs).value? n =
      ((vs.reverse.find? fun v => v.morph = n).map Visit.value).or (r.value? n) := by
  induction vs generalizing r with
  | nil => rfl
  | cons v vs ih =>
    obtain ⟨⟨m, hm, -⟩, hrest⟩ := h
    refine (ih hrest).trans ?_
    rw [List.reverse_cons, List.find?_append]
    cases vs.reverse.find? fun v => v.morph = n with
    | some w => rfl
    | none =>
      by_cases hn : v.morph = n
      · subst hn
        have hvalue : m.value = v.value := value_of_find?_setting hm
        simp [MorphRig.value?, hm, hvalue]
      · simp [MorphRig.value?, find?_setting_of_ne _ hn, hn]

theorem Evaluated.exists_rig {vs : List Visit} {v : Visit} (h : r.Evaluated vs) (hv : v ∈ vs) :
    ∃ (r' : MorphRig) (m : RiggedMorph), r'.unset = r.unset ∧ r'.find? v.morph = some m ∧
      m.value = v.value ∧
      v.results = (r'.evaluate m).1 := by
  induction vs generalizing r with
  | nil => cases hv
  | cons w vs ih =>
    obtain ⟨⟨m, hm, hresults⟩, hrest⟩ := h
    rcases List.mem_cons.1 hv with rfl | hv
    · exact ⟨_, m, r.unset_setting _ _, hm, value_of_find?_setting hm, hresults⟩
    · obtain ⟨r', m, hunset, hvisit⟩ := ih hrest hv
      exact ⟨r', m, hunset.trans (r.unset_setting _ _), hvisit⟩

/-! ### Tours -/

/-- The visits `vs` between two states of a rig, along the paths in `P`, and the contributions `cs`
to the outputs `os`. Each path is taken once, and the values that the visits leave are those of the
later state. A visit is given its value by the result that has led to it, or at the beginning by
`G`, and it contributes its results that name no morph. What has no path behind it comes from the
beginning and is `own`. -/
structure Tour (r r' : MorphRig) (P : List Nat → String → Prop) (G : List Nat → Float → Prop)
    (own os : List (Output Float)) (vs : List Visit) (cs : List Contribution) : Prop where
  once : (vs.map Visit.path).Nodup
  paths : ∀ ks n, (∃ v ∈ vs, v.path = ks ∧ v.morph = n) ↔ P ks n
  given : ∀ v ∈ vs, G v.path v.value ∨ ∃ u ∈ vs, ∃ k, v.path = u.path ++ [k] ∧
    (u.results[k]?).map Output.value = some v.value
  evaluated : r.Evaluated vs
  settled : r' = r.settledBy vs
  outputs : cs.map Prod.snd = os
  contributed : ∀ v ∈ vs, Contribution.ofPath cs v.path = r.handedBack v.results
  origin : ∀ c ∈ cs, c.1 = [] ∨ ∃ v ∈ vs, v.path = c.1
  own : Contribution.ofPath cs [] = own

namespace Tour

variable {P P' : List Nat → String → Prop} {G G' : List Nat → Float → Prop}
  {own own' os os' : List (Output Float)} {vs vs' : List Visit} {cs cs' : List Contribution}

theorem congr (h : Tour r r' P G own os vs cs) (hP : ∀ ks n, P ks n ↔ P' ks n)
    (hG : ∀ ks x, G ks x → G' ks x) : Tour r r' P' G' own os vs cs :=
  { h with
    paths := fun ks n => (h.paths ks n).trans (hP ks n)
    given := fun v hv => (h.given v hv).imp_left (hG v.path v.value) }

theorem unset (h : Tour r r' P G own os vs cs) : r'.unset = r.unset := by
  rw [h.settled, unset_settledBy]

/-- No morph is visited, and the outputs are handed back as they are. -/
theorem stay (r : MorphRig) (os : List (Output Float)) :
    Tour r r (fun _ _ => False) (fun _ _ => False) os os [] (os.map fun o => ([], o)) where
  once := List.nodup_nil
  paths := by simp
  given := nofun
  evaluated := trivial
  settled := rfl
  outputs := by rw [List.map_map, List.map_id'']; exact fun _ => rfl
  contributed := nofun
  origin c hc := by
    obtain ⟨o, -, rfl⟩ := List.mem_map.1 hc
    exact .inl rfl
  own := by
    have hall : ((os.map fun o => (([] : List Nat), o)).filter fun c => c.1 = []) =
        os.map fun o => ([], o) := by simp
    rw [Contribution.ofPath, hall, List.map_map, List.map_id'']
    exact fun _ => rfl

theorem exists_origin (h : Tour r r' P G own os vs cs) {n : String} (hroot : P [] n)
    {c : Contribution} (hc : c ∈ cs) : ∃ v ∈ vs, v.path = c.1 := by
  rcases h.origin c hc with hnil | hvisit
  · obtain ⟨v, hv, hpath, -⟩ := (h.paths [] n).2 hroot
    exact ⟨v, hv, hpath.trans hnil.symm⟩
  · exact hvisit

/-- The tour behind a result; its beginning has been visited. -/
theorem under (h : Tour r r' P G own os vs cs) (k : Nat) {n : String} (hroot : P [] n) :
    Tour r r' (fun ks n => ∃ q, ks = k :: q ∧ P q n) (fun ks x => ∃ q, ks = k :: q ∧ G q x) [] os
      (vs.map (Visit.under k)) (cs.map (Contribution.under k)) where
  once := by
    have hpaths : (vs.map (Visit.under k)).map Visit.path = (vs.map Visit.path).map (k :: ·) := by
      simp [Function.comp_def, Visit.under]
    rw [hpaths]
    exact h.once.map fun _ _ heq => (List.cons.inj heq).2
  paths ks n := by
    constructor
    · rintro ⟨v', hv', rfl, rfl⟩
      obtain ⟨v, hv, rfl⟩ := List.mem_map.1 hv'
      exact ⟨v.path, rfl, (h.paths v.path v.morph).1 ⟨v, hv, rfl, rfl⟩⟩
    · rintro ⟨q, rfl, hq⟩
      obtain ⟨v, hv, rfl, rfl⟩ := (h.paths q n).2 hq
      exact ⟨v.under k, List.mem_map_of_mem hv, rfl, rfl⟩
  given v' hv' := by
    obtain ⟨v, hv, rfl⟩ := List.mem_map.1 hv'
    rcases h.given v hv with hG | ⟨u, hu, j, hpath, hvalue⟩
    · exact .inl ⟨v.path, rfl, hG⟩
    · exact .inr ⟨u.under k, List.mem_map_of_mem hu, j, congrArg (k :: ·) hpath, hvalue⟩
  evaluated := evaluated_under.2 h.evaluated
  settled := by rw [settledBy_under, ← h.settled]
  outputs := by
    rw [← h.outputs, List.map_map]
    rfl
  contributed v' hv' := by
    obtain ⟨v, hv, rfl⟩ := List.mem_map.1 hv'
    exact (Contribution.ofPath_under k).trans (h.contributed v hv)
  origin c' hc' := by
    obtain ⟨c, hc, rfl⟩ := List.mem_map.1 hc'
    obtain ⟨v, hv, hpath⟩ := h.exists_origin hroot hc
    exact .inr ⟨v.under k, List.mem_map_of_mem hv, congrArg (k :: ·) hpath⟩
  own := Contribution.ofPath_under_nil k

theorem ofPath_eq_nil (h : Tour r r' P G own os vs cs) {ks : List Nat} (hne : ks ≠ [])
    (hnot : ∀ n, ¬ P ks n) : Contribution.ofPath cs ks = [] := by
  refine Contribution.ofPath_eq_nil fun c hc hpath => ?_
  rcases h.origin c hc with hnil | ⟨v, hv, heq⟩
  · exact hne (hpath.symm.trans hnil)
  · exact hnot v.morph ((h.paths ks v.morph).1 ⟨v, hv, heq.trans hpath, rfl⟩)

/-- One tour after another, on other paths. -/
theorem append (h : Tour r r' P G own os vs cs) (h' : Tour r' r'' P' G' own' os' vs' cs')
    (hother : ∀ ks n n', P ks n → ¬ P' ks n') (hroot : ∀ n, ¬ P [] n) (hroot' : ∀ n, ¬ P' [] n) :
    Tour r r'' (fun ks n => P ks n ∨ P' ks n) (fun ks x => G ks x ∨ G' ks x) (own ++ own')
      (os ++ os') (vs ++ vs') (cs ++ cs') where
  once := by
    rw [List.map_append]
    refine List.nodup_append.2 ⟨h.once, h'.once, ?_⟩
    rintro ks hks ks' hks' rfl
    obtain ⟨v, hv, rfl⟩ := List.mem_map.1 hks
    obtain ⟨v', hv', hpath⟩ := List.mem_map.1 hks'
    exact hother v.path v.morph v'.morph ((h.paths _ _).1 ⟨v, hv, rfl, rfl⟩)
      ((h'.paths _ _).1 ⟨v', hv', hpath, rfl⟩)
  paths ks n := by
    rw [← h.paths, ← h'.paths]
    simp only [List.mem_append, or_and_right, exists_or]
  given v hv := by
    rcases List.mem_append.1 hv with hv | hv
    · exact (h.given v hv).imp .inl fun ⟨u, hu, hpath⟩ => ⟨u, List.mem_append_left _ hu, hpath⟩
    · exact (h'.given v hv).imp .inr fun ⟨u, hu, hpath⟩ => ⟨u, List.mem_append_right _ hu, hpath⟩
  evaluated := evaluated_append.2 ⟨h.evaluated, h.settled ▸ h'.evaluated⟩
  settled := by rw [settledBy_append, ← h.settled, ← h'.settled]
  outputs := by rw [List.map_append, h.outputs, h'.outputs]
  contributed v hv := by
    rw [Contribution.ofPath_append]
    rcases List.mem_append.1 hv with hv | hv
    · have hP := (h.paths v.path v.morph).1 ⟨v, hv, rfl, rfl⟩
      have hne : v.path ≠ [] := fun hnil => hroot v.morph (hnil ▸ hP)
      rw [h.contributed v hv, h'.ofPath_eq_nil hne fun n => hother _ _ n hP, List.append_nil]
    · have hP := (h'.paths v.path v.morph).1 ⟨v, hv, rfl, rfl⟩
      have hne : v.path ≠ [] := fun hnil => hroot' v.morph (hnil ▸ hP)
      rw [h'.contributed v hv, h.ofPath_eq_nil hne fun n hn => hother _ n _ hn hP,
        handedBack_congr h.unset, List.nil_append]
  origin c hc := by
    rcases List.mem_append.1 hc with hc | hc
    · exact (h.origin c hc).imp_right fun ⟨v, hv, heq⟩ => ⟨v, List.mem_append_left _ hv, heq⟩
    · exact (h'.origin c hc).imp_right fun ⟨v, hv, heq⟩ => ⟨v, List.mem_append_right _ hv, heq⟩
  own := by rw [Contribution.ofPath_append, h.own, h'.own]

/-- The morph at the beginning is visited before all that its results lead to. -/
theorem visit {name : String} {value : Float} {m : RiggedMorph} {results : List (Output Float)}
    (hm : (r.setting name value).find? name = some m)
    (hresults : results = ((r.setting name value).evaluate m).1)
    (h : Tour (r.setting name value) r' P G (r.handedBack results) os vs cs)
    (hroot : ∀ n, ¬ P [] n)
    (hG : ∀ ks x, G ks x → ∃ k, ks = [k] ∧ (results[k]?).map Output.value = some x) :
    Tour r r' (fun ks n => (ks = [] ∧ n = name) ∨ P ks n) (fun ks x => ks = [] ∧ x = value)
      (r.handedBack results) os (⟨[], name, value, results⟩ :: vs) cs where
  once := by
    refine List.nodup_cons.2 ⟨fun hmem => ?_, h.once⟩
    obtain ⟨v, hv, hpath⟩ := List.mem_map.1 hmem
    exact hroot v.morph ((h.paths [] v.morph).1 ⟨v, hv, hpath, rfl⟩)
  paths ks n := by
    rw [← h.paths]
    simp only [List.exists_mem_cons_iff]
    refine or_congr ?_ Iff.rfl
    exact and_congr eq_comm eq_comm
  given v hv := by
    rcases List.mem_cons.1 hv with rfl | hv
    · exact .inl ⟨rfl, rfl⟩
    · refine .inr ?_
      rcases h.given v hv with hgiven | ⟨u, hu, hpath⟩
      · obtain ⟨k, hpath, hvalue⟩ := hG v.path v.value hgiven
        exact ⟨_, List.mem_cons_self, k, hpath, hvalue⟩
      · exact ⟨u, List.mem_cons_of_mem _ hu, hpath⟩
  evaluated := ⟨⟨m, hm, hresults⟩, h.evaluated⟩
  settled := h.settled
  outputs := h.outputs
  contributed v hv := by
    rcases List.mem_cons.1 hv with rfl | hv
    · exact h.own
    · rw [h.contributed v hv, handedBack_congr (r.unset_setting name value)]
  origin c hc :=
    (h.origin c hc).imp_right fun ⟨v, hv, hpath⟩ => ⟨v, List.mem_cons_of_mem _ hv, hpath⟩
  own := h.own

theorem exists_outcome (h : Tour r r' P G own os vs cs) {n : String} (hroot : P [] n)
    {o : Output Float} (ho : o ∈ os) : ∃ ks n m, P ks n ∧ r.find? n = some m ∧
      o.target ∈ outcomes m ∧ r.target? o.target = none := by
  rw [← h.outputs] at ho
  obtain ⟨c, hc, rfl⟩ := List.mem_map.1 ho
  obtain ⟨v, hv, hpath⟩ := h.exists_origin hroot hc
  have hback : c.2 ∈ r.handedBack v.results := by
    rw [← h.contributed v hv, hpath]
    exact List.mem_map_of_mem (List.mem_filter.2 ⟨hc, decide_eq_true rfl⟩)
  obtain ⟨hresult, hnone⟩ := List.mem_filter.1 hback
  -- the rig at the visit has the morph with the same formulas
  obtain ⟨r₁, m₁, hunset, hm₁, -, hresults⟩ := h.evaluated.exists_rig hv
  have hfind := find?_unset_congr hunset v.morph
  rw [hm₁, Option.map_some] at hfind
  obtain ⟨m, hm, hsame⟩ := Option.map_eq_some_iff.1 hfind.symm
  refine ⟨v.path, v.morph, m, (h.paths _ _).1 ⟨v, hv, rfl, rfl⟩, hm, ?_, by simpa using hnone⟩
  rw [outcomes_congr hsame, ← evaluate_targets r₁ m₁, ← hresults]
  exact List.mem_map_of_mem hresult

/-- A morph with one driving path is visited once, at the value that it keeps. -/
theorem unique (h : Tour r r' P G own os vs cs) {ks : List Nat} {n : String}
    (hunique : ∀ ks', P ks' n ↔ ks' = ks) :
    ∃ (r₁ : MorphRig) (m : RiggedMorph), r₁.unset = r.unset ∧ r₁.find? n = some m ∧
      r'.value? n = some m.value ∧
      Contribution.ofPath cs ks = r.handedBack (r₁.evaluate m).1 ∧ ∃! v, v ∈ vs ∧ v.morph = n := by
  obtain ⟨v, hv, rfl, rfl⟩ := (h.paths ks n).2 ((hunique ks).2 rfl)
  have hsame : ∀ w ∈ vs, w.morph = v.morph → w = v := by
    intro w hw hmorph
    have hpath := (hunique w.path).1 ((h.paths w.path v.morph).1 ⟨w, hw, rfl, hmorph⟩)
    exact List.inj_on_of_nodup_map h.once hw hv hpath
  obtain ⟨r₁, m, hunset, hm, hvalue, hresults⟩ := h.evaluated.exists_rig hv
  refine ⟨r₁, m, hunset, hm, ?_, hresults ▸ h.contributed v hv, v, ⟨hv, rfl⟩, fun w hw =>
    hsame w hw.1 hw.2⟩
  rw [h.settled, h.evaluated.value?]
  cases hlast : vs.reverse.find? fun w => w.morph = v.morph with
  | none =>
    have hnone := List.find?_eq_none.1 hlast v (List.mem_reverse.2 hv)
    exact absurd (decide_eq_true rfl) hnone
  | some w =>
    have hmem : w ∈ vs := List.mem_reverse.1 (List.mem_of_find?_eq_some hlast)
    have hmorph : w.morph = v.morph := by simpa using List.find?_some hlast
    rw [hsame w hmem hmorph, hvalue]
    rfl

end Tour

/-! ### Applications -/

/-- Applications of morphs of the rig `r` that go through are tours of their driving paths. -/
def Tours (r : MorphRig) (app : Application) : Prop :=
  ∀ {m : RiggedMorph} {value : Float} {s s' : MorphState} {os : List (Output Float)},
    s.rig.unset = r.unset → r.Holds m → app m value s = (s', .ok os) →
      ∃ own vs cs, Tour s.rig s'.rig (r.DrivingPath m.name) (fun ks x => ks = [] ∧ x = value) own os
        vs cs

section Deliver

variable {app : Application} {self : RiggedMorph} {s s' : MorphState} {here : List (Output Float)}

theorem deliver_tour (happ : Tours r app) (hs : s.rig.unset = r.unset) {o : Output Float}
    (h : deliver app self o s = (s', .ok here)) (k : Nat) :
    ∃ vs cs, Tour s.rig s'.rig (r.Through self.name k o.target) (fun ks x => ks = [k] ∧ x = o.value)
      (r.handedBack [o]) here vs cs := by
  have hname := target?_name_congr hs o.target
  unfold deliver at h
  cases hx : s.rig.target? o.target with
  | none =>
    rw [hx] at h hname
    obtain ⟨rfl, hok⟩ := Prod.mk.inj h
    obtain rfl := Except.ok.inj hok
    have hnone : r.target? o.target = none := Option.map_eq_none_iff.1 hname.symm
    have hback : r.handedBack [o] = [o] := by simp [handedBack, hnone]
    rw [hback]
    exact ⟨_, _, (Tour.stay s.rig [o]).congr (by simp [Through, hnone]) nofun⟩
  | some t =>
    rw [hx, Option.map_some] at hname
    have hback : r.handedBack [o] = [] := by
      obtain ⟨x, hx', -⟩ := Option.map_eq_some_iff.1 hname.symm
      simp [handedBack, hx']
    rw [hback]
    simp only [hx] at h
    split at h
    · next heq =>
      -- only a shape key is blended in
      obtain ⟨rfl, hok⟩ := Prod.mk.inj h
      obtain rfl := Except.ok.inj hok
      rw [MorphState.blend_rig]
      refine ⟨_, _, (Tour.stay s.rig []).congr (fun ks n => ?_) nofun⟩
      simp only [Through, ← hname, Option.some.injEq, false_iff]
      rintro ⟨_, _, rfl, hne, -⟩
      exact hne heq
    · next hne =>
      -- what comes from the driven morph is no output of `self`
      obtain ⟨u, -, hfind⟩ := target?_eq_some_iff.1 hx
      obtain ⟨own, vs, cs, htour⟩ := happ hs ((holds_of_find? hfind).congr hs) h
      refine ⟨_, _, (htour.under k (.here t.name)).congr (fun ks n => ?_) ?_⟩
      · simp only [Through, ← hname, Option.some.injEq]
        constructor
        · rintro ⟨q, rfl, hq⟩
          exact ⟨t.name, q, rfl, hne, rfl, hq⟩
        · rintro ⟨_, q, rfl, -, rfl, hq⟩
          exact ⟨q, rfl, hq⟩
      · rintro _ _ ⟨_, rfl, rfl, rfl⟩
        exact ⟨rfl, rfl⟩

theorem propagate_cons_ok {o : Output Float} {os outs : List (Output Float)}
    (h : propagate app self (o :: os) s = (s', .ok outs)) : ∃ t here later,
      deliver app self o s = (t, .ok here) ∧ propagate app self os t = (s', .ok later) ∧
        outs = here ++ later := by
  simp only [propagate] at h
  cases hfirst : deliver app self o s with
  | mk t a =>
    rw [hfirst] at h
    cases a with
    | error e => cases h
    | ok here =>
      dsimp only at h
      cases hrest : propagate app self os t with
      | mk u b =>
        rw [hrest] at h
        cases b with
        | error e => cases h
        | ok later =>
          obtain ⟨rfl, hok⟩ := Prod.mk.inj h
          exact ⟨t, here, later, rfl, hrest, (Except.ok.inj hok).symm⟩

theorem propagate_tour (happ : Tours r app) {os outs : List (Output Float)}
    (hs : s.rig.unset = r.unset) (h : propagate app self os s = (s', .ok outs)) (k : Nat) :
    ∃ vs cs, Tour s.rig s'.rig (r.Behind self.name k (os.map Output.target))
      (fun ks x => ∃ j, ks = [k + j] ∧ (os[j]?).map Output.value = some x)
      (r.handedBack os) outs vs cs := by
  induction os generalizing k s outs with
  | nil =>
    obtain ⟨rfl, hok⟩ := Prod.mk.inj h
    obtain rfl := Except.ok.inj hok
    exact ⟨_, _, (Tour.stay s.rig []).congr (by simp [Behind]) nofun⟩
  | cons o os ih =>
    obtain ⟨t, here, later, hfirst, hrest, rfl⟩ := propagate_cons_ok h
    obtain ⟨vs, cs, htour⟩ := deliver_tour happ hs hfirst k
    obtain ⟨vs', cs', htour'⟩ := ih (htour.unset.trans hs) hrest (k + 1)
    have hback : r.handedBack (o :: os) = r.handedBack [o] ++ r.handedBack os :=
      List.filter_append [o] os
    rw [hback]
    refine ⟨_, _, (htour.append htour' ?_ ?_ ?_).congr ?_ ?_⟩
    · exact fun ks n n' hP hP' => hP'.not_through hP
    · rintro n ⟨_, _, _, _, hnil, _⟩
      cases hnil
    · rintro n ⟨_, _, _, _, _, _, _, hnil, _⟩
      cases hnil
    · exact fun ks n => behind_cons.symm
    · rintro ks x (⟨rfl, rfl⟩ | ⟨j, rfl, hj⟩)
      · exact ⟨0, rfl, rfl⟩
      · have hplace : k + 1 + j = k + (j + 1) := Nat.add_right_comm k 1 j
        exact ⟨j + 1, by rw [hplace], by simpa using hj⟩

end Deliver

/-- **An application that goes through is a tour of its driving paths.** The induction is on the
room left. -/
theorem apply_tour (r : MorphRig) (room : Nat) (applying : List String) :
    Tours r (apply room applying) := by
  induction room generalizing applying with
  | zero =>
    intro m value s s' os _ _ h
    cases h
  | succ room ih =>
    intro m value s s' os hs hm h
    by_cases hmem : m.name ∈ applying
    · rw [apply_of_mem hmem] at h
      cases h
    · rw [apply_of_notMem hmem] at h
      have hrig : (s.settle m value).rig = s.rig.setting m.name value := by
        simp [MorphState.settle]
      have henter : (enter m value s).rig = s.rig.setting m.name value := hrig
      have hset : (s.rig.setting m.name value).unset = r.unset := by simp [hs]
      rw [hrig] at h
      -- the results lead on from the rig in which the morph is settled
      obtain ⟨vs, cs, htour⟩ := propagate_tour (ih (m.name :: applying)) (henter ▸ hset) h 0
      rw [henter, evaluate_targets, ← handedBack_congr hs] at htour
      -- the rig may hold another value of `m`, but the same formulas
      obtain ⟨m', hm', hunset⟩ := (hm.congr hset.symm).exists_find?
      have hresults : ((s.rig.setting m.name value).evaluate m).1 =
          ((s.rig.setting m.name value).evaluate m').1 :=
        congrArg Prod.fst (evaluate_congr hunset fun _ _ _ _ => rfl).symm
      refine ⟨_, _, _, (htour.visit hm' hresults ?_ ?_).congr ?_ fun _ _ hG => hG⟩
      · rintro n ⟨_, _, _, _, _, _, _, hnil, _⟩
        cases hnil
      · rintro ks x ⟨j, rfl, hj⟩
        exact ⟨j, by rw [Nat.zero_add], hj⟩
      · exact fun ks n => (drivingPath_iff hm).symm

end MorphRig

namespace MorphStage

open MorphRig

variable {t : MorphStage} {config : ImportConfig} {name : String} {value : Float}

/-- **Every driving path counts once.** What an applied change of a slider combines and commits
comes from a tour of the driving paths of the morph that is set: each path to a morph contributes
the results of that morph that name no morph, at the value that the path has given it, and the last
one of these values is kept. So a morph with one driving path contributes once, with its results
at the value that it keeps. -/
theorem setValue_tour (h : (t.setValue config name value).2 = .ok true) :
    ∃ own vs cs,
      Tour t.state.rig (t.setValue config name value).1.state.rig (t.state.rig.DrivingPath name)
        (fun ks x => ks = [] ∧ x = value) own (t.outputs config name value) vs cs ∧
      ((t.setValue config name value).1.armature = t.armature.map fun a => (a.commit
        (.ofOutputs (some a) name (Output.combine .binary64 (cs.map Prod.snd)))).1) ∧
      (∀ n, (t.setValue config name value).1.state.rig.value? n =
        ((vs.reverse.find? fun v => v.morph = n).map Visit.value).or (t.state.rig.value? n)) ∧
      ∀ ks n, (∀ ks', t.state.rig.DrivingPath name ks' n ↔ ks' = ks) →
        ∃ (r : MorphRig) (m : RiggedMorph), r.unset = t.state.rig.unset ∧ r.find? n = some m ∧
          (t.setValue config name value).1.state.rig.value? n = some m.value ∧
          Contribution.ofPath cs ks = t.state.rig.handedBack (r.evaluate m).1 ∧
          ∃! v, v ∈ vs ∧ v.morph = n := by
  obtain ⟨m, s, hm, happly, hcommit, harmature⟩ := setValue_applied h
  have hname : m.name = name := Keyed.key_of_find? hm
  obtain ⟨own, vs, cs, htour⟩ := apply_tour t.state.rig _ _ rfl (holds_of_find? hm) happly
  have hrig : (t.setValue config name value).1.state.rig = s.rig := hcommit.rig
  rw [hname, ← hrig] at htour
  refine ⟨own, vs, cs, htour, ?_, fun n => ?_, fun ks n hunique => htour.unique hunique⟩
  · rw [htour.outputs, harmature]
  · rw [htour.settled]
    exact htour.evaluated.value? n

/-- A morph that sets another one twice, which turns a bone. -/
def pullStage : MorphStage :=
  ⟨⟨⟨[⟨"pull", true, [⟨"body:#lift?value", [.push 0.5 none], .sum⟩,
        ⟨"body:#lift?value", [.push 1.0 none], .sum⟩], false, none⟩,
      ⟨"lift", false, [⟨"thigh:#thigh?rotation/x", [.push 0.0 (some "body:#lift?value")], .sum⟩],
        false, none⟩]⟩, .ofFaces "body" [] [], []⟩, thighStage.armature⟩

theorem setValue_tour_pull : (pullStage.setValue .standard "pull" 1.0).2 = .ok true ∧
    ∃ own vs cs, Tour pullStage.state.rig (pullStage.setValue .standard "pull" 1.0).1.state.rig
      (pullStage.state.rig.DrivingPath "pull") (fun ks x => ks = [] ∧ x = 1.0) own
      (pullStage.outputs .standard "pull" 1.0) vs cs := by
  have happlied : (pullStage.setValue .standard "pull" 1.0).2 = .ok true := rfl
  obtain ⟨own, vs, cs, htour, -⟩ := setValue_tour happlied
  exact ⟨happlied, own, vs, cs, htour⟩

theorem pullStage_drives {i t : String} (h : pullStage.state.rig.Drives i t) :
    i = "pull" ∧ t = "lift" := by
  have hedges : ∀ m ∈ pullStage.state.rig.morphs, ∀ f ∈ m.formulas,
      ∀ u ∈ Reference.parse? f.output, (pullStage.state.rig.find? u.assetId).isSome →
        m.name = "pull" ∧ u.assetId = "lift" := by decide +kernel
  obtain ⟨-, hsome, m, hm, f, hf, -, u, hu, rfl⟩ := h
  have hname : m.name = i := Keyed.key_of_find? hm
  exact hname ▸ hedges m (Keyed.mem_of_find? hm) f hf u hu hsome

/-- **A value that is overwritten counts too.** The drive graph has no cycle, and one result of the
driven morph is all that turns the bone. It is combined at both values that the morph is given,
though the morph keeps one of them only. -/
theorem exists_superseded_contribution : ∃ (t : MorphStage) (name driven target : String)
    (m : RiggedMorph), (∀ i, ¬ Relation.TransGen t.state.rig.Drives i i) ∧
      (t.setValue .standard name 1.0).2 = .ok true ∧ t.state.rig.Drives name driven ∧
      (∀ x ∈ t.state.rig.morphs, ∀ f ∈ x.formulas, f.output = target → x.name = driven) ∧
      (t.setValue .standard name 1.0).1.state.rig.find? driven = some m ∧ m.value = 1.0 ∧
      ((t.setValue .standard name 1.0).1.state.rig.evaluate m).1 = [⟨target, .sum, 1.0⟩] ∧
      t.outputs .standard name 1.0 = [⟨target, .sum, 0.5⟩, ⟨target, .sum, 1.0⟩] ∧
      Output.combine .binary64 (t.outputs .standard name 1.0) = [⟨target, .sum, 1.5⟩] := by
  refine ⟨pullStage, "pull", "lift", "thigh:#thigh?rotation/x", _, fun i hi => ?_, rfl, ?_,
    by decide, rfl, rfl, rfl, rfl, by decide +kernel⟩
  · obtain ⟨t, hfirst, -⟩ := Relation.TransGen.head'_iff.1 hi
    obtain ⟨t', -, hlast⟩ := Relation.TransGen.tail'_iff.1 hi
    have hpull := (pullStage_drives hfirst).1
    rw [(pullStage_drives hlast).2] at hpull
    exact absurd hpull (by decide)
  · exact ⟨by decide, rfl, _, rfl, ⟨"body:#lift?value", [.push 0.5 none], .sum⟩, .head _,
      ⟨_, rfl⟩, _, rfl, by decide⟩

end MorphStage

end RiggedScene
