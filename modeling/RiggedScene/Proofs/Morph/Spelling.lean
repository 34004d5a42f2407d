import RiggedScene.Proofs.Morph.Written

/-!
# Results of one component under several spellings

A component of a bone can be addressed by several texts: with or without a final `value`, with or
without an asset id, and by each name that leads to the bone. Results with the same text are joined,
but texts of one component replace each other, and so do the changes under different names of one
bone, apart from the scale, to which all of them are added.

* `Armature.decisive?` is the text whose results count, found from the texts alone;
* `Armature.written_scale_iff` : a scale gets all results, name by name, exactly when one text only
  asks for it under each name;
* `Armature.gather_spelling` : the value that counts is the total of the results with this text, and
  so no result is lost, whatever the values, exactly when no other text asks for the component;
* `Armature.exists_result_lost` : with and without a final `value`, the first result is lost.
-/

namespace RiggedScene

/-! ### The text that decides -/

namespace Armature

variable (a : Armature) (i : Nat) (p : BoneProperty) (slot : Axis) (texts : List String)

/-- The text asks for a component of the bone at a place. -/
def asksAt (text : String) : Bool :=
  match a.address? text with
  | none => false
  | some (j, q, axis) => j = i ∧ q = p ∧ (axis = none ∨ axis = some slot)

/-- The names by which texts call the bone at a place, in order of first occurrence. -/
def callers (edit : Bool) : List String :=
  (texts.filterMap (a.caller? edit)).eraseDups.filter fun bone => a.position? bone = some i

/-- Among the texts that ask for a component under one name, in order of first occurrence, the
last one. -/
def lastText? (bone : String) : Option String :=
  (texts.eraseDups.filter (Reference.asksFor bone p slot)).getLast?

/-- The text whose results count for a component of the bone at a place. -/
def decisive? : Option String :=
  let names := a.callers i texts p.isEdit
  if p = .rotation then p.pick? (names.filterMap (lastText? p slot texts))
  else (p.pick? names).bind (lastText? p slot texts)

/-- What the results of an application amount to for an armature. -/
def gather (morph : String) (os : List (Output Float)) : Commitment :=
  .ofOutputs (some a) morph (Output.combine .binary64 os)

end Armature

/-- The total of the results with one text. -/
def Output.totalOf (os : List (Output Float)) (text : String) : Option Float :=
  Output.total? .binary64 (os.filter fun o => o.target = text)

theorem Output.totalOf_isSome {os : List (Output Float)} {text : String}
    (h : text ∈ os.map Output.target) : (totalOf os text).isSome = true := by
  obtain ⟨o, ho, rfl⟩ := List.mem_map.1 h
  have hmem : o ∈ os.filter fun o' => o'.target = o.target := by simp [ho]
  unfold totalOf
  cases hfilter : os.filter fun o' => o'.target = o.target with
  | nil => rw [hfilter] at hmem; cases hmem
  | cons o' os' => rfl

namespace Armature

variable {a : Armature} {i : Nat} {p : BoneProperty} {slot : Axis} {texts : List String}
  {text bone : String} {os : List (Output Float)}

theorem mem_of_lastText? (h : lastText? p slot texts bone = some text) :
    text ∈ texts ∧ Reference.asksFor bone p slot text = true := by
  obtain ⟨hmem, hasks⟩ := List.mem_filter.1 (List.mem_of_getLast? h)
  exact ⟨List.mem_eraseDups.1 hmem, hasks⟩

theorem asked?_combine : Commitment.asked? (Output.combine .binary64 os) bone p slot =
    (lastText? p slot (os.map Output.target) bone).bind (Output.totalOf os) := by
  have htext : lastText? p slot (os.map Output.target) bone =
      (((Output.combine .binary64 os).filter fun o =>
        Reference.asksFor bone p slot o.target).getLast?).map Output.target := by
    rw [lastText?, ← Output.targets_combine (A := .binary64), List.filter_map, List.getLast?_map]
    rfl
  rw [htext, Commitment.asked?]
  cases hlast : ((Output.combine .binary64 os).filter fun o =>
      Reference.asksFor bone p slot o.target).getLast? with
  | none => rfl
  | some o =>
    have hmem := (List.mem_filter.1 (List.mem_of_getLast? hlast)).1
    exact (Output.value_of_mem_combine hmem).symm

theorem map_bone_changesAt (morph : String) (edit : Bool) :
    (a.changesAt i ((a.gather morph os).changes edit)).map BoneChange.bone =
      a.callers i (os.map Output.target) edit := by
  have hnames := (Commitment.collected_ofOutputs a morph edit (Output.combine .binary64 os)).names
  rw [Output.targets_combine, eraseDups_filterMap_eraseDups] at hnames
  rw [callers, ← hnames, changesAt, List.filter_map]
  rfl

theorem written_gather (morph : String) : a.written (a.gather morph os) i p slot =
    (a.callers i (os.map Output.target) p.isEdit).filterMap fun bone =>
      ((lastText? p slot (os.map Output.target) bone).bind (Output.totalOf os)).or p.blank := by
  have hcollected := Commitment.collected_ofOutputs a morph p.isEdit (Output.combine .binary64 os)
  have hnodup : (((a.gather morph os).changes p.isEdit).map BoneChange.bone).Nodup := by
    rw [gather, hcollected.names]
    exact nodup_eraseDups _
  rw [← map_bone_changesAt morph, List.filterMap_map, written]
  refine List.filterMap_congr fun c hc => ?_
  have hmem : c ∈ (a.gather morph os).changes p.isEdit := (List.mem_filter.1 hc).1
  rw [hcollected.values c.bone c (Keyed.find?_of_mem hnodup hmem) p slot rfl, asked?_combine]
  rfl

theorem or_blank_of_lastText? (h : lastText? p slot (os.map Output.target) bone = some text) :
    ((lastText? p slot (os.map Output.target) bone).bind (Output.totalOf os)).or p.blank =
      Output.totalOf os text := by
  obtain ⟨v, hv⟩ := Option.isSome_iff_exists.1 (Output.totalOf_isSome (mem_of_lastText? h).1)
  simp [h, hv]

/-- What counts is the total of the text that decides. Without such a text nothing counts but what
a change has for a component that is not asked for. -/
theorem pick?_gather (a : Armature) (morph : String) (os : List (Output Float)) (i : Nat)
    (p : BoneProperty) (slot : Axis) :
    p.pick? (a.written (a.gather morph os) i p slot) =
        (a.decisive? i p slot (os.map Output.target)).bind (Output.totalOf os) ∨
      a.decisive? i p slot (os.map Output.target) = none ∧
        p.pick? (a.written (a.gather morph os) i p slot) = some 0.0 := by
  rw [written_gather, decisive?]
  generalize a.callers i (os.map Output.target) p.isEdit = names
  split
  · next hrotation =>
    -- only a rotation can be missing from a change, and then the next one counts
    subst hrotation
    simp only [BoneProperty.blank, Option.or_none]
    rw [← List.filterMap_filterMap, BoneProperty.pick?_filterMap]
    · exact .inl rfl
    · intro text htext
      obtain ⟨bone, -, hlast⟩ := List.mem_filterMap.1 htext
      exact Output.totalOf_isSome (mem_of_lastText? hlast).1
  · next hrotation =>
    have hblank : p.blank = some 0.0 := by
      cases p <;> first | rfl | exact absurd rfl hrotation
    rw [BoneProperty.pick?_filterMap fun bone _ => by simp [hblank]]
    cases p.pick? names with
    | none => exact .inl rfl
    | some bone =>
      -- a name under which nothing asks for the component leaves it blank
      cases htext : lastText? p slot (os.map Output.target) bone with
      | none => exact .inr ⟨htext, by simp [htext, hblank]⟩
      | some text =>
        rw [Option.bind_some, Option.bind_some, or_blank_of_lastText? htext, htext]
        exact .inl rfl

theorem eq_of_asksFor {other : String} (h : Reference.asksFor bone p slot text = true)
    (hother : Reference.asksFor other p slot text = true) : bone = other := by
  unfold Reference.asksFor at h hother
  cases haddress : Reference.boneAddress? text with
  | none => simp [haddress] at h
  | some x =>
    obtain ⟨name, q, axis⟩ := x
    obtain ⟨rfl, -⟩ : name = bone ∧ q = p ∧ (axis = none ∨ axis = some slot) := by
      simpa [haddress] using h
    obtain ⟨hname, -⟩ : name = other ∧ q = p ∧ (axis = none ∨ axis = some slot) := by
      simpa [haddress] using hother
    exact hname

theorem asksAt_of_asksFor (h : Reference.asksFor bone p slot text = true)
    (hbone : a.position? bone = some i) : a.asksAt i p slot text = true := by
  unfold Reference.asksFor at h
  unfold asksAt address?
  cases haddress : Reference.boneAddress? text with
  | none => simp [haddress] at h
  | some x =>
    obtain ⟨name, q, axis⟩ := x
    obtain ⟨rfl, rfl, haxis⟩ : name = bone ∧ q = p ∧ (axis = none ∨ axis = some slot) := by
      simpa [haddress] using h
    simp [hbone, haxis]

theorem exists_asksFor_of_asksAt (h : a.asksAt i p slot text = true) :
    ∃ bone, Reference.asksFor bone p slot text = true ∧ a.position? bone = some i := by
  unfold asksAt at h
  split at h
  · cases h
  · next j q axis haddress =>
    obtain ⟨rfl, rfl, haxis⟩ : j = i ∧ q = p ∧ (axis = none ∨ axis = some slot) := by simpa using h
    obtain ⟨bone, hbone, hj⟩ := address?_eq_some.1 haddress
    exact ⟨bone, by simp [Reference.asksFor, hbone, haxis], hj⟩

theorem asksAt_of_decisive? (h : a.decisive? i p slot texts = some text) :
    text ∈ texts ∧ a.asksAt i p slot text = true := by
  have hcaller : ∀ bone ∈ a.callers i texts p.isEdit, lastText? p slot texts bone = some text →
      text ∈ texts ∧ a.asksAt i p slot text = true := by
    intro bone hbone hlast
    obtain ⟨hmem, hasks⟩ := mem_of_lastText? hlast
    have hplace := (List.mem_filter.1 hbone).2
    exact ⟨hmem, asksAt_of_asksFor hasks (by simpa using hplace)⟩
  unfold decisive? at h
  split at h
  · obtain ⟨bone, hbone, hlast⟩ := List.mem_filterMap.1 (BoneProperty.mem_of_pick? h)
    exact hcaller bone hbone hlast
  · obtain ⟨bone, hbone, hlast⟩ := Option.bind_eq_some_iff.1 h
    exact hcaller bone (BoneProperty.mem_of_pick? hbone) hlast

end Armature

/-! ### Results that are lost -/

namespace Output

variable {os : List (Output Float)}

/-- The total of all results that ask for a component of the bone at a place. -/
def totalAt (a : Armature) (i : Nat) (p : BoneProperty) (slot : Axis) (os : List (Output Float)) :
    Option Float :=
  total? .binary64 (os.filter fun o => a.asksAt i p slot o.target)

/-- The total of all results that ask for a component under one name. -/
def totalUnder (bone : String) (p : BoneProperty) (slot : Axis) (os : List (Output Float)) :
    Option Float :=
  total? .binary64 (os.filter fun o => Reference.asksFor bone p slot o.target)

theorem total?_filter_eq_totalOf {asks : String → Bool} {text : String}
    (hasks : asks text = true) (hone : ∀ t ∈ os.map target, asks t = true → t = text) :
    total? .binary64 (os.filter fun o => asks o.target) = totalOf os text := by
  rw [totalOf]
  refine congrArg (total? .binary64) (List.filter_congr fun o ho => ?_)
  rw [Bool.eq_iff_iff, decide_eq_true_iff]
  constructor
  · exact hone o.target (List.mem_map_of_mem ho)
  · rintro rfl
    exact hasks

/-- All of a result but its value. -/
def shape (o : Output Float) : String × Stage := (o.target, o.stage)

theorem targets_of_shapes {os' : List (Output Float)} (h : os'.map shape = os.map shape) :
    os'.map target = os.map target := by
  have hfst := congrArg (List.map Prod.fst) h
  rwa [List.map_map, List.map_map] at hfst

theorem total?_zeros (h : ∀ o ∈ os, o.value = 0.0) :
    total? .binary64 os = none ∨ total? .binary64 os = some 0.0 := by
  induction os using List.reverseRecOn with
  | nil => exact .inl rfl
  | append_singleton os o ih =>
    have ho : o.value = 0.0 := h o (by simp)
    have hzero : joinTo .binary64 0.0 o = 0.0 := by
      rw [joinTo, ho]
      cases o.stage <;> decide
    rw [total?_concat]
    refine .inr (congrArg some ?_)
    rcases ih fun o' ho' => h o' (List.mem_append_left _ ho') with hos | hos
    · rw [hos, extend, ho]
    · rw [hos, extend, hzero]

theorem total?_nan (h : ∀ o ∈ os, o.value = 0.0 ∨ o.value = .nan) (hex : ∃ o ∈ os, o.value = .nan) :
    total? .binary64 os = some .nan := by
  induction os using List.reverseRecOn with
  | nil => simp at hex
  | append_singleton os o ih =>
    have hos : ∀ o' ∈ os, o'.value = 0.0 ∨ o'.value = .nan := fun o' ho' =>
      h o' (List.mem_append_left _ ho')
    rw [total?_concat]
    refine congrArg some ?_
    by_cases hbefore : ∃ o' ∈ os, o'.value = .nan
    · have hspoilt : joinTo .binary64 .nan o = .nan := by
        rw [joinTo]
        rcases h o (by simp) with ho | ho <;> rw [ho] <;> cases o.stage <;> decide
      rw [ih hos hbefore, extend, hspoilt]
    · have ho : o.value = .nan := by
        obtain ⟨o', ho', hnan⟩ := hex
        rcases List.mem_append.1 ho' with ho' | ho'
        · exact absurd ⟨o', ho', hnan⟩ hbefore
        · rwa [← List.mem_singleton.1 ho']
      have hspoils : joinTo .binary64 0.0 o = .nan := by
        rw [joinTo, ho]
        cases o.stage <;> decide
      have hzeros := total?_zeros fun o' ho' =>
        (hos o' ho').resolve_right fun hnan => hbefore ⟨o', ho', hnan⟩
      rcases hzeros with hnone | hzero
      · rw [hnone, extend, ho]
      · rw [hzero, extend, hspoils]

/-- The results with one text are not numbers, the others are zero. -/
def spoil (text : String) (o : Output Float) : Output Float :=
  { o with value := if o.target = text then .nan else 0.0 }

theorem map_shape_spoil (text : String) : (os.map (spoil text)).map shape = os.map shape := by
  rw [List.map_map]
  rfl

theorem value_of_mem_spoil {text : String} {o : Output Float} (h : o ∈ os.map (spoil text)) :
    o.value = if o.target = text then .nan else 0.0 := by
  obtain ⟨o', -, rfl⟩ := List.mem_map.1 h
  rfl

theorem total?_filter_spoil {asks : String → Bool} {text : String} (htext : text ∈ os.map target)
    (hasks : asks text = true) :
    total? .binary64 ((os.map (spoil text)).filter fun o => asks o.target) = some .nan := by
  refine total?_nan (fun o ho => ?_) ?_
  · rw [value_of_mem_spoil (List.mem_filter.1 ho).1]
    split
    · exact .inr rfl
    · exact .inl rfl
  · obtain ⟨o, ho, rfl⟩ := List.mem_map.1 htext
    exact ⟨spoil o.target o, List.mem_filter.2 ⟨List.mem_map_of_mem ho, hasks⟩, if_pos rfl⟩

theorem totalOf_spoil_ne {text other : String} (hother : other ≠ text) :
    totalOf (os.map (spoil text)) other ≠ some .nan := by
  have hvalues : ∀ o ∈ (os.map (spoil text)).filter fun o => o.target = other, o.value = 0.0 := by
    intro o ho
    obtain ⟨hmem, htarget⟩ := List.mem_filter.1 ho
    rw [value_of_mem_spoil hmem, if_neg (of_decide_eq_true htarget ▸ hother)]
  unfold totalOf
  rcases total?_zeros hvalues with htotal | htotal
  · rw [htotal]
    decide
  · rw [htotal]
    decide

end Output

namespace Armature

variable {a : Armature} {i : Nat} {p : BoneProperty} {slot : Axis} {os : List (Output Float)}

/-- If all texts that ask for a component decide, all its results are in what counts. -/
theorem pick?_eq_totalAt (morph : String)
    (h : ∀ text ∈ os.map Output.target, a.asksAt i p slot text = true →
      a.decisive? i p slot (os.map Output.target) = some text) {v : Float}
    (hv : Output.totalAt a i p slot os = some v) :
    p.pick? (a.written (a.gather morph os) i p slot) = some v := by
  -- some result asks for the component, since there is a total
  obtain ⟨o, ho⟩ : ∃ o, o ∈ os.filter fun o => a.asksAt i p slot o.target := by
    rw [← List.isEmpty_eq_false_iff_exists_mem]
    by_contra hempty
    rw [Bool.not_eq_false, List.isEmpty_iff] at hempty
    rw [Output.totalAt, hempty] at hv
    cases hv
  obtain ⟨ho, hasks⟩ := List.mem_filter.1 ho
  have hdecides := h o.target (List.mem_map_of_mem ho) hasks
  have htotal : Output.totalAt a i p slot os = Output.totalOf os o.target :=
    Output.total?_filter_eq_totalOf hasks fun t ht hasks' =>
      Option.some.inj ((h t ht hasks').symm.trans hdecides)
  rcases pick?_gather a morph os i p slot with hpick | ⟨hnone, -⟩
  · rw [hpick, hdecides, Option.bind_some, ← htotal, hv]
  · rw [hnone] at hdecides
    cases hdecides

/-- A text that asks for a component and does not decide is seen not to: a result that is not a
number is lost with it. -/
theorem exists_lost (morph : String) {text : String} (htext : text ∈ os.map Output.target)
    (hasks : a.asksAt i p slot text = true)
    (hne : a.decisive? i p slot (os.map Output.target) ≠ some text) :
    Output.totalAt a i p slot (os.map (Output.spoil text)) = some .nan ∧
      p.pick? (a.written (a.gather morph (os.map (Output.spoil text))) i p slot) ≠ some .nan := by
  refine ⟨Output.total?_filter_spoil htext hasks, ?_⟩
  have htexts : (os.map (Output.spoil text)).map Output.target = os.map Output.target :=
    Output.targets_of_shapes (Output.map_shape_spoil text)
  rcases pick?_gather a morph (os.map (Output.spoil text)) i p slot with hpick | ⟨-, hblank⟩
  · rw [hpick, htexts]
    cases hdecides : a.decisive? i p slot (os.map Output.target) with
    | none => simp
    | some other =>
      exact Output.totalOf_spoil_ne fun heq => hne (hdecides.trans (congrArg some heq))
  · rw [hblank]
    decide

theorem bind_totalOf_eq_totalUnder {bone : String} (h : ∀ text ∈ os.map Output.target,
    Reference.asksFor bone p slot text = true →
      lastText? p slot (os.map Output.target) bone = some text) :
    (lastText? p slot (os.map Output.target) bone).bind (Output.totalOf os) =
      Output.totalUnder bone p slot os := by
  cases hlast : lastText? p slot (os.map Output.target) bone with
  | none =>
    have hnone : (os.filter fun o => Reference.asksFor bone p slot o.target) = [] := by
      refine List.filter_eq_nil_iff.2 fun o ho hasks => ?_
      have hsome := h o.target (List.mem_map_of_mem ho) hasks
      rw [hlast] at hsome
      cases hsome
    rw [Output.totalUnder, hnone]
    rfl
  | some text =>
    obtain ⟨-, hasks⟩ := mem_of_lastText? hlast
    refine (Output.total?_filter_eq_totalOf hasks fun t ht hasks' => ?_).symm
    exact Option.some.inj ((h t ht hasks').symm.trans hlast)

theorem written_scale_gather (a : Armature) (morph : String) (os : List (Output Float)) (i : Nat)
    (slot : Axis) : a.written (a.gather morph os) i .scale slot =
      (a.callers i (os.map Output.target) false).map fun bone =>
        ((lastText? .scale slot (os.map Output.target) bone).bind (Output.totalOf os)).getD 0.0 := by
  rw [written_gather]
  refine (List.filterMap_congr fun bone _ => ?_).trans (congrFun List.filterMap_eq_map _)
  rw [Function.comp_apply]
  cases (lastText? .scale slot (os.map Output.target) bone).bind (Output.totalOf os) <;> rfl

theorem mem_callers_of_asksFor {bone : String} (htext : text ∈ texts)
    (hasks : Reference.asksFor bone p slot text = true) (hbone : a.position? bone = some i) :
    bone ∈ a.callers i texts p.isEdit := by
  have hcaller := Commitment.caller?_of_asksFor hasks (by rw [hbone]; rfl)
  exact List.mem_filter.2 ⟨List.mem_eraseDups.2 (List.mem_filterMap.2 ⟨text, htext, hcaller⟩),
    by simp [hbone]⟩

/-- Each text is the last one under its name if each name has one text only. -/
theorem forall_lastText?_iff :
    (∀ bone ∈ a.callers i texts p.isEdit, ∀ text ∈ texts,
      Reference.asksFor bone p slot text = true → lastText? p slot texts bone = some text) ↔
    ∀ text ∈ texts, a.asksAt i p slot text = true →
      ∃ bone ∈ a.callers i texts p.isEdit, lastText? p slot texts bone = some text := by
  constructor
  · intro h text htext hasks
    obtain ⟨bone, hbone, hplace⟩ := exists_asksFor_of_asksAt hasks
    have hcaller := mem_callers_of_asksFor htext hbone hplace
    exact ⟨bone, hcaller, h bone hcaller text htext hbone⟩
  · intro h bone hbone text htext hasks
    have hplace : a.position? bone = some i := by simpa using (List.mem_filter.1 hbone).2
    obtain ⟨other, -, hlast⟩ := h text htext (asksAt_of_asksFor hasks hplace)
    rwa [eq_of_asksFor hasks (mem_of_lastText? hlast).2]

/-- **Each name adds the total of its results to a scale**, whatever the values, if and only if one
text only asks for it under each name. -/
theorem written_scale_iff (a : Armature) (morph : String) (os : List (Output Float)) (i : Nat)
    (slot : Axis) :
    (∀ os', os'.map Output.shape = os.map Output.shape →
      a.written (a.gather morph os') i .scale slot =
        (a.callers i (os.map Output.target) false).map fun bone =>
          (Output.totalUnder bone .scale slot os').getD 0.0) ↔
      ∀ text ∈ os.map Output.target, a.asksAt i .scale slot text = true →
        ∃ bone ∈ a.callers i (os.map Output.target) false,
          lastText? .scale slot (os.map Output.target) bone = some text := by
  refine Iff.trans ?_ (forall_lastText?_iff (p := .scale))
  constructor
  · intro h bone hbone text htext hasks
    by_contra hne
    have htexts : (os.map (Output.spoil text)).map Output.target = os.map Output.target :=
      Output.targets_of_shapes (Output.map_shape_spoil text)
    have hwritten := h _ (Output.map_shape_spoil text)
    rw [written_scale_gather, htexts, List.map_inj_left] at hwritten
    have htotal : Output.totalUnder bone .scale slot (os.map (Output.spoil text)) = some .nan :=
      Output.total?_filter_spoil htext hasks
    have hnan := hwritten bone hbone
    rw [htotal, Option.getD_some] at hnan
    -- the name has another last text or none, and neither is spoilt
    cases hvalue : (lastText? .scale slot (os.map Output.target) bone).bind
        (Output.totalOf (os.map (Output.spoil text))) with
    | none =>
      rw [hvalue, Option.getD_none] at hnan
      exact absurd hnan (by decide)
    | some v =>
      rw [hvalue, Option.getD_some] at hnan
      obtain ⟨other, hlast, hother⟩ := Option.bind_eq_some_iff.1 hvalue
      have hne' : other ≠ text := fun heq => hne (hlast.trans (congrArg some heq))
      exact Output.totalOf_spoil_ne hne' (hother.trans (congrArg some hnan))
  · intro h os' hshape
    have htexts := Output.targets_of_shapes hshape
    rw [written_scale_gather, htexts]
    refine List.map_congr_left fun bone hbone => ?_
    have hone := h bone hbone
    rw [← htexts] at hone ⊢
    rw [bind_totalOf_eq_totalUnder hone]

/-- **What becomes of the results of one application.** The text that decides asks for the
component, and the value that counts is the total of the results with this text. Whatever the values
are, it is the total of all results for the component, if and only if no other text asks for the
component. To a scale each name of the bone adds the total of the results with its last text, and
that is the total of all its results, whatever the values are, if and only if each text that asks
for the scale is the last one under its name. And the bone gets the values that count, and all of
those for its scale. -/
theorem gather_spelling (a : Armature) (morph : String) (os : List (Output Float)) (i : Nat) :
    (∀ p slot text, a.decisive? i p slot (os.map Output.target) = some text →
      a.asksAt i p slot text = true ∧
        p.pick? (a.written (a.gather morph os) i p slot) = Output.totalOf os text) ∧
    (∀ p slot,
      (∀ os', os'.map Output.shape = os.map Output.shape → ∀ v,
        Output.totalAt a i p slot os' = some v →
        p.pick? (a.written (a.gather morph os') i p slot) = some v) ↔
      ∀ text ∈ os.map Output.target, a.asksAt i p slot text = true →
        a.decisive? i p slot (os.map Output.target) = some text) ∧
    (∀ slot, a.written (a.gather morph os) i .scale slot =
      (a.callers i (os.map Output.target) false).map fun bone =>
        ((lastText? .scale slot (os.map Output.target) bone).bind (Output.totalOf os)).getD 0.0) ∧
    (∀ slot,
      (∀ os', os'.map Output.shape = os.map Output.shape →
        a.written (a.gather morph os') i .scale slot =
          (a.callers i (os.map Output.target) false).map fun bone =>
            (Output.totalUnder bone .scale slot os').getD 0.0) ↔
      ∀ text ∈ os.map Output.target, a.asksAt i .scale slot text = true →
        ∃ bone ∈ a.callers i (os.map Output.target) false,
          lastText? .scale slot (os.map Output.target) bone = some text) ∧
    ∀ b, a.bones[i]? = some b →
      ∃ b', (a.commit (a.gather morph os)).1.bones[i]? = some b' ∧
        Carried a (a.gather morph os) i b b' := by
  refine ⟨fun p slot text htext => ⟨(asksAt_of_decisive? htext).2, ?_⟩,
    fun p slot => ⟨fun h text htext hasks => ?_, fun h os' hshape v hv => ?_⟩,
    written_scale_gather a morph os i, written_scale_iff a morph os i,
    fun b hb => commit_carried _ hb⟩
  · rcases pick?_gather a morph os i p slot with hpick | ⟨hnone, -⟩
    · rw [hpick, htext, Option.bind_some]
    · rw [hnone] at htext
      cases htext
  · by_contra hne
    obtain ⟨htotal, hlost⟩ := exists_lost morph htext hasks hne
    exact hlost (h _ (Output.map_shape_spoil text) _ htotal)
  · rw [← Output.targets_of_shapes hshape] at h
    exact pick?_eq_totalAt morph h hv

/-- An armature with one bone. -/
def thighRig : Armature :=
  ⟨"rig-thigh", [{ (default : Bone) with name := "thigh", templateId := "thigh", pose := .rest }],
    .object⟩

/-- Two results with the same text are added up, and nothing else asks for the rotation. Where the
bone has a name of its own, both names add to its scale. -/
theorem gather_spelling_thigh :
    let os : List (Output Float) := [⟨"thigh:#thigh?rotation/x", .sum, 1.0⟩,
      ⟨"thigh:#thigh?scale/x", .sum, 5.0⟩, ⟨"thigh:#thigh?rotation/x", .sum, 2.0⟩]
    let named : Armature := { thighRig with
      bones := [{ (default : Bone) with name := "thigh-1", templateId := "thigh", pose := .rest }] }
    let scales : List (Output Float) := [⟨"thigh:#thigh?scale/x", .sum, 5.0⟩,
      ⟨"thigh:#thigh-1?scale/x", .sum, 0.5⟩, ⟨"thigh:#thigh?scale/x", .mult, 2.0⟩]
    Output.totalAt thighRig 0 .rotation .x os = some 3.0 ∧
      BoneProperty.pick? .rotation
        (thighRig.written (thighRig.gather "bend" os) 0 .rotation .x) = some 3.0 ∧
      named.written (named.gather "bend" scales) 0 .scale .x = [10.0, 0.5] := by
  intro os named scales
  have htotal : Output.totalAt thighRig 0 .rotation .x os = some 3.0 := by decide +kernel
  have hdecides : ∀ text ∈ os.map Output.target, thighRig.asksAt 0 .rotation .x text = true →
      thighRig.decisive? 0 .rotation .x (os.map Output.target) = some text := by decide +kernel
  have hlast : ∀ text ∈ scales.map Output.target, named.asksAt 0 .scale .x text = true →
      ∃ bone ∈ named.callers 0 (scales.map Output.target) false,
        lastText? .scale .x (scales.map Output.target) bone = some text := by decide +kernel
  obtain ⟨-, hall, -⟩ := gather_spelling thighRig "bend" os 0
  obtain ⟨-, -, -, hscale, -⟩ := gather_spelling named "bend" scales 0
  refine ⟨htotal, (hall .rotation .x).2 hdecides os rfl 3.0 htotal, ?_⟩
  exact ((hscale .x).2 hlast scales rfl).trans (by decide +kernel)

/-- **A result is lost.** Two results are for the rotation of one bone about one axis, one of them
written with a final `value`. Their sum is three, but two is what counts, and the bone is turned by
two degrees. -/
theorem exists_result_lost : ∃ (a : Armature) (os : List (Output Float)) (b' : Bone),
    (∀ o ∈ os, o.stage = .sum ∧ a.asksAt 0 .rotation .x o.target = true) ∧
      Output.totalAt a 0 .rotation .x os = some 3.0 ∧
      BoneProperty.pick? .rotation (a.written (a.gather "bend" os) 0 .rotation .x) = some 2.0 ∧
      (a.commit (a.gather "bend" os)).1.bones[0]? = some b' ∧
      b'.pose.rotation = ⟨Units.toRadians 2.0, 0.0, 0.0⟩ := by
  refine ⟨thighRig,
    [⟨"thigh:#thigh?rotation/x", .sum, 1.0⟩, ⟨"thigh:#thigh?rotation/x/value", .sum, 2.0⟩], _,
    by decide +kernel, by decide +kernel, by decide +kernel, rfl, by decide +kernel⟩

end Armature

end RiggedScene
