import RiggedScene.Proofs.Import.Modified
import RiggedScene.Proofs.Import.Prepared

/-!
# When the modifiers of a scene can be applied

A modifier that sets a morph looks its object up by the reference to its parent, and then once more
by the name of the object that was found. The name is taken for a reference again, so that a name
with escapes or with a `#` in front may lead elsewhere.

* `ImportedScene.Finds` : what is found under the name of the object has the morph;
* `ImportedScene.applyModifier_cases` : a modifier is applied if it finds the morph that it sets,
  and else it ends the import;
* `ImportedScene.ofDocument_isOk_iff` : a document is imported exactly when all modifiers of its
  scene find the morphs that they set, and this is so if the ids of its nodes are plain.
-/

namespace RiggedScene

theorem Modifier.kind_of_morph? {m : Modifier} {x : Morph} (h : m.morph? = some x) :
    m.kind = .morph x := by
  unfold morph? at h
  split at h
  · next heq => rw [heq, Option.some.inj h]
  · cases h

namespace ImportedScene

variable {s s' : ImportedScene} {m : ModifierInstance} {ms before : List ModifierInstance}
  {bones : List NodeInstance} {i : Nat} {o : SceneObject}

/-- The modifier finds the morph that it sets, once the modifiers `before` have been applied: there
is an object under the name of the one that it is for, with a morph from before or one that a
modifier has set. -/
def Finds (s : ImportedScene) (before : List ModifierInstance) (m : ModifierInstance) : Prop :=
  ∀ i o, s.Sets m i → s.objects[i]? = some o → ∃ j, s.objectIndex? o.name = some j ∧
    (s.Has j m.modifier.id ∨
      ∃ m' ∈ before ++ [m], s.Sets m' j ∧ m'.modifier.id = m.modifier.id)

/-- The error `e` is about an object whose name, taken for a reference, does not lead to it. -/
def Misses (s : ImportedScene) (e : Error) : Prop :=
  ∃ o ∈ s.objects, plainName o.name ≠ o.name ∧
    (e = .unknownObject o.name ∨ ∃ id, e = .unknownMorph id)

theorem finds_iff_of_sets (hsets : s.Sets m i) (ho : s.objects[i]? = some o) :
    s.Finds before m ↔ ∃ j, s.objectIndex? o.name = some j ∧ (s.Has j m.modifier.id ∨
      ∃ m' ∈ before ++ [m], s.Sets m' j ∧ m'.modifier.id = m.modifier.id) := by
  refine ⟨fun h => h i o hsets ho, fun h i' o' hsets' ho' => ?_⟩
  obtain rfl : i = i' := Option.some.inj (hsets.parent.symm.trans hsets'.parent)
  obtain rfl : o = o' := by simpa [ho] using ho'
  exact h

theorem finds_congr (h : Modified s before s') : s'.Finds [] m ↔ s.Finds before m := by
  by_cases hsome : ∃ i, s.Sets m i
  · obtain ⟨i, hsets⟩ := hsome
    obtain ⟨o, ho, -⟩ := hsets.mesh
    obtain ⟨o', ho', hlabel⟩ := exists_of_labels h.labels ho
    have hname : o'.name = o.name := congrArg Prod.fst hlabel
    rw [finds_iff_of_sets ((sets_congr h.labels).2 hsets) ho', finds_iff_of_sets hsets ho, hname]
    simp only [objectIndex?_congr h.labels, h.has_iff, sets_congr h.labels, List.nil_append,
      List.mem_append, or_and_right, exists_or, or_assoc]
  · have hnone : ∀ i, ¬ s.Sets m i := fun i hi => hsome ⟨i, hi⟩
    refine iff_of_true (fun i o hi => ?_) fun i o hi => absurd hi (hnone i)
    exact absurd ((sets_congr h.labels).1 hi) (hnone i)

theorem finds_of_plain (hsets : s.Sets m i) (ho : s.objects[i]? = some o)
    (hplain : plainName o.name = o.name) : s.Finds before m := by
  rw [finds_iff_of_sets hsets ho]
  obtain ⟨p, -, hi⟩ := Option.bind_eq_some_iff.1 hsets.parent
  obtain ⟨o', ho', hname⟩ := objectIndex?_eq_some hi
  obtain rfl : o = o' := by simpa [ho] using ho'
  have hself : s.objectIndex? o.name = some i := by
    unfold objectIndex? at hi ⊢
    rw [hplain, hname, hi]
  exact ⟨i, hself, .inr ⟨m, by simp, hsets, rfl⟩⟩

theorem applyMorph_of_mesh_none (hs : s.Bare) {parent : String} (hi : s.objectIndex? parent = some i)
    (ho : s.objects[i]? = some o) (hmesh : o.mesh = none) (channel : Channel) (m : Modifier) :
    s.applyMorph parent channel m = .ok s := by
  have hfind : o.morphs.find? m.id = none := by
    refine Option.not_isSome_iff_eq_none.1 fun hfound => ?_
    obtain ⟨o', ho', hmesh'⟩ := hs i m.id ((has_iff_of_getElem? ho).2 hfound)
    obtain rfl : o = o' := by simpa [ho] using ho'
    simp [hmesh] at hmesh'
  have hregister : s.registerOn i m = s := by simp only [registerOn, ho, hfind, hmesh]
  simp only [applyMorph, hi, hregister, ho, hfind]

theorem applyModifier_of_not_sets (hs : s.Bare) (bones : List NodeInstance)
    (hm : ∀ i, ¬ s.Sets m i) : ∃ s', applyModifier bones s m = .ok s' ∧ Modified s [m] s' := by
  have hself : Modified s [m] s := (Modified.refl s).of_not_sets hm
  unfold applyModifier
  cases hparent : m.parent with
  | none => exact ⟨s, rfl, hself⟩
  | some parent =>
    dsimp only
    split
    · exact ⟨_, rfl, (applySkin_modified bones parent _).of_not_sets hm⟩
    · next x channel hkind hchannel =>
      cases hi : s.objectIndex? parent with
      | none => exact ⟨s, by simp only [applyMorph, hi], hself⟩
      | some i =>
        obtain ⟨o, ho, -⟩ := objectIndex?_eq_some hi
        have hmesh : ¬ o.mesh.isSome = true := fun hmesh => hm i
          ⟨by simp [Modifier.morph?, hkind], by simp [hchannel], by simp [hparent, hi], o, ho, hmesh⟩
        exact ⟨s, applyMorph_of_mesh_none hs hi ho (Option.not_isSome_iff_eq_none.1 hmesh) _ _, hself⟩
    · exact ⟨s, rfl, hself⟩

/-- What becomes of a scene whose morph was set: a cycle is noted, and other errors stay. -/
def concluded : ImportedScene × Except Error Bool → Except Error ImportedScene
  | (s, .ok _) => .ok s
  | (s, .error (.formulaCycle morph)) => .ok (s.noting [.formulaCycle morph])
  | (_, .error e) => .error e

theorem applyModifier_of_sets (bones : List NodeInstance) (hsets : s.Sets m i)
    (ho : s.objects[i]? = some o) : ∃ value, applyModifier bones s m =
      concluded ((s.registerOn i m.modifier).setMorph o.name m.modifier.id value) := by
  obtain ⟨x, hx⟩ := Option.isSome_iff_exists.1 hsets.morph
  obtain ⟨channel, hchannel⟩ := Option.isSome_iff_exists.1 hsets.channel
  obtain ⟨parent, hparent, hi⟩ := Option.bind_eq_some_iff.1 hsets.parent
  have hkind : m.modifier.kind = .morph x := Modifier.kind_of_morph? hx
  -- once it is registered the object has the morph, and it has kept its name
  have hregistered := registerOn_modified hsets
  obtain ⟨o', ho', hlabel⟩ := exists_of_labels hregistered.labels ho
  have hname : o'.name = o.name := congrArg Prod.fst hlabel
  have hhas : (s.registerOn i m.modifier).Has i m.modifier.id :=
    (hregistered.has_iff i _).2 (.inr ⟨m, List.mem_singleton_self m, hsets, rfl⟩)
  obtain ⟨y, hy⟩ := Option.isSome_iff_exists.1 ((has_iff_of_getElem? ho').1 hhas)
  refine ⟨channel.currentFloat.getD 0.0, ?_⟩
  simp only [applyModifier, hparent, hkind, hchannel, applyMorph, hi, ho', hy, hname]
  rfl

/-- **A modifier is applied if it finds the morph that it sets**, and else it ends the import. -/
theorem applyModifier_cases (hs : s.Bare) (bones : List NodeInstance) (m : ModifierInstance) :
    (s.Finds [] m ∧ ∃ s', applyModifier bones s m = .ok s' ∧ Modified s [m] s') ∨
      (¬ s.Finds [] m ∧ ∃ e, applyModifier bones s m = .error e ∧ s.Misses e) := by
  by_cases hsome : ∃ i, s.Sets m i
  · obtain ⟨i, hsets⟩ := hsome
    obtain ⟨o, ho, -⟩ := hsets.mesh
    obtain ⟨value, happly⟩ := applyModifier_of_sets bones hsets ho
    -- what the modifier finds shows in the scene where its morph is registered
    have hregistered := registerOn_modified hsets
    have hfinds : s.Finds [] m ↔ ∃ j, (s.registerOn i m.modifier).objectIndex? o.name = some j ∧
        (s.registerOn i m.modifier).Has j m.modifier.id := by
      rw [finds_iff_of_sets hsets ho]
      simp only [objectIndex?_congr hregistered.labels, hregistered.has_iff, List.nil_append]
    have hcases := setMorph_cases (hregistered.bare hs) o.name m.modifier.id value
    rw [happly, hfinds]
    generalize (s.registerOn i m.modifier).setMorph o.name m.modifier.id value = t at hcases ⊢
    obtain ⟨t, result⟩ := t
    rcases hcases with ⟨hfound, hset, ⟨b, rfl⟩ | ⟨c, rfl⟩⟩ | ⟨hmissed, hresult⟩
    · exact .inl ⟨hfound, t, rfl, hregistered.trans hset⟩
    · exact .inl ⟨hfound, _, rfl, hregistered.trans (hset.of_eq rfl rfl)⟩
    · have hname : plainName o.name ≠ o.name := fun hplain =>
        hmissed (hfinds.1 (finds_of_plain hsets ho hplain))
      refine .inr ⟨hmissed, ?_⟩
      rcases hresult with rfl | rfl
      · exact ⟨_, rfl, o, List.mem_of_getElem? ho, hname, .inl rfl⟩
      · exact ⟨_, rfl, o, List.mem_of_getElem? ho, hname, .inr ⟨_, rfl⟩⟩
  · have hnone : ∀ i, ¬ s.Sets m i := fun i hi => hsome ⟨i, hi⟩
    exact .inl ⟨fun i o hi => absurd hi (hnone i), applyModifier_of_not_sets hs bones hnone⟩

/-! ### All modifiers of a scene -/

/-- Each of the modifiers `ms` finds the morph that it sets, after `before` and those in front of
it. -/
def AllFind (s : ImportedScene) (before ms : List ModifierInstance) : Prop :=
  ∀ earlier m later, ms = earlier ++ m :: later → s.Finds (before ++ earlier) m

theorem allFind_cons :
    s.AllFind before (m :: ms) ↔ s.Finds before m ∧ s.AllFind (before ++ [m]) ms := by
  constructor
  · intro h
    refine ⟨by simpa using h [] m ms rfl, fun earlier m' later hms => ?_⟩
    simpa using h (m :: earlier) m' later (by rw [hms, List.cons_append])
  · rintro ⟨hm, hms⟩ earlier m' later heq
    cases earlier with
    | nil =>
      obtain ⟨rfl, -⟩ := List.cons.inj heq
      simpa using hm
    | cons m'' earlier =>
      obtain ⟨rfl, htail⟩ := List.cons.inj heq
      simpa using hms earlier m' later htail

theorem Misses.congr {e : Error} (h : s'.Misses e)
    (hlabels : s'.objects.map SceneObject.label = s.objects.map SceneObject.label) :
    s.Misses e := by
  obtain ⟨o, ho, hplain, he⟩ := h
  obtain ⟨i, hi⟩ := List.getElem?_of_mem ho
  obtain ⟨o', ho', hlabel⟩ := exists_of_labels hlabels.symm hi
  have hname : o.name = o'.name := (congrArg Prod.fst hlabel).symm
  rw [hname] at hplain he
  exact ⟨o', List.mem_of_getElem? ho', hplain, he⟩

theorem applyModifiers_cases (bones : List NodeInstance) (ms : List ModifierInstance)
    (hs : s.Bare) (h : Modified s before s') :
    (s.AllFind before ms ∧
      ∃ t, s'.applyModifiers bones ms = .ok t ∧ Modified s (before ++ ms) t) ∨
    (¬ s.AllFind before ms ∧ ∃ e, s'.applyModifiers bones ms = .error e ∧ s.Misses e) := by
  induction ms generalizing before s' with
  | nil =>
    refine .inl ⟨fun earlier m later hnil => ?_, s', rfl, by simpa using h⟩
    simp at hnil
  | cons m ms ih =>
    have hcons : s'.applyModifiers bones (m :: ms) =
        applyModifier bones s' m >>= fun t => t.applyModifiers bones ms := List.foldlM_cons
    rw [allFind_cons, ← finds_congr h, hcons]
    rcases applyModifier_cases (h.bare hs) bones m with
      ⟨hfinds, t, happly, ht⟩ | ⟨hmissed, e, happly, he⟩
    · rw [happly]
      rcases ih (h.trans ht) with ⟨hrest, t', hfold, ht'⟩ | ⟨hrest, e, hfold, he⟩
      · exact .inl ⟨⟨hfinds, hrest⟩, t', hfold, by simpa using ht'⟩
      · exact .inr ⟨fun hall => hrest hall.2, e, hfold, he⟩
    · rw [happly]
      exact .inr ⟨fun hall => hmissed hall.1, e, rfl, he.congr h.labels⟩

/-! ### Whole imports -/

theorem Furnished.bare {nodes : List NodeInstance} (h : s.Furnished nodes) : s.Bare := by
  rintro j id ⟨o, ho, hfind⟩
  refine ⟨o, ho, ?_⟩
  by_contra hmesh
  rw [(h o (List.mem_of_getElem? ho)).bare (Option.not_isSome_iff_eq_none.1 hmesh)] at hfind
  cases hfind

/-- An import goes through if all modifiers find what they set, and else it ends with the first one
that does not. -/
theorem ofDocument_cases (c : ContentRoot) (config : ImportConfig) (d : Document)
    (st : LoadState) : ∃ s, Load.answer (prepared c config d) st = .ok s ∧ Prepared d s ∧
      ((s.AllFind [] d.scene.modifiers ∧ ∃ t,
        Load.answer (ofDocument c config d) st = .ok t.markDeformed ∧
        s.applyModifiers (selectBones d.scene.nodes) d.scene.modifiers = .ok t ∧
        Modified s d.scene.modifiers t) ∨
      (¬ s.AllFind [] d.scene.modifiers ∧ ∃ e,
        Load.answer (ofDocument c config d) st = .error e ∧ s.Misses e)) := by
  obtain ⟨s, hs, hprepared⟩ := prepared_yields c config d st
  have happly : prepared c config d st = (.ok s, Load.after (prepared c config d) st) :=
    Prod.ext hs rfl
  refine ⟨s, hs, hprepared, ?_⟩
  rw [ofDocument_eq, Load.answer, Load.bind_apply_ok happly]
  rcases applyModifiers_cases (selectBones d.scene.nodes) d.scene.modifiers
    hprepared.furnished.bare (.refl s) with ⟨hall, t, hfold, ht⟩ | ⟨hmissed, e, hfold, he⟩
  · exact .inl ⟨hall, t, by rw [hfold]; rfl, hfold, ht⟩
  · exact .inr ⟨hmissed, e, by rw [hfold]; rfl, he⟩

theorem Misses.exists_node {d : Document} {e : Error} (h : s.Misses e) (hs : Prepared d s) :
    ∃ n ∈ d.scene.nodes, plainName n.id ≠ n.id ∧
      (e = .unknownObject n.id ∨ ∃ id, e = .unknownMorph id) := by
  obtain ⟨o, ho, hplain, he⟩ := h
  obtain ⟨n, hn, hname⟩ := (hs.furnished o ho).named
  rw [hname] at hplain he
  exact ⟨n, hn, hplain, he⟩

/-- **A document is imported exactly when all modifiers of its scene find the morphs that they set.**
Nothing else that is met ends an import, cycles of formulas included, and neither does a modifier
unless the id of a node, taken for a reference, does not stand for itself. -/
theorem ofDocument_isOk_iff (c : ContentRoot) (config : ImportConfig) (d : Document)
    (st : LoadState) : ∃ s, Load.answer (prepared c config d) st = .ok s ∧
      ((∃ t, Load.answer (ofDocument c config d) st = .ok t) ↔
        ∀ before m after, d.scene.modifiers = before ++ m :: after → s.Finds before m) ∧
      ((∃ t, Load.answer (ofDocument c config d) st = .ok t) ∨
        ∃ n ∈ d.scene.nodes, plainName n.id ≠ n.id ∧
          (Load.answer (ofDocument c config d) st = .error (.unknownObject n.id) ∨
            ∃ id, Load.answer (ofDocument c config d) st = .error (.unknownMorph id))) := by
  obtain ⟨s, hs, hprepared, ⟨hall, t, hanswer, -⟩ | ⟨hmissed, e, hanswer, hmisses⟩⟩ :=
    ofDocument_cases c config d st
  · refine ⟨s, hs, iff_of_true ⟨_, hanswer⟩ fun before m after heq => ?_, .inl ⟨_, hanswer⟩⟩
    exact hall before m after heq
  · refine ⟨s, hs, iff_of_false ?_ fun hfinds => hmissed fun before m after heq => ?_, .inr ?_⟩
    · rintro ⟨t, ht⟩
      cases hanswer.symm.trans ht
    · exact hfinds before m after heq
    · obtain ⟨n, hn, hplain, he⟩ := hmisses.exists_node hprepared
      refine ⟨n, hn, hplain, ?_⟩
      rcases he with rfl | ⟨id, rfl⟩
      · exact .inl hanswer
      · exact .inr ⟨id, hanswer⟩

/-- A document with an object whose id has an escape, and a modifier that refers to it. The records
are written as lists of their fields where that is shorter. -/
def escapedText : String :=
  "[[\"\"],[],[[\"g\"]],[],[],[[\"n\"]],[\x7b\"id\":\"m\",\"formulas\":[]\x7d]," ++
  "[[\x7b\"id\":\"hip%41\",\"url\":\"#n\",\"geometries\":[[\"#g\"]]\x7d],[]," ++
  "[[\"\",\"#m\",null,\"#hip%2541\",[\"\"]]]]]"

/-- **A document that is loaded may not be imported.** The modifier finds its object, whose name then
leads to none. -/
theorem exists_import_refused : ∃ (c : ContentRoot) (path : Path) (text : String) (d : Document)
    (st : LoadState), c.loadText path text .start = (.ok d, st) ∧
      Load.answer (ofDocument c .standard d) st = .error (.unknownObject "hip%41") := by
  have hload : (Load.answer ((ContentRoot.of ⟨""⟩ default).loadText ⟨""⟩ escapedText)
      .start).map (fun _ => ()) = .ok () := by decide +kernel
  have himport : (Load.answer ((ContentRoot.of ⟨""⟩ default).loadText ⟨""⟩ escapedText >>=
      ofDocument (.of ⟨""⟩ default) .standard) .start).map (fun _ => ()) =
        .error (.unknownObject "hip%41") := by decide +kernel
  obtain ⟨d, st, hd, -, hanswer⟩ := Load.answer_bind_of_map hload
    (ofDocument (.of ⟨""⟩ default) .standard)
  rw [hanswer] at himport
  refine ⟨_, _, _, d, st, hd, ?_⟩
  generalize Load.answer (ofDocument _ .standard d) st = r at himport ⊢
  cases r with
  | ok s => cases himport
  | error e =>
    obtain rfl := Except.error.inj himport
    rfl

end ImportedScene

end RiggedScene
