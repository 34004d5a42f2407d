import RiggedScene.Import.Build
import RiggedScene.Proofs.Armature.Committing
import RiggedScene.Proofs.Morph.DriveGraph

/-!
# What modifiers make of a scene

A modifier of a scene binds a mesh or sets a morph, which it registers first if the object does not
have it. It leaves the names of the objects alone, and the bones where they hang.

* `ImportedScene.Sets` says which object a modifier sets a morph of;
* `ImportedScene.Modified` : after some modifiers the objects have the morphs that were set in
  addition to the ones from before;
* `ImportedScene.registerOn_modified` and `ImportedScene.setMorph_cases` are the two changes that
  setting a morph makes.
-/

namespace RiggedScene

/-- What objects are looked up by, and whether there is a mesh. -/
def SceneObject.label (o : SceneObject) : String × Bool := (o.name, o.mesh.isSome)

theorem MorphRig.isSome_find?_insert (r : MorphRig) (x : RiggedMorph) (id : String) :
    ((⟨Keyed.insert RiggedMorph.name x r.morphs⟩ : MorphRig).find? id).isSome = true ↔
      (r.find? id).isSome = true ∨ x.name = id := by
  unfold find?
  by_cases hid : x.name = id
  · subst hid
    simp [Keyed.find?_insert_self]
  · simp [Keyed.find?_insert_of_ne hid, hid]

namespace MorphStage

variable (t : MorphStage) (config : ImportConfig) (name : String) (value : Float)

theorem commit_armature_links (os : List (Output Float)) :
    (t.commit name os).armature.map Armature.links = t.armature.map Armature.links := by
  unfold commit
  cases t.armature with
  | none => rfl
  | some a => exact congrArg some (Armature.commit_links a _)

/-- A change of a slider keeps the rig but for its values, and keeps where the bones hang. -/
theorem setValue_unset_links :
    (t.setValue config name value).1.state.rig.unset = t.state.rig.unset ∧
      (t.setValue config name value).1.armature.map Armature.links =
        t.armature.map Armature.links := by
  refine ⟨t.setValue_unset config name value, ?_⟩
  rcases t.setValue_outputs config name value with ⟨-, notes, hset⟩ | ⟨s, hset⟩
  · rw [hset]
  · rw [hset]
    exact commit_armature_links { t with state := s } name _

/-- A change of a slider is refused if the rig has no such morph, and else only for a cycle. -/
theorem setValue_result :
    (t.state.rig.find? name = none ∧
      (t.setValue config name value).2 = .error (.unknownMorph name)) ∨
    (t.state.rig.find? name).isSome = true ∧
      ((∃ b, (t.setValue config name value).2 = .ok b) ∨
        ∃ c, (t.setValue config name value).2 = .error (.formulaCycle c)) := by
  rcases t.setValue_cases config name value with ⟨hm, hset⟩ | ⟨m, hm, ⟨-, hset⟩ |
    ⟨-, s, e, notes, happly, hset⟩ | ⟨-, s, os, -, hset⟩⟩
  · exact .inl ⟨hm, hset ▸ rfl⟩
  · exact .inr ⟨by simp [hm], .inl ⟨false, hset ▸ rfl⟩⟩
  · obtain ⟨c, rfl⟩ := MorphRig.apply_error (congrArg Prod.snd happly)
    exact .inr ⟨by simp [hm], .inr ⟨c, hset ▸ rfl⟩⟩
  · exact .inr ⟨by simp [hm], .inl ⟨true, hset ▸ rfl⟩⟩

end MorphStage

namespace ImportedScene

variable {s s' s'' : ImportedScene} {i j : Nat} {o o' : SceneObject} {name id : String}
  {m : ModifierInstance} {ms ms' : List ModifierInstance}

/-! ### Looking objects up -/

theorem objectIndex?_eq_some (h : s.objectIndex? name = some i) :
    ∃ o, s.objects[i]? = some o ∧ o.name = plainName name := by
  obtain ⟨hi, hname, -⟩ := List.findIdx?_eq_some_iff_getElem.1 h
  exact ⟨s.objects[i], List.getElem?_eq_getElem hi, beq_iff_eq.1 hname⟩

theorem objectIndex?_congr
    (h : s'.objects.map SceneObject.label = s.objects.map SceneObject.label) :
    s'.objectIndex? name = s.objectIndex? name := by
  have hlabels : ∀ s : ImportedScene, s.objectIndex? name =
      (s.objects.map SceneObject.label).findIdx? fun l => l.1 == plainName name := by
    intro s
    simp only [objectIndex?, List.findIdx?_map, Function.comp_def]
    rfl
  rw [hlabels, hlabels, h]

theorem exists_of_labels
    (h : s'.objects.map SceneObject.label = s.objects.map SceneObject.label)
    (ho : s.objects[i]? = some o) : ∃ o', s'.objects[i]? = some o' ∧ o'.label = o.label := by
  have hlabel := congrArg (·[i]?) h
  simpa [ho] using hlabel

theorem modifyObject_getElem? (ho : s.objects[i]? = some o) (f : SceneObject → SceneObject)
    (j : Nat) : (s.modifyObject i f).objects[j]? = if i = j then some (f o) else s.objects[j]? := by
  rw [modifyObject, List.getElem?_modify]
  split
  · next hij =>
    subst hij
    simp [ho]
  · simp

theorem modifyObject_map {α : Type} {g : SceneObject → α} (ho : s.objects[i]? = some o)
    {f : SceneObject → SceneObject} (hf : g (f o) = g o) :
    (s.modifyObject i f).objects.map g = s.objects.map g := by
  refine List.ext_getElem? fun j => ?_
  rw [List.getElem?_map, List.getElem?_map, modifyObject_getElem? ho]
  split
  · next hij =>
    subst hij
    simp [ho, hf]
  · rfl

theorem modifyObject_labels (ho : s.objects[i]? = some o) {f : SceneObject → SceneObject}
    (hf : (f o).label = o.label) :
    (s.modifyObject i f).objects.map SceneObject.label = s.objects.map SceneObject.label :=
  modifyObject_map ho hf

/-! ### Morphs of objects -/

/-- The object `j` has a morph of this name. -/
def Has (s : ImportedScene) (j : Nat) (id : String) : Prop :=
  ∃ o, s.objects[j]? = some o ∧ (o.morphs.find? id).isSome = true

/-- Only objects with a mesh have morphs. -/
def Bare (s : ImportedScene) : Prop :=
  ∀ j id, s.Has j id → ∃ o, s.objects[j]? = some o ∧ o.mesh.isSome = true

/-- The modifier sets a morph of the object `i`, which has a mesh. -/
structure Sets (s : ImportedScene) (m : ModifierInstance) (i : Nat) : Prop where
  morph : m.modifier.morph?.isSome = true
  channel : m.channel.isSome = true
  parent : m.parent.bind s.objectIndex? = some i
  mesh : ∃ o, s.objects[i]? = some o ∧ o.mesh.isSome = true

theorem has_modifyObject (ho : s.objects[i]? = some o) (f : SceneObject → SceneObject) :
    (s.modifyObject i f).Has j id ↔
      if i = j then ((f o).morphs.find? id).isSome = true else s.Has j id := by
  simp only [Has, modifyObject_getElem? ho]
  split <;> simp

theorem has_iff_of_getElem? (ho : s.objects[i]? = some o) :
    s.Has i id ↔ (o.morphs.find? id).isSome = true := by
  simp [Has, ho]

theorem exists_mesh_congr
    (h : s'.objects.map SceneObject.label = s.objects.map SceneObject.label) :
    (∃ o, s'.objects[i]? = some o ∧ o.mesh.isSome = true) ↔
      ∃ o, s.objects[i]? = some o ∧ o.mesh.isSome = true := by
  constructor
  · rintro ⟨o, ho, hmesh⟩
    obtain ⟨o', ho', hlabel⟩ := exists_of_labels h.symm ho
    exact ⟨o', ho', (congrArg Prod.snd hlabel).trans hmesh⟩
  · rintro ⟨o, ho, hmesh⟩
    obtain ⟨o', ho', hlabel⟩ := exists_of_labels h ho
    exact ⟨o', ho', (congrArg Prod.snd hlabel).trans hmesh⟩

theorem sets_congr (h : s'.objects.map SceneObject.label = s.objects.map SceneObject.label) :
    s'.Sets m i ↔ s.Sets m i := by
  have hparent : m.parent.bind s'.objectIndex? = m.parent.bind s.objectIndex? :=
    congrArg m.parent.bind (funext fun _ => objectIndex?_congr h)
  constructor
  · rintro ⟨hmorph, hchannel, hi, hmesh⟩
    exact ⟨hmorph, hchannel, hparent ▸ hi, (exists_mesh_congr h).1 hmesh⟩
  · rintro ⟨hmorph, hchannel, hi, hmesh⟩
    exact ⟨hmorph, hchannel, hparent.trans hi, (exists_mesh_congr h).2 hmesh⟩

/-! ### Scenes after some modifiers -/

/-- `s'` is what the modifiers `ms` make of `s`: objects have the morphs from before, and those that
were set. -/
structure Modified (s : ImportedScene) (ms : List ModifierInstance) (s' : ImportedScene) :
    Prop where
  labels : s'.objects.map SceneObject.label = s.objects.map SceneObject.label
  links : s'.armature.map Armature.links = s.armature.map Armature.links
  has_iff : ∀ j id, s'.Has j id ↔ s.Has j id ∨ ∃ m ∈ ms, s.Sets m j ∧ m.modifier.id = id

namespace Modified

theorem refl (s : ImportedScene) : Modified s [] s := ⟨rfl, rfl, by simp⟩

theorem trans (h : Modified s ms s') (h' : Modified s' ms' s'') : Modified s (ms ++ ms') s'' := by
  refine ⟨h'.labels.trans h.labels, h'.links.trans h.links, fun j id => ?_⟩
  simp only [h'.has_iff, h.has_iff, sets_congr h.labels, List.mem_append, or_and_right,
    exists_or, or_assoc]

/-- Only the objects count, and where the bones hang. -/
theorem of_eq (h : Modified s ms s') (hobjects : s''.objects = s'.objects)
    (hlinks : s''.armature.map Armature.links = s'.armature.map Armature.links) :
    Modified s ms s'' := by
  refine ⟨hobjects ▸ h.labels, hlinks.trans h.links, fun j id => ?_⟩
  rw [← h.has_iff, Has, Has, hobjects]

theorem of_not_sets (h : Modified s [] s') (hm : ∀ i, ¬ s.Sets m i) : Modified s [m] s' := by
  refine ⟨h.labels, h.links, fun j id => ?_⟩
  simp [h.has_iff, hm]

theorem bare (h : Modified s ms s') (hs : s.Bare) : s'.Bare := by
  intro j id hhas
  rw [exists_mesh_congr h.labels]
  rcases (h.has_iff j id).1 hhas with hold | ⟨m, -, hsets, -⟩
  · exact hs j id hold
  · exact hsets.mesh

/-- A change of one object that keeps its name, its mesh and the names of its morphs. -/
theorem modifyObject (ho : s.objects[i]? = some o) {f : SceneObject → SceneObject}
    (hlabel : (f o).label = o.label)
    (hfind : ∀ id, ((f o).morphs.find? id).isSome = (o.morphs.find? id).isSome) :
    Modified s [] (s.modifyObject i f) := by
  refine ⟨modifyObject_labels ho hlabel, rfl, fun j id => ?_⟩
  rw [has_modifyObject ho]
  split
  · next hij =>
    subst hij
    simp [has_iff_of_getElem? ho, hfind]
  · simp

end Modified

/-! ### Binding a mesh -/

theorem applySkin_modified (bones : List NodeInstance) (parent : String) (skin : Skin) :
    Modified s [] (s.applySkin bones parent skin) := by
  unfold applySkin
  split
  · exact .refl s
  · next i _ =>
    split
    · exact .refl s
    · next mesh hmesh =>
      obtain ⟨o, ho, hmesh⟩ := Option.bind_eq_some_iff.1 hmesh
      have hmodified := Modified.modifyObject ho
        (f := fun o => { o with mesh := some (skin.joints.foldl (addJoint bones s.config.minWeight)
          (mesh, [])).1 }) (by simp [SceneObject.label, hmesh]) fun _ => rfl
      exact hmodified.of_eq rfl rfl

/-! ### Registering a morph -/

/-- **After a morph is registered on an object with a mesh, the object has it.** -/
theorem registerOn_modified (hm : s.Sets m i) : Modified s [m] (s.registerOn i m.modifier) := by
  obtain ⟨o, ho, hmesh⟩ := hm.mesh
  obtain ⟨mesh, hmesh⟩ := Option.isSome_iff_exists.1 hmesh
  obtain ⟨x, hx⟩ := Option.isSome_iff_exists.1 hm.morph
  -- no other object is the one that the modifier is for
  have hsets : ∀ j, s.Sets m j ↔ i = j := by
    intro j
    refine ⟨fun hj => Option.some.inj (hm.parent.symm.trans hj.parent), ?_⟩
    rintro rfl
    exact hm
  unfold registerOn
  simp only [ho, hmesh]
  cases hfind : o.morphs.find? m.modifier.id with
  | some _ =>
    refine ⟨rfl, rfl, fun j id => ?_⟩
    simp only [List.mem_singleton, exists_eq_left, hsets, iff_self_or]
    rintro ⟨rfl, rfl⟩
    simp [has_iff_of_getElem? ho, hfind]
  | none =>
    simp only [MorphRig.register?, hx, Option.map_some]
    refine ⟨modifyObject_labels ho (by simp [SceneObject.label, hmesh]), rfl, fun j id => ?_⟩
    refine (has_modifyObject ho _).trans ?_
    split
    · next hij =>
      subst hij
      rw [MorphRig.isSome_find?_insert, has_iff_of_getElem? ho]
      simp [hsets, MorphRig.ofModifier]
    · next hij => simp [hsets, hij]

/-! ### Setting a morph -/

/-- **The ways of setting a morph.** The object is found and has the morph, and then it is set or a
cycle is met; or the object or the morph is not found. -/
theorem setMorph_cases (hs : s.Bare) (name id : String) (value : Float) :
    ((∃ j, s.objectIndex? name = some j ∧ s.Has j id) ∧
      Modified s [] (s.setMorph name id value).1 ∧
      ((∃ b, (s.setMorph name id value).2 = .ok b) ∨
        ∃ c, (s.setMorph name id value).2 = .error (.formulaCycle c))) ∨
    ((¬ ∃ j, s.objectIndex? name = some j ∧ s.Has j id) ∧
      ((s.setMorph name id value).2 = .error (.unknownObject name) ∨
        (s.setMorph name id value).2 = .error (.unknownMorph id))) := by
  unfold setMorph
  cases hi : s.objectIndex? name with
  | none => exact .inr ⟨by simp, .inl rfl⟩
  | some i =>
    obtain ⟨o, ho, -⟩ := objectIndex?_eq_some hi
    simp only [ho, Option.some.injEq, exists_eq_left']
    cases hmesh : o.mesh with
    | none =>
      -- the error names the morph, though it is the mesh that is missing; so is the morph then
      refine .inr ⟨fun hhas => ?_, .inr rfl⟩
      obtain ⟨o', ho', hmesh'⟩ := hs i id hhas
      obtain rfl : o = o' := by simpa [ho] using ho'
      simp [hmesh] at hmesh'
    | some mesh =>
      dsimp only
      rw [has_iff_of_getElem? ho]
      generalize hstage : (⟨⟨o.morphs, mesh, s.notes⟩, s.armature⟩ : MorphStage) = t
      obtain ⟨hunset, hlinks⟩ := t.setValue_unset_links s.config id value
      have hresult := t.setValue_result s.config id value
      generalize t.setValue s.config id value = r at hunset hlinks hresult ⊢
      subst hstage
      rcases hresult with ⟨hnone, hresult⟩ | ⟨hfound, hresult⟩
      · exact .inr ⟨by simpa using hnone, .inr hresult⟩
      · refine .inl ⟨hfound, ?_, hresult⟩
        have hfind : ∀ id, (r.1.state.rig.find? id).isSome = (o.morphs.find? id).isSome := by
          intro id
          simpa using congrArg Option.isSome (MorphRig.find?_unset_congr hunset id)
        have hmodified := Modified.modifyObject ho
          (f := fun o => { o with morphs := r.1.state.rig, mesh := some r.1.state.mesh })
          (by simp [SceneObject.label, hmesh]) hfind
        exact hmodified.of_eq rfl hlinks

end ImportedScene

end RiggedScene
