import RiggedScene.Proofs.Import.Frame
import RiggedScene.Proofs.Import.Modifiers

/-!
# Objects and materials of a scene

The first passes of an import make the objects of all nodes in order and assign the materials. What
comes later changes links, places, weights, blend shapes and poses.

* `ImportedScene.Records` says what is recorded of a material of the scene: its name, and if there
  is an object for it the name of that object and a slot of its mesh;
* `ImportedScene.Furnishing` : after these passes the objects are those of the nodes, and each
  material is recorded once, in order;
* `ImportedScene.ofDocument_kept` : an import that goes through keeps all of this but links and
  places, which are those of `ImportedScene.placed`.
-/

namespace RiggedScene

open Load (Yields)

/-- The name of the object, and its mesh without what modifiers change. -/
def SceneObject.body (o : SceneObject) : String × Option Mesh := (o.name, o.mesh.map Mesh.unbound)

namespace ImportedScene

variable {c : ContentRoot} {d : Document} {config : ImportConfig} {s s' s'' t : ImportedScene}
  {n : NodeInstance} {m : MaterialInstance} {e : ShadingMaterial}

/-! ### Recording materials -/

/-- What is recorded of a material of the scene. -/
def Records (s : ImportedScene) (d : Document) (m : MaterialInstance) (e : ShadingMaterial) :
    Prop :=
  e.name = m.material.id ∧
    match s.materialTarget? d m.material with
    | none => e.object = none ∧ e.slot = none
    | some (i, _) => ∃ o mesh p, s.objects[i]? = some o ∧ o.mesh = some mesh ∧
        e.object = some o.name ∧ e.slot = some p ∧ mesh.materialSlots[p]? = some m.material.id

theorem Records.of_none (hname : e.name = m.material.id)
    (htarget : s.materialTarget? d m.material = none) (hobject : e.object = none)
    (hslot : e.slot = none) : s.Records d m e := by
  refine ⟨hname, ?_⟩
  rw [htarget]
  exact ⟨hobject, hslot⟩

theorem Records.of_target {i p : Nat} {g : Geometry} {o : SceneObject} {mesh : Mesh}
    (hname : e.name = m.material.id) (htarget : s.materialTarget? d m.material = some (i, g))
    (ho : s.objects[i]? = some o) (hmesh : o.mesh = some mesh) (hobject : e.object = some o.name)
    (hslot : e.slot = some p) (hp : mesh.materialSlots[p]? = some m.material.id) :
    s.Records d m e := by
  refine ⟨hname, ?_⟩
  rw [htarget]
  exact ⟨o, mesh, p, ho, hmesh, hobject, hslot, hp⟩

/-- The same objects, whose meshes may have got more slots. -/
structure Extended (s t : ImportedScene) : Prop where
  keys : t.objects.map SceneObject.key = s.objects.map SceneObject.key
  slots : ∀ (i : Nat) o mesh, s.objects[i]? = some o → o.mesh = some mesh →
    ∃ o' mesh', t.objects[i]? = some o' ∧ o'.mesh = some mesh' ∧
      mesh.materialSlots <+: mesh'.materialSlots

theorem materialTarget?_congr (h : t.objects.map SceneObject.key = s.objects.map SceneObject.key)
    (m : Material) : t.materialTarget? d m = s.materialTarget? d m := by
  unfold materialTarget?
  simp only [objectForGeometry?_congr h]

theorem Records.extended (hrecords : s.Records d m e) (h : Extended s t) : t.Records d m e := by
  obtain ⟨hname, htarget⟩ := hrecords
  have hsame : t.materialTarget? d m.material = s.materialTarget? d m.material :=
    materialTarget?_congr h.keys m.material
  cases hi : s.materialTarget? d m.material with
  | none =>
    rw [hi] at htarget
    exact .of_none hname (hsame.trans hi) htarget.1 htarget.2
  | some target =>
    rw [hi] at htarget
    obtain ⟨o, mesh, p, ho, hmesh, hobject, hslot, hp⟩ := htarget
    obtain ⟨o', mesh', ho', hmesh', hslots⟩ := h.slots _ o mesh ho hmesh
    have hkey : o'.key = o.key := by
      have hkeys := congrArg (·[target.1]?) h.keys
      simpa [ho, ho'] using hkeys
    refine .of_target hname (hsame.trans hi) ho' hmesh' ?_ hslot ?_
    · rw [hobject, show o'.name = o.name from congrArg Prod.fst hkey]
    · obtain ⟨more, hmore⟩ := hslots
      rw [← hmore, List.getElem?_append_left (List.getElem?_eq_some_iff.1 hp).1, hp]

namespace AddsMaterial

theorem seeds (h : AddsMaterial d m s t) :
    t.objects.map SceneObject.seed = s.objects.map SceneObject.seed := by
  cases h with
  | alone => rfl
  | assigned htarget ho hmesh hkept =>
    refine modifyObject_map ho ?_
    simp [SceneObject.seed, SceneObject.key, hmesh, hkept]

theorem extended (h : AddsMaterial d m s t) : Extended s t := by
  cases h with
  | alone => exact ⟨rfl, fun i o mesh ho hmesh => ⟨o, mesh, ho, hmesh, List.prefix_rfl⟩⟩
  | @assigned e i g o mesh mesh' htarget ho hmesh hkept hslots =>
    have hself := modifyObject_getElem? ho fun o => { o with mesh := some mesh' }
    refine ⟨modifyObject_map ho (by simp [SceneObject.key, hmesh, hkept]), ?_⟩
    intro j o₁ mesh₁ ho₁ hmesh₁
    by_cases hij : i = j
    · subst hij
      obtain rfl := Option.some.inj (ho.symm.trans ho₁)
      obtain rfl := Option.some.inj (hmesh.symm.trans hmesh₁)
      exact ⟨_, mesh', (hself i).trans (if_pos rfl), rfl, [m.material.id], hslots.symm⟩
    · refine ⟨o₁, mesh₁, (hself j).trans ?_, hmesh₁, List.prefix_rfl⟩
      rw [if_neg hij, ho₁]

/-- The new entry is behind the others, and it is right. -/
theorem entry (h : AddsMaterial d m s t) :
    ∃ e, t.materials = s.materials ++ [e] ∧ t.Records d m e := by
  have hsame : t.materialTarget? d m.material = s.materialTarget? d m.material :=
    materialTarget?_congr h.extended.keys m.material
  cases h with
  | alone htarget hname hobject hslot =>
    exact ⟨_, rfl, .of_none hname (hsame.trans htarget) hobject hslot⟩
  | @assigned e i g o mesh mesh' htarget ho hmesh hkept hslots hname hobject hslot =>
    have hself := modifyObject_getElem? ho fun o => { o with mesh := some mesh' }
    exact ⟨e, rfl, .of_target hname (hsame.trans htarget) ((hself i).trans (if_pos rfl)) rfl hobject
      hslot (by simp [hslots])⟩

end AddsMaterial

/-! ### The first passes -/

/-- The objects are those of the nodes, and each material is recorded once, in order. -/
structure Furnishing (d : Document) (s : ImportedScene) : Prop where
  objects : s.objects.map SceneObject.seed = d.scene.nodes.flatMap NodeInstance.seeds
  materials : List.Forall₂ (s.Records d) d.scene.materials s.materials

/-- The passes that make objects and record materials. -/
def furnish (c : ContentRoot) (config : ImportConfig) (d : Document) : Load ImportedScene := do
  let s ← d.scene.nodes.foldlM (addObjects c) (empty config)
  d.scene.materials.foldlM (addMaterial c d) s

/-- **The first passes make the objects of all nodes and record all materials.** -/
theorem furnish_yields (c : ContentRoot) (config : ImportConfig) (d : Document) :
    Yields (furnish c config d) (Furnishing d) := by
  let Made (nodes : List NodeInstance) (s : ImportedScene) : Prop :=
    s.objects.map SceneObject.seed = nodes.flatMap NodeInstance.seeds ∧ s.materials = []
  have hobjects : Yields (d.scene.nodes.foldlM (addObjects c) (empty config))
      (Made ([] ++ d.scene.nodes)) := by
    refine .foldlM_taken (R := Made) (fun taken s n hs => ?_) ⟨rfl, rfl⟩
    refine (addObjects_yields s n).imp fun t ht => ?_
    obtain ⟨made, hmade, hseeds, -, hmaterials⟩ := ht
    refine ⟨?_, hmaterials.trans hs.2⟩
    rw [hmade, List.map_append, hs.1, hseeds, List.flatMap_append, List.flatMap_singleton]
  refine hobjects.bind fun s hs => ?_
  let Recorded (ms : List MaterialInstance) (s : ImportedScene) : Prop :=
    s.objects.map SceneObject.seed = d.scene.nodes.flatMap NodeInstance.seeds ∧
      List.Forall₂ (s.Records d) ms s.materials
  have hstart : Recorded [] s := by
    refine ⟨hs.1, ?_⟩
    rw [hs.2]
    exact .nil
  refine (Yields.foldlM_taken (R := Recorded) (fun taken s m hrecorded => ?_) hstart).imp
    fun t ht => ⟨ht.1, ht.2⟩
  refine (addMaterial_yields s m).imp fun t ht => ⟨ht.seeds.trans hrecorded.1, ?_⟩
  obtain ⟨e, hmaterials, hentry⟩ := ht.entry
  rw [hmaterials]
  exact List.rel_append (hrecorded.2.imp fun m e h => h.extended ht.extended)
    (.cons hentry .nil)

/-! ### Links and places -/

/-- The nodes that objects are linked and placed by. -/
def places (d : Document) : List NodeInstance := d.scene.nodes.filter NodeInstance.isGeometryNode

/-- The objects with their armature and their links. -/
def linked (s : ImportedScene) (d : Document) : ImportedScene :=
  (places d).foldl linkParent (s.addArmature d)

/-- The objects with their armature, their links and their places. -/
def placed (s : ImportedScene) (d : Document) : ImportedScene :=
  (places d).foldl placeObject (s.linked d)

theorem prepared_eq (c : ContentRoot) (config : ImportConfig) (d : Document) :
    prepared c config d = furnish c config d >>= fun s =>
      pure ((s.placed d).poseBones (selectBones d.scene.nodes)) := by
  simp only [prepared, furnish, placed, linked, places, bind_assoc]

/-- The same objects but for links, places and what modifiers change, and the same materials. -/
structure Settled (s t : ImportedScene) : Prop where
  bodies : t.objects.map SceneObject.body = s.objects.map SceneObject.body
  materials : t.materials = s.materials

namespace Settled

theorem refl (s : ImportedScene) : Settled s s := ⟨rfl, rfl⟩

theorem trans (h : Settled s s') (h' : Settled s' s'') : Settled s s'' :=
  ⟨h'.bodies.trans h.bodies, h'.materials.trans h.materials⟩

/-- A change of one object that leaves its body alone. -/
theorem modifyObject (s : ImportedScene) (i : Nat) {f : SceneObject → SceneObject}
    (hf : ∀ o, (f o).body = o.body) : Settled s (s.modifyObject i f) := by
  refine ⟨?_, rfl⟩
  cases ho : s.objects[i]? with
  | none => rw [ImportedScene.modifyObject, List.modify_eq_self (List.getElem?_eq_none_iff.1 ho)]
  | some o => exact modifyObject_map ho (hf o)

theorem extended (h : Settled s t) : Extended s t where
  keys := by
    have hkey : SceneObject.key = (fun b => (b.1, b.2.map Mesh.name)) ∘ SceneObject.body := by
      funext o
      cases hmesh : o.mesh <;> simp [SceneObject.key, SceneObject.body, hmesh, Mesh.unbound]
    rw [hkey, ← List.map_map, ← List.map_map, h.bodies]
  slots := by
    intro i o mesh ho hmesh
    have hbody := congrArg (·[i]?) h.bodies
    simp only [List.getElem?_map, ho, Option.map_some] at hbody
    obtain ⟨o', ho', hbody⟩ := Option.map_eq_some_iff.1 hbody
    have hmesh' : o'.mesh.map Mesh.unbound = some mesh.unbound := by
      simpa [SceneObject.body, hmesh] using congrArg Prod.snd hbody
    obtain ⟨mesh', hmesh', hunbound⟩ := Option.map_eq_some_iff.1 hmesh'
    have hslots : mesh'.unbound.materialSlots = mesh.unbound.materialSlots :=
      congrArg Mesh.materialSlots hunbound
    rw [Mesh.unbound, Mesh.unbound] at hslots
    exact ⟨o', mesh', ho', hmesh', hslots ▸ List.prefix_rfl⟩

/-- What is recorded of the materials stays right. -/
theorem records (h : Settled s t) {ms : List MaterialInstance}
    (hms : List.Forall₂ (s.Records d) ms s.materials) :
    List.Forall₂ (t.Records d) ms t.materials := by
  rw [h.materials]
  exact hms.imp fun m e hm => hm.extended h.extended

end Settled

theorem Kept.settled (h : Kept s t) : Settled s t where
  bodies := by
    have hbody : SceneObject.body = SceneObject.body ∘ SceneObject.unmodified := by
      funext o
      cases hmesh : o.mesh <;> simp [SceneObject.body, SceneObject.unmodified, hmesh, Mesh.unbound]
    rw [hbody, ← List.map_map, ← List.map_map, h.objects]
  materials := h.materials

theorem addArmature_settled (s : ImportedScene) (d : Document) : Settled s (s.addArmature d) := by
  unfold addArmature
  dsimp only
  split
  · refine Settled.trans ?_ (Settled.modifyObject _ _ fun _ => rfl)
    exact ⟨rfl, rfl⟩
  · exact ⟨rfl, rfl⟩

theorem linkParent_settled (s : ImportedScene) (n : NodeInstance) : Settled s (s.linkParent n) := by
  unfold linkParent
  split
  · exact .modifyObject s _ fun _ => rfl
  · exact .refl s

theorem placeObject_settled (s : ImportedScene) (n : NodeInstance) :
    Settled s (s.placeObject n) := by
  unfold placeObject
  split
  · exact .refl s
  · dsimp only
    split
    · exact ⟨rfl, rfl⟩
    · split
      · exact .refl s
      · exact .modifyObject s _ fun _ => rfl

theorem placed_settled (s : ImportedScene) (d : Document) : Settled s (s.placed d) := by
  have hlinked : Settled s (s.linked d) :=
    List.foldlRecOn _ linkParent (addArmature_settled s d)
      fun s' h n _ => h.trans (linkParent_settled s' n)
  exact List.foldlRecOn _ placeObject hlinked fun s' h n _ => h.trans (placeObject_settled s' n)

/-! ### Whole imports -/

/-- An import that goes through makes and places the objects, applies all modifiers, and marks what
is deformed. -/
theorem ofDocument_passes {st : LoadState} {P : ImportedScene → Prop}
    (hfurnish : Yields (furnish c config d) P)
    (ht : Load.answer (ofDocument c config d) st = .ok t) :
    ∃ s t', P s ∧ ((s.placed d).poseBones (selectBones d.scene.nodes)).applyModifiers
      (selectBones d.scene.nodes) d.scene.modifiers = .ok t' ∧ t = t'.markDeformed := by
  obtain ⟨s, hs, hP⟩ := hfurnish st
  have happly : furnish c config d st = (.ok s, Load.after (furnish c config d) st) :=
    Prod.ext hs rfl
  have hprepared : Load.answer (prepared c config d) st =
      .ok ((s.placed d).poseBones (selectBones d.scene.nodes)) := by
    rw [prepared_eq, Load.answer, Load.bind_apply_ok happly]
    rfl
  obtain ⟨s', hs', -, ⟨-, t', hanswer, hfold, -⟩ | ⟨-, e, hanswer, -⟩⟩ :=
    ofDocument_cases c config d st
  · obtain rfl := Except.ok.inj (hprepared.symm.trans hs')
    exact ⟨s, t', hP, hfold, (Except.ok.inj (hanswer.symm.trans ht)).symm⟩
  · cases hanswer.symm.trans ht

/-- **An import that goes through keeps the objects and materials that were made.** Links and places
are those of the passes that give them. -/
theorem ofDocument_kept {st : LoadState}
    (ht : Load.answer (ofDocument c config d) st = .ok t) :
    ∃ s, Furnishing d s ∧ Kept (s.placed d) t := by
  obtain ⟨s, t', hfurnishing, hfold, rfl⟩ := ofDocument_passes (furnish_yields c config d) ht
  exact ⟨s, hfurnishing,
    ((poseBones_kept _).trans (applyModifiers_kept hfold)).trans markDeformed_kept⟩

theorem ofDocument_keys {st : LoadState} (ht : Load.answer (ofDocument c config d) st = .ok t) :
    t.objects.map SceneObject.key = (d.scene.nodes.flatMap NodeInstance.seeds).map Prod.fst := by
  obtain ⟨s, hs, hkept⟩ := ofDocument_kept ht
  rw [((placed_settled s d).trans hkept.settled).extended.keys, ← hs.objects, List.map_map]
  rfl

theorem exists_ofDocument (c : ContentRoot) (config : ImportConfig) (st : LoadState)
    (hplain : ∀ n ∈ d.scene.nodes, plainName n.id = n.id) :
    ∃ t, Load.answer (ofDocument c config d) st = .ok t := by
  obtain ⟨s, -, hprepared, ⟨-, t, hanswer, -⟩ | ⟨-, e, -, hmisses⟩⟩ :=
    ofDocument_cases c config d st
  · exact ⟨_, hanswer⟩
  · obtain ⟨n, hn, hid, -⟩ := hmisses.exists_node hprepared
    exact absurd (hplain n hn) hid

end ImportedScene

end RiggedScene
