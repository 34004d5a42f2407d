import RiggedScene.Proofs.Import.Furnishing
import RiggedScene.Proofs.Import.Skeleton

/-!
# Materials of an import

A material of the scene is assigned to the mesh of the object that was made for its geometry, and it
is recorded with the name of that object. All objects of a node have the id of the node as their
name, so that the name leads to the first one only; and a name is read as a reference, so that one
with an escape leads elsewhere.

* `ImportedScene.ofDocument_names` : objects are named after their nodes;
* `ImportedScene.Reaches` : a name and a slot that are recorded lead to their material;
* `ImportedScene.ofDocument_materials` : each material is recorded once, with an object that has it,
  and which objects their names lead to.
-/

namespace RiggedScene

namespace ImportedScene

variable {c : ContentRoot} {d : Document} {config : ImportConfig} {s t : ImportedScene}
  {m : MaterialInstance} {e : ShadingMaterial}

/-! ### Names of objects -/

theorem map_name_seeds (n : NodeInstance) :
    n.seeds.map (fun seed => seed.1.1) = List.replicate (objectCount n) n.id := by
  rw [← n.length_seeds, NodeInstance.seeds]
  simp [Function.comp_def]

/-- The objects are named after the nodes that they are made for. -/
theorem ofDocument_names {st : LoadState} (ht : Load.answer (ofDocument c config d) st = .ok t) :
    t.objects.map SceneObject.name =
      d.scene.nodes.flatMap fun n => List.replicate (objectCount n) n.id := by
  have hnames := congrArg (List.map Prod.fst) (ofDocument_keys ht)
  simpa [Function.comp_def, List.map_flatMap, map_name_seeds, SceneObject.key] using hnames

theorem objectIndex?_of_nodup (hnodup : (t.objects.map SceneObject.name).Nodup)
    (hplain : ∀ o ∈ t.objects, plainName o.name = o.name) {i : Nat} {o : SceneObject}
    (ho : t.objects[i]? = some o) : t.objectIndex? o.name = some i := by
  rw [objectIndex?_eq_some_iff, hplain o (List.mem_of_getElem? ho), ho]
  refine ⟨rfl, fun hmem => ?_⟩
  obtain ⟨hi, hname⟩ := List.getElem?_eq_some_iff.1
    (show (t.objects.map SceneObject.name)[i]? = some o.name by simp [ho])
  rw [← List.take_append_drop i (t.objects.map SceneObject.name)] at hnodup
  have hdrop : o.name ∈ (t.objects.map SceneObject.name).drop i := by
    rw [List.drop_eq_getElem_cons hi, hname]
    exact List.mem_cons_self
  exact List.disjoint_of_nodup_append hnodup (List.map_take ▸ hmem) hdrop

/-! ### Materials -/

/-- The name and the slot that are recorded of a material lead to it. -/
def Reaches (t : ImportedScene) (e : ShadingMaterial) : Prop :=
  ∀ name, e.object = some name → ∃ o mesh p, t.findObject? name = some o ∧ o.mesh = some mesh ∧
    e.slot = some p ∧ mesh.materialSlots[p]? = some e.name

theorem Records.reaches (h : t.Records d m e)
    (hfound : ∀ (i : Nat) o, t.objects[i]? = some o → t.objectIndex? o.name = some i) :
    t.Reaches e := by
  intro name hname
  obtain ⟨hid, htarget⟩ := h
  split at htarget
  · rw [htarget.1] at hname
    cases hname
  · next i g _ =>
    obtain ⟨o, mesh, p, ho, hmesh, hobject, hslot, hp⟩ := htarget
    obtain rfl := Option.some.inj (hobject.symm.trans hname)
    refine ⟨o, mesh, p, ?_, hmesh, hslot, hid ▸ hp⟩
    rw [findObject?, hfound i o ho, Option.bind_some, ho]

/-- **Each material of the scene is recorded once, in order**, with the name of an object whose mesh
has the material in the slot. The name leads to that object exactly if it stands for itself and no
earlier object has it; so all materials are reached if no node has two objects, no two nodes with
objects have one id, and no id has an escape. -/
theorem ofDocument_materials (c : ContentRoot) (config : ImportConfig) (d : Document)
    (st : LoadState) :
    ((∀ n ∈ d.scene.nodes, plainName n.id = n.id) →
      ∃ t, Load.answer (ofDocument c config d) st = .ok t) ∧
    ∀ t, Load.answer (ofDocument c config d) st = .ok t →
      List.Forall₂ (t.Records d) d.scene.materials t.materials ∧
      (∀ (i : Nat) o, t.objects[i]? = some o → (t.objectIndex? o.name = some i ↔
        plainName o.name = o.name ∧ o.name ∉ (t.objects.take i).map SceneObject.name)) ∧
      ((∀ n ∈ d.scene.nodes, plainName n.id = n.id) →
        (d.scene.nodes.flatMap fun n => List.replicate (objectCount n) n.id).Nodup →
          ∀ e ∈ t.materials, t.Reaches e) := by
  refine ⟨exists_ofDocument c config st, fun t ht => ?_⟩
  obtain ⟨s, hs, hkept⟩ := ofDocument_kept ht
  have hrecords := ((placed_settled s d).trans hkept.settled).records hs.materials
  refine ⟨hrecords, fun i o ho => ?_, fun hplain hnodup e he => ?_⟩
  · rw [objectIndex?_eq_some_iff, ho, Option.map_some, Option.some_inj]
    constructor
    · rintro ⟨hname, hbefore⟩
      exact ⟨hname.symm, hname ▸ hbefore⟩
    · rintro ⟨hname, hbefore⟩
      exact ⟨hname.symm, hname.symm ▸ hbefore⟩
  · have hnames := ofDocument_names ht
    have hobjects : ∀ o ∈ t.objects, plainName o.name = o.name := by
      intro o ho
      obtain ⟨n, hn, hname⟩ := List.mem_flatMap.1 (hnames ▸ List.mem_map_of_mem ho)
      rw [List.eq_of_mem_replicate hname, hplain n hn]
    rw [← hnames] at hnodup
    obtain ⟨k, hk, rfl⟩ := List.getElem_of_mem he
    have hm := hrecords.get (hrecords.length_eq.symm ▸ hk) hk
    exact hm.reaches fun i o => objectIndex?_of_nodup hnodup hobjects

/-- A node with a mesh and a material for it. -/
def paintedDocument : Document :=
  let geometry : GeometryInstance := { (default : GeometryInstance) with id := "shape" }
  let material : Material := { (default : Material) with id := "skin", geometry := some "#shape" }
  { (default : Document) with
    scene := ⟨[{ plainNode "prop" .node none with geometries := [geometry] }],
      [{ (default : MaterialInstance) with material := material }], [], []⟩ }

/-- The object is found by its name, and the material in its slot. -/
theorem ofDocument_materials_prop : ∃ t e o mesh,
    Load.answer (ofDocument default .standard paintedDocument) .start = .ok t ∧
      t.materials = [e] ∧ e.name = "skin" ∧ t.findObject? "prop" = some o ∧ o.mesh = some mesh ∧
      mesh.materialSlots[0]? = some "skin" := by
  obtain ⟨hok, hmaterials⟩ := ofDocument_materials default .standard paintedDocument .start
  have hplain : ∀ n ∈ paintedDocument.scene.nodes, plainName n.id = n.id := by decide +kernel
  have hentries : (Load.answer (ofDocument default .standard paintedDocument) .start).map
      (fun t => t.materials.map fun e => (e.name, e.object, e.slot)) =
        .ok [("skin", some "prop", some 0)] := by decide +kernel
  obtain ⟨t, ht⟩ := hok hplain
  obtain ⟨-, -, hreaches⟩ := hmaterials t ht
  rw [ht] at hentries
  obtain ⟨e, rest, hcons, hentry, hrest⟩ := List.map_eq_cons_iff.1 (Except.ok.inj hentries)
  obtain rfl := List.map_eq_nil_iff.1 hrest
  obtain ⟨hname, hplace⟩ := Prod.mk.inj hentry
  obtain ⟨hobject, hslot⟩ := Prod.mk.inj hplace
  obtain ⟨o, mesh, p, ho, hmesh, hp, hmaterial⟩ :=
    hreaches hplain (by decide) e (by simp [hcons]) "prop" hobject
  obtain rfl := Option.some.inj (hp.symm.trans hslot)
  exact ⟨t, e, o, mesh, ht, hcons, hname, ho, hmesh, hname ▸ hmaterial⟩

/-- A node with two meshes and a material for the second one. The records are written as lists of
their fields where that is shorter. -/
def paintedText : String :=
  "[[\"\"],[],[[\"g\"]],[\x7b\"id\":\"skin\"\x7d],[],[[\"n\"]],[]," ++
  "[[\x7b\"id\":\"arm\",\"url\":\"#n\"," ++
  "\"geometries\":[[\"#g\",\"upper\"],[\"#g\",\"lower\"]]\x7d]," ++
  "[\x7b\"id\":\"skin\",\"url\":\"#skin\",\"geometry\":\"#lower\"\x7d]]]"

/-- **The name and slot that are recorded of a material may not lead to it**, though all ids stand
for themselves and are distinct: the name leads to the first object of the node, which has no such
slot. -/
theorem exists_material_unreached : ∃ (c : ContentRoot) (path : Path) (text : String)
    (d : Document) (st : LoadState) (t : ImportedScene),
    c.loadText path text .start = (.ok d, st) ∧
      Load.answer (ofDocument c .standard d) st = .ok t ∧
      (d.scene.nodes.map NodeInstance.id).Nodup ∧
      (∀ n ∈ d.scene.nodes, plainName n.id = n.id) ∧
      ∃ e ∈ t.materials, ∃ name p o mesh, e.object = some name ∧ e.slot = some p ∧
        t.findObject? name = some o ∧ o.mesh = some mesh ∧
        mesh.materialSlots[p]? ≠ some e.name := by
  have hload : (Load.answer ((ContentRoot.of ⟨""⟩ default).loadText ⟨""⟩ paintedText)
      .start).map (fun d => d.scene.nodes.map NodeInstance.id) = .ok ["arm"] := by decide +kernel
  have himport : (Load.answer ((ContentRoot.of ⟨""⟩ default).loadText ⟨""⟩ paintedText >>=
      ofDocument (.of ⟨""⟩ default) .standard) .start).map (fun t =>
        (t.materials.map fun e => (e.object, e.slot),
          (t.findObject? "arm").map fun o => o.mesh.map Mesh.materialSlots)) =
            .ok ([(some "arm", some 0)], some (some [])) := by decide +kernel
  obtain ⟨d, st, t, hd, hids, ht, hscene⟩ := Load.exists_of_answer_map hload himport
  obtain ⟨hmaterials, hfound⟩ := Prod.mk.inj hscene
  obtain ⟨e, rest, hcons, hentry, -⟩ := List.map_eq_cons_iff.1 hmaterials
  obtain ⟨hobject, hslot⟩ := Prod.mk.inj hentry
  obtain ⟨o, ho, hslots⟩ := Option.map_eq_some_iff.1 hfound
  obtain ⟨mesh, hmesh, hempty⟩ := Option.map_eq_some_iff.1 hslots
  refine ⟨_, _, _, d, st, t, hd, ht, by simp [hids], ?_, e, by simp [hcons], "arm", 0, o, mesh,
    hobject, hslot, ho, hmesh, by simp [hempty]⟩
  intro n hn
  have hid : n.id ∈ ["arm"] := hids ▸ List.mem_map_of_mem hn
  rw [List.mem_singleton.1 hid]
  decide +kernel

end ImportedScene

end RiggedScene
