import RiggedScene.Proofs.Import.Groups
import RiggedScene.Proofs.Import.Skeleton

/-!
# Vertex groups that skins set

A skin sets a group for each of its joints that has a bone, under the name of the template of the
bone, in place of the groups that have this name. Neither the polygons that groups are made of nor
the weights of joints are looked at for vertices that a mesh does not have.

* `Binding` is a joint with its bone, and `ImportedScene.bindings` are those of an object;
* `ImportedScene.Regroups` says that groups have been set, and
  `ImportedScene.applyModifiers_regroups` : the modifiers of a scene set those of all joints;
* `ImportedScene.ofDocument_groups` : the groups of all objects of an import;
* `ImportedScene.groupsInRange_iff` : which indices of a document decide whether the groups are in
  range.
-/

namespace RiggedScene

/-- A joint with the bone that it is for. -/
structure Binding where
  bone : NodeInstance
  joint : Joint

namespace Binding

/-- The weights of the joint for the bone. -/
def weights (b : Binding) : WeightList := b.joint.weights b.bone.node.center b.bone.node.tip

/-- The group that is set for the joint: weights below `least` are left out. -/
def group (least : Float) (b : Binding) : VertexGroup :=
  ⟨b.bone.templateId, b.joint.group b.bone.node.center b.bone.node.tip least⟩

theorem mem_indices_group {b : Binding} {least : Float} {v : Nat} :
    v ∈ (b.group least).indices ↔ ∃ w, (v, w) ∈ b.weights ∧ w ≥ least := by
  rw [VertexGroup.indices, group, Joint.group, IndexMap.mem_keys_ofList]
  simp [weights]

end Binding

/-- The joints of a skin that have a bone. -/
def Skin.bindings (bones : List NodeInstance) (skin : Skin) : List Binding :=
  skin.joints.filterMap fun j => (bones.find? fun b => b.id == j.id).map fun b => ⟨b, j⟩

/-- The joints that a modifier binds the object `i` to. -/
def ModifierInstance.bindings (m : ModifierInstance) (s : ImportedScene)
    (bones : List NodeInstance) (i : Nat) : List Binding :=
  match m.parent, m.modifier.kind with
  | some parent, .skin skin => if s.objectFor? parent = some i then skin.bindings bones else []
  | _, _ => []

namespace ImportedScene

variable {c : ContentRoot} {d : Document} {config : ImportConfig} {s s' s'' t : ImportedScene}
  {bones : List NodeInstance}

/-! ### Groups that are set -/

/-- The object `i` of `t` has the groups of the one of `s`, after the groups `new i` have been
set. -/
structure Regroups (new : Nat → List VertexGroup) (s t : ImportedScene) : Prop where
  groups : ∀ i : Nat, (t.objects[i]?).map SceneObject.grouping =
    (s.objects[i]?).map fun o => o.grouping.map (Grouping.setting (new i))
  config : t.config = s.config

theorem SameGroups.regroups (h : SameGroups s t) : Regroups (fun _ => []) s t := by
  refine ⟨fun i => ?_, h.config⟩
  have hnone : Grouping.setting [] = id := by
    funext x
    exact congrArg (x.1, ·) (VertexGroup.replace_nil x.2)
  have hgroups := congrArg (·[i]?) h.groups
  simpa [hnone] using hgroups

namespace Regroups

variable {new new' : Nat → List VertexGroup}

theorem trans (h : Regroups new s s') (h' : Regroups new' s' s'') :
    Regroups (fun i => new i ++ new' i) s s'' := by
  refine ⟨fun i => ?_, h'.config.trans h.config⟩
  have hsetting : Grouping.setting (new i ++ new' i) =
      Grouping.setting (new' i) ∘ Grouping.setting (new i) :=
    funext fun x => Grouping.setting_append _ _ x
  have hfirst := congrArg (Option.map (Option.map (Grouping.setting (new' i)))) (h.groups i)
  rw [h'.groups i, hsetting]
  simpa [Function.comp_def] using hfirst

theorem of_one {i : Nat} {new : List VertexGroup}
    (hi : (t.objects[i]?).map SceneObject.grouping =
      (s.objects[i]?).map fun o => o.grouping.map (Grouping.setting new))
    (hne : ∀ j, i ≠ j → t.objects[j]? = s.objects[j]?) (hconfig : t.config = s.config) :
    Regroups (fun j => if i = j then new else []) s t := by
  refine ⟨fun j => ?_, hconfig⟩
  split
  · next hij => exact hij ▸ hi
  · next hij =>
    rw [hne j hij]
    exact (SameGroups.refl s).regroups.groups j

end Regroups

theorem foldl_addJoint_mesh (bones : List NodeInstance) (least : Float) (skin : Skin)
    (state : Mesh × List Diagnostic) : (skin.joints.foldl (addJoint bones least) state).1 =
      state.1.setGroups ((skin.bindings bones).map (Binding.group least)) := by
  unfold Skin.bindings
  generalize skin.joints = js
  induction js generalizing state with
  | nil => rfl
  | cons j js ih =>
    rw [List.foldl_cons, ih, addJoint]
    cases hb : bones.find? fun b => b.id == j.id with
    | none => rw [List.filterMap_cons_none (by rw [hb]; rfl)]
    | some b =>
      rw [List.filterMap_cons_some (b := ⟨b, j⟩) (by rw [hb]; rfl)]
      rfl

theorem applySkin_regroups (s : ImportedScene) (bones : List NodeInstance) (parent : String)
    (skin : Skin) : Regroups (fun i => if s.objectFor? parent = some i then
      (skin.bindings bones).map (Binding.group s.config.minWeight) else [])
      s (s.applySkin bones parent skin) := by
  unfold applySkin
  cases hi : s.objectFor? parent with
  | none => exact (SameGroups.refl s).regroups
  | some i =>
    -- an object without a mesh has no groups, whichever are set
    simp only [Option.some.injEq]
    cases hmesh : (s.objects[i]?).bind SceneObject.mesh with
    | none =>
      refine .of_one ?_ (fun _ _ => rfl) rfl
      cases ho : s.objects[i]? with
      | none => rfl
      | some o =>
        have hbare : o.mesh = none := by simpa [ho] using hmesh
        simp [SceneObject.grouping, hbare]
    | some mesh =>
      obtain ⟨o, ho, hmesh⟩ := Option.bind_eq_some_iff.1 hmesh
      have hset := foldl_addJoint_mesh bones s.config.minWeight skin (mesh, [])
      dsimp only
      generalize skin.joints.foldl (addJoint bones s.config.minWeight) (mesh, []) = after
        at hset ⊢
      have hself := modifyObject_getElem? ho fun o => { o with mesh := some after.1 }
      refine .of_one ?_ (fun j hij => (hself j).trans (if_neg hij)) rfl
      rw [noting, hself i, if_pos rfl, ho]
      simp [SceneObject.grouping, hmesh, hset, Mesh.grouping_setGroups]

/-! ### All modifiers of a scene -/

/-- **A modifier sets the groups of the joints that it binds an object to**, and no others. -/
theorem applyModifier_regroups {m : ModifierInstance} (h : applyModifier bones s m = .ok t) :
    Regroups (fun i => (m.bindings s bones i).map (Binding.group s.config.minWeight)) s t := by
  unfold applyModifier at h
  unfold ModifierInstance.bindings
  cases hparent : m.parent with
  | none =>
    rw [hparent] at h
    obtain rfl := Except.ok.inj h
    exact (SameGroups.refl s).regroups
  | some parent =>
    cases hkind : m.modifier.kind with
    | skin skin =>
      simp only [hparent, hkind] at h
      obtain rfl := Except.ok.inj h
      simpa only [apply_ite (List.map _), List.map_nil] using applySkin_regroups s bones parent skin
    | morph x =>
      simp only [hparent, hkind] at h
      split at h
      · next heq => cases heq
      · exact (applyMorph_sameGroups h).regroups
      · obtain rfl := Except.ok.inj h
        exact (SameGroups.refl s).regroups
    | unknown =>
      simp only [hparent, hkind] at h
      obtain rfl := Except.ok.inj h
      exact (SameGroups.refl s).regroups

theorem SameNames.bindings (h : SameNames s t) (m : ModifierInstance) (bones : List NodeInstance)
    (i : Nat) : m.bindings t bones i = m.bindings s bones i := by
  unfold ModifierInstance.bindings
  simp only [h.objectFor?]

/-- **The modifiers of a scene set the groups of all joints that they bind an object to**, in
order. -/
theorem applyModifiers_regroups {ms : List ModifierInstance}
    (h : s.applyModifiers bones ms = .ok t) :
    Regroups (fun i => (ms.flatMap fun m => m.bindings s bones i).map
      (Binding.group s.config.minWeight)) s t := by
  induction ms generalizing s with
  | nil =>
    obtain rfl := Except.ok.inj h
    exact (SameGroups.refl s).regroups
  | cons m ms ih =>
    obtain ⟨s', hs', h⟩ := exists_of_bind h
    have hfirst := applyModifier_regroups hs'
    -- what a modifier makes of the scene does not change which objects the later ones are for
    have hnames : SameNames s s' := (applyModifier_kept hs').sameNames
    have hrest := ih h
    simp only [hnames.bindings, hfirst.config] at hrest
    simpa only [List.flatMap_cons, List.map_append] using hfirst.trans hrest

/-! ### Whole imports -/

/-- The joints that the skins of a document bind the object `i` to, in order. -/
def bindings (t : ImportedScene) (d : Document) (i : Nat) : List Binding :=
  d.scene.modifiers.flatMap fun m => m.bindings t (selectBones d.scene.nodes) i

/-- **The groups of all objects of an import**: those of their geometries, and those set for the
joints that they are bound to. -/
theorem ofDocument_groups {st : LoadState}
    (ht : Load.answer (ofDocument c config d) st = .ok t) (i : Nat) :
    (t.objects[i]?).map SceneObject.grouping = (d.objectGeometries[i]?).map (Option.map fun g =>
      g.grouping.setting ((t.bindings d i).map (Binding.group config.minWeight))) := by
  obtain ⟨s, t', ⟨hgroups, hconfig⟩, hfold, rfl⟩ :=
    ofDocument_passes (furnish_groups c config d) ht
  -- groups are made first, left alone until the modifiers set some, and left alone again
  have hposed : SameGroups s ((s.placed d).poseBones (selectBones d.scene.nodes)) :=
    (placed_sameGroups s d).trans (poseBones_sameGroups _ _)
  have hnames : SameNames ((s.placed d).poseBones (selectBones d.scene.nodes)) t'.markDeformed :=
    ((applyModifiers_kept hfold).trans markDeformed_kept).sameNames
  have hmade := congrArg (·[i]?) (hposed.groups.trans hgroups)
  have hset := (applyModifiers_regroups hfold).groups i
  have hmarked := congrArg (·[i]?) (markDeformed_sameGroups t').groups
  rw [hposed.config, hconfig] at hset
  simp only [List.getElem?_map] at hmade hmarked
  simp only [hmarked, hset, bindings, hnames.bindings]
  generalize (d.scene.modifiers.flatMap _).map (Binding.group config.minWeight) = new
  simpa [Function.comp_def] using congrArg (Option.map (Option.map (Grouping.setting new))) hmade

/-- All groups of all meshes weigh vertices of their meshes only. -/
def GroupsInRange (t : ImportedScene) : Prop :=
  ∀ o ∈ t.objects, ∀ m, o.mesh = some m → ∀ x ∈ m.vertexGroups, ∀ v ∈ x.indices,
    v < m.vertexCount

theorem inRange_bound_iff {g : Geometry} {bs : List Binding} {least : Float} :
    (g.grouping.setting (bs.map (Binding.group least))).InRange ↔
      (∀ p ∈ g.polygons, ∀ name, g.InGroup p name → (∀ b ∈ bs, b.bone.templateId ≠ name) →
        ∀ v ∈ p.vertices, v < g.vertices.length) ∧
      ∀ before b after, bs = before ++ b :: after →
        (∀ b' ∈ after, b'.bone.templateId ≠ b.bone.templateId) →
          ∀ e ∈ b.weights, e.2 ≥ least → e.1 < g.vertices.length := by
  have hnames : ∀ (bs : List Binding) (name : String),
      name ∉ (bs.map (Binding.group least)).map VertexGroup.name ↔
        ∀ b ∈ bs, b.bone.templateId ≠ name := by
    intro bs name
    simp [Binding.group]
  rw [Geometry.grouping, Grouping.inRange_setting_iff]
  refine and_congr ⟨fun h p hp name hgroup hfree v hv => ?_, fun h x hx hfree v hv => ?_⟩
    ⟨fun h before b after heq hlast e he hleast => ?_,
      fun h before x after heq hlast v hv => ?_⟩
  · obtain ⟨x, hx, rfl, hvx⟩ := Geometry.mem_indices_iff.2 ⟨p, hp, hgroup, hv⟩
    exact h x hx ((hnames _ _).2 hfree) v hvx
  · obtain ⟨p, hp, hgroup, hvp⟩ := Geometry.mem_indices_iff.1 ⟨x, hx, rfl, hv⟩
    exact h p hp x.name hgroup ((hnames _ _).1 hfree) v hvp
  · refine h (before.map (Binding.group least)) (b.group least) (after.map (Binding.group least))
      ?_ ((hnames _ _).2 hlast) e.1 (Binding.mem_indices_group.2 ⟨e.2, he, hleast⟩)
    rw [heq, List.map_append, List.map_cons]
  · obtain ⟨before, rest, rfl, -, hrest⟩ := List.map_eq_append_iff.1 heq
    obtain ⟨b, after, rfl, rfl, rfl⟩ := List.map_eq_cons_iff.1 hrest
    obtain ⟨w, hw, hleast⟩ := Binding.mem_indices_group.1 hv
    exact h before b after rfl ((hnames _ _).1 hlast) (v, w) hw hleast

/-- **Which indices decide whether the groups of an import are in range.** They are if and only if
the vertices exist of each polygon in a group whose name no joint takes, and those with large enough
weights of the last joint for each name. -/
theorem groupsInRange_iff {st : LoadState}
    (ht : Load.answer (ofDocument c config d) st = .ok t) :
    t.GroupsInRange ↔ ∀ (i : Nat) g, d.objectGeometries[i]? = some (some g) →
      (∀ p ∈ g.polygons, ∀ name, g.InGroup p name →
        (∀ b ∈ t.bindings d i, b.bone.templateId ≠ name) →
          ∀ v ∈ p.vertices, v < g.vertices.length) ∧
      ∀ before b after, t.bindings d i = before ++ b :: after →
        (∀ b' ∈ after, b'.bone.templateId ≠ b.bone.templateId) →
          ∀ e ∈ b.weights, e.2 ≥ config.minWeight → e.1 < g.vertices.length := by
  have hgroups := ofDocument_groups ht
  simp only [← inRange_bound_iff]
  constructor
  · intro h i g hg
    have hi := hgroups i
    rw [hg] at hi
    obtain ⟨o, ho, hgrouping⟩ := Option.map_eq_some_iff.1 hi
    obtain ⟨m, hm, hsame⟩ := Option.map_eq_some_iff.1 hgrouping
    dsimp only at hsame
    rw [← hsame]
    exact h o (List.mem_of_getElem? ho) m hm
  · intro h o ho m hm
    obtain ⟨i, hi⟩ := List.getElem?_of_mem ho
    have hgrouping := (hgroups i).symm
    rw [hi, Option.map_some, SceneObject.grouping, hm] at hgrouping
    obtain ⟨source, hg, hsource⟩ := Option.map_eq_some_iff.1 hgrouping
    obtain ⟨g, rfl, hsame⟩ := Option.map_eq_some_iff.1 hsource
    have hrange : m.grouping.InRange := hsame ▸ h i g hg
    exact hrange

/-- Three vertices and a polygon, in the group `hip`, that has another one. -/
def hipGeometry : Geometry :=
  { (default : Geometry) with
    vertices := [Vec3.zero, Vec3.zero, Vec3.zero]
    polygons := [⟨some 0, none, [0, 1, 7]⟩]
    polyGroupNames := ["hip"] }

/-- A figure of this geometry, with a skin that binds a vertex to the bone of the figure. -/
def boundDocument : Document :=
  let shape : GeometryInstance :=
    { (default : GeometryInstance) with id := "shape", geometry := hipGeometry }
  let joint : Joint := ⟨"hip", "#hip", none, some [(2, 1.0)]⟩
  let skin : Modifier := { (default : Modifier) with kind := .skin ⟨none, none, [joint]⟩ }
  { (default : Document) with
    scene := ⟨[{ plainNode "hip" .figure none with geometries := [shape] }], [],
      [{ (default : ModifierInstance) with parent := some "#shape", modifier := skin }], []⟩ }

/-- The group of the joint takes the place of the one with the missing vertex. -/
theorem groupsInRange_bound : ∃ t,
    Load.answer (ofDocument default .standard boundDocument) .start = .ok t ∧
      t.GroupsInRange := by
  have hplain : ∀ n ∈ boundDocument.scene.nodes, plainName n.id = n.id := by decide +kernel
  have hbound : (Load.answer (ofDocument default .standard boundDocument) .start).map
      (fun t => (t.bindings boundDocument 0).map fun b =>
        (b.bone.templateId, b.weights.map Prod.fst)) = .ok [("hip", [2])] := by decide +kernel
  obtain ⟨t, ht⟩ := exists_ofDocument default .standard .start hplain
  rw [ht] at hbound
  obtain ⟨b, rest, hcons, hb, hrest⟩ := List.map_eq_cons_iff.1 (Except.ok.inj hbound)
  obtain rfl := List.map_eq_nil_iff.1 hrest
  obtain ⟨hname, hweights⟩ := Prod.mk.inj hb
  have hgeometries : boundDocument.objectGeometries = [some hipGeometry] := rfl
  refine ⟨t, ht, (groupsInRange_iff ht).2 fun i g hg => ?_⟩
  rw [hgeometries, List.getElem?_singleton] at hg
  split at hg
  · next hi =>
    subst hi
    obtain rfl : hipGeometry = g := by simpa using hg
    rw [hcons]
    refine ⟨fun p hp name hgroup hfree => ?_, fun before b' after heq _ e he _ => ?_⟩
    · refine absurd ?_ (hfree b List.mem_cons_self)
      rcases hgroup with ⟨k, -, hk⟩ | ⟨k, -, hk⟩
      · have hmem : name ∈ ["hip"] := List.mem_of_getElem? hk
        rw [List.mem_singleton.1 hmem, hname]
      · cases hk
    · have hmem : b' ∈ [b] := heq ▸ by simp
      obtain rfl := List.mem_singleton.1 hmem
      have hindex : e.1 ∈ [2] := hweights ▸ List.mem_map_of_mem he
      rw [List.mem_singleton.1 hindex]
      decide
  · cases hg

/-- A figure with a polygon, in a polygon group and a material group, and with a joint. Both have a
vertex that the mesh has not. The records are written as lists of their fields where that is
shorter. -/
def strayText : String :=
  "[[\"\"],[],[[\"g\",[[\"flap\"]],[[\"skin\"]],[[[0,0,0],[1,0,0],[0,1,0]]],[[[0,0,0,1,7]]]]]," ++
  "[],[],[\x7b\"id\":\"hip\",\"type\":\"figure\"\x7d]," ++
  "[\x7b\"id\":\"m\",\"skin\":[null,null,[[\"wing\",\"\",null,[[[9,1]]]]]]\x7d]," ++
  "[[\x7b\"id\":\"wing\",\"url\":\"#hip\",\"geometries\":[[\"#g\"]]\x7d],[]," ++
  "[[\"\",\"#m\",null,\"#wing\"]]]]"

/-- **Groups may weigh vertices that their mesh has not**, polygon groups, material groups and those
of joints alike. The polygon makes no face, and this is noted, but it counts for its groups. -/
theorem exists_groups_beyond : ∃ (c : ContentRoot) (path : Path) (text : String) (d : Document)
    (st : LoadState) (t : ImportedScene) (o : SceneObject) (m : Mesh),
    c.loadText path text .start = (.ok d, st) ∧
      Load.answer (ofDocument c .standard d) st = .ok t ∧ o ∈ t.objects ∧ o.mesh = some m ∧
      m.vertexCount = 3 ∧ m.vertexGroups.map VertexGroup.indices = [[0, 1, 7], [0, 1, 7], [9]] ∧
      ¬ t.GroupsInRange := by
  have himport : (Load.answer ((ContentRoot.of ⟨""⟩ default).loadText ⟨""⟩ strayText >>=
      ofDocument (.of ⟨""⟩ default) .standard) .start).map (fun t => t.objects.map fun o =>
        o.mesh.map fun m => (m.vertexCount, m.vertexGroups.map VertexGroup.indices)) =
          .ok [some (3, [[0, 1, 7], [0, 1, 7], [9]])] := by decide +kernel
  obtain ⟨d, st, t, hd, ht, hobjects⟩ := Load.exists_of_bind_map himport
  obtain ⟨o, rest, hcons, ho, -⟩ := List.map_eq_cons_iff.1 hobjects
  obtain ⟨m, hm, hgroups⟩ := Option.map_eq_some_iff.1 ho
  obtain ⟨hcount, hgroups⟩ := Prod.mk.inj hgroups
  have hmem : o ∈ t.objects := by simp [hcons]
  refine ⟨_, _, _, d, st, t, o, m, hd, ht, hmem, hm, hcount, hgroups, fun hrange => ?_⟩
  obtain ⟨x, xs, hx, hstray, -⟩ := List.map_eq_cons_iff.1 hgroups
  have hlt := hrange o hmem m hm x (by simp [hx]) 7 (by simp [hstray])
  omega

end ImportedScene

end RiggedScene
