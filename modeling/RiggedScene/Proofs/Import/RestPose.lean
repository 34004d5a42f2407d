import RiggedScene.Proofs.Armature.Sources
import RiggedScene.Proofs.Import.Skeleton

/-!
# How the bones of an import are posed

An import poses the bones with the rotations of their nodes. The bones are looked up by the ids of
the templates, which name no bone in general: they lead to the bone of that name if there is one,
and else to the first bone of the template. So a bone may be posed by other nodes than its own.

* `ImportedScene.skeleton_bone` : what a bone has from its node before it is posed;
* `ImportedScene.LedTo` : the nodes whose templates lead to a bone;
* `ImportedScene.ofDocument_restPose` : the last of them decides how the bone is turned.
-/

namespace RiggedScene

namespace ImportedScene

variable {d : Document} {a : Armature} {b : Bone} {n m : NodeInstance}

/-! ### Bones and their nodes -/

/-- A bone is named after a selected node, and it is not turned before it is posed. -/
theorem skeleton_bone (ha : skeleton d = some a) (hb : b ∈ a.bones) :
    (∃ n ∈ selectBones d.scene.nodes, n.id = b.name ∧ n.templateId = b.templateId) ∧
      b.pose.rotation = Vec3.zero := by
  refine Armature.forall_build (P := fun b =>
    (∃ n ∈ selectBones d.scene.nodes, n.id = b.name ∧ n.templateId = b.templateId) ∧
      b.pose.rotation = Vec3.zero) ⟨fun s hs parent attached => ?_, fun b id h => h⟩
    (fun b h => h) ha b hb
  obtain ⟨n, hn, rfl⟩ := List.mem_map.1 hs
  exact ⟨⟨n, hn, rfl, rfl⟩, rfl⟩

/-- The template of the node leads to a bone of this name. -/
def LedTo (a : Armature) (name : String) (n : NodeInstance) : Prop :=
  (a.find? n.templateId).map Bone.name = some name

instance (a : Armature) (name : String) (n : NodeInstance) : Decidable (LedTo a name n) :=
  inferInstanceAs (Decidable (_ = _))

/-- The rotation that a bone has from the nodes whose templates lead to it: that of the last one. -/
def ledRotation (a : Armature) (nodes : List NodeInstance) (b : Bone) : Vec3 :=
  ((nodes.filter fun n => LedTo a b.name n).getLast?.map fun n =>
    b.slotAngles n.node.sourceRotation).getD Vec3.zero

theorem ledTo_iff (hnodup : (a.bones.map Bone.name).Nodup) {i : Nat} (hi : a.bones[i]? = some b) :
    LedTo a b.name n ↔ a.position? n.templateId = some i := by
  unfold LedTo Armature.find?
  constructor
  · intro hled
    obtain ⟨c, hc, hname⟩ := Option.map_eq_some_iff.1 hled
    obtain ⟨j, hj, hc⟩ := Option.bind_eq_some_iff.1 hc
    have hlt : j < (a.bones.map Bone.name).length := by
      simpa using (List.getElem?_eq_some_iff.1 hc).1
    have hij : j = i := (List.getElem?_inj hlt hnodup).1 (by simp [hi, hc, hname])
    rw [hj, hij]
  · intro hposition
    simp [hposition, hi]

theorem posed_rotation {a' : Armature} (ha : skeleton d = some a)
    (ha' : a' = (a.applyRotations (restRotations (selectBones d.scene.nodes))).1)
    (hb : b ∈ a'.bones) :
    b.pose.rotation = ledRotation a' (selectBones d.scene.nodes) b := by
  -- rotations keep names and templates, so the nodes lead to the same bones all along
  have hlabels : a'.bones.map Bone.labels = a.bones.map Bone.labels :=
    ha' ▸ Armature.applyRotations_map (fun _ _ => rfl) a _
  have hnames : a'.bones.map Bone.name = a.bones.map Bone.name :=
    ha' ▸ Armature.applyRotations_map (fun _ _ => rfl) a _
  have hnodup : (a'.bones.map Bone.name).Nodup := hnames ▸ (hierarchy_of_skeleton ha).nodup
  obtain ⟨i, hi⟩ := List.getElem?_of_mem hb
  have hturned := hi
  rw [ha', Armature.applyRotations_getElem?] at hturned
  obtain ⟨b₀, hb₀, rfl⟩ := Option.map_eq_some_iff.1 hturned
  have haxis : ∀ v, (Bone.turnedBy (a.rotationsAt i (restRotations (selectBones d.scene.nodes)))
      b₀).slotAngles v = b₀.slotAngles v := fun v => by
    simp only [Bone.slotAngles, Bone.slotValues, Bone.turnedBy_of (g := Bone.axis) fun _ _ => rfl]
  have hrotations : a.rotationsAt i (restRotations (selectBones d.scene.nodes)) =
      restRotations ((selectBones d.scene.nodes).filter fun n =>
        a.position? n.templateId = some i) := by
    simp only [Armature.rotationsAt, restRotations, List.filter_map, Function.comp_def]
  simp only [ledRotation, ledTo_iff hnodup hi, haxis, Armature.position?_congr hlabels]
  rw [Bone.turnedBy_rotation, hrotations, (skeleton_bone ha (List.mem_of_getElem? hb₀)).2,
    restRotations, List.getLast?_map, Option.map_map]
  rfl

theorem ledTo_own_iff {bones : List NodeInstance} (hnodup : (bones.map NodeInstance.id).Nodup)
    (hown : ∀ c ∈ a.bones, ∃ k ∈ bones, k.id = c.name ∧ k.templateId = c.templateId)
    (hb : b ∈ a.bones) (hn : n ∈ bones) (hid : n.id = b.name)
    (hother : ∀ k ∈ bones, k.id ≠ n.id →
      k.templateId ≠ n.templateId ∧ k.id ≠ n.templateId ∧ k.templateId ≠ n.id) (hm : m ∈ bones) :
    LedTo a b.name m ↔ m.id = n.id := by
  obtain ⟨k, hk, hkname, hktemplate⟩ := hown b hb
  obtain rfl : k = n := List.inj_on_of_nodup_map hnodup hk hn (hkname.trans hid.symm)
  constructor
  · intro hled
    obtain ⟨c, hc, hname⟩ := Option.map_eq_some_iff.1 hled
    obtain ⟨hcmem, hlabel⟩ := Armature.labels_of_find? hc
    obtain ⟨l, hl, hlname, hltemplate⟩ := hown c hcmem
    obtain rfl : l = k :=
      List.inj_on_of_nodup_map hnodup hl hk (hlname.trans (hname.trans hid.symm))
    -- the bone is found by its name or by its template, and `hother` excludes both
    by_contra hne
    obtain ⟨htemplate, -, hcross⟩ := hother m hm hne
    rcases hlabel with hlabel | hlabel
    · exact hcross (hlabel.symm.trans hlname.symm)
    · exact htemplate (hlabel.symm.trans hltemplate.symm)
  · intro heq
    obtain rfl : m = k := List.inj_on_of_nodup_map hnodup hm hk heq
    obtain ⟨c, hc⟩ := Option.isSome_iff_exists.1 (Armature.find?_template_isSome hb)
    obtain ⟨hcmem, hlabel⟩ := Armature.labels_of_find? hc
    obtain ⟨l, hl, hlname, hltemplate⟩ := hown c hcmem
    have hsame : l.id = m.id := by
      by_contra hne
      obtain ⟨htemplate, hname, -⟩ := hother l hl hne
      rcases hlabel with hlabel | hlabel
      · exact hname (hlname.trans (hlabel.trans hktemplate.symm))
      · exact htemplate (hltemplate.trans (hlabel.trans hktemplate.symm))
    rw [LedTo, hktemplate, hc, Option.map_some, ← hlname, hsame, hid]

theorem getLast?_filter_of_iff {α : Type} {p : α → Bool} {xs : List α} {x : α} (hx : x ∈ xs)
    (h : ∀ y ∈ xs, p y = true ↔ y = x) : (xs.filter p).getLast? = some x := by
  have hmem : x ∈ xs.filter p := List.mem_filter.2 ⟨hx, (h x hx).2 rfl⟩
  obtain ⟨y, hy⟩ := Option.isSome_iff_exists.1
    (List.getLast?_isSome.2 (List.ne_nil_of_mem hmem))
  obtain ⟨hyxs, hpy⟩ := List.mem_filter.1 (List.mem_of_getLast? hy)
  rwa [(h y hyxs).1 hpy] at hy

/-! ### Imports without morphs -/

theorem applySkin_armature (s : ImportedScene) (bones : List NodeInstance) (parent : String)
    (skin : Skin) : (s.applySkin bones parent skin).armature = s.armature := by
  unfold applySkin
  split
  · rfl
  · split <;> rfl

theorem applyModifier_armature {s t : ImportedScene} {bones : List NodeInstance}
    {m : ModifierInstance} (hm : m.modifier.morph? = none)
    (h : applyModifier bones s m = .ok t) : t.armature = s.armature := by
  unfold applyModifier at h
  split at h
  · obtain rfl := Except.ok.inj h
    rfl
  · split at h
    · obtain rfl := Except.ok.inj h
      exact applySkin_armature s bones _ _
    · next hkind _ => simp [Modifier.morph?, hkind] at hm
    · obtain rfl := Except.ok.inj h
      rfl

theorem applyModifiers_armature {s t : ImportedScene} {bones : List NodeInstance}
    {ms : List ModifierInstance} (hms : ∀ m ∈ ms, m.modifier.morph? = none)
    (h : s.applyModifiers bones ms = .ok t) : t.armature = s.armature :=
  applyModifiers_keeps (P := fun s' => s'.armature = s.armature)
    (fun _ m hm _ hs' ht => (applyModifier_armature (hms m hm) ht).trans hs') rfl h

theorem exists_of_no_morph (c : ContentRoot) (config : ImportConfig) (d : Document)
    (st : LoadState) (hms : ∀ m ∈ d.scene.modifiers, m.modifier.morph? = none) :
    ∃ t, Load.answer (ofDocument c config d) st = .ok t ∧
      t.armature = (skeleton d).map fun a =>
        (a.applyRotations (restRotations (selectBones d.scene.nodes))).1 := by
  obtain ⟨s, -, hprepared, ⟨-, t, hanswer, hfold, -⟩ | ⟨hmissed, -⟩⟩ :=
    ofDocument_cases c config d st
  · refine ⟨_, hanswer, ?_⟩
    rw [markDeformed_armature, applyModifiers_armature hms hfold, hprepared.armature_eq]
  · -- a modifier without a morph has nothing to find
    refine absurd (fun earlier m later heq i o hsets _ => ?_) hmissed
    have hmorph := hms m (heq ▸ by simp)
    exact absurd hsets.morph (by simp [hmorph])

/-- **Each bone is posed by the last node whose template leads to it.** So it is posed by its own
node if the templates of the selected nodes differ from each other and from the ids of other
nodes, and else it may be posed by another one, or not at all. -/
theorem ofDocument_restPose (c : ContentRoot) (config : ImportConfig) (d : Document)
    (st : LoadState) (hids : (d.scene.nodes.map NodeInstance.id).Nodup)
    (hms : ∀ m ∈ d.scene.modifiers, m.modifier.morph? = none) :
    ∃ t, Load.answer (ofDocument c config d) st = .ok t ∧
      ∀ a, t.armature = some a → ∀ b ∈ a.bones,
        b.pose.rotation = ledRotation a (selectBones d.scene.nodes) b ∧
        ∃ n ∈ selectBones d.scene.nodes, n.id = b.name ∧
          ((∀ k ∈ selectBones d.scene.nodes, k.id ≠ n.id →
            k.templateId ≠ n.templateId ∧ k.id ≠ n.templateId ∧ k.templateId ≠ n.id) →
          b.pose.rotation = b.slotAngles n.node.sourceRotation) := by
  obtain ⟨t, ht, harmature⟩ := exists_of_no_morph c config d st hms
  refine ⟨t, ht, fun a' ha' b hb => ?_⟩
  obtain ⟨a, ha, hposed⟩ := Option.map_eq_some_iff.1 (harmature.symm.trans ha')
  have hrotation := posed_rotation ha hposed.symm hb
  have hown : ∀ c ∈ a'.bones, ∃ k ∈ selectBones d.scene.nodes,
      k.id = c.name ∧ k.templateId = c.templateId := by
    intro c hc
    have hlabels : a'.bones.map Bone.labels = a.bones.map Bone.labels :=
      hposed ▸ Armature.applyRotations_map (fun _ _ => rfl) a _
    obtain ⟨c₀, hc₀, hlabel⟩ := List.mem_map.1 (hlabels ▸ List.mem_map_of_mem hc)
    obtain ⟨⟨k, hk, hname, htemplate⟩, -⟩ := skeleton_bone ha hc₀
    exact ⟨k, hk, hname.trans (congrArg Prod.fst hlabel),
      htemplate.trans (congrArg Prod.snd hlabel)⟩
  obtain ⟨n, hn, hid, -⟩ := hown b hb
  refine ⟨hrotation, n, hn, hid, fun hother => ?_⟩
  -- no other node leads to the bone, so that its own one is the last one
  have hlast : ((selectBones d.scene.nodes).filter fun m => LedTo a' b.name m).getLast? =
      some n := by
    refine getLast?_filter_of_iff hn fun m hm => ?_
    rw [decide_eq_true_iff, ledTo_own_iff (nodup_selectBones hids) hown hb hn hid hother hm]
    exact ⟨List.inj_on_of_nodup_map (nodup_selectBones hids) hm hn, congrArg NodeInstance.id⟩
  rw [hrotation, ledRotation, hlast]
  rfl

/-- A figure that is turned about Y. -/
def turnedDocument : Document :=
  let hip := plainNode "hip" .figure none
  { (default : Document) with
    scene := ⟨[{ hip with node := { hip.node with sourceRotation := ⟨0.0, 90.0, 0.0⟩ } }],
      [], [], []⟩ }

/-- Its bone is turned as the figure is. -/
theorem ofDocument_restPose_hip : ∃ t a, ∃ b ∈ a.bones,
    Load.answer (ofDocument default .standard turnedDocument) .start = .ok t ∧
      t.armature = some a ∧ b.name = "hip" ∧ b.pose.rotation = b.slotAngles ⟨0.0, 90.0, 0.0⟩ := by
  obtain ⟨t, ht, hposed⟩ := ofDocument_restPose default .standard turnedDocument .start
    (by decide) (by simp [turnedDocument])
  have hlinks : t.armature.map Armature.links = some [("hip", none)] := ofDocument_links ht
  obtain ⟨a, ha, hbones⟩ := Option.map_eq_some_iff.1 hlinks
  obtain ⟨b, rest, hcons, hlink, -⟩ := List.map_eq_cons_iff.1 hbones
  have hb : b ∈ a.bones := by simp [hcons]
  obtain ⟨-, n, hn, -, hown⟩ := hposed a ha b hb
  obtain rfl := List.mem_singleton.1 hn
  refine ⟨t, a, b, hb, ht, ha, congrArg Prod.fst hlink, hown fun k hk hne => ?_⟩
  obtain rfl := List.mem_singleton.1 hk
  exact absurd rfl hne

/-- Two figures of one template, one of them turned. The records are written as lists of their
fields where that is shorter. -/
def sharedText : String :=
  "[[\"\"],[],[],[],[],[\x7b\"id\":\"f\",\"type\":\"figure\"\x7d],[]," ++
  "[[\x7b\"id\":\"a\",\"url\":\"#f\"\x7d," ++
  "\x7b\"id\":\"b\",\"url\":\"#f\",\"rotation\":[[\"x\",90]]\x7d]]]"

/-- **A bone may be posed otherwise than its node is**, though all ids are distinct and nothing is
modified: the rotation of the second figure goes to the first one. -/
theorem exists_other_rotation : ∃ (c : ContentRoot) (path : Path) (text : String) (d : Document)
    (st : LoadState) (t : ImportedScene), c.loadText path text .start = (.ok d, st) ∧
      Load.answer (ofDocument c .standard d) st = .ok t ∧
      (d.scene.nodes.map NodeInstance.id).Nodup ∧ d.scene.modifiers = [] ∧
      ∃ a, t.armature = some a ∧ ∃ b ∈ a.bones, ∃ n ∈ d.scene.nodes, n.id = b.name ∧
        b.pose.rotation ≠ b.slotAngles n.node.sourceRotation := by
  have hload : (Load.answer ((ContentRoot.of ⟨""⟩ default).loadText ⟨""⟩ sharedText)
      .start).map (fun d => (d.scene.nodes.map fun n => (n.id, n.node.sourceRotation),
        d.scene.modifiers.isEmpty)) =
          .ok ([("a", Vec3.zero), ("b", ⟨90.0, 0.0, 0.0⟩)], true) := by decide +kernel
  have himport : (Load.answer ((ContentRoot.of ⟨""⟩ default).loadText ⟨""⟩ sharedText >>=
      ofDocument (.of ⟨""⟩ default) .standard) .start).map (fun t => t.armature.map fun a =>
        a.bones.map fun b => (b.name, decide (b.pose.rotation = b.slotAngles ⟨90.0, 0.0, 0.0⟩))) =
          .ok (some [("a", true), ("b", false)]) := by decide +kernel
  obtain ⟨d, st, t, hd, hscene, ht, harmature⟩ := Load.exists_of_answer_map hload himport
  obtain ⟨hnodes, hmodifiers⟩ := Prod.mk.inj hscene
  obtain ⟨a, ha, hbones⟩ := Option.map_eq_some_iff.1 harmature
  have hids : d.scene.nodes.map NodeInstance.id = ["a", "b"] := by
    simpa [Function.comp_def] using congrArg (List.map Prod.fst) hnodes
  obtain ⟨n, hn, hnode⟩ := List.mem_map.1 (hnodes ▸ List.mem_cons_of_mem _ List.mem_cons_self)
  obtain ⟨b, hb, hbone⟩ := List.mem_map.1 (hbones ▸ List.mem_cons_of_mem _ List.mem_cons_self)
  obtain ⟨hid, hrotation⟩ := Prod.mk.inj hnode
  obtain ⟨hname, hother⟩ := Prod.mk.inj hbone
  refine ⟨_, _, _, d, st, t, hd, ht, by simp [hids], List.isEmpty_iff.1 hmodifiers, a, ha, b, hb, n,
    hn, hid.trans hname.symm, ?_⟩
  rw [hrotation]
  exact of_decide_eq_false hother

end ImportedScene

end RiggedScene
