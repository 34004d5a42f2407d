import RiggedScene.Proofs.Armature.Hierarchy
import RiggedScene.Proofs.Armature.Rotations
import RiggedScene.Proofs.Import.Modifiers
import Mathlib.Logic.Relation

/-!
# Where the selected bones hang

An import selects the nodes that become bones, and the armature is built of them. A figure is
selected if it has no parent or hangs from a selection; a root of an armature is a bone without
parent. So a figure that hangs from a selection is selected, but it is no root, and what hangs from
it is left out with it.

* `selectBones_spec` : which nodes are selected;
* `Armature.Hierarchy.link_iff` and `Armature.Hierarchy.below_iff` : how the references between
  sources show in the links of the armature;
* `ImportedScene.ofDocument_skeleton` : both of an imported document.
-/

namespace RiggedScene

/-! ### Selected nodes -/

/-- One step of the selection. -/
def selectBone (bones : List NodeInstance) (n : NodeInstance) : List NodeInstance :=
  if n.isStandaloneFigure then bones ++ [n]
  else if n.node.kind == .bone && !bones.any (fun b => b.templateId == n.templateId) then
    bones ++ [n]
  else bones

theorem selectBone_cases (bones : List NodeInstance) (n : NodeInstance) :
    selectBone bones n = bones ++ [n] ∨
      selectBone bones n = bones ∧ n.isStandaloneFigure = false := by
  unfold selectBone
  split
  · exact .inl rfl
  · next hfigure =>
    split
    · exact .inl rfl
    · exact .inr ⟨rfl, eq_false_of_ne_true hfigure⟩

theorem foldl_selectBone (bones nodes : List NodeInstance) :
    ∃ selected, nodes.foldl selectBone bones = bones ++ selected ∧ selected.Sublist nodes ∧
      ∀ n ∈ nodes, n.isStandaloneFigure = true → n ∈ selected := by
  induction nodes generalizing bones with
  | nil => exact ⟨[], by simp, .slnil, by simp⟩
  | cons n nodes ih =>
    obtain ⟨selected, hfold, hsub, hfigures⟩ := ih (selectBone bones n)
    rw [List.foldl_cons, hfold]
    rcases selectBone_cases bones n with htaken | ⟨hpassed, hfigure⟩
    · refine ⟨n :: selected, by simp [htaken], hsub.cons_cons n, ?_⟩
      rintro m hm hfigure
      rcases List.mem_cons.1 hm with rfl | hm
      · exact List.mem_cons_self
      · exact List.mem_cons_of_mem n (hfigures m hm hfigure)
    · refine ⟨selected, by rw [hpassed], hsub.cons n, ?_⟩
      rintro m hm hm'
      rcases List.mem_cons.1 hm with rfl | hm
      · simp [hfigure] at hm'
      · exact hfigures m hm hm'

/-- Bones are selected in the order of the nodes, each node at most once, and all figures without
parent or in a selection are among them. -/
theorem selectBones_spec (nodes : List NodeInstance) : (selectBones nodes).Sublist nodes ∧
    ∀ n ∈ nodes, n.isStandaloneFigure = true → n ∈ selectBones nodes := by
  obtain ⟨selected, hfold, hspec⟩ := foldl_selectBone [] nodes
  have hselected : selectBones nodes = selected := hfold
  rwa [hselected]

/-! ### Chains of parents -/

/-- One source refers to another one as its parent. -/
def BoneSource.Under (sources : List BoneSource) (s p : BoneSource) : Prop :=
  s ∈ sources ∧ p ∈ sources ∧ s.parent = some ("#" ++ p.id)

/-- A selected node refers to another one as its parent. -/
def NodeInstance.Under (bones : List NodeInstance) (n p : NodeInstance) : Prop :=
  n ∈ bones ∧ p ∈ bones ∧ n.parent = some ("#" ++ p.id)

theorem NodeInstance.Under.source {bones : List NodeInstance} {n p : NodeInstance}
    (h : Under bones n p) :
    BoneSource.Under (bones.map boneSource) n.boneSource p.boneSource :=
  ⟨List.mem_map_of_mem h.1, List.mem_map_of_mem h.2.1, h.2.2⟩

/-- A bone of this name hangs from one of the other name, by way of others. -/
def Below (links : List BoneLink) : String → String → Prop :=
  Relation.TransGen fun x y => (x, some y) ∈ links

namespace Armature

variable {sources : List BoneSource} {a : Armature} {s p : BoneSource}

theorem childMark_injective : Function.Injective childMark := by
  refine Option.map_injective fun x y hxy => ?_
  exact (String.append_right_inj "#").1 hxy

/-- A bone is under the parent its source refers to. -/
theorem Hierarchy.link_iff (h : Hierarchy sources a) (hids : (sources.map BoneSource.id).Nodup)
    (hs : s ∈ sources) (hbone : s.id ∈ a.bones.map Bone.name) (parent : Option String) :
    (s.id, parent) ∈ a.links ↔ s.parent = childMark parent := by
  have hsource : ∀ q, (s.id, q) ∈ a.links → s.parent = childMark q := by
    intro q hq
    obtain ⟨b, hb, hlink⟩ := List.mem_map.1 hq
    obtain ⟨hname, rfl⟩ : b.name = s.id ∧ b.parent = q := by simpa [Bone.link] using hlink
    obtain ⟨s', hs', hid, hparent⟩ := h.source b hb
    obtain rfl : s' = s := List.inj_on_of_nodup_map hids hs' hs (hid.trans hname)
    exact hparent
  refine ⟨hsource parent, fun hparent => ?_⟩
  obtain ⟨q, hq⟩ := exists_link hbone
  rwa [childMark_injective (hparent.symm.trans (hsource q hq))]

theorem Hierarchy.bone_iff (h : Hierarchy sources a) (hids : (sources.map BoneSource.id).Nodup)
    (hs : s ∈ sources) : s.id ∈ a.bones.map Bone.name ↔
      s.parent = none ∨ ∃ q ∈ a.bones.map Bone.name, s.parent = some ("#" ++ q) := by
  constructor
  · intro hbone
    obtain ⟨q, hq⟩ := exists_link hbone
    have hparent := (h.link_iff hids hs hbone q).1 hq
    cases q with
    | none => exact .inl hparent
    | some q => exact .inr ⟨q, h.parent_mem hq, hparent⟩
  · rintro (hroot | ⟨q, hq, hparent⟩)
    · exact (h.mem_iff s.id).2 (.root hs hroot)
    · exact (h.mem_iff s.id).2 (.child ((h.mem_iff q).1 hq) hs hparent)

/-- **A chain of parents is a chain of links, if it leads to a bone.** -/
theorem Hierarchy.below_iff (h : Hierarchy sources a) (hids : (sources.map BoneSource.id).Nodup)
    (hchain : Relation.TransGen (BoneSource.Under sources) s p) :
    Below a.links s.id p.id ↔ p.id ∈ a.bones.map Bone.name := by
  constructor
  · intro hbelow
    obtain ⟨x, -, hlink⟩ := Relation.TransGen.tail'_iff.1 hbelow
    exact h.parent_mem hlink
  · intro hbone
    -- a source under a bone is a bone itself, linked to it
    have hlink : ∀ s p, BoneSource.Under sources s p → p.id ∈ a.bones.map Bone.name →
        s.id ∈ a.bones.map Bone.name ∧ (s.id, some p.id) ∈ a.links := by
      rintro s p ⟨hs, -, hparent⟩ hp
      have hbone := (h.bone_iff hids hs).2 (.inr ⟨p.id, hp, hparent⟩)
      exact ⟨hbone, (h.link_iff hids hs hbone (some p.id)).2 hparent⟩
    have hboth : s.id ∈ a.bones.map Bone.name ∧ Below a.links s.id p.id := by
      induction hchain using Relation.TransGen.head_induction_on with
      | single hunder =>
        obtain ⟨hs, hl⟩ := hlink _ _ hunder hbone
        exact ⟨hs, .single hl⟩
      | head hunder _ ih =>
        obtain ⟨hs, hl⟩ := hlink _ _ hunder ih.1
        exact ⟨hs, .head hl ih.2⟩
    exact hboth.2

/-! ### The armature of an import -/

theorem build_of_ne_nil (h : sources ≠ []) :
    ∃ a, (build sources).1 = some a ∧ Hierarchy sources a := by
  cases sources with
  | nil => exact absurd rfl h
  | cons s ss =>
    obtain ⟨a, notes, hbuild, hhierarchy⟩ := build?_cons s ss
    exact ⟨a, by simp only [build, hbuild], hhierarchy⟩

end Armature

namespace ImportedScene

variable {d : Document}

/-- The bones to be made of a document. -/
def sources (d : Document) : List BoneSource :=
  (selectBones d.scene.nodes).map NodeInstance.boneSource

theorem nodup_selectBones (hids : (d.scene.nodes.map NodeInstance.id).Nodup) :
    ((selectBones d.scene.nodes).map NodeInstance.id).Nodup :=
  hids.sublist ((selectBones_spec d.scene.nodes).1.map _)

theorem nodup_sources (hids : (d.scene.nodes.map NodeInstance.id).Nodup) :
    ((sources d).map BoneSource.id).Nodup := by
  rw [sources, List.map_map]
  exact nodup_selectBones hids

theorem skeleton_of_ne_nil (h : selectBones d.scene.nodes ≠ []) :
    ∃ a, skeleton d = some a ∧ Armature.Hierarchy (sources d) a :=
  Armature.build_of_ne_nil (by simpa [sources] using h)

theorem hierarchy_of_skeleton {a : Armature} (h : skeleton d = some a) :
    Armature.Hierarchy (sources d) a := by
  have hne : selectBones d.scene.nodes ≠ [] := fun hnil => by
    rw [skeleton, hnil] at h
    cases h
  obtain ⟨a', ha', hhierarchy⟩ := skeleton_of_ne_nil hne
  rwa [Option.some.inj (h.symm.trans ha')]

theorem markDeformed_armature (s : ImportedScene) : s.markDeformed.armature = s.armature := by
  unfold markDeformed
  cases hs : s.armature with
  | none => exact hs
  | some a => rfl

theorem ofDocument_links {c : ContentRoot} {config : ImportConfig} {st : LoadState}
    {t : ImportedScene} (ht : Load.answer (ofDocument c config d) st = .ok t) :
    t.armature.map Armature.links = (skeleton d).map Armature.links := by
  obtain ⟨s, -, hprepared, ⟨-, t', hanswer, -, ht'⟩ | ⟨-, e, hanswer, -⟩⟩ :=
    ofDocument_cases c config d st
  · -- bones hang the same after the modifiers, and after the rest pose
    obtain rfl := Except.ok.inj (hanswer.symm.trans ht)
    rw [markDeformed_armature, ht'.links, hprepared.armature_eq, Option.map_map]
    refine congrArg (Option.map · (skeleton d)) (funext fun a => ?_)
    exact Armature.applyRotations_map (fun _ _ => rfl) a _
  · cases hanswer.symm.trans ht

/-- **A selected figure is a root of the armature exactly if it has no parent**, and what hangs from
it by way of selected nodes is below it exactly if the figure is a bone. It is none if it hangs from
a selection and not from a bone. -/
theorem ofDocument_skeleton (c : ContentRoot) (config : ImportConfig) (st : LoadState)
    (hids : (d.scene.nodes.map NodeInstance.id).Nodup) {f : NodeInstance}
    (hf : f ∈ d.scene.nodes) (hfigure : f.isStandaloneFigure = true) :
    ((∀ n ∈ d.scene.nodes, plainName n.id = n.id) →
      ∃ t, Load.answer (ofDocument c config d) st = .ok t) ∧
    ∀ t, Load.answer (ofDocument c config d) st = .ok t → ∃ a, t.armature = some a ∧
      ((f.id, none) ∈ a.links ↔ f.parent = none) ∧
      (f.id ∈ a.bones.map Bone.name ↔
        f.parent = none ∨ ∃ q ∈ a.bones.map Bone.name, f.parent = some ("#" ++ q)) ∧
      ∀ b : NodeInstance, Relation.TransGen (NodeInstance.Under (selectBones d.scene.nodes)) b f →
        (Below a.links b.id f.id ↔ f.id ∈ a.bones.map Bone.name) := by
  refine ⟨fun hplain => ?_, fun t ht => ?_⟩
  · obtain ⟨s, -, hprepared, ⟨-, t, hanswer, -⟩ | ⟨-, e, -, hmisses⟩⟩ :=
      ofDocument_cases c config d st
    · exact ⟨_, hanswer⟩
    · -- the import ends only with an object whose id does not stand for itself
      obtain ⟨n, hn, hname, -⟩ := hmisses.exists_node hprepared
      exact absurd (hplain n hn) hname
  · have hselected : f ∈ selectBones d.scene.nodes :=
      (selectBones_spec d.scene.nodes).2 f hf hfigure
    obtain ⟨a, ha, hhierarchy⟩ := skeleton_of_ne_nil (List.ne_nil_of_mem hselected)
    have hlinks := ofDocument_links ht
    rw [ha] at hlinks
    obtain ⟨a', ha', hlinks⟩ := Option.map_eq_some_iff.1 hlinks
    have hnames : a'.bones.map Bone.name = a.bones.map Bone.name := by
      rw [← Armature.links_map_fst, hlinks, Armature.links_map_fst]
    refine ⟨a', ha', ?_⟩
    rw [hlinks, hnames]
    have hsource : f.boneSource ∈ sources d := List.mem_map_of_mem hselected
    have hbone := hhierarchy.bone_iff (nodup_sources hids) hsource
    refine ⟨?_, hbone, fun b hchain => ?_⟩
    · constructor
      · intro hroot
        exact (hhierarchy.link_iff (nodup_sources hids) hsource
          (Armature.name_mem_of_link hroot) none).1 hroot
      · intro hnone
        exact (hhierarchy.link_iff (nodup_sources hids) hsource (hbone.2 (.inl hnone)) none).2 hnone
    · have hchain' : Relation.TransGen (BoneSource.Under (sources d)) b.boneSource f.boneSource :=
        hchain.lift NodeInstance.boneSource fun n p hunder => hunder.source
      exact hhierarchy.below_iff (nodup_sources hids) hchain'

/-- A node of this kind. -/
def plainNode (id : String) (kind : NodeKind) (parent : Option String) : NodeInstance where
  id := id
  url := ""
  name := id
  label := id
  conformTarget := none
  template := { (default : Node) with id := id }
  node := { (default : Node) with id := id, kind := kind, parent := parent }
  geometries := []

/-- A figure with a bone. -/
def figureDocument : Document :=
  { (default : Document) with
    scene := ⟨[plainNode "thigh" .bone (some "#hip"), plainNode "hip" .figure none], [], [], []⟩ }

/-- The figure is a root, and the bone is below it. -/
theorem ofDocument_skeleton_hip : ∃ t a,
    Load.answer (ofDocument default .standard figureDocument) .start = .ok t ∧
      t.armature = some a ∧ ("hip", none) ∈ a.links ∧ Below a.links "thigh" "hip" := by
  obtain ⟨hok, hskeleton⟩ := ofDocument_skeleton default .standard .start (d := figureDocument)
    (f := plainNode "hip" .figure none) (by decide) (by simp [figureDocument]) (by decide)
  obtain ⟨t, ht⟩ := hok (by decide +kernel)
  obtain ⟨a, ha, hroot, hbone, hbelow⟩ := hskeleton t ht
  have hselected : selectBones figureDocument.scene.nodes =
      [plainNode "thigh" .bone (some "#hip"), plainNode "hip" .figure none] := rfl
  have hchain : Relation.TransGen (NodeInstance.Under (selectBones figureDocument.scene.nodes))
      (plainNode "thigh" .bone (some "#hip")) (plainNode "hip" .figure none) :=
    .single ⟨by simp [hselected], by simp [hselected], rfl⟩
  exact ⟨t, a, ht, ha, hroot.2 rfl, (hbelow _ hchain).2 (hbone.2 (.inl rfl))⟩

/-- A figure in a selection. The records are written as lists of their fields where that is
shorter. -/
def selectedText : String :=
  "[[\"\"],[],[],[],[],[\x7b\"id\":\"f\",\"type\":\"figure\"\x7d],[]," ++
  "[[\x7b\"id\":\"hip\",\"url\":\"#f\",\"parent\":\"name://@selection:\"\x7d]]]"

/-- **A selected figure may be left out of the armature**, though all ids are distinct. -/
theorem exists_figure_left_out : ∃ (c : ContentRoot) (path : Path) (text : String) (d : Document)
    (st : LoadState) (t : ImportedScene), c.loadText path text .start = (.ok d, st) ∧
      Load.answer (ofDocument c .standard d) st = .ok t ∧
      (d.scene.nodes.map NodeInstance.id).Nodup ∧
      ∃ f ∈ d.scene.nodes, f.isStandaloneFigure = true ∧ ∀ a, t.armature = some a →
        (f.id, none) ∉ a.links := by
  have hload : (Load.answer ((ContentRoot.of ⟨""⟩ default).loadText ⟨""⟩ selectedText)
      .start).map (fun d => d.scene.nodes.map fun n => (n.id, n.isStandaloneFigure)) =
        .ok [("hip", true)] := by decide +kernel
  have himport : (Load.answer ((ContentRoot.of ⟨""⟩ default).loadText ⟨""⟩ selectedText >>=
      ofDocument (.of ⟨""⟩ default) .standard) .start).map
        (fun t => t.armature.map Armature.links) = .ok (some []) := by decide +kernel
  obtain ⟨d, st, t, hd, hnodes, ht, hlinks⟩ := Load.exists_of_answer_map hload himport
  obtain ⟨f, rest, hscene, hf, hrest⟩ := List.map_eq_cons_iff.1 hnodes
  obtain rfl := List.map_eq_nil_iff.1 hrest
  refine ⟨_, _, _, d, st, t, hd, ht, by simp [hscene], f, by simp [hscene],
    congrArg Prod.snd hf, ?_⟩
  intro a ha
  have hempty : a.links = [] := by simpa [ha] using hlinks
  simp [hempty]

end ImportedScene

end RiggedScene
