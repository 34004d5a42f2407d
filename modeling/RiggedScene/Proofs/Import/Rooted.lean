import RiggedScene.Proofs.Import.Siblings
import Mathlib.Data.List.Range
import Mathlib.Logic.Relation
import Mathlib.Order.WellFounded

/-!
# Objects that hang from the armature

Objects are linked by name, and nothing keeps the links from running in circles or into nothing. A
walk along them is given up after as many links as there are objects.

* `ImportedScene.Hangs` : the links of an object lead to the armature, however long the way is;
* `ImportedScene.Walks` is one turn of the walk, with the number of links that it has seen;
* `ImportedScene.length_le_of_least` : the objects on a shortest way are distinct;
* `ImportedScene.rootedAtArmature_iff_hangs` : the walk ends and finds the armature exactly if the
  links lead there, and these objects are the ones that an import marks.
-/

namespace RiggedScene

open Load (Yields)

namespace ImportedScene

variable {c : ContentRoot} {d : Document} {config : ImportConfig} {s t : ImportedScene}
  {i j k : Nat} {w w' : Nat × Nat}

/-! ### Links -/

/-- The object `i` is linked to the object `j`, the one that the name of its link leads to. -/
def LinksTo (s : ImportedScene) (i j : Nat) : Prop :=
  ∃ o name, s.objects[i]? = some o ∧ o.parent = some (.object name) ∧ s.objectIndex? name = some j

/-- The object `i` is linked to the armature or to one of its bones. -/
def Anchored (s : ImportedScene) (i : Nat) : Prop :=
  ∃ o parent, s.objects[i]? = some o ∧ o.parent = some parent ∧ parent.isArmature = true

/-- The links of the object `i` lead to an object that is linked to the armature. -/
def Hangs (s : ImportedScene) (i : Nat) : Prop :=
  ∃ j, Relation.ReflTransGen s.LinksTo i j ∧ s.Anchored j

theorem LinksTo.lt (h : s.LinksTo i j) : i < s.objects.length := by
  obtain ⟨o, name, ho, -⟩ := h
  exact (List.getElem?_eq_some_iff.1 ho).1

theorem Anchored.lt (h : s.Anchored i) : i < s.objects.length := by
  obtain ⟨o, parent, ho, -⟩ := h
  exact (List.getElem?_eq_some_iff.1 ho).1

theorem LinksTo.unique {j' : Nat} (h : s.LinksTo i j) (h' : s.LinksTo i j') : j = j' := by
  obtain ⟨o, name, ho, hparent, hj⟩ := h
  obtain ⟨o', name', ho', hparent', hj'⟩ := h'
  obtain rfl := Option.some.inj (ho.symm.trans ho')
  obtain ⟨rfl⟩ := Option.some.inj (hparent.symm.trans hparent')
  exact Option.some.inj (hj.symm.trans hj')

theorem LinksTo.not_anchored (h : s.LinksTo i j) : ¬ s.Anchored i := by
  rintro ⟨o, parent, ho, hparent, harmature⟩
  obtain ⟨o', name, ho', hparent', -⟩ := h
  obtain rfl := Option.some.inj (ho.symm.trans ho')
  obtain rfl := Option.some.inj (hparent.symm.trans hparent')
  cases harmature

/-! ### Ways of bounded length -/

/-- Within `k` links the armature is found from the object itself, or from the one it is linked
to within one link less. -/
theorem rootedWithin_iff : s.rootedWithin k i = true ↔
    s.Anchored i ∨ ∃ k' j, k = k' + 1 ∧ s.LinksTo i j ∧ s.rootedWithin k' j = true := by
  cases ho : s.objects[i]? with
  | none =>
    unfold rootedWithin
    simp [ho, Anchored, LinksTo]
  | some o =>
    cases hparent : o.parent with
    | none =>
      unfold rootedWithin
      simp [ho, hparent, Anchored, LinksTo]
    | some parent =>
      cases parent with
      | armature | bone name =>
        unfold rootedWithin
        simp [ho, hparent, Anchored, ObjectParent.isArmature]
      | object name =>
        cases k with
        | zero =>
          unfold rootedWithin
          simp [ho, hparent, Anchored, ObjectParent.isArmature]
        | succ k =>
          conv_lhs => unfold rootedWithin
          cases hj : s.objectIndex? name <;>
            simp [ho, hparent, hj, Anchored, LinksTo, ObjectParent.isArmature]

theorem rootedWithin_mono {k' : Nat} (h : s.rootedWithin k i = true) (hk : k ≤ k') :
    s.rootedWithin k' i = true := by
  induction k generalizing i k' with
  | zero =>
    rcases rootedWithin_iff.1 h with hanchored | ⟨_, _, hzero, -⟩
    · exact rootedWithin_iff.2 (.inl hanchored)
    · cases hzero
  | succ k ih =>
    rcases rootedWithin_iff.1 h with hanchored | ⟨k₀, j, hsucc, hlink, hj⟩
    · exact rootedWithin_iff.2 (.inl hanchored)
    · obtain rfl := Nat.succ.inj hsucc
      obtain ⟨k', rfl⟩ := Nat.exists_eq_add_of_le hk
      exact rootedWithin_iff.2
        (.inr ⟨k + k', j, by omega, hlink, ih hj (Nat.le_add_right k k')⟩)

theorem hangs_iff_exists : s.Hangs i ↔ ∃ k, s.rootedWithin k i = true := by
  constructor
  · rintro ⟨j, hchain, hanchored⟩
    induction hchain using Relation.ReflTransGen.head_induction_on with
    | refl => exact ⟨0, rootedWithin_iff.2 (.inl hanchored)⟩
    | head hlink _ ih =>
      obtain ⟨k, hk⟩ := ih
      exact ⟨k + 1, rootedWithin_iff.2 (.inr ⟨k, _, rfl, hlink, hk⟩)⟩
  · rintro ⟨k, hk⟩
    induction k generalizing i with
    | zero =>
      rcases rootedWithin_iff.1 hk with hanchored | ⟨_, _, hzero, -⟩
      · exact ⟨i, .refl, hanchored⟩
      · cases hzero
    | succ k ih =>
      rcases rootedWithin_iff.1 hk with hanchored | ⟨k₀, j, hsucc, hlink, hj⟩
      · exact ⟨i, .refl, hanchored⟩
      · obtain rfl := Nat.succ.inj hsucc
        obtain ⟨j', hchain, hanchored⟩ := ih hj
        exact ⟨j', hchain.head hlink, hanchored⟩

/-- The objects of a shortest way to the armature, which are distinct: after the object `i` come
objects that are closer to the armature than it. -/
theorem exists_way (h : s.rootedWithin k i = true)
    (hleast : ∀ k' < k, s.rootedWithin k' i = false) :
    ∃ way : List Nat, way.Nodup ∧ way.length = k + 1 ∧
      ∀ j ∈ way, j < s.objects.length ∧ s.rootedWithin k j = true := by
  induction k generalizing i with
  | zero =>
    rcases rootedWithin_iff.1 h with hanchored | ⟨_, _, hzero, -⟩
    · exact ⟨[i], List.nodup_singleton i, rfl,
        fun j hj => List.mem_singleton.1 hj ▸ ⟨hanchored.lt, h⟩⟩
    · cases hzero
  | succ k ih =>
    rcases rootedWithin_iff.1 h with hanchored | ⟨k₀, j, hsucc, hlink, hj⟩
    · have hzero : s.rootedWithin 0 i = true := rootedWithin_iff.2 (.inl hanchored)
      exact absurd hzero (Bool.eq_false_iff.1 (hleast 0 (Nat.succ_pos k)))
    · obtain rfl := Nat.succ.inj hsucc
      -- a shorter way from `j` would be a shorter one from `i` too
      have hleast' : ∀ k' < k, s.rootedWithin k' j = false := by
        intro k' hk'
        refine Bool.eq_false_iff.2 fun hshort => ?_
        have hi : s.rootedWithin (k' + 1) i = true :=
          rootedWithin_iff.2 (.inr ⟨k', j, rfl, hlink, hshort⟩)
        exact absurd hi (Bool.eq_false_iff.1 (hleast (k' + 1) (by omega)))
      obtain ⟨way, hnodup, hlength, hway⟩ := ih hj hleast'
      refine ⟨i :: way, List.nodup_cons.2 ⟨fun hmem => ?_, hnodup⟩, by simp [hlength], ?_⟩
      · exact absurd (hway i hmem).2 (Bool.eq_false_iff.1 (hleast k (Nat.lt_succ_self k)))
      · refine List.forall_mem_cons.2 ⟨⟨hlink.lt, h⟩, fun j hj => ?_⟩
        exact ⟨(hway j hj).1, rootedWithin_mono (hway j hj).2 (Nat.le_succ k)⟩

/-- A shortest way has no more links than there are objects. -/
theorem length_le_of_least (h : s.rootedWithin k i = true)
    (hleast : ∀ k' < k, s.rootedWithin k' i = false) : k + 1 ≤ s.objects.length := by
  obtain ⟨way, hnodup, hlength, hway⟩ := exists_way h hleast
  have hsub : way.Subperm (List.range s.objects.length) :=
    hnodup.subperm fun j hj => List.mem_range.2 (hway j hj).1
  simpa [hlength] using hsub.length_le

/-- **The bound on the walk cuts no way to the armature off.** -/
theorem rootedAtArmature_of_hangs (h : s.Hangs i) : s.rootedAtArmature i = true := by
  have hexists := hangs_iff_exists.1 h
  have hleast := fun k' hk' => Bool.eq_false_iff.2 (Nat.find_min hexists (m := k') hk')
  have hlength := length_le_of_least (Nat.find_spec hexists) hleast
  exact rootedWithin_mono (Nat.find_spec hexists) (by omega)

/-! ### The walk -/

/-- One turn of the walk from an object, with the number of links seen: it follows the link as long
as fewer links have been seen than there are objects. -/
def Walks (s : ImportedScene) (w w' : Nat × Nat) : Prop :=
  w.2 < s.objects.length ∧ s.LinksTo w.1 w'.1 ∧ w'.2 = w.2 + 1

/-- The walk is at its end, at an armature or not. -/
def WalkEnds (s : ImportedScene) (w : Nat × Nat) : Prop := ∀ w', ¬ s.Walks w w'

/-- What the walk is going to answer. -/
def walkAnswer (s : ImportedScene) (w : Nat × Nat) : Bool :=
  s.rootedWithin (s.objects.length - w.2) w.1

theorem walks_wellFounded (s : ImportedScene) : WellFounded (Function.swap s.Walks) := by
  refine Subrelation.wf (r := InvImage (· < ·) fun w => s.objects.length - w.2) ?_
    (InvImage.wf _ Nat.lt_wfRel.wf)
  rintro w' w ⟨hlt, -, hseen⟩
  show s.objects.length - w'.2 < s.objects.length - w.2
  omega

theorem exists_walkEnds (s : ImportedScene) (w : Nat × Nat) :
    ∃ w', Relation.ReflTransGen s.Walks w w' ∧ s.WalkEnds w' := by
  induction w using s.walks_wellFounded.induction with
  | _ w ih =>
    by_cases hend : s.WalkEnds w
    · exact ⟨w, .refl, hend⟩
    · obtain ⟨w₁, hstep⟩ := not_forall_not.1 hend
      obtain ⟨w', hrun, hend'⟩ := ih w₁ hstep
      exact ⟨w', hrun.head hstep, hend'⟩

theorem Walks.answer (h : s.Walks w w') : s.walkAnswer w = s.walkAnswer w' := by
  obtain ⟨hlt, hlink, hseen⟩ := h
  obtain ⟨k, hk⟩ : ∃ k, s.objects.length - w.2 = k + 1 := ⟨s.objects.length - w.2 - 1, by omega⟩
  have hk' : s.objects.length - w'.2 = k := by omega
  unfold walkAnswer
  rw [hk, hk', Bool.eq_iff_iff, rootedWithin_iff]
  constructor
  · rintro (hanchored | ⟨k₀, j, hsucc, hj, hwithin⟩)
    · exact absurd hanchored hlink.not_anchored
    · obtain rfl := Nat.succ.inj hsucc
      rwa [← hj.unique hlink]
  · exact fun hwithin => .inr ⟨k, w'.1, rfl, hlink, hwithin⟩

theorem walkAnswer_of_reflTransGen (h : Relation.ReflTransGen s.Walks w w') :
    s.walkAnswer w = s.walkAnswer w' := by
  induction h with
  | refl => rfl
  | tail _ hstep ih => exact ih.trans hstep.answer

theorem WalkEnds.answer_iff (h : s.WalkEnds w) : s.walkAnswer w = true ↔ s.Anchored w.1 := by
  refine ⟨fun hanswer => ?_, fun hanchored => rootedWithin_iff.2 (.inl hanchored)⟩
  rcases rootedWithin_iff.1 hanswer with hanchored | ⟨k, j, hk, hlink, -⟩
  · exact hanchored
  · exact absurd ⟨by omega, hlink, rfl⟩ (h (j, w.2 + 1))

/-! ### Marks -/

theorem markDeformed_getElem? (ha : s.armature.isSome = true) (i : Nat) :
    s.markDeformed.objects[i]? = (s.objects[i]?).map fun o =>
      { o with deform := o.deform || s.rootedAtArmature i } := by
  obtain ⟨a, ha⟩ := Option.isSome_iff_exists.1 ha
  simp only [markDeformed, ha, List.getElem?_mapIdx]

/-- No object is marked yet. -/
def Unmarked (s : ImportedScene) : Prop := s.All fun o => o.deform = false

theorem stable_unmarked : SceneObject.Stable fun o => o.deform = false where
  parent _ h := h
  transform _ h := h
  mesh _ _ h := h

theorem Unmarked.addObjects (h : s.Unmarked) (n : NodeInstance) :
    Yields (addObjects c s n) Unmarked := by
  have hobject : ∀ g ∈ n.geometries, Yields (geometryObject c s.config n g) fun r =>
      r.1.deform = false := by
    intro g _
    unfold geometryObject
    dsimp only
    split
    · exact (loadMorphs_yields c s.config _ _).bind fun st _ => .pure rfl
    · exact .bind (.pure (Q := fun _ => True) trivial) fun st _ => .pure rfl
  refine .bind (.mapM hobject) fun made hmade => .pure fun o ho => ?_
  rcases List.mem_append.1 ho with ho | ho
  · rcases List.mem_append.1 ho with ho | ho
    · exact h o ho
    · obtain ⟨r, hr, rfl⟩ := List.mem_map.1 ho
      exact hmade r hr
  · split at ho
    · obtain rfl := List.mem_singleton.1 ho
      rfl
    · cases ho

theorem furnish_unmarked (c : ContentRoot) (config : ImportConfig) (d : Document) :
    Yields (furnish c config d) Unmarked := by
  have hempty : (empty config).Unmarked := fun o ho => nomatch ho
  have hobjects : Yields (d.scene.nodes.foldlM (ImportedScene.addObjects c) (empty config))
      Unmarked := .foldlM (fun s n _ h => h.addObjects n) hempty
  exact hobjects.bind fun s hs =>
    .foldlM (fun s m _ h => All.addMaterial stable_unmarked h m) hs

theorem Unmarked.placed (h : s.Unmarked) (d : Document) : (s.placed d).Unmarked := by
  have hlinked : (s.linked d).Unmarked :=
    List.foldlRecOn (motive := Unmarked) _ linkParent (All.addArmature stable_unmarked h d)
      fun s h n _ => All.linkParent stable_unmarked h n
  exact List.foldlRecOn (motive := Unmarked) _ placeObject hlinked
    fun s h n _ => All.placeObject stable_unmarked h n

theorem Unmarked.applyModifiers (h : s.Unmarked) {bones : List NodeInstance}
    {ms : List ModifierInstance} (ht : s.applyModifiers bones ms = .ok t) : t.Unmarked :=
  applyModifiers_keeps (fun _ _ _ _ hs ht => All.applyModifier stable_unmarked hs ht) h ht

theorem ofDocument_deform {st : LoadState} {o : SceneObject}
    (ht : Load.answer (ofDocument c config d) st = .ok t) (ho : t.objects[i]? = some o) :
    o.deform = true ↔ t.armature.isSome = true ∧ t.rootedAtArmature i = true := by
  obtain ⟨s, s', hs, hfold, rfl⟩ := ofDocument_passes (furnish_unmarked c config d) ht
  have hposed : ((s.placed d).poseBones (selectBones d.scene.nodes)).Unmarked :=
    All.poseBones (hs.placed d) _
  have hunmarked : s'.Unmarked := hposed.applyModifiers hfold
  have hkept : Kept s' s'.markDeformed := markDeformed_kept
  rw [rootedAtArmature_congr hkept.sameNames hkept.parents, markDeformed_armature]
  cases ha : s'.armature.isSome with
  | true =>
    rw [markDeformed_getElem? ha] at ho
    obtain ⟨o', ho', rfl⟩ := Option.map_eq_some_iff.1 ho
    simp [hunmarked o' (List.mem_of_getElem? ho')]
  | false =>
    have hnone : s'.armature = none := by simpa using ha
    rw [show s'.markDeformed = s' by simp only [markDeformed, hnone]] at ho
    simp [hunmarked o (List.mem_of_getElem? ho)]

/-- **The walk along the links ends, and it finds the armature exactly from the objects whose links
lead there.** With an armature these objects are marked, and an import marks no others. -/
theorem rootedAtArmature_iff_hangs (s : ImportedScene) :
    WellFounded (Function.swap s.Walks) ∧
    (∀ i, ∃ w, Relation.ReflTransGen s.Walks (i, 0) w ∧ s.WalkEnds w ∧
      (s.rootedAtArmature i = true ↔ s.Anchored w.1)) ∧
    (∀ i, s.rootedAtArmature i = true ↔ s.Hangs i) ∧
    (s.armature.isSome = true → ∀ i o, s.objects[i]? = some o →
      ∃ o', s.markDeformed.objects[i]? = some o' ∧
        (o'.deform = true ↔ o.deform = true ∨ s.Hangs i)) ∧
    ∀ c config d st, Load.answer (ofDocument c config d) st = .ok s →
      ∀ i o, s.objects[i]? = some o →
        (o.deform = true ↔ s.armature.isSome = true ∧ s.Hangs i) := by
  have hhangs : ∀ i, s.rootedAtArmature i = true ↔ s.Hangs i := fun i =>
    ⟨fun h => hangs_iff_exists.2 ⟨_, h⟩, rootedAtArmature_of_hangs⟩
  refine ⟨s.walks_wellFounded, fun i => ?_, hhangs, fun ha i o ho => ?_, ?_⟩
  · obtain ⟨w, hrun, hend⟩ := s.exists_walkEnds (i, 0)
    have hanswer : s.rootedAtArmature i = s.walkAnswer w := walkAnswer_of_reflTransGen hrun
    exact ⟨w, hrun, hend, by rw [hanswer, hend.answer_iff]⟩
  · refine ⟨_, by rw [markDeformed_getElem? ha, ho, Option.map_some], ?_⟩
    rw [Bool.or_eq_true, hhangs]
  · intro c config d st hs i o ho
    rw [ofDocument_deform hs ho, hhangs]

/-- A figure, a node that hangs from it by way of another, and a node that hangs from itself. -/
def danglingDocument : Document :=
  { (default : Document) with
    scene := ⟨[plainNode "hip" .figure none, plainNode "hand" .node (some "#arm"),
      plainNode "arm" .node (some "#hip"), plainNode "ring" .node (some "#ring")], [], [], []⟩ }

/-- The hand follows the armature, and the ring does not. -/
theorem rootedAtArmature_iff_hangs_hand : ∃ t : ImportedScene,
    Load.answer (ofDocument default .standard danglingDocument) .start = .ok t ∧
      t.armature.isSome = true ∧ t.Hangs 0 ∧ t.LinksTo 2 2 ∧ ¬ t.Hangs 2 ∧
      ∃ o, t.markDeformed.objects[0]? = some o ∧ o.deform = true := by
  have himport : (Load.answer (ofDocument default .standard danglingDocument) .start).map
      (fun t => (t.armature.isSome, t.objects.map fun o => (o.parent, o.deform),
        t.objectIndex? "ring")) =
        .ok (true, [(some (.object "arm"), true), (some (.bone "hip"), true),
          (some (.object "ring"), false)], some 2) := by decide +kernel
  cases ht : Load.answer (ofDocument default .standard danglingDocument) .start with
  | error e =>
    rw [ht] at himport
    cases himport
  | ok t =>
    rw [ht] at himport
    obtain ⟨ha, hobjects⟩ := Prod.mk.inj (Except.ok.inj himport)
    obtain ⟨hobjects, hring⟩ := Prod.mk.inj hobjects
    obtain ⟨-, -, -, hmarks, himported⟩ := rootedAtArmature_iff_hangs t
    have hobject : ∀ i : Nat, (t.objects[i]?).map (fun o => (o.parent, o.deform)) =
        [(some (ObjectParent.object "arm"), true), (some (.bone "hip"), true),
          (some (.object "ring"), false)][i]? := by
      intro i
      rw [← List.getElem?_map, hobjects]
    obtain ⟨hand, hhand, hhandMap⟩ := Option.map_eq_some_iff.1 (hobject 0)
    obtain ⟨ring, hringAt, hringMap⟩ := Option.map_eq_some_iff.1 (hobject 2)
    obtain ⟨-, hdeform⟩ := Prod.mk.inj hhandMap
    obtain ⟨hparent, hstill⟩ := Prod.mk.inj hringMap
    have hhangs : t.Hangs 0 :=
      ((himported _ _ _ _ ht 0 hand hhand).1 hdeform).2
    obtain ⟨o, ho, hmarked⟩ := hmarks ha 0 hand hhand
    refine ⟨t, rfl, ha, hhangs, ⟨ring, "ring", hringAt, hparent, hring⟩, fun hhangs => ?_, o, ho,
      hmarked.2 (.inl hdeform)⟩
    exact Bool.false_ne_true
      (hstill.symm.trans ((himported _ _ _ _ ht 2 ring hringAt).2 ⟨ha, hhangs⟩))

end ImportedScene

end RiggedScene
