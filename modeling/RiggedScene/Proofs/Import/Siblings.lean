import RiggedScene.Proofs.Import.Furnishing
import RiggedScene.Proofs.Import.Skeleton

/-!
# Objects of one node

An import makes an object for each geometry of a node, and then links and places objects by the ids
of their nodes. An id leads to the first object of a node at most, so that the others stay where
they are made, without a parent.

* `ImportedScene.objectsOf` are the objects of a node;
* `ImportedScene.givenParent` and `ImportedScene.givenTransform` are what the nodes of a document
  make of the link and the place of one object;
* `ImportedScene.ofDocument_siblings` : links and places of all objects, and when those of one node
  agree.
-/

namespace RiggedScene

namespace ImportedScene

variable {c : ContentRoot} {d : Document} {config : ImportConfig} {s t : ImportedScene}

/-! ### One object through the passes -/

/-- What the object `i` hangs from, once a node has been linked. -/
def relink (s : ImportedScene) (i : Nat) (parent : Option ObjectParent) (n : NodeInstance) :
    Option ObjectParent :=
  if s.objectIndex? n.id = some i then ((linkReference? n).bind s.link?).or parent else parent

/-- A figure that hangs straight from the armature, with the object `i`. -/
def leadsArmature (s : ImportedScene) (i : Nat) (n : NodeInstance) : Bool :=
  s.armature.isSome &&
    (((s.objects[i]?).bind SceneObject.parent).map ObjectParent.isArmature).getD false &&
    n.node.kind != .node

/-- A conforming descendant of the armature, with the object `i`. -/
def conforms (s : ImportedScene) (i : Nat) (n : NodeInstance) : Bool :=
  s.armature.isSome && s.rootedAtArmature i && n.conformTarget.isSome

/-- A node moves the object `i`: its id leads to the object, and it neither moves the armature
instead nor stays where it is. -/
def moves (s : ImportedScene) (i : Nat) (n : NodeInstance) : Bool :=
  decide (s.objectIndex? n.id = some i) && !s.leadsArmature i n && !s.conforms i n

/-- Where the object `i` is, once a node has been placed. -/
def movedBy (s : ImportedScene) (i : Nat) (transform : ObjectTransform) (n : NodeInstance) :
    ObjectTransform :=
  if s.moves i n then transform.place n.node else transform

theorem linkParent_getElem? (s : ImportedScene) (n : NodeInstance) (i : Nat) :
    (s.linkParent n).objects[i]? =
      (s.objects[i]?).map fun o => { o with parent := s.relink i o.parent n } := by
  unfold linkParent relink
  cases hindex : s.objectIndex? n.id with
  | none => cases (linkReference? n).bind s.link? <;> simp
  | some j =>
    cases (linkReference? n).bind s.link? with
    | none => simp
    | some parent =>
      by_cases hij : j = i
      · simp [modifyObject, hij]
      · simp [modifyObject, hij]

theorem placeObject_eq {n : NodeInstance} {i : Nat} (h : s.objectIndex? n.id = some i) :
    s.placeObject n =
      if s.leadsArmature i n then { s with armatureTransform := s.armatureTransform.place n.node }
      else if s.conforms i n then s
      else s.modifyObject i fun o => { o with transform := o.transform.place n.node } := by
  simp only [placeObject, h]
  rfl

theorem placeObject_getElem? (s : ImportedScene) (n : NodeInstance) (i : Nat) :
    (s.placeObject n).objects[i]? =
      (s.objects[i]?).map fun o => { o with transform := s.movedBy i o.transform n } := by
  cases hindex : s.objectIndex? n.id with
  | none => simp [placeObject, movedBy, moves, hindex]
  | some j =>
    rw [placeObject_eq hindex]
    unfold movedBy moves
    by_cases hij : j = i
    · subst hij
      cases hleads : s.leadsArmature j n with
      | true => simp
      | false =>
        cases hconforms : s.conforms j n with
        | true => simp
        | false => simp [hindex, modifyObject]
    · cases s.leadsArmature j n <;> cases s.conforms j n <;> simp [hindex, hij, modifyObject]

/-- A run of passes that change each object by itself. What a pass does to an object may rest on
names, therefore the invariant. -/
theorem foldl_getElem? {P : ImportedScene → Prop} {f : ImportedScene → NodeInstance → ImportedScene}
    {g : SceneObject → NodeInstance → SceneObject} {i : Nat}
    (hf : ∀ s n, P s → P (f s n) ∧ (f s n).objects[i]? = (s.objects[i]?).map fun o => g o n)
    (hs : P s) (ns : List NodeInstance) :
    (ns.foldl f s).objects[i]? = (s.objects[i]?).map fun o => ns.foldl g o := by
  induction ns generalizing s with
  | nil => simp
  | cons n ns ih =>
    obtain ⟨hP, hn⟩ := hf s n hs
    rw [List.foldl_cons, ih hP, hn, Option.map_map]
    rfl

/-! ### What the nodes of a document give -/

/-- What the nodes of a document hang the object `i` from. -/
def givenParent (t : ImportedScene) (d : Document) (i : Nat) : Option ObjectParent :=
  (places d).foldl (t.relink i)
    (if t.armature.isSome ∧ firstFigureObject? 0 d.scene.nodes = some i then some .armature
      else none)

/-- Where the nodes of a document place the object `i`. -/
def givenTransform (t : ImportedScene) (d : Document) (i : Nat) (start : ObjectTransform) :
    ObjectTransform := (places d).foldl (t.movedBy i) start

theorem relink_congr (h : SameNames s t) (i : Nat) : s.relink i = t.relink i := by
  have hlink : s.link? = t.link? := funext fun reference => (h.link? reference).symm
  funext parent n
  rw [relink, relink, ← h.objectIndex?, hlink]

theorem movedBy_congr (h : SameNames s t)
    (hparents : t.objects.map SceneObject.parent = s.objects.map SceneObject.parent) (i : Nat) :
    s.movedBy i = t.movedBy i := by
  have hparent : (s.objects[i]?).bind SceneObject.parent =
      (t.objects[i]?).bind SceneObject.parent := by
    simpa [Option.bind_map] using congrArg (fun ps => (ps[i]?).bind id) hparents.symm
  funext transform n
  simp only [movedBy, moves, leadsArmature, conforms, h.objectIndex?, h.armature_isSome, hparent,
    rootedAtArmature_congr h hparents]

theorem Settled.sameNames (h : Settled s t) (harmature : t.armature = s.armature) :
    SameNames s t :=
  ⟨h.extended.keys, by rw [boneLabels?, boneLabels?, harmature]⟩

theorem linkParent_sameNames (s : ImportedScene) (n : NodeInstance) :
    SameNames s (s.linkParent n) := (linkParent_settled s n).sameNames (linkParent_armature s n)

theorem placeObject_sameNames (s : ImportedScene) (n : NodeInstance) :
    SameNames s (s.placeObject n) := (placeObject_settled s n).sameNames (placeObject_armature s n)

theorem placeObject_parents (s : ImportedScene) (n : NodeInstance) :
    (s.placeObject n).objects.map SceneObject.parent = s.objects.map SceneObject.parent := by
  refine List.ext_getElem? fun i => ?_
  rw [List.getElem?_map, List.getElem?_map, placeObject_getElem?, Option.map_map]
  rfl

theorem addArmature_getElem? (s : ImportedScene) (d : Document) (i : Nat) :
    (s.addArmature d).objects[i]? = (s.objects[i]?).map fun o =>
      { o with parent := if (s.addArmature d).armature.isSome ∧
        firstFigureObject? 0 d.scene.nodes = some i then some .armature else o.parent } := by
  rw [addArmature_armature, skeleton]
  unfold addArmature
  dsimp only
  cases (Armature.build ((selectBones d.scene.nodes).map NodeInstance.boneSource)).1 with
  | none => simp [noting]
  | some a =>
    cases firstFigureObject? 0 d.scene.nodes with
    | none => simp [noting]
    | some j =>
      by_cases hij : j = i
      · simp [noting, modifyObject, hij]
      · simp [noting, modifyObject, hij]

theorem linked_sameNames (s : ImportedScene) (d : Document) :
    SameNames (s.addArmature d) (s.linked d) :=
  List.foldlRecOn _ linkParent ((Settled.refl _).sameNames rfl)
    fun s' h n _ => h.trans (linkParent_sameNames s' n)

theorem placed_sameNames (s : ImportedScene) (d : Document) :
    SameNames (s.linked d) (s.placed d) :=
  List.foldlRecOn _ placeObject ((Settled.refl _).sameNames rfl)
    fun s' h n _ => h.trans (placeObject_sameNames s' n)

theorem placed_parents (s : ImportedScene) (d : Document) :
    (s.placed d).objects.map SceneObject.parent = (s.linked d).objects.map SceneObject.parent :=
  List.foldlRecOn (motive := fun s' : ImportedScene =>
    s'.objects.map SceneObject.parent = (s.linked d).objects.map SceneObject.parent) _ placeObject
    rfl fun s' h n _ => (placeObject_parents s' n).trans h

theorem Kept.parents (h : Kept s t) :
    t.objects.map SceneObject.parent = s.objects.map SceneObject.parent := by
  simpa [Function.comp_def, SceneObject.unmodified] using
    congrArg (List.map SceneObject.parent) h.objects

/-! ### What becomes of one object -/

theorem foldl_parent (r : Option ObjectParent → NodeInstance → Option ObjectParent)
    (ns : List NodeInstance) (o : SceneObject) :
    ns.foldl (fun o n => { o with parent := r o.parent n }) o =
      { o with parent := ns.foldl r o.parent } := by
  induction ns generalizing o with
  | nil => rfl
  | cons n ns ih => exact ih { o with parent := r o.parent n }

theorem foldl_transform (r : ObjectTransform → NodeInstance → ObjectTransform)
    (ns : List NodeInstance) (o : SceneObject) :
    ns.foldl (fun o n => { o with transform := r o.transform n }) o =
      { o with transform := ns.foldl r o.transform } := by
  induction ns generalizing o with
  | nil => rfl
  | cons n ns ih => exact ih { o with transform := r o.transform n }

theorem linked_getElem? (h : SameNames (s.linked d) t) (i : Nat) :
    (s.linked d).objects[i]? = ((s.addArmature d).objects[i]?).map fun o =>
      { o with parent := (places d).foldl (t.relink i) o.parent } := by
  simp only [← foldl_parent]
  refine foldl_getElem? (P := fun s => SameNames s t) (fun s n hs => ⟨?_, ?_⟩)
    ((linked_sameNames s d).trans h) _
  · exact (linkParent_sameNames s n).symm.trans hs
  · rw [linkParent_getElem?, relink_congr hs]

theorem placed_getElem? (h : SameNames (s.placed d) t)
    (hparents : t.objects.map SceneObject.parent = (s.placed d).objects.map SceneObject.parent)
    (i : Nat) : (s.placed d).objects[i]? = ((s.linked d).objects[i]?).map fun o =>
      { o with transform := (places d).foldl (t.movedBy i) o.transform } := by
  simp only [← foldl_transform]
  refine foldl_getElem? (P := fun s => SameNames s t ∧
    t.objects.map SceneObject.parent = s.objects.map SceneObject.parent)
    (fun s n hs => ⟨⟨?_, ?_⟩, ?_⟩) ⟨(placed_sameNames s d).trans h, ?_⟩ _
  · exact (placeObject_sameNames s n).symm.trans hs.1
  · exact hs.2.trans (placeObject_parents s n).symm
  · rw [placeObject_getElem?, movedBy_congr hs.1 hs.2]
  · exact hparents.trans (placed_parents s d)

theorem Furnishing.parent_eq_none (h : Furnishing d s) {o : SceneObject} (ho : o ∈ s.objects) :
    o.parent = none := by
  have hseed : o.seed ∈ d.scene.nodes.flatMap NodeInstance.seeds :=
    h.objects ▸ List.mem_map_of_mem ho
  obtain ⟨n, -, hn⟩ := List.mem_flatMap.1 hseed
  exact congrArg Prod.fst (NodeInstance.of_mem_seeds hn).2

/-- **Each object ends up with the link and the place that the nodes give it**, by what their names
lead to in the end. -/
theorem Furnishing.given (h : Furnishing d s) (hkept : Kept (s.placed d) t) {i : Nat}
    {o : SceneObject} (ho : t.objects[i]? = some o) :
    ∃ o₀, s.objects[i]? = some o₀ ∧ o.parent = t.givenParent d i ∧
      o.transform = t.givenTransform d i o₀.transform := by
  have hnames := hkept.sameNames
  have hplaced := placed_getElem? hnames hkept.parents i
  rw [linked_getElem? ((placed_sameNames s d).trans hnames), addArmature_getElem?, Option.map_map,
    Option.map_map] at hplaced
  have harmature : t.armature.isSome = (s.addArmature d).armature.isSome :=
    ((linked_sameNames s d).trans ((placed_sameNames s d).trans hnames)).armature_isSome
  have hlast := congrArg (·[i]?) hkept.objects
  simp only [List.getElem?_map, hplaced, ho, Option.map_map, Option.map_some] at hlast
  obtain ⟨o₀, ho₀, hlast⟩ := Option.map_eq_some_iff.1 hlast.symm
  have hparent : o₀.parent = none := h.parent_eq_none (List.mem_of_getElem? ho₀)
  refine ⟨o₀, ho₀, ?_, ?_⟩
  · have hgiven := congrArg SceneObject.parent hlast
    simpa [SceneObject.unmodified, givenParent, harmature, hparent] using hgiven.symm
  · have hgiven := congrArg SceneObject.transform hlast
    simpa [SceneObject.unmodified, givenTransform] using hgiven.symm

/-! ### The objects of one node -/

/-- The objects of a node that comes after others. -/
def objectsOf (t : ImportedScene) (before : List NodeInstance) (n : NodeInstance) :
    List SceneObject := (t.objects.drop (before.map objectCount).sum).take (objectCount n)

section Node

variable {before after : List NodeInstance} {n : NodeInstance} {k : Nat} {o : SceneObject}

theorem length_flatMap_seeds (ns : List NodeInstance) :
    (ns.flatMap NodeInstance.seeds).length = (ns.map objectCount).sum := by
  simp [List.length_flatMap, NodeInstance.length_seeds]

theorem take_drop_seeds (before after : List NodeInstance) (n : NodeInstance) :
    (((before ++ n :: after).flatMap NodeInstance.seeds).drop (before.map objectCount).sum).take
      (objectCount n) = n.seeds := by
  rw [List.flatMap_append, List.flatMap_cons, List.drop_left' (length_flatMap_seeds before),
    List.take_left' n.length_seeds]

theorem objectsOf_getElem? (h : (t.objectsOf before n)[k]? = some o) :
    k < objectCount n ∧ t.objects[(before.map objectCount).sum + k]? = some o := by
  rw [objectsOf, List.getElem?_take] at h
  split at h
  · next hk => exact ⟨hk, by rwa [List.getElem?_drop] at h⟩
  · cases h

theorem le_of_firstFigureObject? {ns : List NodeInstance} {b i : Nat}
    (h : firstFigureObject? b ns = some i) : b ≤ i := by
  induction ns generalizing b with
  | nil => cases h
  | cons n ns ih =>
    unfold firstFigureObject? at h
    split at h
    · exact (Option.some.inj h).le
    · exact (Nat.le_add_right b _).trans (ih h)

/-- The object that is hung from the armature is the first one of its node. -/
theorem firstFigureObject?_ne (before after : List NodeInstance) (hk : 0 < k)
    (hkn : k < objectCount n) (b : Nat) :
    firstFigureObject? b (before ++ n :: after) ≠
      some (b + ((before.map objectCount).sum + k)) := by
  intro h
  induction before generalizing b with
  | nil =>
    rw [List.nil_append, firstFigureObject?] at h
    split at h
    · have hfirst := Option.some.inj h
      omega
    · -- a later node has its objects behind those of `n`
      have hlater : b + objectCount n ≤ b + (0 + k) := le_of_firstFigureObject? h
      omega
  | cons m before ih =>
    rw [List.cons_append, firstFigureObject?] at h
    split at h
    · have hfirst := Option.some.inj h
      omega
    · refine ih (b + objectCount m) (h.trans ?_)
      rw [List.map_cons, List.sum_cons]
      congr 1
      omega

theorem objectIndex?_ne {i j : Nat} (hij : i < j)
    (hsame : (t.objects[j]?).map SceneObject.name = (t.objects[i]?).map SceneObject.name)
    (name : String) : t.objectIndex? name ≠ some j := by
  intro h
  obtain ⟨hname, hbefore⟩ := objectIndex?_eq_some_iff.1 h
  obtain ⟨o, ho, hname⟩ := Option.map_eq_some_iff.1 (hsame.symm.trans hname)
  have hmem : o ∈ t.objects.take j := List.mem_of_getElem? (by rwa [List.getElem?_take_of_lt hij])
  exact hbefore (List.mem_map.2 ⟨o, hmem, hname⟩)

/-- An object that no name leads to gets no link, unless it is hung from the armature. -/
theorem givenParent_of_ne {i : Nat} (hname : ∀ name, t.objectIndex? name ≠ some i)
    (hfigure : firstFigureObject? 0 d.scene.nodes ≠ some i) : t.givenParent d i = none := by
  rw [givenParent, if_neg fun h => hfigure h.2]
  exact List.foldl_fixed' (fun n => if_neg (hname n.id)) _

theorem givenTransform_of_ne {i : Nat} (hname : ∀ name, t.objectIndex? name ≠ some i)
    (start : ObjectTransform) : t.givenTransform d i start = start :=
  List.foldl_fixed' (fun n => if_neg (by simp [moves, hname])) _

variable {st : LoadState}

theorem ofDocument_objectsOf (ht : Load.answer (ofDocument c config d) st = .ok t)
    (hnodes : d.scene.nodes = before ++ n :: after) :
    (t.objectsOf before n).map SceneObject.key = n.meshNames.map fun mesh => (n.id, mesh) := by
  rw [objectsOf, List.map_take, List.map_drop, ofDocument_keys ht, ← List.map_drop, ← List.map_take,
    hnodes, take_drop_seeds, NodeInstance.seeds, List.map_map]
  rfl

theorem Furnishing.start (h : Furnishing d s) (hnodes : d.scene.nodes = before ++ n :: after)
    (hk : k < objectCount n) (ho : s.objects[(before.map objectCount).sum + k]? = some o) :
    o.transform = n.startTransform := by
  have hseeds := take_drop_seeds before after n
  rw [← hnodes, ← h.objects] at hseeds
  have hseed : o.seed ∈ n.seeds := by
    rw [← hseeds]
    refine List.mem_of_getElem? (i := k) ?_
    rw [List.getElem?_take_of_lt hk, List.getElem?_drop, List.getElem?_map, ho, Option.map_some]
  exact congrArg Prod.snd (NodeInstance.of_mem_seeds hseed).2

/-- The links and places of the objects of a node. -/
theorem ofDocument_given (ht : Load.answer (ofDocument c config d) st = .ok t)
    (hnodes : d.scene.nodes = before ++ n :: after) (ho : (t.objectsOf before n)[k]? = some o) :
    o.parent = t.givenParent d ((before.map objectCount).sum + k) ∧
      o.transform = t.givenTransform d ((before.map objectCount).sum + k) n.startTransform := by
  obtain ⟨hk, ho⟩ := objectsOf_getElem? ho
  obtain ⟨s, hs, hkept⟩ := ofDocument_kept ht
  obtain ⟨o₀, ho₀, hparent, htransform⟩ := hs.given hkept ho
  exact ⟨hparent, hs.start hnodes hk ho₀ ▸ htransform⟩

/-- All objects of a node but the first one stay where they are made, without a parent. -/
theorem ofDocument_unreached (ht : Load.answer (ofDocument c config d) st = .ok t)
    (hnodes : d.scene.nodes = before ++ n :: after) {first : SceneObject}
    {others : List SceneObject} (hmine : t.objectsOf before n = first :: others)
    (ho : o ∈ others) : o.parent = none ∧ o.transform = n.startTransform := by
  obtain ⟨k, hk⟩ := List.getElem?_of_mem ho
  have hlater : (t.objectsOf before n)[k + 1]? = some o := by
    rw [hmine, List.getElem?_cons_succ, hk]
  have hfirst : (t.objectsOf before n)[0]? = some first := by rw [hmine, List.getElem?_cons_zero]
  obtain ⟨hcount, hlaterAt⟩ := objectsOf_getElem? hlater
  obtain ⟨-, hfirstAt⟩ := objectsOf_getElem? hfirst
  have hname : ∀ o ∈ t.objectsOf before n, o.name = n.id := by
    intro o ho
    obtain ⟨mesh, -, hmesh⟩ := List.mem_map.1
      (ofDocument_objectsOf ht hnodes ▸ List.mem_map_of_mem ho)
    exact congrArg Prod.fst hmesh.symm
  -- the id of the node leads to its first object, or to one before
  have hfound : ∀ name, t.objectIndex? name ≠ some ((before.map objectCount).sum + (k + 1)) := by
    refine objectIndex?_ne (i := (before.map objectCount).sum + 0) (by omega) ?_
    rw [hlaterAt, hfirstAt, Option.map_some, Option.map_some,
      hname o (List.mem_of_getElem? hlater), hname first (List.mem_of_getElem? hfirst)]
  have hfigure : firstFigureObject? 0 d.scene.nodes ≠
      some ((before.map objectCount).sum + (k + 1)) := by
    have hne := firstFigureObject?_ne before after (Nat.succ_pos k) hcount 0
    rwa [Nat.zero_add, ← hnodes] at hne
  obtain ⟨hparent, htransform⟩ := ofDocument_given ht hnodes hlater
  exact ⟨hparent.trans (givenParent_of_ne hfound hfigure),
    htransform.trans (givenTransform_of_ne hfound _)⟩

end Node

/-- **The objects of a node agree exactly if there is one of them, or if the first one stays where
it is made, without a parent.** The first one has the link and the place that the nodes give to it,
and the others stay where they are made, without a parent. -/
theorem ofDocument_siblings (c : ContentRoot) (config : ImportConfig) (d : Document)
    (st : LoadState) :
    ((∀ n ∈ d.scene.nodes, plainName n.id = n.id) →
      ∃ t, Load.answer (ofDocument c config d) st = .ok t) ∧
    ∀ t, Load.answer (ofDocument c config d) st = .ok t →
      ∀ before n after, d.scene.nodes = before ++ n :: after →
        (t.objectsOf before n).map SceneObject.key = n.meshNames.map (fun mesh => (n.id, mesh)) ∧
        ∀ first others, t.objectsOf before n = first :: others →
          first.parent = t.givenParent d (before.map objectCount).sum ∧
          first.transform =
            t.givenTransform d (before.map objectCount).sum n.startTransform ∧
          (∀ o ∈ others, o.parent = none ∧ o.transform = n.startTransform) ∧
          ((∀ o ∈ others, o.parent = first.parent ∧ o.transform = first.transform) ↔
            others = [] ∨ first.parent = none ∧ first.transform = n.startTransform) := by
  refine ⟨exists_ofDocument c config st, fun t ht before n after hnodes => ?_⟩
  refine ⟨ofDocument_objectsOf ht hnodes, fun first others hmine => ?_⟩
  have hfirst : (t.objectsOf before n)[0]? = some first := by rw [hmine, List.getElem?_cons_zero]
  obtain ⟨hparent, htransform⟩ := ofDocument_given ht hnodes hfirst
  have hothers : ∀ o ∈ others, o.parent = none ∧ o.transform = n.startTransform :=
    fun o ho => ofDocument_unreached ht hnodes hmine ho
  refine ⟨hparent, htransform, hothers, ?_⟩
  constructor
  · intro hagree
    cases others with
    | nil => exact .inl rfl
    | cons o others =>
      obtain ⟨hno, hstart⟩ := hothers o List.mem_cons_self
      obtain ⟨hsameParent, hsameTransform⟩ := hagree o List.mem_cons_self
      exact .inr ⟨hsameParent.symm.trans hno, hsameTransform.symm.trans hstart⟩
  · rintro (rfl | ⟨hno, hstart⟩) o ho
    · cases ho
    · rw [hno, hstart]
      exact hothers o ho

/-- A node with two meshes that is moved. -/
def shiftedArm : NodeInstance :=
  let arm := plainNode "arm" .node none
  let shape (id : String) : GeometryInstance := { (default : GeometryInstance) with id := id }
  { arm with
    node := { arm.node with sourceTranslation := ⟨100.0, 0.0, 0.0⟩ }
    geometries := [shape "upper", shape "lower"] }

/-- The second object of the node stays where it is made. -/
theorem ofDocument_siblings_arm : ∃ t first other,
    Load.answer (ofDocument default .standard
      { (default : Document) with scene := ⟨[shiftedArm], [], [], []⟩ }) .start = .ok t ∧
      t.objectsOf [] shiftedArm = [first, other] ∧ other.name = "arm" ∧ other.parent = none ∧
      other.transform = shiftedArm.startTransform := by
  obtain ⟨hok, hsiblings⟩ := ofDocument_siblings default .standard
    { (default : Document) with scene := ⟨[shiftedArm], [], [], []⟩ } .start
  obtain ⟨t, ht⟩ := hok (by decide +kernel)
  obtain ⟨hkeys, hmine⟩ := hsiblings t ht [] shiftedArm [] rfl
  obtain ⟨first, others, hfirst, -, hothers⟩ := List.map_eq_cons_iff.1 hkeys
  obtain ⟨other, rest, hother, hkey, hrest⟩ := List.map_eq_cons_iff.1 hothers
  obtain rfl := List.map_eq_nil_iff.1 hrest
  subst hother
  obtain ⟨-, -, hstart, -⟩ := hmine first [other] hfirst
  obtain ⟨hparent, htransform⟩ := hstart other List.mem_cons_self
  exact ⟨t, first, other, ht, hfirst, congrArg Prod.fst hkey, hparent, htransform⟩

/-- A node with two meshes that is moved and hangs from another node. The records are written as
lists of their fields where that is shorter. -/
def pairedText : String :=
  "[[\"\"],[],[[\"g\"]],[],[],[[\"n\"]],[]," ++
  "[[\x7b\"id\":\"root\",\"url\":\"#n\"\x7d,\x7b\"id\":\"arm\",\"url\":\"#n\"," ++
  "\"parent\":\"#root\",\"translation\":[[\"x\",100]]," ++
  "\"geometries\":[[\"#g\",\"upper\"],[\"#g\",\"lower\"]]\x7d]]]"

/-- **The objects of a node may end up with different links and places.** -/
theorem exists_siblings_apart : ∃ (c : ContentRoot) (path : Path) (text : String) (d : Document)
    (st : LoadState) (t : ImportedScene), c.loadText path text .start = (.ok d, st) ∧
      Load.answer (ofDocument c .standard d) st = .ok t ∧
      ∃ before n after, d.scene.nodes = before ++ n :: after ∧
        ∃ o o', t.objectsOf before n = [o, o'] ∧ o.parent ≠ o'.parent ∧
          o.transform ≠ o'.transform := by
  have hload : (Load.answer ((ContentRoot.of ⟨""⟩ default).loadText ⟨""⟩ pairedText)
      .start).map (fun d => d.scene.nodes.map objectCount) = .ok [1, 2] := by decide +kernel
  have himport : (Load.answer ((ContentRoot.of ⟨""⟩ default).loadText ⟨""⟩ pairedText >>=
      ofDocument (.of ⟨""⟩ default) .standard) .start).map (fun t =>
        t.objects.map fun o => (o.parent, o.transform.location.x)) =
          .ok [(none, 0.0), (some (.object "root"), 1.0), (none, 0.0)] := by decide +kernel
  obtain ⟨d, st, t, hd, hcounts, ht, hobjects⟩ := Load.exists_of_answer_map hload himport
  obtain ⟨root, rest, hnodes, hroot, hrest⟩ := List.map_eq_cons_iff.1 hcounts
  obtain ⟨arm, after, rfl, harm, -⟩ := List.map_eq_cons_iff.1 hrest
  have hmine : (t.objectsOf [root] arm).map (fun o => (o.parent, o.transform.location.x)) =
      [(some (.object "root"), 1.0), (none, 0.0)] := by
    rw [objectsOf, List.map_take, List.map_drop, hobjects, harm]
    simp [hroot]
  obtain ⟨o, others, hcons, ho, hothers⟩ := List.map_eq_cons_iff.1 hmine
  obtain ⟨o', rest, rfl, ho', hrest⟩ := List.map_eq_cons_iff.1 hothers
  obtain rfl := List.map_eq_nil_iff.1 hrest
  obtain ⟨hparent, hx⟩ := Prod.mk.inj ho
  obtain ⟨hparent', hx'⟩ := Prod.mk.inj ho'
  refine ⟨_, _, _, d, st, t, hd, ht, [root], arm, after, hnodes, o, o', hcons, ?_, ?_⟩
  · simp [hparent, hparent']
  · intro hsame
    have hzero : (1.0 : Float) = 0.0 := hx.symm.trans ((congrArg (·.location.x) hsame).trans hx')
    exact absurd hzero (by decide +kernel)

end ImportedScene

end RiggedScene
