import RiggedScene.Proofs.Armature.Coherent
import Mathlib.Data.List.Perm.Subperm

/-!
# The hierarchy that an armature is built to

The bones are put in breadth first: the children of the first bone in a queue go in, and to the end
of the queue.

* `Connected` are the ids that hang from a root;
* `Armature.Progress` is what holds while bones are taken from the queue, and
  `Armature.Progress.step` that it still holds after taking one;
* `Armature.insertLevels?_progress` : the queue runs empty;
* `Armature.build_hierarchy` : building never fails, and makes the `Armature.Hierarchy` of the
  sources.
-/

namespace RiggedScene

/-- The ids of the sources that hang from a root: the least set that has the id of each source
without parent, and of each source whose parent reference names an id in the set. -/
inductive Connected (sources : List BoneSource) : String → Prop
  | root {s : BoneSource} (hs : s ∈ sources) (h : s.parent = none) : Connected sources s.id
  | child {s : BoneSource} {p : String} (hp : Connected sources p) (hs : s ∈ sources)
      (h : s.parent = some ("#" ++ p)) : Connected sources s.id

/-- `x` is at most `k` deeper than `y`. -/
def Within (links : List BoneLink) (k : Nat) (x y : Option String) : Prop :=
  ∃ m n, Depth links x m ∧ Depth links y n ∧ m ≤ n + k

namespace Within

variable {links links' : List BoneLink} {x y z : Option String} {j k : Nat} {name : String}

theorem mono (hsub : ∀ l ∈ links, l ∈ links') (h : Within links k x y) : Within links' k x y := by
  obtain ⟨m, n, hx, hy, hle⟩ := h
  exact ⟨m, n, hx.mono hsub, hy.mono hsub, hle⟩

theorem trans (hnodup : (links.map Prod.fst).Nodup) (h : Within links j x y)
    (h' : Within links k y z) : Within links (j + k) x z := by
  obtain ⟨m, n, hx, hy, hle⟩ := h
  obtain ⟨n', l, hy', hz, hle'⟩ := h'
  obtain rfl := hy.unique hnodup hy'
  exact ⟨m, l, hx, hz, by omega⟩

theorem of_parent (hl : (name, y) ∈ links) (h : Within links 1 y y) :
    Within links 1 (some name) y := by
  obtain ⟨m, n, hy, -, -⟩ := h
  exact ⟨m + 1, m, .under hl hy, hy, by omega⟩

/-- What is one deeper than the parent is as deep as the child. -/
theorem child (hl : (name, y) ∈ links) (h : Within links 1 x y) :
    Within links 0 x (some name) := by
  obtain ⟨m, n, hx, hy, hle⟩ := h
  exact ⟨m, n + 1, hx, .under hl hy, by omega⟩

end Within

namespace Armature

variable {a : Armature} {parent : Option String}

/-! ### Adding the children of one bone -/

/-- What `insertChildren?` makes of an armature: `ids` are new bones at the end, under `parent`. -/
structure Grown (sources : List BoneSource) (parent : Option String) (ids : List String)
    (a a' : Armature) : Prop where
  mode : a'.mode = .edit
  coherent : a'.Coherent
  links : a'.links = a.links ++ ids.map fun id => (id, parent)
  source : ∀ id ∈ ids, ∃ s ∈ sources, s.id = id ∧ s.parent = childMark parent
  complete : ∀ s ∈ sources, s.parent = childMark parent → s.id ∈ a'.bones.map Bone.name

theorem Grown.mem {sources : List BoneSource} {ids : List String} {a' : Armature} {name : String}
    (h : Grown sources parent ids a a') :
    name ∈ a'.bones.map Bone.name ↔ name ∈ a.bones.map Bone.name ∨ name ∈ ids := by
  rw [← links_map_fst, h.links, List.map_append, links_map_fst]
  simp

/-- **The children of a bone go in without an error**, each source at most once. -/
theorem insertChildren?_grown (sources : List BoneSource) (hmode : a.mode = .edit)
    (hcoherent : a.Coherent) (hparent : ∀ p, parent = some p → p ∈ a.bones.map Bone.name) :
    ∃ a' notes ids, insertChildren? parent sources a = .ok (a', notes, ids) ∧
      Grown sources parent ids a a' := by
  induction sources generalizing a with
  | nil => exact ⟨a, [], [], rfl, hmode, hcoherent, by simp, by simp, by simp⟩
  | cons s ss ih =>
    simp only [insertChildren?]
    split
    · next hs =>
      obtain ⟨hmark, habsent⟩ := hs
      have hnew : s.id ∉ a.bones.map Bone.name := by simp [← hasBone_iff, habsent]
      obtain ⟨a', notes, ids, hrest, hgrown⟩ := ih (a := (a.addBone s parent).1) hmode
        (hcoherent.addBone hnew hparent)
        fun p hp => by rw [addBone_names]; exact List.mem_append_left _ (hparent p hp)
      refine ⟨a', (a.addBone s parent).2 ++ notes, s.id :: ids, ?_, hgrown.mode, hgrown.coherent,
        ?_, ?_, ?_⟩
      · simp [insertBone?, whenEditing, hmode, hrest, bind, Except.bind, pure, Except.pure]
      · simp [hgrown.links]
      · rintro id hid
        rcases List.mem_cons.1 hid with rfl | hid
        · exact ⟨s, List.mem_cons_self, rfl, hmark⟩
        · obtain ⟨s', hs', hid⟩ := hgrown.source id hid
          exact ⟨s', List.mem_cons_of_mem _ hs', hid⟩
      · rintro s' hs' hmark'
        rcases List.mem_cons.1 hs' with rfl | hs'
        · exact hgrown.mem.2 (.inl (by simp [addBone_names]))
        · exact hgrown.complete s' hs' hmark'
    · next hs =>
      -- a source that is passed over hangs from elsewhere, or is there already
      obtain ⟨a', notes, ids, hrest, hgrown⟩ := ih hmode hcoherent hparent
      refine ⟨a', notes, ids, hrest, hgrown.mode, hgrown.coherent, hgrown.links, ?_, ?_⟩
      · rintro id hid
        obtain ⟨s', hs', hid⟩ := hgrown.source id hid
        exact ⟨s', List.mem_cons_of_mem _ hs', hid⟩
      · rintro s' hs' hmark'
        rcases List.mem_cons.1 hs' with rfl | hs'
        · refine hgrown.mem.2 (.inl (hasBone_iff.1 ?_))
          simpa [hmark'] using hs
        · exact hgrown.complete s' hs' hmark'

/-! ### Taking bones from the queue -/

/-- What holds while bones are taken from the queue: `done` are the bones whose children are in,
`queue` those that are still to come. -/
structure Progress (sources : List BoneSource) (a : Armature) (done queue : List (Option String)) :
    Prop where
  mode : a.mode = .edit
  coherent : a.Coherent
  order : none :: (a.bones.map Bone.name).map some = done ++ queue
  source : ∀ l ∈ a.links, ∃ s ∈ sources, s.id = l.1 ∧ s.parent = childMark l.2
  connected : ∀ name ∈ a.bones.map Bone.name, Connected sources name
  closed : ∀ p ∈ done, ∀ s ∈ sources, s.parent = childMark p → s.id ∈ a.bones.map Bone.name
  sorted : (done ++ queue).Pairwise (Within a.links 0)
  near : ∀ p ∈ queue.head?, ∀ x ∈ done ++ queue, Within a.links 1 x p

namespace Progress

variable {sources : List BoneSource} {done queue : List (Option String)} {a' : Armature}
  {ids : List String}

theorem init (sources : List BoneSource) (name : String) :
    Progress sources { empty name with mode := .edit } [] [none] where
  mode := rfl
  coherent := ⟨by simp [empty], by simp [empty, links], by simp [empty]⟩
  order := rfl
  source := by simp [empty, links]
  connected := by simp [empty]
  closed := by simp
  sorted := by simp
  near := by
    rintro p hp x hx
    obtain rfl : none = p := by simpa using hp
    obtain rfl : x = none := by simpa using hx
    exact ⟨0, 0, .top, .top, by omega⟩

theorem mem_iff (h : Progress sources a done queue) {name : String} :
    some name ∈ done ++ queue ↔ name ∈ a.bones.map Bone.name := by
  simp [← h.order]

theorem length_le (h : Progress sources a done queue) : a.bones.length ≤ sources.length := by
  have hsub : a.bones.map Bone.name ⊆ sources.map BoneSource.id := by
    intro name hname
    obtain ⟨p, hl⟩ := exists_link hname
    obtain ⟨s, hs, hid, -⟩ := h.source _ hl
    exact List.mem_map.2 ⟨s, hs, hid⟩
  simpa using (List.subperm_of_subset h.coherent.nodup hsub).length_le

theorem connected_of_grown {p : Option String} (h : Progress sources a done (p :: queue))
    (hgrown : Grown sources p ids a a') {id : String} (hid : id ∈ ids) :
    Connected sources id := by
  obtain ⟨s, hs, rfl, hmark⟩ := hgrown.source id hid
  cases p with
  | none => exact .root hs hmark
  | some q =>
    have hq : q ∈ a.bones.map Bone.name := h.mem_iff.1 (by simp)
    exact .child (h.connected q hq) hs hmark

theorem within_of_grown {p : Option String} (h : Progress sources a done (p :: queue))
    (hgrown : Grown sources p ids a a') :
    ∀ x ∈ (done ++ p :: queue) ++ ids.map some, Within a'.links 1 x p := by
  have hold : ∀ x ∈ done ++ p :: queue, Within a'.links 1 x p :=
    fun x hx => (h.near p rfl x hx).mono fun l hl => by simp [hgrown.links, hl]
  intro x hx
  rcases List.mem_append.1 hx with hx | hx
  · exact hold x hx
  · obtain ⟨id, hid, rfl⟩ := List.mem_map.1 hx
    exact .of_parent (by simp [hgrown.links, hid]) (hold p (by simp))

theorem sorted_of_grown {p : Option String} (h : Progress sources a done (p :: queue))
    (hgrown : Grown sources p ids a a') :
    ((done ++ p :: queue) ++ ids.map some).Pairwise (Within a'.links 0) := by
  have hnew : ∀ x ∈ (done ++ p :: queue) ++ ids.map some, ∀ id ∈ ids,
      Within a'.links 0 x (some id) := fun x hx id hid =>
    .child (by simp [hgrown.links, hid]) (h.within_of_grown hgrown x hx)
  refine List.pairwise_append.2 ⟨?_, ?_, ?_⟩
  · exact h.sorted.imp fun hxy => hxy.mono fun l hl => by simp [hgrown.links, hl]
  · refine List.pairwise_map.2 (List.pairwise_of_forall_mem_list fun id hid id' hid' => ?_)
    exact hnew _ (List.mem_append_right _ (List.mem_map_of_mem hid)) id' hid'
  · rintro x hx y hy
    obtain ⟨id, hid, rfl⟩ := List.mem_map.1 hy
    exact hnew x (List.mem_append_left _ hx) id hid

/-- **Taking one bone from the queue** and putting its children at the end. -/
theorem step {p : Option String} (h : Progress sources a done (p :: queue))
    (hgrown : Grown sources p ids a a') :
    Progress sources a' (done ++ [p]) (queue ++ ids.map some) := by
  have hnodes : (done ++ [p]) ++ (queue ++ ids.map some) = (done ++ p :: queue) ++ ids.map some :=
    by simp
  have hnames : a'.bones.map Bone.name = a.bones.map Bone.name ++ ids := by
    simp [← links_map_fst, hgrown.links, Function.comp_def]
  have hsorted := h.sorted_of_grown hgrown
  refine ⟨hgrown.mode, hgrown.coherent, ?_, ?_, ?_, ?_, hnodes ▸ hsorted, ?_⟩
  · rw [hnodes, ← h.order, hnames]
    simp
  · intro l hl
    rw [hgrown.links] at hl
    rcases List.mem_append.1 hl with hl | hl
    · exact h.source l hl
    · obtain ⟨id, hid, rfl⟩ := List.mem_map.1 hl
      exact hgrown.source id hid
  · intro name hname
    rcases hgrown.mem.1 hname with hold | hid
    · exact h.connected name hold
    · exact h.connected_of_grown hgrown hid
  · intro q hq s hs hmark
    rcases List.mem_append.1 hq with hq | hq
    · exact hgrown.mem.2 (.inl (h.closed q hq s hs hmark))
    · obtain rfl := List.mem_singleton.1 hq
      exact hgrown.complete s hs hmark
  · intro p' hp' x hx
    -- what comes next in the queue is at least as deep as what was taken from it
    have hlast : Within a'.links 0 p p' := by
      rw [List.append_assoc, List.cons_append] at hsorted
      have htail := (List.pairwise_append.1 hsorted).2.1
      exact List.rel_of_pairwise_cons htail (List.mem_of_mem_head? hp')
    exact (h.within_of_grown hgrown x (hnodes ▸ hx)).trans hgrown.coherent.links_nodup hlast

end Progress

/-- **The queue runs empty without an error.** Each bone is taken from it once, so that the number
of sources bounds how many are taken; more fuel than that makes no difference. -/
theorem insertLevels?_progress {sources : List BoneSource} (fuel : Nat) {a : Armature}
    {done queue : List (Option String)} (h : Progress sources a done queue)
    (hfuel : done.length + fuel = sources.length + 1) :
    ∃ a' notes nodes, Progress sources a' nodes [] ∧
      ∀ extra, insertLevels? sources (fuel + extra) queue a = .ok (a', notes) := by
  induction fuel generalizing a done queue with
  | zero =>
    -- all sources may be done by now, and then none is left in the queue
    have hnodes := congrArg List.length h.order
    have hle := h.length_le
    simp only [List.length_cons, List.length_map, List.length_append] at hnodes
    obtain rfl : queue = [] := List.length_eq_zero_iff.1 (by omega)
    refine ⟨a, [], done, h, fun extra => ?_⟩
    cases extra <;> rfl
  | succ fuel ih =>
    cases queue with
    | nil =>
      refine ⟨a, [], done, h, fun extra => ?_⟩
      rw [Nat.add_right_comm]
      rfl
    | cons p queue =>
      have hparent : ∀ q, p = some q → q ∈ a.bones.map Bone.name := by
        rintro q rfl
        exact h.mem_iff.1 (by simp)
      obtain ⟨a', notes, ids, hchildren, hgrown⟩ :=
        insertChildren?_grown sources h.mode h.coherent hparent
      obtain ⟨a'', notes', nodes, hend, hrest⟩ := ih (h.step hgrown) (by simp; omega)
      refine ⟨a'', notes ++ notes', nodes, hend, fun extra => ?_⟩
      rw [Nat.add_right_comm]
      simp [insertLevels?, hchildren, hrest, bind, Except.bind, pure, Except.pure]

/-! ### The armature made of a list of bones -/

/-- An armature as it should be made of `sources`. -/
structure Hierarchy (sources : List BoneSource) (a : Armature) : Prop extends a.Coherent where
  /-- The bones are those that hang from a root. -/
  mem_iff : ∀ name, name ∈ a.bones.map Bone.name ↔ Connected sources name
  /-- Each bone is that of a source, under the parent that the source names. -/
  source : ∀ b ∈ a.bones, ∃ s ∈ sources, s.id = b.name ∧ s.parent = childMark b.parent
  depth : ∀ b ∈ a.bones, ∃! n, Depth a.links (some b.name) n
  sorted : a.bones.Pairwise fun b c => ∀ m n, Depth a.links (some b.name) m →
    Depth a.links (some c.name) n → m ≤ n
  children_nodup : ∀ b ∈ a.bones, b.children.Nodup
  find : ∀ b ∈ a.bones, a.find? b.name = some b
  mode : a.mode = .object

theorem Progress.connected_iff {sources : List BoneSource} {done : List (Option String)}
    (h : Progress sources a done []) {name : String} :
    name ∈ a.bones.map Bone.name ↔ Connected sources name := by
  refine ⟨h.connected name, fun hname => ?_⟩
  have horder : none :: (a.bones.map Bone.name).map some = done := by simpa using h.order
  induction hname with
  | root hs hroot => exact h.closed none (by simp [← horder]) _ hs hroot
  | child hp hs hmark ih => exact h.closed (some _) (by simpa using h.mem_iff.2 ih) _ hs hmark

theorem Progress.hierarchy {sources : List BoneSource} {done : List (Option String)}
    (h : Progress sources a done []) :
    Hierarchy sources ({ a with mode := .object } : Armature).withPoseOrders := by
  generalize hb : ({ a with mode := .object } : Armature).withPoseOrders = b
  have hlinks : b.links = a.links := by rw [← hb, withPoseOrders_links]; rfl
  have hnames : b.bones.map Bone.name = a.bones.map Bone.name := by
    rw [← links_map_fst, hlinks, links_map_fst]
  have hcoherent : b.Coherent := by
    have hmode : ({ a with mode := .object } : Armature).Coherent :=
      ⟨h.coherent.nodup, h.coherent.parent_before, h.coherent.children⟩
    exact hb ▸ hmode.withPoseOrders
  have hnodup := hcoherent.links_nodup
  refine ⟨hcoherent, ?_, ?_, ?_, ?_, ?_, ?_, ?_⟩
  · intro name
    rw [hnames, h.connected_iff]
  · intro c hc
    exact h.source c.link (hlinks ▸ List.mem_map_of_mem hc)
  · intro c hc
    obtain ⟨n, hn⟩ := hcoherent.exists_depth (List.mem_map_of_mem hc)
    exact ⟨n, hn, fun m hm => hm.unique hnodup hn⟩
  · -- two bones in order were two nodes in order
    have hsorted : (none :: (b.bones.map Bone.name).map some).Pairwise (Within b.links 0) := by
      rw [hnames, hlinks, h.order]
      exact h.sorted
    have hbones := (List.pairwise_cons.1 hsorted).2
    rw [List.map_map, List.pairwise_map] at hbones
    refine hbones.imp fun {c d} hcd m n hm hn => ?_
    obtain ⟨m', n', hm', hn', hle⟩ := hcd
    rw [hm.unique hnodup hm', hn.unique hnodup hn']
    exact hle
  · exact fun c hc => hcoherent.children_nodup hc
  · exact fun c hc => find?_of_mem hcoherent.nodup hc
  · rw [← hb]
    rfl

theorem build?_cons (s : BoneSource) (ss : List BoneSource) :
    ∃ a notes, build? (s :: ss) = .ok (some a, notes) ∧ Hierarchy (s :: ss) a := by
  obtain ⟨a, notes, done, hend, hlevels⟩ := insertLevels?_progress ((s :: ss).length + 1)
    (Progress.init (s :: ss) ("rig-" ++ s.id)) (Nat.zero_add _)
  have hinsert : ({ empty ("rig-" ++ s.id) with mode := .edit } : Armature).insertHierarchy?
      (s :: ss) = .ok (a, notes) := hlevels 0
  refine ⟨_, notes, ?_, hend.hierarchy⟩
  simp only [build?, editing?, hinsert]
  rfl

/-- **Building an armature never fails, and makes the hierarchy of its sources.** Whatever order
the sources come in, whatever ids are repeated and whatever cycles the references to parents form,
the bones are those that hang from a root, each once, by depth and under its parent. The queue runs
empty on its own: more fuel makes no difference. -/
theorem build_hierarchy (sources : List BoneSource) :
    build? sources = .ok (build sources) ∧
      (sources = [] ∧ (build sources).1 = none ∨
        ∃ a, (build sources).1 = some a ∧ Hierarchy sources a) ∧
      ∀ name extra, insertLevels? sources (sources.length + 1 + extra) [none]
          { empty name with mode := .edit } =
        insertLevels? sources (sources.length + 1) [none] { empty name with mode := .edit } := by
  refine ⟨?_, ?_, ?_⟩
  · cases sources with
    | nil => rfl
    | cons s ss =>
      obtain ⟨a, notes, hbuild, -⟩ := build?_cons s ss
      simp only [build, hbuild]
  · cases sources with
    | nil => exact .inl ⟨rfl, rfl⟩
    | cons s ss =>
      obtain ⟨a, notes, hbuild, hhierarchy⟩ := build?_cons s ss
      exact .inr ⟨a, by simp only [build, hbuild], hhierarchy⟩
  · intro name extra
    obtain ⟨a, notes, done, -, hlevels⟩ := insertLevels?_progress (sources.length + 1)
      (Progress.init sources name) (Nat.zero_add _)
    rw [hlevels extra]
    exact (hlevels 0).symm

/-- A child before its parent, an id that comes twice, and a cycle that hangs from nothing. -/
example : ((build [⟨"thigh", "thigh", some "#hip", default⟩, ⟨"hip", "hip", none, default⟩,
    ⟨"hip", "hip", some "#thigh", default⟩, ⟨"a", "a", some "#b", default⟩,
    ⟨"b", "b", some "#a", default⟩]).1.map links) =
      some [("hip", none), ("thigh", some "hip")] := rfl

end Armature

end RiggedScene
