import RiggedScene.Proofs.Collections
import RiggedScene.Proofs.Document.Recall
import Mathlib.Data.List.Induction

/-!
# Where an instance of a node has its parts from

An instance is its template with a record on top, and the template is a plain node with another
record on top. What a record does not say shows what is below. Vectors are overlaid axis by axis,
and of the entries for an axis only the last one that has a value counts.

* `Vec3.get_overlay` : what a list of entries makes of one axis;
* `Node.Layered` : a node has each of its parts from one record, else from another one, else from a
  plain node;
* `Load.ofRecord_of_answer_bindNode` : what is bound is an instance of its record and template;
* `Load.exists_ofRecord_of_leads` : a template is a plain node with a record on top;
* `NodeInstance.layered` : so the nodes of a loaded scene are layered, and overlaying a record once
  more changes nothing.
-/

namespace RiggedScene

/-! ### Entries for one axis -/

/-- The word for an axis in an entry. -/
def Axis.word : Axis → String
  | x => "x"
  | y => "y"
  | z => "z"

namespace AxisEntry

variable {v : Vec3} {a : Axis} {e : AxisEntry} {entries : List AxisEntry}

/-- What an entry sets an axis to: nothing if it does not name the axis or has no value. -/
def valueFor? (a : Axis) (e : AxisEntry) : Option Float :=
  if e.id = some a.word then e.currentValue.or e.value else none

/-- What the last entry that sets an axis sets it to. -/
def lastFor? (a : Axis) (entries : List AxisEntry) : Option Float :=
  (entries.filterMap (valueFor? a)).getLast?

theorem axis?_eq_some_iff : e.axis? = some a ↔ e.id = some a.word := by
  obtain ⟨id, value, currentValue⟩ := e
  cases id with
  | none => simp [axis?]
  | some s =>
    cases a <;> simp only [axis?, Axis.word, Option.some.injEq] <;> split_ifs <;> simp_all

theorem lastFor?_concat :
    lastFor? a (entries ++ [e]) = (e.valueFor? a).or (lastFor? a entries) := by
  rw [lastFor?, List.filterMap_append, List.getLast?_append]
  cases h : e.valueFor? a <;> simp [h, lastFor?]

theorem get_applyTo : (applyTo v e).get a = (e.valueFor? a).getD (v.get a) := by
  unfold applyTo valueFor?
  by_cases ha : e.id = some a.word
  · rw [axis?_eq_some_iff.2 ha, if_pos ha, setting]
    cases e.currentValue.or e.value with
    | none => rfl
    | some x => exact Triple.get_set_self v a x
  · rw [if_neg ha, Option.getD_none]
    split
    · next b x hb _ =>
      refine Triple.get_set_of_ne v x fun hab => ha ?_
      exact axis?_eq_some_iff.1 (hab ▸ hb)
    · rfl

end AxisEntry

namespace Vec3

open AxisEntry

variable (v : Vec3) (entries : List AxisEntry)

/-- **The last entry that sets an axis decides**, and an axis that is not set stays. -/
theorem get_overlay (a : Axis) :
    (v.overlay entries).get a = (lastFor? a entries).getD (v.get a) := by
  induction entries using List.reverseRecOn with
  | nil => rfl
  | append_singleton entries e ih =>
    rw [overlay, List.foldl_concat, ← overlay, get_applyTo, ih, lastFor?_concat]
    cases e.valueFor? a <;> rfl

theorem overlay_overlay : (v.overlay entries).overlay entries = v.overlay entries := by
  refine Triple.ext_get fun a => ?_
  rw [get_overlay, get_overlay]
  cases lastFor? a entries <;> rfl

end Vec3

/-! ### Layers of a node -/

/-- The vectors of a node. -/
inductive NodeVector where
  | center
  | tip
  | orientation
  | rotation
  | translation
  | scale

namespace NodeVector

/-- What a record says about the vector. -/
def entries (r : NodeRecord) : NodeVector → List AxisEntry
  | center => r.center
  | tip => r.tip
  | orientation => r.orientation
  | rotation => r.rotation
  | translation => r.translation
  | scale => r.scale

/-- The vector as authored. -/
def source (n : Node) : NodeVector → Vec3
  | center => n.sourceCenter
  | tip => n.sourceTip
  | orientation => n.sourceOrientation
  | rotation => n.sourceRotation
  | translation => n.sourceTranslation
  | scale => n.sourceScale

/-- Each component of the vector of a plain node. -/
def default : NodeVector → Float
  | scale => 1.0
  | _ => 0.0

variable (p : NodeVector)

theorem source_apply (n : Node) (r : NodeRecord) :
    p.source (n.apply r) = (p.source n).overlay (p.entries r) := by
  cases p <;> rfl

theorem source_ofRecord (r : NodeRecord) :
    p.source (.ofRecord r) = Vec3.overlay (.replicate p.default) (p.entries r) := by
  cases p <;> rfl

end NodeVector

namespace Node

open AxisEntry

/-- A node has its parts from `own` where that record says something, else from `base`, else from a
plain node. -/
structure Layered (own base : NodeRecord) (n : Node) : Prop where
  vector : ∀ (p : NodeVector) (a : Axis), (p.source n).get a =
    ((lastFor? a (p.entries own)).or (lastFor? a (p.entries base))).getD p.default
  generalScale : n.generalScale = (own.generalScale.or base.generalScale).getD 1.0
  kind : n.kind = NodeKind.ofText ((own.kind.or base.kind).getD "node")
  parent : n.parent = own.parent.or base.parent
  inheritsScale : n.inheritsScale = (own.inheritsScale.or base.inheritsScale).getD true
  sourceOrder : n.sourceOrder = ((own.rotationOrder.bind RotationOrder.ofText?).or
    (base.rotationOrder.bind RotationOrder.ofText?)).getD .xyz

theorem layered_apply (own base : NodeRecord) : ((ofRecord base).apply own).Layered own base where
  vector p a := by
    have hdefault : (Triple.replicate p.default).get a = p.default := by cases a <;> rfl
    rw [p.source_apply, Vec3.get_overlay, p.source_ofRecord, Vec3.get_overlay, hdefault]
    cases lastFor? a (p.entries own) <;> rfl
  generalScale := by
    change own.generalScale.getD (base.generalScale.getD 1.0) = _
    cases own.generalScale <;> rfl
  kind := by
    change (own.kind.map NodeKind.ofText).getD ((base.kind.map NodeKind.ofText).getD .node) = _
    cases own.kind <;> cases base.kind <;> rfl
  parent := by
    change own.parent.or (base.parent.or none) = _
    rw [Option.or_none]
  inheritsScale := by
    change own.inheritsScale.getD (base.inheritsScale.getD true) = _
    cases own.inheritsScale <;> rfl
  sourceOrder := by
    change (own.rotationOrder.bind RotationOrder.ofText?).getD
      ((base.rotationOrder.bind RotationOrder.ofText?).getD .xyz) = _
    cases own.rotationOrder.bind RotationOrder.ofText? <;> rfl

/-- **A record that is on top already changes nothing.** -/
theorem apply_apply (n : Node) (r : NodeRecord) : (n.apply r).apply r = n.apply r := by
  have hparent : r.parent.or (r.parent.or n.parent) = r.parent.or n.parent := by
    rw [← Option.or_assoc, Option.or_self]
  simp only [apply, Vec3.overlay_overlay, ← Option.getD_or, Option.or_self, hparent]

end Node

/-! ### Templates -/

theorem Library.mem_of_find?_ofList {α : Type} [Identified α] {xs : List α} {id : String} {x : α}
    (h : (ofList xs).find? id = some x) : x ∈ xs := by
  have hentry : x ∈ Keyed.ofList Identified.id xs := entries_ofList xs ▸ Keyed.mem_of_find? h
  obtain ⟨before, after, rfl, -⟩ := (Keyed.LastWins.ofList xs).last x hentry
  exact List.mem_append_right before List.mem_cons_self

theorem Libraries.exists_ofRecord {r : DocumentRecord} {geometries : Library Geometry} {id : String}
    {n : Node} (h : (ofRecord r geometries).nodes.find? id = some n) :
    ∃ base ∈ r.nodes, n = .ofRecord base := by
  obtain ⟨base, hbase, rfl⟩ := List.mem_map.1 (Library.mem_of_find?_ofList h)
  exact ⟨base, hbase, rfl⟩

namespace Load

variable {c : ContentRoot} {load : Path → Load Document} {depth : Nat} {L : List String}

theorem exists_ofRecord_of_fresh {file : String} {libraries : Libraries}
    (h : fresh c (Load.file c depth) L file = .ok libraries) :
    ∃ r geometries, libraries = .ofRecord r geometries := by
  obtain ⟨-, -, d, hd, rfl⟩ := fresh_eq_ok_iff.1 h
  cases depth with
  | zero => cases hd
  | succ depth =>
    obtain ⟨bytes, t, r, -, -, -, hbound⟩ := bound_of_gives_file ⟨_, consistent_start 0, hd⟩
    obtain ⟨gs, hlibraries, -⟩ := hbound.geometries
    exact ⟨r, _, hlibraries⟩

/-- **A template is a plain node with a record on top**, wherever its reference leads. -/
theorem exists_ofRecord_of_leads {r : DocumentRecord} {geometries : Library Geometry} {url : String}
    {template : Node} (h : Leads (Consistent c (file c depth) L) c (file c depth)
      (.ofRecord r geometries) Libraries.nodes url template) :
    ∃ base, template = .ofRecord base := by
  obtain ⟨s, hs, hanswer⟩ := h
  obtain ⟨u, -, -, libraries, hlibraries, hfind⟩ := answer_find_eq_ok_iff.1 hanswer
  obtain ⟨r', geometries', rfl⟩ : ∃ r' geometries', libraries = .ofRecord r' geometries' := by
    split at hlibraries
    · rw [hs.answer_document (timeless_file depth L)] at hlibraries
      exact exists_ofRecord_of_fresh hlibraries
    · exact ⟨r, geometries, hlibraries⟩
  obtain ⟨base, -, hbase⟩ := Libraries.exists_ofRecord hfind
  exact ⟨base, hbase⟩

/-! ### Instances -/

/-- What is bound to a template is an instance of its record. -/
theorem ofRecord_of_answer_bindNode {here : Libraries} {own : NodeRecord} {s : LoadState}
    {i : NodeInstance} (h : answer (bindNode c load here own) s = .ok i) :
    ∃ geometries, i = .ofRecord own i.url i.template geometries := by
  have hgives : Gives (fun _ => True) (bindNode c load here own) i := ⟨s, trivial, h⟩
  obtain ⟨url, -, hgives⟩ := hgives.of_bind fun _ _ => trivial
  obtain ⟨template, -, hgives⟩ := hgives.of_bind fun _ _ => trivial
  obtain ⟨geometries, -, t, -, hanswer⟩ := hgives.of_bind fun _ _ => trivial
  cases hanswer
  exact ⟨geometries, rfl⟩

end Load

theorem Origin.layered_of_load {c : ContentRoot} {o : Origin} {reads : Nat} {d : Document}
    {s : LoadState} (h : o.load c ⟨reads, [], []⟩ = (.ok d, s)) :
    ∃ r, o.record? c = some r ∧ List.Forall₂ (fun own i => ∃ base geometries,
      i = .ofRecord own i.url (.ofRecord base) geometries ∧ i.node.Layered own base)
      r.scene.nodes d.scene.nodes := by
  obtain ⟨-, r, depth, hrecord, -, hbound⟩ := o.load_outcome h
  obtain ⟨gs, hlibraries, -⟩ := hbound.geometries
  refine ⟨r, hrecord, hbound.nodes.imp fun own i hi => ?_⟩
  obtain ⟨base, hbase⟩ := Load.exists_ofRecord_of_leads (hlibraries ▸ hi.template)
  have hinstance : i = .ofRecord own i.url (.ofRecord base) i.geometries := hbase ▸ hi.ofRecord
  refine ⟨base, i.geometries, hinstance, ?_⟩
  rw [hinstance]
  exact Node.layered_apply own base

/-- A document with a node and an instance of it. The instance sets one axis of the center, names
another one without a value, and has a rotation order that cannot be read. -/
def hipText : String :=
  "\x7b\"asset_info\":\x7b\"id\":\"\"\x7d,\"node_library\":[\x7b\"id\":\"hip\",\"rotation_order\":\"YZX\"," ++
    "\"center_point\":[\x7b\"id\":\"x\",\"value\":1\x7d,\x7b\"id\":\"y\",\"value\":3,\"current_value\":4\x7d]\x7d]," ++
    "\"scene\":\x7b\"nodes\":[\x7b\"id\":\"hip-1\",\"url\":\"#hip\",\"rotation_order\":\"YY\"," ++
    "\"center_point\":[\x7b\"id\":\"x\",\"value\":7\x7d,\x7b\"id\":\"y\"\x7d]\x7d]\x7d\x7d"

end RiggedScene
