import RiggedScene.Proofs.Document.Nesting

/-!
# Asking a loaded document

A loaded document is asked for assets by reference. Files that it needs for an answer are remembered,
and what is remembered grows with the questions; the answers do not show it.

* `AssetKind` and `Query` : what a document can be asked for;
* `Load.fresh_file_eq` : the answers for files are those of any load that goes deep enough;
* `Origin.load_outcome` : what is known of a document when its load ends;
* `ContentRoot.Holds` says what a question asks for, without a word about what is remembered, and
  `ContentRoot.answer_ask_eq_ok_iff` that this is its answer;
* `ContentRoot.ask_recall` : a question has one answer, whatever was asked before, and it is the
  answer that was bound while the document was loaded.
-/

namespace RiggedScene

/-- The kinds of assets that a document can be asked for. -/
inductive AssetKind where
  | uvSet
  | geometry
  | material
  | image
  | node
  | modifier
  deriving Repr, DecidableEq

namespace AssetKind

/-- The assets of a kind. -/
def Asset : AssetKind → Type
  | uvSet => UvSet
  | geometry => Geometry
  | material => Material
  | image => Image
  | node => Node
  | modifier => Modifier

instance : (kind : AssetKind) → Identified kind.Asset
  | uvSet => inferInstanceAs (Identified UvSet)
  | geometry => inferInstanceAs (Identified Geometry)
  | material => inferInstanceAs (Identified Material)
  | image => inferInstanceAs (Identified Image)
  | node => inferInstanceAs (Identified Node)
  | modifier => inferInstanceAs (Identified Modifier)

/-- The library that holds the assets of a kind. -/
def library : (kind : AssetKind) → Libraries → Library kind.Asset
  | uvSet => Libraries.uvSets
  | geometry => Libraries.geometries
  | material => Libraries.materials
  | image => Libraries.images
  | node => Libraries.nodes
  | modifier => Libraries.modifiers

end AssetKind

/-- A question to a document: a kind and a reference. -/
structure Query where
  kind : AssetKind
  url : String

/-- Where a document comes from: a file, or a text that stands for one. -/
inductive Origin where
  | file (path : Path)
  | text (path : Path) (text : String)

namespace Origin

/-- The path of the document. -/
def path : Origin → Path
  | file path => path
  | text path _ => path

/-- Loads the document. -/
def load (c : ContentRoot) : Origin → Load Document
  | file path => c.load path
  | text path t => c.loadText path t

/-- The document as it is written. -/
def record? (c : ContentRoot) : Origin → Option DocumentRecord
  | file path =>
    match c.source.read path with
    | .error _ => none
    | .ok bytes =>
      match decodeText bytes with
      | .error _ => none
      | .ok t => DocumentRecord.parse? t
  | text _ t => DocumentRecord.parse? t

end Origin

namespace ContentRoot

variable (c : ContentRoot) (d : Document)

/-- Asks a loaded document. -/
def ask (q : Query) : Load q.kind.Asset := c.find d q.kind.library q.url

/-- The state after some questions. -/
def afterQueries (queries : List Query) (s : LoadState) : LoadState :=
  queries.foldl (fun s q => Load.after (c.ask d q) s) s

/-- The libraries of a file that is loaded for them alone. -/
def Opens (file : String) (libraries : Libraries) : Prop :=
  c.source.isDir c.directory = true ∧ ∃ d,
    Load.answer (c.load (c.filePath file)) ⟨0, [file], []⟩ = .ok d ∧ d.libraries = libraries

/-- The asset that a question asks for: it is one of the document or, if the reference has a file
path, of the file. -/
def Holds (q : Query) (x : q.kind.Asset) : Prop :=
  ∃ u, Reference.parse? q.url = some u ∧ u.hasAsset = true ∧ ∃ libraries,
    (if u.isExternal then c.Opens u.filePath libraries else libraries = d.libraries) ∧
      (q.kind.library libraries).find? u.assetId = some x

/-- The answers in the state `t` for all references that were followed while the document was
loaded: they stand in the places of the document. -/
structure Recalls (path : Path) (r : DocumentRecord) (t : LoadState) : Prop where
  geometries : ∃ gs, d.libraries = .ofRecord r (.ofList gs) ∧ List.Forall₂ (fun own g =>
    g = .ofRecord own path g.defaultUvSet ∧
      own.defaultUvSet.map (fun url => Load.answer (c.ask d ⟨.uvSet, url⟩) t) =
        g.defaultUvSet.map .ok) r.geometries gs
  nodes : List.Forall₂ (fun own i => own.url = some i.url ∧
    i = .ofRecord own i.url i.template i.geometries ∧
      Load.answer (c.ask d ⟨.node, i.url⟩) t = .ok i.template ∧
        List.Forall₂ (fun link g => g.url = link.url ∧
          Load.answer (c.ask d ⟨.geometry, g.url⟩) t = .ok g.geometry) own.geometries i.geometries)
    r.scene.nodes d.scene.nodes
  materials : List.Forall₂ (fun own m => own.url = some m.url ∧ ∃ template,
    Load.answer (c.ask d ⟨.material, m.url⟩) t = .ok template ∧ m.material = template.update own)
    r.scene.materials d.scene.materials
  modifiers : List.Forall₂ (fun own m => own.url = some m.url ∧
    Load.answer (c.ask d ⟨.modifier, m.url⟩) t = .ok m.modifier)
    r.scene.modifiers d.scene.modifiers

end ContentRoot

namespace Load

variable {c : ContentRoot} {L : List String} {depth depth' : Nat}

/-! ### Loads of different depth -/

/-- **Loads that go deep enough give the same answers for files.** -/
theorem fresh_file_eq (hdepth : c.source.eagerFiles.toFinset.card < depth)
    (hdepth' : c.source.eagerFiles.toFinset.card < depth') (file : String) :
    fresh c (Load.file c depth) [] file = fresh c (Load.file c depth') [] file := by
  have hroom := c.room_le [file]
  have h : Related (LoadState.Later 0 []) (document c (Load.file c depth) file)
      (document c (Load.file c depth') file) := .document fun _ =>
    .file_of_room (List.nodup_singleton file) (by omega) (by omega) (c.filePath file)
  exact (h ⟨0, [], []⟩ _ ⟨rfl, rfl⟩).1

theorem related_find (hdepth : c.source.eagerFiles.toFinset.card < depth)
    (hdepth' : c.source.eagerFiles.toFinset.card < depth') {α : Type} [Identified α]
    (here : Libraries) (select : Libraries → Library α) (url : String) :
    Related (fun s t => Consistent c (file c depth) [] s ∧ Consistent c (file c depth') [] t)
      (find c (file c depth) here select url) (find c (file c depth') here select url) :=
  .find select fun u _ _ => (timeless_file depth []).related_document (timeless_file depth' [])
    (fresh_file_eq hdepth hdepth' u.filePath)

theorem Leads.recalled (hdepth : c.source.eagerFiles.toFinset.card < depth)
    (hdepth' : c.source.eagerFiles.toFinset.card < depth') {α : Type} [Identified α]
    {here : Libraries} {select : Libraries → Library α} {url : String} {x : α}
    (h : Leads (Consistent c (file c depth) []) c (file c depth) here select url x)
    {t : LoadState} (ht : Consistent c (file c depth') [] t) :
    Leads (· = t) c (file c depth') here select url x := by
  obtain ⟨s, hs, hanswer⟩ := h
  refine ⟨t, rfl, ?_⟩
  rw [← (related_find hdepth hdepth' here select url s t ⟨hs, ht⟩).1, hanswer]

/-- **What a document is bound to is found again in every consistent state.** -/
theorem Bound.recalled (hdepth : c.source.eagerFiles.toFinset.card < depth)
    (hdepth' : c.source.eagerFiles.toFinset.card < depth') {path : Path} {r : DocumentRecord}
    {d : Document} (h : Bound (Consistent c (file c depth) []) c (file c depth) path r d)
    {t : LoadState} (ht : Consistent c (file c depth') [] t) :
    Bound (· = t) c (file c depth') path r d :=
  h.imp fun _ _ _ hleads => hleads.recalled hdepth hdepth' ht

theorem consistent_of_depth (hdepth : c.source.eagerFiles.toFinset.card < depth)
    (hdepth' : c.source.eagerFiles.toFinset.card < depth') {s : LoadState}
    (h : Consistent c (file c depth) [] s) : Consistent c (file c depth') [] s where
  loading := h.loading
  lookup file libraries hlookup := by
    rw [← fresh_file_eq hdepth hdepth' file, h.lookup file libraries hlookup]

end Load

/-! ### Loading a document -/

namespace Origin

open Load

variable {c : ContentRoot} {o : Origin} {reads : Nat} {d : Document} {s : LoadState}

theorem related_load (k : Nat) : Related (LoadState.Later k []) (o.load c) (o.load c) := by
  cases o with
  | file path => exact .file c.nesting path
  | text path t =>
    exact .text (fun _ _ hst => by rw [hst.2]) fun _ _ file _ =>
      .document fun _ => timeless_file _ [] k file

theorem answer_load : answer (o.load c) ⟨reads, [], []⟩ = answer (o.load c) .start :=
  (related_load reads .start ⟨reads, [], []⟩ ⟨rfl, by simp [LoadState.start]⟩).1.symm

/-- A document that is loaded is bound, and the state remembers what it may. -/
theorem load_outcome (h : o.load c ⟨reads, [], []⟩ = (.ok d, s)) :
    Consistent c (Load.file c c.nesting) [] s ∧ ∃ r depth, o.record? c = some r ∧
      c.source.eagerFiles.toFinset.card < depth ∧
      Bound (Consistent c (Load.file c depth) []) c (Load.file c depth) o.path r d := by
  have hnesting := c.card_eagerFiles_lt_nesting
  cases o with
  | file path =>
    obtain ⟨depth, hdepth⟩ : ∃ depth, c.nesting = depth + 1 := ⟨c.nesting - 1, by omega⟩
    have hstart : Consistent c (Load.file c depth) [] ⟨reads, [], []⟩ :=
      consistent_start reads
    replace h : Load.file c (depth + 1) path ⟨reads, [], []⟩ = (.ok d, s) := hdepth ▸ h
    have hafter := keeps_file depth path _ hstart
    rw [after, h] at hafter
    obtain ⟨bytes, t, r, hread, hdecode, hparse, hbound⟩ :=
      bound_of_gives_file ⟨_, hstart, congrArg Prod.fst h⟩
    refine ⟨consistent_of_depth (by omega) (by omega) hafter, r, depth, ?_, by omega, hbound⟩
    simp only [record?, hread, hdecode, hparse]
  | text path t =>
    replace h : Load.text c (Load.file c _) path t ⟨reads, [], []⟩ = (.ok d, s) := h
    generalize hdepth : c.nesting +
      (((DocumentRecord.parse? t).map DocumentRecord.eagerFiles).getD []).length = depth at h
    have hstart : Consistent c (Load.file c depth) [] ⟨reads, [], []⟩ :=
      consistent_start reads
    have hafter := keeps_text (timeless_file depth []) path t _ hstart
    rw [after, h] at hafter
    obtain ⟨r, hparse, hbound⟩ := bound_of_gives_text (timeless_file depth []).lookUpKeeps
      ⟨_, hstart, congrArg Prod.fst h⟩
    exact ⟨consistent_of_depth (by omega) (by omega) hafter, r, depth, hparse, by omega, hbound⟩

end Origin

namespace ContentRoot

open Load

variable {c : ContentRoot} {o : Origin} {d : Document} {s t : LoadState}

theorem related_ask (q : Query) :
    Related (fun s t => Consistent c (file c c.nesting) [] s ∧ Consistent c (file c c.nesting) [] t)
      (c.ask d q) (c.ask d q) := by
  have hnesting := c.card_eagerFiles_lt_nesting
  exact related_find (by omega) (by omega) d.libraries q.kind.library q.url

theorem consistent_afterQueries (h : Consistent c (file c c.nesting) [] s) (queries : List Query) :
    Consistent c (file c c.nesting) [] (c.afterQueries d queries s) := by
  induction queries generalizing s with
  | nil => exact h
  | cons q queries ih => exact ih ((related_ask q s s ⟨h, h⟩).2.1)

/-- **A question has the asset that it asks for as its answer**, if there is one. -/
theorem answer_ask_eq_ok_iff (hs : Consistent c (file c c.nesting) [] s) {q : Query}
    {x : q.kind.Asset} : answer (c.ask d q) s = .ok x ↔ c.Holds d q x := by
  have hopens : ∀ name libraries,
      answer (document c (file c c.nesting) name) s = .ok libraries ↔ c.Opens name libraries := by
    intro name libraries
    rw [hs.answer_document (timeless_file c.nesting []), fresh_eq_ok_iff]
    exact and_congr_right fun _ => and_iff_right List.not_mem_nil
  unfold Holds
  simp only [← hopens]
  exact answer_find_eq_ok_iff

theorem recalls_of_bound {path : Path} {r : DocumentRecord}
    (h : Bound (· = t) c (file c c.nesting) path r d) : c.Recalls d path r t where
  geometries := by
    obtain ⟨gs, hlibraries, hgs⟩ := h.geometries
    refine ⟨gs, hlibraries, hgs.imp ?_⟩
    rintro own g ⟨hg, hbound⟩
    refine ⟨hg, ?_⟩
    cases hurl : own.defaultUvSet with
    | none =>
      simp only [hurl] at hbound
      rw [hbound]
      rfl
    | some url =>
      simp only [hurl] at hbound
      obtain ⟨uv, huv, _, rfl, hanswer⟩ := hbound
      rw [huv]
      exact congrArg some hanswer
  nodes := by
    refine h.nodes.imp ?_
    rintro own i ⟨hurl, hi, ⟨_, rfl, htemplate⟩, hgeometries⟩
    refine ⟨hurl, hi, htemplate, hgeometries.imp ?_⟩
    rintro link g ⟨hlink, _, rfl, hgeometry⟩
    exact ⟨hlink, hgeometry⟩
  materials := by
    refine h.materials.imp ?_
    rintro own m ⟨hurl, template, ⟨_, rfl, htemplate⟩, hm⟩
    exact ⟨hurl, template, htemplate, hm⟩
  modifiers := by
    refine h.modifiers.imp ?_
    rintro own m ⟨hurl, _, rfl, hmodifier⟩
    exact ⟨hurl, hmodifier⟩

/-- **What was asked before does not matter.** After any questions, each question has the answer
that it has right after the document is loaded anew, and it is the asset that it asks for; and the
references of the document have what it was bound to while it was loaded for their answers. -/
theorem ask_recall {reads : Nat} (h : o.load c ⟨reads, [], []⟩ = (.ok d, s)) :
    (∀ reads', ∃ s', o.load c ⟨reads', [], []⟩ = (.ok d, s') ∧
      ∀ queries q, answer (c.ask d q) (c.afterQueries d queries s) = answer (c.ask d q) s') ∧
    (∀ queries q x,
      answer (c.ask d q) (c.afterQueries d queries s) = .ok x ↔ c.Holds d q x) ∧
    ∃ r, o.record? c = some r ∧
      ∀ queries, c.Recalls d o.path r (c.afterQueries d queries s) := by
  obtain ⟨hs, r, depth, hrecord, hdepth, hbound⟩ := o.load_outcome h
  refine ⟨fun reads' => ?_, fun queries q x => ?_, r, hrecord, fun queries => ?_⟩
  · have hanswer : answer (o.load c) ⟨reads', [], []⟩ = .ok d := by
      rw [o.answer_load, ← o.answer_load, answer, h]
    have hload : o.load c ⟨reads', [], []⟩ = (.ok d, after (o.load c) ⟨reads', [], []⟩) :=
      Prod.ext hanswer rfl
    refine ⟨_, hload, fun queries q => ?_⟩
    exact (related_ask q _ _ ⟨consistent_afterQueries hs queries, (o.load_outcome hload).1⟩).1
  · exact answer_ask_eq_ok_iff (consistent_afterQueries hs queries)
  · have hnesting := c.card_eagerFiles_lt_nesting
    exact recalls_of_bound
      (hbound.recalled hdepth (by omega) (consistent_afterQueries hs queries))

/-- A document whose modifier comes from another one: asked for it after any questions, it gives the
one that its scene has. -/
theorem ask_recall_pair : ∃ d s m,
    (Origin.file ⟨"/l/a"⟩).load (pairRoot libraryBytes) ⟨0, [], []⟩ = (.ok d, s) ∧
      d.scene.modifiers = [m] ∧ m.url = "b#m" ∧ m.modifier.id = "m" ∧
      (∀ queries, answer ((pairRoot libraryBytes).ask d ⟨.modifier, "b#m"⟩)
        ((pairRoot libraryBytes).afterQueries d queries s) = .ok m.modifier) ∧
      ∀ queries q, answer ((pairRoot libraryBytes).ask d q)
        ((pairRoot libraryBytes).afterQueries d queries s) =
          answer ((pairRoot libraryBytes).ask d q) s := by
  obtain ⟨d, s, h, hseen, -⟩ := exists_of_run
    (x := (Origin.file ⟨"/l/a"⟩).load (pairRoot libraryBytes)) (s := ⟨0, [], []⟩)
    (g := fun d => d.scene.modifiers.map fun m => (m.url, m.modifier.id)) (v := [("b#m", "m")])
    (n := 2) (by decide +kernel)
  obtain ⟨hagain, -, r, -, hrecalls⟩ := ask_recall h
  obtain ⟨m, hm, hids⟩ := List.map_eq_singleton_iff.1 hseen
  obtain ⟨hurl, hid⟩ := Prod.mk.inj hids
  refine ⟨d, s, m, h, hm, hurl, hid, fun queries => ?_, ?_⟩
  · have hmodifiers := (hrecalls queries).modifiers
    rw [hm] at hmodifiers
    obtain ⟨own, _, ⟨-, hanswer⟩, -, -⟩ := List.forall₂_cons_right_iff.1 hmodifiers
    rwa [hurl] at hanswer
  · obtain ⟨s', h', hanswers⟩ := hagain 0
    have hs : s' = s := (Prod.mk.inj (h'.symm.trans h)).2
    exact hs ▸ hanswers

end ContentRoot

end RiggedScene
