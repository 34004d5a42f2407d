import RiggedScene.Proofs.Document.Related

/-!
# What a document is bound to

A document is bound only if all its eager references lead somewhere. `Load.Bound` says which answer
of `Load.find` stands in which place of the document.

* `Load.bound_of_gives` : a document that is bound is `Load.Bound`;
* `Load.Bound.eagerFiles` : every eager file of a bound document has been looked up.
-/

namespace RiggedScene

namespace Load

variable (I : LoadState → Prop) (c : ContentRoot) (load : Path → Load Document)

/-- The reference gives the asset in some state satisfying `I`. -/
def Leads {α : Type} [Identified α] (here : Libraries) (select : Libraries → Library α)
    (url : String) (x : α) : Prop := Gives I (find c load here select url) x

/-- A geometry carries what its default UV set leads to. -/
def BoundGeometry (here : Libraries) (path : Path) (r : GeometryRecord) (g : Geometry) : Prop :=
  g = .ofRecord r path g.defaultUvSet ∧
    match r.defaultUvSet with
    | none => g.defaultUvSet = none
    | some url => ∃ s, g.defaultUvSet = some s ∧ Leads I c load here Libraries.uvSets url s

/-- An instance of a node carries what its references lead to. -/
structure BoundNode (here : Libraries) (r : NodeRecord) (n : NodeInstance) : Prop where
  url : r.url = some n.url
  ofRecord : n = .ofRecord r n.url n.template n.geometries
  template : Leads I c load here Libraries.nodes n.url n.template
  geometries : List.Forall₂ (fun l g => g.url = l.url ∧
    Leads I c load here Libraries.geometries g.url g.geometry) r.geometries n.geometries

/-- An instance of a material is what its reference leads to, with the record on top. -/
def BoundMaterial (here : Libraries) (r : MaterialRecord) (m : MaterialInstance) : Prop :=
  r.url = some m.url ∧ ∃ template, Leads I c load here Libraries.materials m.url template ∧
    m.material = template.update r

/-- An instance of a modifier carries what its reference leads to. -/
def BoundModifier (here : Libraries) (r : ModifierRecord) (m : ModifierInstance) : Prop :=
  r.url = some m.url ∧ Leads I c load here Libraries.modifiers m.url m.modifier

/-- A document and what its references lead to. -/
structure Bound (path : Path) (r : DocumentRecord) (d : Document) : Prop where
  geometries : ∃ gs, d.libraries = .ofRecord r (.ofList gs) ∧
    List.Forall₂ (BoundGeometry I c load d.libraries path) r.geometries gs
  nodes : List.Forall₂ (BoundNode I c load d.libraries) r.scene.nodes d.scene.nodes
  materials : List.Forall₂ (BoundMaterial I c load d.libraries) r.scene.materials d.scene.materials
  modifiers : List.Forall₂ (BoundModifier I c load d.libraries) r.scene.modifiers d.scene.modifiers

variable {I c load} {here : Libraries} {path : Path}

/-! ### Taking loads apart -/

/-- Looking files up keeps to states satisfying `I`. -/
abbrev LookUpKeeps (I : LoadState → Prop) (c : ContentRoot) (load : Path → Load Document) : Prop :=
  ∀ file, Keeps I (document c load file)

theorem LookUpKeeps.followedAlike (h : LookUpKeeps I c load) (url : String) :
    FollowedAlike c load load (fun s t => s = t ∧ I s) url :=
  fun u _ _ => (h u.filePath).related

/-- Of the local libraries only those of the kind of asset matter. -/
theorem find_congr {α : Type} [Identified α] {here here' : Libraries}
    {select : Libraries → Library α} (hhere : select here = select here') (url : String) :
    find c load here select url = find c load here' select url := by
  unfold find
  cases Reference.parse? url with
  | none => rfl
  | some u =>
    dsimp only
    cases u.isExternal with
    | true => rfl
    | false => simp only [Bool.false_eq_true, if_false, pure_bind, hhere]

section Binding

variable (h : LookUpKeeps I c load)
include h

/-- Only UV sets are looked up while geometries are bound, and they are all known by then. -/
theorem boundGeometry_of_gives {r : GeometryRecord} {g : Geometry} {here' : Libraries}
    (hg : Gives I (bindGeometry c load here path r) g) (hhere : here.uvSets = here'.uvSets) :
    BoundGeometry I c load here' path r g := by
  unfold bindGeometry at hg
  unfold BoundGeometry
  cases hurl : r.defaultUvSet with
  | none =>
    simp only [hurl] at hg
    obtain ⟨s, -, hanswer⟩ := hg
    cases hanswer
    exact ⟨rfl, rfl⟩
  | some url =>
    simp only [hurl] at hg
    have hkeeps : Keeps I (find c load here Libraries.uvSets url) :=
      (Related.find Libraries.uvSets (h.followedAlike url)).keeps
    obtain ⟨uv, huv, s, -, hanswer⟩ := hg.of_bind hkeeps
    cases hanswer
    refine ⟨rfl, uv, rfl, ?_⟩
    rw [Leads, ← find_congr hhere url]
    exact huv

theorem boundNode_of_gives {r : NodeRecord} {n : NodeInstance}
    (hn : Gives I (bindNode c load here r) n) : BoundNode I c load here r n := by
  obtain ⟨url, hurl, hn⟩ := hn.of_bind (Related.requiredUrl r.id r.url).keeps
  have hurl := eq_of_gives_requiredUrl hurl
  obtain ⟨template, htemplate, hn⟩ :=
    hn.of_bind (Related.find Libraries.nodes (h.followedAlike url)).keeps
  have hlinks : ∀ g ∈ r.geometries, Keeps I (bindLink c load here g) :=
    fun g _ => (Related.bindLink (h.followedAlike g.url)).keeps
  obtain ⟨geometries, hgeometries, s, -, hanswer⟩ :=
    hn.of_bind (Related.mapM fun g hg => (hlinks g hg).related).keeps
  cases hanswer
  refine ⟨hurl, rfl, htemplate, (hgeometries.of_mapM hlinks).imp fun l g hg => ?_⟩
  obtain ⟨geometry, hgeometry, s, -, hanswer⟩ :=
    hg.of_bind (Related.find Libraries.geometries (h.followedAlike l.url)).keeps
  cases hanswer
  exact ⟨rfl, hgeometry⟩

theorem boundMaterial_of_gives {r : MaterialRecord} {m : MaterialInstance}
    (hm : Gives I (bindMaterial c load here r) m) : BoundMaterial I c load here r m := by
  obtain ⟨url, hurl, hm⟩ := hm.of_bind (Related.requiredUrl r.id r.url).keeps
  have hurl := eq_of_gives_requiredUrl hurl
  obtain ⟨template, htemplate, s, -, hanswer⟩ :=
    hm.of_bind (Related.find Libraries.materials (h.followedAlike url)).keeps
  cases hanswer
  exact ⟨hurl, template, htemplate, rfl⟩

theorem boundModifier_of_gives {r : ModifierRecord} {m : ModifierInstance}
    (hm : Gives I (bindModifier c load here r) m) : BoundModifier I c load here r m := by
  obtain ⟨url, hurl, hm⟩ := hm.of_bind (Related.requiredUrl r.id r.url).keeps
  have hurl := eq_of_gives_requiredUrl hurl
  obtain ⟨modifier, hmodifier, s, -, hanswer⟩ :=
    hm.of_bind (Related.find Libraries.modifiers (h.followedAlike url)).keeps
  cases hanswer
  exact ⟨hurl, hmodifier⟩

/-- **A document that is bound carries what its references lead to.** -/
theorem bound_of_gives {r : DocumentRecord} {d : Document}
    (hd : Gives I (bindDocument c load path r) d) : Bound I c load path r d := by
  have hgeometries : ∀ g ∈ r.geometries,
      Keeps I (bindGeometry c load (.ofUvSets (.ofList r.uvSets)) path g) := fun g _ =>
    (Related.bindGeometry fun url _ => h.followedAlike url).keeps
  obtain ⟨gs, hgs, hd⟩ := hd.of_bind (Related.mapM fun g hg => (hgeometries g hg).related).keeps
  obtain ⟨scene, hscene, s, -, hanswer⟩ := hd.of_bind (Related.bindScene
    (fun n _ url _ => h.followedAlike url) (fun m _ url _ => h.followedAlike url)
    (fun m _ url _ => h.followedAlike url)).keeps
  have hnodes : ∀ n ∈ r.scene.nodes, Keeps I (bindNode c load (.ofRecord r (.ofList gs)) n) :=
    fun n _ => (Related.bindNode fun url _ => h.followedAlike url).keeps
  have hmaterials : ∀ m ∈ r.scene.materials,
      Keeps I (bindMaterial c load (.ofRecord r (.ofList gs)) m) :=
    fun m _ => (Related.bindMaterial fun url _ => h.followedAlike url).keeps
  have hmodifiers : ∀ m ∈ r.scene.modifiers,
      Keeps I (bindModifier c load (.ofRecord r (.ofList gs)) m) :=
    fun m _ => (Related.bindModifier fun url _ => h.followedAlike url).keeps
  obtain ⟨nodes, hns, hscene⟩ :=
    hscene.of_bind (Related.mapM fun n hn => (hnodes n hn).related).keeps
  obtain ⟨materials, hmats, hscene⟩ :=
    hscene.of_bind (Related.mapM fun m hm => (hmaterials m hm).related).keeps
  obtain ⟨modifiers, hmods, t, -, hbound⟩ :=
    hscene.of_bind (Related.mapM fun m hm => (hmodifiers m hm).related).keeps
  cases hanswer
  cases hbound
  exact {
    geometries := ⟨gs, rfl, (hgs.of_mapM hgeometries).imp fun g b hb =>
      boundGeometry_of_gives h hb rfl⟩
    nodes := (hns.of_mapM hnodes).imp fun n b hb => boundNode_of_gives h hb
    materials := (hmats.of_mapM hmaterials).imp fun m b hb => boundMaterial_of_gives h hb
    modifiers := (hmods.of_mapM hmodifiers).imp fun m b hb => boundModifier_of_gives h hb }

theorem bound_of_gives_text {t : String} {d : Document} (hd : Gives I (text c load path t) d) :
    ∃ r, DocumentRecord.parse? t = some r ∧ Bound I c load path r d := by
  unfold text at hd
  cases hparse : DocumentRecord.parse? t with
  | none =>
    simp only [hparse] at hd
    obtain ⟨s, -, hanswer⟩ := hd
    cases hanswer
  | some r =>
    simp only [hparse] at hd
    exact ⟨r, rfl, bound_of_gives h hd⟩

end Binding

section Change

variable {J : LoadState → Prop} {load' : Path → Load Document}

theorem BoundGeometry.imp {r : GeometryRecord} {g : Geometry}
    (hg : BoundGeometry I c load here path r g)
    (h : ∀ url x, Leads I c load here Libraries.uvSets url x →
      Leads J c load' here Libraries.uvSets url x) : BoundGeometry J c load' here path r g := by
  obtain ⟨hrecord, hbound⟩ := hg
  refine ⟨hrecord, ?_⟩
  cases hurl : r.defaultUvSet with
  | none => simpa only [hurl] using hbound
  | some url =>
    simp only [hurl] at hbound ⊢
    obtain ⟨uv, huv, hleads⟩ := hbound
    exact ⟨uv, huv, h url uv hleads⟩

/-- A document stays bound where all its references lead to the same assets. -/
theorem Bound.imp {r : DocumentRecord} {d : Document} (hd : Bound I c load path r d)
    (h : ∀ {α : Type} [Identified α] (select : Libraries → Library α) url x,
      Leads I c load d.libraries select url x → Leads J c load' d.libraries select url x) :
    Bound J c load' path r d where
  geometries := by
    obtain ⟨gs, hlibraries, hgs⟩ := hd.geometries
    exact ⟨gs, hlibraries, hgs.imp fun r g hg => hg.imp (h Libraries.uvSets)⟩
  nodes := hd.nodes.imp fun r n hn =>
    ⟨hn.url, hn.ofRecord, h _ _ _ hn.template, hn.geometries.imp fun l g hg => ⟨hg.1, h _ _ _ hg.2⟩⟩
  materials := hd.materials.imp fun r m ⟨hurl, template, hleads, hmaterial⟩ =>
    ⟨hurl, template, h _ _ _ hleads, hmaterial⟩
  modifiers := hd.modifiers.imp fun r m hm => ⟨hm.1, h _ _ _ hm.2⟩

end Change

/-! ### Files that were looked up -/

variable (I c load)

/-- If the reference leads into a file, the file was found. -/
def LookedUp (url : String) : Prop :=
  ∀ u, Reference.parse? url = some u → u.isExternal = true →
    ∃ libraries, Gives I (document c load u.filePath) libraries

variable {I c load}

theorem Leads.lookedUp {α : Type} [Identified α] {select : Libraries → Library α} {url : String}
    {x : α} (h : Leads I c load here select url x) : LookedUp I c load url := by
  rintro u hu hexternal
  obtain ⟨s, hs, hanswer⟩ := h
  obtain ⟨u', hu', -, libraries, hlibraries, -⟩ := answer_find_eq_ok_iff.1 hanswer
  obtain rfl : u' = u := Option.some.inj (hu'.symm.trans hu)
  rw [if_pos hexternal] at hlibraries
  exact ⟨libraries, s, hs, hlibraries⟩

theorem forall_mem_of_forall₂ {α β : Type} {R : α → β → Prop} {P : α → Prop} {as : List α}
    {bs : List β} (h : List.Forall₂ R as bs) (hP : ∀ a b, R a b → P a) : ∀ a ∈ as, P a :=
  ((List.forall₂_and_left as bs).1 (h.imp fun a b hab => ⟨hP a b hab, hab⟩)).1

theorem BoundGeometry.lookedUp {r : GeometryRecord} {g : Geometry} {url : String}
    (h : BoundGeometry I c load here path r g) (hurl : r.defaultUvSet = some url) :
    LookedUp I c load url := by
  obtain ⟨-, hbound⟩ := h
  rw [hurl] at hbound
  obtain ⟨uv, -, hleads⟩ := hbound
  exact hleads.lookedUp

theorem BoundNode.lookedUp {r : NodeRecord} {n : NodeInstance} {url : String}
    (h : BoundNode I c load here r n)
    (hurl : url ∈ r.url.toList ++ r.geometries.map GeometryLink.url) : LookedUp I c load url := by
  obtain hnode | hlink := List.mem_append.1 hurl
  · rw [h.url] at hnode
    obtain rfl : url = n.url := by simpa using hnode
    exact h.template.lookedUp
  · obtain ⟨l, hl, rfl⟩ := List.mem_map.1 hlink
    have hlinks : ∀ l ∈ r.geometries, LookedUp I c load l.url :=
      forall_mem_of_forall₂ h.geometries fun l g hg => hg.1 ▸ hg.2.lookedUp
    exact hlinks l hl

theorem BoundMaterial.lookedUp {r : MaterialRecord} {m : MaterialInstance} {url : String}
    (h : BoundMaterial I c load here r m) (hurl : r.url = some url) : LookedUp I c load url := by
  obtain ⟨hm, template, hleads, -⟩ := h
  obtain rfl : m.url = url := Option.some.inj (hm.symm.trans hurl)
  exact hleads.lookedUp

theorem BoundModifier.lookedUp {r : ModifierRecord} {m : ModifierInstance} {url : String}
    (h : BoundModifier I c load here r m) (hurl : r.url = some url) : LookedUp I c load url := by
  obtain ⟨hm, hleads⟩ := h
  obtain rfl : m.url = url := Option.some.inj (hm.symm.trans hurl)
  exact hleads.lookedUp

theorem Bound.lookedUp {r : DocumentRecord} {d : Document} (h : Bound I c load path r d)
    {url : String} (hurl : url ∈ r.eagerReferences) : LookedUp I c load url := by
  obtain ⟨gs, -, hgs⟩ := h.geometries
  obtain ⟨g, hg, hurl⟩ | ⟨n, hn, hurl⟩ | ⟨m, hm, hurl⟩ | ⟨m, hm, hurl⟩ := mem_eagerReferences.1 hurl
  · exact forall_mem_of_forall₂ hgs (fun r b hb => hb.lookedUp) g hg hurl
  · exact forall_mem_of_forall₂ h.nodes (fun r b hb => hb.lookedUp) n hn hurl
  · exact forall_mem_of_forall₂ h.materials (fun r b hb => hb.lookedUp) m hm hurl
  · exact forall_mem_of_forall₂ h.modifiers (fun r b hb => hb.lookedUp) m hm hurl

/-- **Every eager file of a bound document was found.** -/
theorem Bound.eagerFiles {r : DocumentRecord} {d : Document} (h : Bound I c load path r d)
    {file : String} (hfile : file ∈ r.eagerFiles) :
    ∃ libraries, Gives I (document c load file) libraries := by
  obtain ⟨u, hu, hexternal⟩ := List.mem_filterMap.1 hfile
  obtain ⟨url, hurl, hparse⟩ := List.mem_filterMap.1 hu
  split at hexternal
  · next hyes =>
    cases hexternal
    exact h.lookedUp hurl u hparse hyes
  · cases hexternal

end Load

end RiggedScene
