import RiggedScene.Proofs.Document.Bound

/-!
# The files that a document looks up

All that leads from a document into others are its references, and each is followed by one look-up.

* `Load.fileOf?` is the file that a reference is looked up in, and `Load.lookUps` looks files up one
  after another;
* `Load.after_find` : a reference that is followed looks up its file, whether it leads anywhere or
  not;
* `Load.visits_bindDocument` : a document that is bound has looked up its eager references in their
  order, and nothing else.
-/

namespace RiggedScene

namespace Load

variable {α β : Type} (c : ContentRoot) (load : Path → Load Document)

/-! ### Look-ups one after another -/

/-- The file that a reference is looked up in. -/
def fileOf? (url : String) : Option String :=
  (Reference.parse? url).bind fun u => if u.hasAsset && u.isExternal then some u.filePath else none

/-- The state after looking files up one after another. -/
def lookUps (files : List String) (s : LoadState) : LoadState :=
  files.foldl (fun s file => after (document c load file) s) s

/-- When the load gives an answer, it has looked up these files and done nothing else. -/
def Visits (x : Load α) (files : List String) : Prop :=
  ∀ s a t, x s = (.ok a, t) → t = lookUps c load files s

variable {c load} {here : Libraries}

theorem lookUps_append (files files' : List String) (s : LoadState) :
    lookUps c load (files ++ files') s = lookUps c load files' (lookUps c load files s) :=
  List.foldl_append

namespace Visits

variable {x : Load α} {f : α → Load β} {files files' : List String}

theorem pure (a : α) : Visits c load (pure a) [] := by
  intro s b t h
  cases h
  rfl

theorem throw (e : Error) : Visits c load (throw e : Load α) files := fun _ _ _ h => nomatch h

theorem bind (hx : Visits c load x files)
    (hf : ∀ a, Gives (fun _ => True) x a → Visits c load (f a) files') :
    Visits c load (x >>= f) (files ++ files') := by
  intro s b t h
  cases hxs : x s with
  | mk r u =>
    cases r with
    | error e =>
      rw [bind_apply_error hxs] at h
      cases h
    | ok a =>
      rw [bind_apply_ok hxs] at h
      rw [lookUps_append, ← hx s a u hxs]
      exact hf a ⟨s, trivial, congrArg Prod.fst hxs⟩ u b t h

theorem map (hx : Visits c load x files) (g : α → β) :
    Visits c load (x >>= fun a => Pure.pure (g a)) files := by
  rw [← List.append_nil files]
  exact hx.bind fun a _ => .pure (g a)

theorem mapM {f : α → Load β} {g : α → List String} {xs : List α}
    (h : ∀ a ∈ xs, Visits c load (f a) (g a)) : Visits c load (xs.mapM f) (xs.flatMap g) := by
  induction xs with
  | nil => exact .pure []
  | cons a xs ih =>
    rw [List.mapM_cons, List.flatMap_cons]
    refine (h a List.mem_cons_self).bind fun b _ => ?_
    exact (ih fun a' ha' => h a' (List.mem_cons_of_mem a ha')).map fun bs => b :: bs

end Visits

/-! ### Binding a document -/

/-- **Following a reference looks up its file**, whether it leads anywhere or not. -/
theorem after_find {α : Type} [Identified α] (select : Libraries → Library α) (url : String)
    (s : LoadState) :
    after (find c load here select url) s = lookUps c load (fileOf? url).toList s := by
  unfold find fileOf?
  -- the cases are those in which `find` gives up: no reference, no asset, and no external file
  cases Reference.parse? url with
  | none => rfl
  | some u =>
    cases hasset : u.hasAsset with
    | false =>
      simp only [hasset, Bool.not_false, if_true, Bool.false_and, Option.bind_some,
        Bool.false_eq_true, if_false]
      rfl
    | true =>
      cases hexternal : u.isExternal with
      | false =>
        simp only [hasset, Bool.not_true, hexternal, Bool.false_eq_true, if_false, pure_bind,
          Option.bind_some, Bool.true_and]
        split <;> rfl
      | true =>
        simp only [hasset, Bool.not_true, hexternal, Bool.false_eq_true, if_false, if_true,
          Option.bind_some, Bool.true_and]
        change after _ s = after (document c load u.filePath) s
        unfold after
        cases hdocument : document c load u.filePath s with
        | mk r t =>
          cases r with
          | error e => rw [bind_apply_error hdocument]
          | ok libraries =>
            -- the file has been looked up by now, with or without the asset in it
            rw [bind_apply_ok hdocument]
            cases (select libraries).find? u.assetId <;> rfl

theorem visits_find {α : Type} [Identified α] (select : Libraries → Library α) (url : String) :
    Visits c load (find c load here select url) (fileOf? url).toList := by
  intro s a t h
  rw [← after_find select, after, h]

/-- A reference that must be there is followed before anything else. -/
theorem visits_required {α : Type} [Identified α] (id : String) (written : Option String)
    (select : Libraries → Library α) {f : String → α → Load β} {files : List String}
    (hf : ∀ url x, Visits c load (f url x) files) :
    Visits c load (do
        let url ← requiredUrl id written
        let x ← find c load here select url
        f url x) ((written.bind fileOf?).toList ++ files) := by
  have hurl : Visits c load (requiredUrl id written) [] := by
    cases written with
    | none => exact .throw _
    | some url => exact .pure url
  refine hurl.bind fun url hgives => ?_
  obtain rfl : written = some url := eq_of_gives_requiredUrl hgives
  exact (visits_find select url).bind fun x _ => hf url x

theorem visits_bindGeometry {path : Path} (r : GeometryRecord) :
    Visits c load (bindGeometry c load here path r) (r.defaultUvSet.bind fileOf?).toList := by
  unfold bindGeometry
  cases r.defaultUvSet with
  | none => exact .pure _
  | some url =>
    exact Visits.map (visits_find Libraries.uvSets url) fun uv =>
      Geometry.ofRecord r path (some uv)

theorem visits_bindLink (g : GeometryLink) :
    Visits c load (bindLink c load here g) (fileOf? g.url).toList :=
  (visits_find Libraries.geometries g.url).map _

theorem visits_bindNode (r : NodeRecord) :
    Visits c load (bindNode c load here r)
      ((r.url.toList ++ r.geometries.map GeometryLink.url).filterMap fileOf?) := by
  have hurl : r.url.toList.filterMap fileOf? = (r.url.bind fileOf?).toList := by
    cases r.url with
    | none => rfl
    | some url => exact List.filterMap_eq_flatMap_toList fileOf? [url] ▸ List.append_nil _
  rw [List.filterMap_append, List.filterMap_map, List.filterMap_eq_flatMap_toList _ r.geometries,
    hurl]
  exact visits_required r.id r.url Libraries.nodes fun url template =>
    (Visits.mapM fun g _ => visits_bindLink g).map _

theorem visits_bindMaterial (r : MaterialRecord) :
    Visits c load (bindMaterial c load here r) (r.url.bind fileOf?).toList := by
  rw [← List.append_nil (Option.toList _)]
  exact visits_required r.id r.url Libraries.materials fun url template => .pure _

theorem visits_bindModifier (r : ModifierRecord) :
    Visits c load (bindModifier c load here r) (r.url.bind fileOf?).toList := by
  rw [← List.append_nil (Option.toList _)]
  exact visits_required r.id r.url Libraries.modifiers fun url modifier => .pure _

/-- **A document that is bound has looked up its eager references in order.** -/
theorem visits_bindDocument {path : Path} (r : DocumentRecord) :
    Visits c load (bindDocument c load path r) (r.eagerReferences.filterMap fileOf?) := by
  have hfiles : r.eagerReferences.filterMap fileOf? =
      r.geometries.flatMap (fun g => (g.defaultUvSet.bind fileOf?).toList) ++
        (r.scene.nodes.flatMap (fun n =>
            (n.url.toList ++ n.geometries.map GeometryLink.url).filterMap fileOf?) ++
          (r.scene.materials.flatMap (fun m => (m.url.bind fileOf?).toList) ++
            r.scene.modifiers.flatMap (fun m => (m.url.bind fileOf?).toList))) := by
    simp only [DocumentRecord.eagerReferences, List.filterMap_append, List.filterMap_filterMap,
      List.filterMap_flatMap, List.append_assoc]
    simp only [List.filterMap_eq_flatMap_toList]
  rw [hfiles]
  refine (Visits.mapM fun g _ => visits_bindGeometry g).bind fun geometries _ => ?_
  -- which libraries the scene is bound to does not matter: what is asked is written in it
  have hscene (here : Libraries) : Visits c load (bindScene c load here r.scene)
      (r.scene.nodes.flatMap (fun n =>
          (n.url.toList ++ n.geometries.map GeometryLink.url).filterMap fileOf?) ++
        (r.scene.materials.flatMap (fun m => (m.url.bind fileOf?).toList) ++
          r.scene.modifiers.flatMap (fun m => (m.url.bind fileOf?).toList))) :=
    (Visits.mapM fun n _ => visits_bindNode n).bind fun nodes _ =>
      (Visits.mapM fun m _ => visits_bindMaterial m).bind fun materials _ =>
        (Visits.mapM fun m _ => visits_bindModifier m).map _
  rw [← List.append_nil (_ ++ _)]
  refine (hscene _).bind fun scene _ => ?_
  intro s d t h
  cases h
  rfl

theorem visits_text {path : Path} {text : String} {r : DocumentRecord}
    (h : DocumentRecord.parse? text = some r) :
    Visits c load (Load.text c load path text) (r.eagerReferences.filterMap fileOf?) := by
  unfold Load.text
  rw [h]
  exact visits_bindDocument r

end Load

end RiggedScene
