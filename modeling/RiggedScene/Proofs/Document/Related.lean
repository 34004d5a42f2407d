import RiggedScene.Document.Loading
import Mathlib.Data.List.Forall2

/-!
# Loads side by side

Two loads are related when, from states in a relation `R`, they give the same answer and end in
states in `R`. All that leads from a document into others goes through `Load.document`, and so loads
are related as soon as they look files up alike.

* `Load.Related.bind` and `Load.Related.mapM` put related loads together;
* `Load.Related.bindDocument` : a document is bound alike if its eager files are looked up alike;
* `Load.Gives` says what a load may answer from a state satisfying `I`, and `Load.Keeps` that it
  ends in such a state again.
-/

namespace RiggedScene

namespace Load

variable {α β : Type}

/-- What a load answers in a state. -/
def answer (x : Load α) (s : LoadState) : Except Error α := (x s).1

/-- The state after a load. -/
def after (x : Load α) (s : LoadState) : LoadState := (x s).2

/-- From related states both loads give the same answer and end in related states. -/
def Related (R : LoadState → LoadState → Prop) (x y : Load α) : Prop :=
  ∀ s t, R s t → answer x s = answer y t ∧ R (after x s) (after y t)

/-- The load gives the answer `a` in some state satisfying `I`. -/
def Gives (I : LoadState → Prop) (x : Load α) (a : α) : Prop := ∃ s, I s ∧ answer x s = .ok a

/-- Whatever the load answers, it ends in a state satisfying `I` again. -/
def Keeps (I : LoadState → Prop) (x : Load α) : Prop := ∀ s, I s → I (after x s)

variable {R : LoadState → LoadState → Prop} {I : LoadState → Prop} {x : Load α} {f : α → Load β}

/-! ### Loads one after another -/

theorem bind_apply_ok {s t : LoadState} {a : α} (h : x s = (.ok a, t)) :
    (x >>= f) s = f a t := by
  change (match x s with | (r, t) => ExceptT.bindCont f r t) = _
  rw [h]
  rfl

theorem bind_apply_error {s t : LoadState} {e : Error} (h : x s = (.error e, t)) :
    (x >>= f) s = (.error e, t) := by
  change (match x s with | (r, t) => ExceptT.bindCont f r t) = _
  rw [h]
  rfl

theorem answer_bind_eq_ok_iff {s : LoadState} {b : β} :
    answer (x >>= f) s = .ok b ↔
      ∃ a, answer x s = .ok a ∧ answer (f a) (after x s) = .ok b := by
  unfold answer after
  cases hxs : x s with
  | mk r t =>
    cases r with
    | error e => simp [bind_apply_error hxs]
    | ok a => simp [bind_apply_ok hxs]

theorem exists_of_isOk {x : Load α} {s : LoadState} (h : (answer x s).isOk = true) :
    ∃ a, x s = (.ok a, after x s) := by
  unfold answer at h
  unfold after
  cases hx : x s with
  | mk r t =>
    rw [hx] at h
    cases r with
    | error e => cases h
    | ok a => exact ⟨a, rfl⟩

/-- A load that gives an answer, with what is seen of the answer and of the state after it. -/
theorem exists_of_run {s : LoadState} {g : α → β} {v : β} {n : Nat}
    (h : ((x s).1.map g, (x s).2.reads) = (.ok v, n)) :
    ∃ a t, x s = (.ok a, t) ∧ g a = v ∧ t.reads = n := by
  cases hx : x s with
  | mk r t =>
    rw [hx] at h
    obtain ⟨hr, hreads⟩ := Prod.mk.inj h
    cases r with
    | error e => cases hr
    | ok a => exact ⟨a, t, rfl, Except.ok.inj hr, hreads⟩

theorem get_bind (f : LoadState → Load α) (s : LoadState) :
    ((get : Load LoadState) >>= f) s = f s s := rfl

theorem Gives.of_bind {b : β} (h : Gives I (x >>= f) b) (hx : Keeps I x) :
    ∃ a, Gives I x a ∧ Gives I (f a) b := by
  obtain ⟨s, hs, hanswer⟩ := h
  obtain ⟨a, ha, hb⟩ := answer_bind_eq_ok_iff.1 hanswer
  exact ⟨a, ⟨s, hs, ha⟩, after x s, hx s hs, hb⟩

namespace Related

theorem pure (a : α) : Related R (pure a) (pure a) := fun _ _ h => ⟨rfl, h⟩

theorem throw (e : Error) : Related R (throw e : Load α) (throw e) := fun _ _ h => ⟨rfl, h⟩

theorem bind {y : Load α} {g : α → Load β} (hx : Related R x y)
    (hf : ∀ a, Gives (fun _ => True) x a → Related R (f a) (g a)) :
    Related R (x >>= f) (y >>= g) := by
  intro s t hst
  obtain ⟨hanswer, hafter⟩ := hx s t hst
  cases hxs : x s with
  | mk r s' =>
    cases hyt : y t with
    | mk r' t' =>
      simp only [answer, after, hxs, hyt] at hanswer hafter
      subst hanswer
      cases r with
      | error e =>
        rw [answer, after, answer, after, bind_apply_error hxs, bind_apply_error hyt]
        exact ⟨rfl, hafter⟩
      | ok a =>
        have hgives : Gives (fun _ => True) x a := ⟨s, trivial, congrArg Prod.fst hxs⟩
        rw [answer, after, answer, after, bind_apply_ok hxs, bind_apply_ok hyt]
        exact hf a hgives s' t' hafter

theorem mapM {f g : α → Load β} {xs : List α} (h : ∀ a ∈ xs, Related R (f a) (g a)) :
    Related R (xs.mapM f) (xs.mapM g) := by
  induction xs with
  | nil => exact .pure []
  | cons a xs ih =>
    rw [List.mapM_cons, List.mapM_cons]
    refine .bind (h a List.mem_cons_self) fun b _ => ?_
    exact .bind (ih fun a' ha' => h a' (List.mem_cons_of_mem a ha')) fun bs _ => .pure _

/-- A load that is related to itself keeps what relates a state to itself. -/
theorem keeps (h : Related (fun s t => s = t ∧ I s) x x) : Keeps I x :=
  fun s hs => (h s s ⟨rfl, hs⟩).2.2

end Related

theorem Keeps.related (h : Keeps I x) : Related (fun s t => s = t ∧ I s) x x := by
  rintro s t ⟨rfl, hs⟩
  exact ⟨rfl, rfl, h s hs⟩

theorem Gives.of_mapM {f : α → Load β} {xs : List α} {ys : List β} (h : Gives I (xs.mapM f) ys)
    (hf : ∀ a ∈ xs, Keeps I (f a)) : List.Forall₂ (fun a b => Gives I (f a) b) xs ys := by
  induction xs generalizing ys with
  | nil =>
    obtain ⟨s, -, hanswer⟩ := h
    cases hanswer
    exact .nil
  | cons a xs ih =>
    rw [List.mapM_cons] at h
    obtain ⟨ha, hxs⟩ := List.forall_mem_cons.1 hf
    obtain ⟨b, hb, hrest⟩ := h.of_bind ha
    have hkeeps : Keeps I (xs.mapM f) := (Related.mapM fun a ha => (hxs a ha).related).keeps
    obtain ⟨bs, hbs, s, -, hanswer⟩ := hrest.of_bind hkeeps
    cases hanswer
    exact .cons hb (ih hbs hxs)

/-! ### Binding a document -/

section Binding

variable (c : ContentRoot) (load load' : Path → Load Document)

/-- The file that a reference leads into, if there is one, is looked up alike. -/
def FollowedAlike (R : LoadState → LoadState → Prop) (url : String) : Prop :=
  ∀ u, Reference.parse? url = some u → u.isExternal = true →
    Related R (document c load u.filePath) (document c load' u.filePath)

variable {c load load'} {here : Libraries} {path : Path}

/-- The references that are followed while a document is bound. -/
theorem mem_eagerReferences {r : DocumentRecord} {url : String} : url ∈ r.eagerReferences ↔
    (∃ g ∈ r.geometries, g.defaultUvSet = some url) ∨
    (∃ n ∈ r.scene.nodes, url ∈ n.url.toList ++ n.geometries.map GeometryLink.url) ∨
    (∃ m ∈ r.scene.materials, m.url = some url) ∨
    (∃ m ∈ r.scene.modifiers, m.url = some url) := by
  simp only [DocumentRecord.eagerReferences, List.mem_append, List.mem_filterMap, List.mem_flatMap,
    or_assoc]

theorem mem_eagerFiles {r : DocumentRecord} {url : String} (hurl : url ∈ r.eagerReferences)
    {u : Reference} (hu : Reference.parse? url = some u) (hexternal : u.isExternal = true) :
    u.filePath ∈ r.eagerFiles :=
  List.mem_filterMap.2 ⟨u, List.mem_filterMap.2 ⟨url, hurl, hu⟩, by simp [hexternal]⟩

namespace Related

theorem find {α : Type} [Identified α] (select : Libraries → Library α) {url : String}
    (h : FollowedAlike c load load' R url) :
    Related R (find c load here select url) (Load.find c load' here select url) := by
  unfold Load.find
  cases hu : Reference.parse? url with
  | none => exact .throw _
  | some u =>
    dsimp only
    split
    · exact .bind (.throw _) fun _ hgives => nomatch hgives
    · split
      · next hexternal =>
        refine .bind (h u hu hexternal) fun libraries _ => ?_
        split
        · exact .pure _
        · exact .throw _
      · refine .bind (.pure _) fun libraries _ => ?_
        split
        · exact .pure _
        · exact .throw _

theorem requiredUrl (id : String) (url : Option String) :
    Related R (requiredUrl id url) (Load.requiredUrl id url) := by
  cases url with
  | none => exact .throw _
  | some u => exact .pure u

theorem bindGeometry {r : GeometryRecord}
    (h : ∀ url, r.defaultUvSet = some url → FollowedAlike c load load' R url) :
    Related R (bindGeometry c load here path r) (Load.bindGeometry c load' here path r) := by
  unfold Load.bindGeometry
  split
  · exact .pure _
  · next url hurl => exact .bind (.find Libraries.uvSets (h url hurl)) fun _ _ => .pure _

theorem bindLink {g : GeometryLink} (h : FollowedAlike c load load' R g.url) :
    Related R (bindLink c load here g) (Load.bindLink c load' here g) :=
  .bind (.find Libraries.geometries h) fun _ _ => .pure _

end Related

theorem eq_of_gives_requiredUrl {id url : String} {written : Option String}
    (h : Gives I (requiredUrl id written) url) : written = some url := by
  obtain ⟨s, -, hanswer⟩ := h
  cases written with
  | none => cases hanswer
  | some u =>
    cases hanswer
    rfl

namespace Related

theorem bindNode {r : NodeRecord}
    (h : ∀ url ∈ r.url.toList ++ r.geometries.map GeometryLink.url,
      FollowedAlike c load load' R url) :
    Related R (bindNode c load here r) (Load.bindNode c load' here r) := by
  refine .bind (.requiredUrl r.id r.url) fun url hgives => ?_
  have hurl : r.url = some url := eq_of_gives_requiredUrl hgives
  refine .bind (.find Libraries.nodes (h url (by simp [hurl]))) fun template _ => ?_
  refine .bind (.mapM fun g hg => .bindLink (h g.url ?_)) fun geometries _ => .pure _
  exact List.mem_append_right _ (List.mem_map_of_mem hg)

theorem bindMaterial {r : MaterialRecord}
    (h : ∀ url, r.url = some url → FollowedAlike c load load' R url) :
    Related R (bindMaterial c load here r) (Load.bindMaterial c load' here r) := by
  refine .bind (.requiredUrl r.id r.url) fun url hgives => ?_
  have hurl : r.url = some url := eq_of_gives_requiredUrl hgives
  exact .bind (.find Libraries.materials (h url hurl)) fun _ _ => .pure _

theorem bindModifier {r : ModifierRecord}
    (h : ∀ url, r.url = some url → FollowedAlike c load load' R url) :
    Related R (bindModifier c load here r) (Load.bindModifier c load' here r) := by
  refine .bind (.requiredUrl r.id r.url) fun url hgives => ?_
  have hurl : r.url = some url := eq_of_gives_requiredUrl hgives
  exact .bind (.find Libraries.modifiers (h url hurl)) fun _ _ => .pure _

theorem bindScene {r : SceneRecord}
    (hnodes : ∀ n ∈ r.nodes, ∀ url ∈ n.url.toList ++ n.geometries.map GeometryLink.url,
      FollowedAlike c load load' R url)
    (hmaterials : ∀ m ∈ r.materials, ∀ url, m.url = some url → FollowedAlike c load load' R url)
    (hmodifiers : ∀ m ∈ r.modifiers, ∀ url, m.url = some url → FollowedAlike c load load' R url) :
    Related R (bindScene c load here r) (Load.bindScene c load' here r) := by
  refine .bind (.mapM fun n hn => .bindNode (hnodes n hn)) fun nodes _ => ?_
  refine .bind (.mapM fun m hm => .bindMaterial (hmaterials m hm)) fun materials _ => ?_
  exact .bind (.mapM fun m hm => .bindModifier (hmodifiers m hm)) fun modifiers _ => .pure _

/-- **A document is bound alike if its eager references are followed alike.** The states must agree
on the supporting documents, which are part of the document. -/
theorem bindDocument {r : DocumentRecord} (hR : ∀ s t, R s t → s.supporting = t.supporting)
    (h : ∀ url ∈ r.eagerReferences, FollowedAlike c load load' R url) :
    Related R (bindDocument c load path r) (Load.bindDocument c load' path r) := by
  refine .bind (.mapM fun g hg => .bindGeometry fun url hurl =>
    h url (mem_eagerReferences.2 (.inl ⟨g, hg, hurl⟩))) fun geometries _ => ?_
  have hscene := @bindScene R c load load' (.ofRecord r (.ofList geometries)) r.scene
    (fun n hn url hurl => h url (mem_eagerReferences.2 (.inr (.inl ⟨n, hn, hurl⟩))))
    (fun m hm url hurl => h url (mem_eagerReferences.2 (.inr (.inr (.inl ⟨m, hm, hurl⟩)))))
    (fun m hm url hurl => h url (mem_eagerReferences.2 (.inr (.inr (.inr ⟨m, hm, hurl⟩)))))
  refine .bind hscene fun scene _ => ?_
  intro s t hst
  exact ⟨congrArg Except.ok (by rw [hR s t hst]), hst⟩

end Related

/-! ### Following a reference -/

section Find

variable {α : Type} [Identified α] {here : Libraries} {select : Libraries → Library α}
  {url : String} {u : Reference} {s : LoadState} {asset : α}

/-- A reference that names an asset is followed in two steps: to the libraries, and in them. -/
theorem find_of_hasAsset (hu : Reference.parse? url = some u) (hasset : u.hasAsset = true) :
    find c load here select url =
      (if u.isExternal then document c load u.filePath else pure here) >>= fun libraries =>
        match (select libraries).find? u.assetId with
        | some x => return x
        | none => throw (.referenceNotFound url) := by
  unfold find
  simp only [hu, hasset]
  cases u.isExternal with
  | true => rfl
  | false => rfl

/-- **What a reference leads to**: the asset of its id in the libraries at hand or, if it has a file
path, in those of the file. -/
theorem answer_find_eq_ok_iff : answer (find c load here select url) s = .ok asset ↔
    ∃ u, Reference.parse? url = some u ∧ u.hasAsset = true ∧
      ∃ libraries, (if u.isExternal then answer (document c load u.filePath) s = .ok libraries
        else libraries = here) ∧ (select libraries).find? u.assetId = some asset := by
  cases hu : Reference.parse? url with
  | none =>
    unfold find
    simp only [hu]
    exact ⟨nofun, nofun⟩
  | some u =>
    cases hasset : u.hasAsset with
    | false =>
      unfold find
      simp only [hu, hasset]
      constructor
      · exact nofun
      · rintro ⟨u', hu', hasset', -⟩
        obtain rfl := Option.some.inj hu'
        exact absurd hasset' (by simp [hasset])
    | true =>
      have hlast : ∀ libraries t, answer (match (select libraries).find? u.assetId with
          | some x => return x
          | none => throw (.referenceNotFound url) : Load α) t = .ok asset ↔
          (select libraries).find? u.assetId = some asset := by
        intro libraries t
        cases (select libraries).find? u.assetId with
        | none => exact ⟨nofun, nofun⟩
        | some y =>
          exact ⟨fun h => congrArg some (Except.ok.inj h),
            fun h => congrArg Except.ok (Option.some.inj h)⟩
      rw [find_of_hasAsset hu hasset, answer_bind_eq_ok_iff]
      simp only [hlast, Option.some.injEq, exists_eq_left', hasset, true_and]
      cases u.isExternal with
      | true => rfl
      | false =>
        simp only [Bool.false_eq_true, if_false]
        refine exists_congr fun libraries => and_congr_left fun _ => ?_
        exact ⟨fun h => (Except.ok.inj h).symm, fun h => congrArg Except.ok h.symm⟩

end Find

end Binding

end Load

end RiggedScene
