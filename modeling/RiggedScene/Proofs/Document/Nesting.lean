import RiggedScene.Proofs.Document.Bound
import RiggedScene.Proofs.Document.LookUp
import Mathlib.Data.Finset.Card
import Mathlib.Data.Finset.SDiff
import Mathlib.Data.Finset.Dedup

/-!
# Nested loads

A document is loaded within the nest of the files that are being loaded. Each nested load adds an
eager file of the source that is not in the nest yet, so there is `ContentRoot.room` for finitely
many. Loading ends for that reason: the bound on its depth is never reached.

* `Load.guardedFile` loads like `Load.file`, but hands over to another load where its depth ends and
  within a nest that has a file in it twice;
* `Load.Related.guardedFile` : there is nothing to hand over while there is depth for the room left;
* `Load.Related.file_of_room` : deep enough loads do not depend on their bounds;
* `Load.timeless_file` : what was read before does not matter.
-/

namespace RiggedScene

/-! ### What a source refers to -/

namespace AssetSource

theorem mem_contents_of_read {source : AssetSource} {path : Path} {bytes : List UInt8}
    (h : source.read path = .ok bytes) : bytes ∈ source.contents := by
  cases source with
  | memory store =>
    change store.read path = _ at h
    unfold Store.read Store.contents? at h
    cases hfind : store.files.find? fun f => path.same f.1 with
    | none => simp [hfind] at h
    | some f =>
      simp only [hfind, Option.map_some, Except.ok.injEq] at h
      exact h ▸ List.mem_map_of_mem (List.mem_of_find?_eq_some hfind)
  | disk disk =>
    change disk.read path = _ at h
    unfold Disk.read Disk.readAt at h
    cases hplace : disk.locate? (disk.repaired path) with
    | none => simp [hplace] at h
    | some p =>
      cases hlookup : disk.files.lookup p with
      | none => simp [hplace, hlookup] at h
      | some found =>
        simp only [hplace, hlookup, Except.ok.injEq] at h
        obtain ⟨before, behind, hfiles, -⟩ := List.lookup_eq_some_iff.1 hlookup
        refine h ▸ List.mem_map_of_mem (f := Prod.snd) (a := (p, found)) ?_
        simp [hfiles]

theorem mem_eagerFiles {source : AssetSource} {path : Path} {bytes : List UInt8} {t : String}
    {r : DocumentRecord} {file : String} (hread : source.read path = .ok bytes)
    (hdecode : decodeText bytes = .ok t) (hparse : DocumentRecord.parse? t = some r)
    (hfile : file ∈ r.eagerFiles) : file ∈ source.eagerFiles := by
  refine List.mem_flatMap.2 ⟨bytes, mem_contents_of_read hread, ?_⟩
  simpa [hdecode, hparse] using hfile

end AssetSource

namespace Load

variable {c : ContentRoot} {load load' : Path → Load Document} {k : Nat} {L : List String}

/-! ### One load -/

theorem eq_of_gives_readText {I : LoadState → Prop} {source : AssetSource} {path : Path}
    {t : String} (h : Gives I (readText source path) t) :
    ∃ bytes, source.read path = .ok bytes ∧ decodeText bytes = .ok t := by
  obtain ⟨s, -, hanswer⟩ := h
  unfold readText at hanswer
  cases hread : source.read path with
  | error e =>
    rw [hread] at hanswer
    cases hanswer
  | ok bytes =>
    rw [hread] at hanswer
    cases hdecode : decodeText bytes with
    | error e =>
      simp only [hdecode] at hanswer
      cases hanswer
    | ok u =>
      simp only [hdecode] at hanswer
      cases hanswer
      exact ⟨bytes, rfl, hdecode⟩

namespace Related

theorem readText (source : AssetSource) (path : Path) :
    Related (LoadState.Later k L) (readText source path) (Load.readText source path) := by
  rintro s t ⟨rfl, rfl⟩
  unfold Load.readText
  cases source.read path with
  | error e => exact ⟨rfl, rfl, rfl⟩
  | ok bytes =>
    have hreads : s.reads + 1 + k = s.reads + k + 1 := by omega
    cases hdecode : decodeText bytes with
    | error e =>
      simp only [hdecode]
      exact ⟨rfl, rfl, congrArg (LoadState.mk · s.loading s.supporting) hreads.symm⟩
    | ok u =>
      simp only [hdecode]
      exact ⟨rfl, rfl, congrArg (LoadState.mk · s.loading s.supporting) hreads.symm⟩

/-- A text is read alike if its eager files are looked up alike. -/
theorem text {R : LoadState → LoadState → Prop} {path : Path} {t : String}
    (hR : ∀ s t, R s t → s.supporting = t.supporting)
    (h : ∀ r, DocumentRecord.parse? t = some r → ∀ file ∈ r.eagerFiles,
      Related R (Load.document c load file) (Load.document c load' file)) :
    Related R (text c load path t) (Load.text c load' path t) := by
  unfold Load.text
  cases hparse : DocumentRecord.parse? t with
  | none => exact .throw _
  | some r =>
    refine .bindDocument hR fun url hurl u hu hexternal => ?_
    exact h r hparse u.filePath (Load.mem_eagerFiles hurl hu hexternal)

/-- **A document is loaded alike if the eager files that the nest has no room for yet are.** -/
theorem load_text {path : Path} (h : ∀ file ∈ c.source.eagerFiles, file ∉ L →
    Related (LoadState.Later k (file :: L)) (load (c.filePath file)) (load' (c.filePath file))) :
    Related (LoadState.Later k L)
      (do let t ← Load.readText c.source path; Load.text c load path t)
      (do let t ← Load.readText c.source path; Load.text c load' path t) := by
  refine .bind (.readText c.source path) fun t hgives => ?_
  obtain ⟨bytes, hread, hdecode⟩ := eq_of_gives_readText hgives
  refine .text (fun s t hst => by rw [hst.2]) fun r hparse file hfile => ?_
  exact .document (h file (AssetSource.mem_eagerFiles hread hdecode hparse hfile))

/-- A load does not depend on what was read before, and takes back what it adds to the nest. -/
theorem file (depth : Nat) (path : Path) :
    Related (LoadState.Later k L) (file c depth path) (Load.file c depth path) := by
  induction depth generalizing path L with
  | zero => exact .throw _
  | succ depth ih => exact .load_text fun file _ _ => ih (c.filePath file)

end Related

theorem timeless_file (depth : Nat) (L : List String) : Timeless c (file c depth) L :=
  fun _ file => .file depth (c.filePath file)

/-! ### What a load gives -/

theorem after_readText (source : AssetSource) (path : Path) (s : LoadState) :
    ∃ k, after (readText source path) s = { s with reads := s.reads + k } := by
  unfold after readText
  cases source.read path with
  | error e => exact ⟨0, rfl⟩
  | ok bytes =>
    cases hdecode : decodeText bytes with
    | error e =>
      simp only [hdecode]
      exact ⟨1, rfl⟩
    | ok t =>
      simp only [hdecode]
      exact ⟨1, rfl⟩

theorem keeps_readText (path : Path) : Keeps (Consistent c load L) (readText c.source path) := by
  intro s hs
  obtain ⟨k, hk⟩ := after_readText c.source path s
  rw [hk]
  exact ⟨hs.loading, hs.lookup⟩

theorem keeps_text (h : Timeless c load L) (path : Path) (t : String) :
    Keeps (Consistent c load L) (text c load path t) :=
  (Related.text (fun _ _ hst => congrArg LoadState.supporting hst.1) fun _ _ file _ =>
    (h.lookUpKeeps file).related).keeps

theorem keeps_file (depth : Nat) (path : Path) :
    Keeps (Consistent c (file c depth) L) (file c (depth + 1) path) :=
  (Related.bind (keeps_readText path).related fun t _ =>
    (keeps_text (timeless_file depth L) path t).related).keeps

theorem bound_of_gives_file {depth : Nat} {path : Path} {d : Document}
    (h : Gives (Consistent c (file c depth) L) (file c (depth + 1) path) d) :
    ∃ bytes t r, c.source.read path = .ok bytes ∧ decodeText bytes = .ok t ∧
      DocumentRecord.parse? t = some r ∧
      Bound (Consistent c (file c depth) L) c (file c depth) path r d := by
  obtain ⟨t, ht, hd⟩ := h.of_bind (keeps_readText path)
  obtain ⟨bytes, hread, hdecode⟩ := eq_of_gives_readText ht
  obtain ⟨r, hparse, hbound⟩ := bound_of_gives_text (timeless_file depth L).lookUpKeeps hd
  exact ⟨bytes, t, r, hread, hdecode, hparse, hbound⟩

/-! ### Room in a nest -/

end Load

namespace ContentRoot

variable (c : ContentRoot)

/-- The number of eager files of the source that are not in the nest. -/
def room (L : List String) : Nat := (c.source.eagerFiles.toFinset \ L.toFinset).card

variable {c} {L : List String}

theorem room_cons_lt {file : String} (hfile : file ∈ c.source.eagerFiles) (hmem : file ∉ L) :
    c.room (file :: L) < c.room L := by
  refine Finset.card_lt_card (Finset.ssubset_iff_of_subset ?_ |>.2 ⟨file, ?_, ?_⟩)
  · exact Finset.sdiff_subset_sdiff subset_rfl (by simp)
  · simp [hfile, hmem]
  · simp

theorem room_le (c : ContentRoot) (L : List String) : c.room L ≤ c.source.eagerFiles.toFinset.card :=
  Finset.card_le_card Finset.sdiff_subset

theorem card_eagerFiles_lt_nesting (c : ContentRoot) :
    c.source.eagerFiles.toFinset.card + 1 < c.nesting := by
  have hcard := List.toFinset_card_le c.source.eagerFiles
  rw [c.nesting_eq, AssetSource.nesting]
  omega

end ContentRoot

namespace Load

variable {c : ContentRoot} {k : Nat} {L : List String}

/-- Loads like `Load.file`, but hands over to another load where its depth ends and within a nest
that has a file in it twice. -/
def guardedFile (c : ContentRoot) (other : Path → Load Document) : Nat → Path → Load Document
  | 0, path => other path
  | depth + 1, path => fun s =>
    if s.loading.Nodup then
      (do let t ← readText c.source path; text c (guardedFile c other depth) path t : Load Document) s
    else other path s

namespace Related

theorem ite_nodup {α : Type} {x y z : Load α} (hnodup : L.Nodup)
    (h : Related (LoadState.Later k L) x y) :
    Related (LoadState.Later k L) x (fun s => if s.loading.Nodup then y s else z s) := by
  rintro s t ⟨rfl, rfl⟩
  unfold answer after
  dsimp only
  rw [if_pos hnodup]
  exact h s _ ⟨rfl, rfl⟩

/-- **A nest has no file twice, and a load ends in the room that is left.** -/
theorem guardedFile (other : Path → Load Document) {depth depth' : Nat} (hnodup : L.Nodup)
    (hroom : c.room L < depth) (hroom' : c.room L < depth') (path : Path) :
    Related (LoadState.Later k L) (Load.file c depth path)
      (guardedFile c other depth' path) := by
  induction depth' generalizing depth path L with
  | zero => omega
  | succ depth' ih =>
    cases depth with
    | zero => omega
    | succ depth =>
      refine .ite_nodup hnodup (.load_text fun file hfile hmem => ?_)
      have hlt := ContentRoot.room_cons_lt hfile hmem
      exact ih (List.nodup_cons.2 ⟨hmem, hnodup⟩) (by omega) (by omega) (c.filePath file)

/-- Deep enough loads do not depend on their bounds. -/
theorem file_of_room {depth depth' : Nat} (hnodup : L.Nodup)
    (hroom : c.room L < depth) (hroom' : c.room L < depth') (path : Path) :
    Related (LoadState.Later k L) (Load.file c depth path) (Load.file c depth' path) := by
  intro s t hst
  have htt : LoadState.Later 0 L t t := ⟨by rw [hst.2, ← hst.1], rfl⟩
  obtain ⟨hanswer, hafter⟩ := guardedFile (Load.file c 0) hnodup hroom hroom' path s t hst
  obtain ⟨hanswer', hafter'⟩ := guardedFile (Load.file c 0) hnodup hroom' hroom' path t t htt
  rw [hanswer', ← hafter'.eq_of_zero]
  exact ⟨hanswer, hafter⟩

end Related

end Load

/-! ### Small files -/

/-- The bytes of a document with this field. -/
def documentBytes (field : String) : List UInt8 :=
  ("\x7b\"asset_info\":\x7b\"id\":\"\"\x7d," ++ field ++ "\x7d").toList.map fun ch => ch.toNat.toUInt8

/-- A document with an instance of the modifier at a reference. -/
def sceneBytes (url : String) : List UInt8 :=
  documentBytes ("\"scene\":\x7b\"modifiers\":[\x7b\"id\":\"\",\"url\":\"" ++ url ++ "\"\x7d]\x7d")

/-- A document with the modifier `m`. -/
def libraryBytes : List UInt8 := documentBytes "\"modifier_library\":[\x7b\"id\":\"m\"\x7d]"

/-- A document whose scene refers to another one. -/
def pairRoot (other : List UInt8) : ContentRoot :=
  .of ⟨"/l"⟩ (.memory ((Store.empty.insert ⟨"/l/a"⟩ (sceneBytes "b#m")).insert ⟨"/l/b"⟩ other))

end RiggedScene
