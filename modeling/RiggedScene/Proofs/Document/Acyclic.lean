import RiggedScene.Proofs.Document.Nesting
import Mathlib.Logic.Relation

/-!
# Cyclic references

Documents refer to each other by their eager references. The test on the nest compares references as
they are written and not the files they lead to, so a cycle is followed for a while before a
reference in it comes up again; but it does come up.

* `ContentRoot.Refers` : the graph of eager references between places;
* `Load.ends_of_answer` : below a document that is loaded the references end;
* `ContentRoot.load_bounded_acyclic` : a load from a store ends, takes back all that it puts on the nest, and
  gives a document only if no cycle can be reached from it.
-/

namespace RiggedScene

/-! ### The graph of eager references -/

namespace ContentRoot

/-- The document at `p` refers eagerly to the place of `q`. -/
def Refers (c : ContentRoot) (p q : Path) : Prop :=
  ∃ bytes t r, c.source.read p = .ok bytes ∧ decodeText bytes = .ok t ∧
    DocumentRecord.parse? t = some r ∧ ∃ file ∈ r.eagerFiles, q.same (c.filePath file) = true

/-- What can be reached below a path ends: it leads into no cycle. -/
abbrev Ends (c : ContentRoot) (p : Path) : Prop := Acc (Function.swap c.Refers) p

end ContentRoot

theorem Store.read_congr {store : Store} {p q : Path} {bytes : List UInt8}
    (h : p.same q = true) (hread : store.read p = .ok bytes) : store.read q = .ok bytes := by
  have hcomponents : p.components = q.components := eq_of_beq h
  have hcontents : store.contents? p = store.contents? q := by
    simp only [Store.contents?, Path.same, hcomponents]
  unfold Store.read at hread ⊢
  rw [← hcontents]
  split at hread
  · exact hread
  · cases hread

theorem not_of_acc {α : Type} {R : α → α → Prop} {a : α} (h : Acc R a) : ¬ R a a := by
  induction h with
  | intro a _ ih => exact fun haa => ih a haa haa

namespace ContentRoot.Ends

variable {c : ContentRoot} {p q : Path}

theorem congr {store : Store} (hc : c.source = .memory store) (h : p.same q = true)
    (hq : c.Ends q) : c.Ends p := by
  refine .intro p ?_
  rintro q' ⟨bytes, t, r, hread, hrest⟩
  rw [hc] at hread
  have hread' : c.source.read q = .ok bytes := hc ▸ Store.read_congr h hread
  exact hq.inv ⟨bytes, t, r, hread', hrest⟩

theorem of_reaches (hp : c.Ends p) (h : Relation.ReflTransGen c.Refers p q) : c.Ends q := by
  induction h with
  | refl => exact hp
  | tail _ hlast ih => exact ih.inv hlast

theorem not_cycle (hp : c.Ends p) : ¬ Relation.TransGen c.Refers p p :=
  fun hcycle => not_of_acc hp.transGen (Relation.transGen_swap.2 hcycle)

end ContentRoot.Ends

/-! ### Loaded documents -/

namespace Load

variable {c : ContentRoot} {load : Path → Load Document} {L : List String}

/-- **Below a document that is loaded the references end.** -/
theorem ends_of_answer {store : Store} (hc : c.source = .memory store) {depth : Nat} {path : Path}
    {reads : Nat} {d : Document} (h : answer (file c depth path) ⟨reads, L, []⟩ = .ok d) :
    c.Ends path := by
  induction depth generalizing path reads L d with
  | zero => cases h
  | succ depth ih =>
    obtain ⟨bytes, t, r, hread, hdecode, hparse, hbound⟩ :=
      bound_of_gives_file ⟨_, consistent_start reads, h⟩
    refine .intro path ?_
    rintro q ⟨bytes', t', r', hread', hdecode', hparse', file, hfile, hsame⟩
    obtain rfl : bytes = bytes' := by simpa [hread] using hread'
    obtain rfl : t = t' := by simpa [hdecode] using hdecode'
    obtain rfl : r = r' := by simpa [hparse] using hparse'
    obtain ⟨libraries, u, hu, hanswer⟩ := hbound.eagerFiles hfile
    rw [hu.answer_document (timeless_file depth L)] at hanswer
    obtain ⟨-, -, d', hd', -⟩ := fresh_eq_ok_iff.1 hanswer
    exact ContentRoot.Ends.congr hc hsame (ih hd')

end Load

namespace ContentRoot

/-- **A load from a store ends.** No file comes up twice in a nest and the nest holds at most as
many files as there are eager references to different files, so a load that is handed over to any
other in those cases never is. Every look-up takes its file from the nest again. A document is given
only if no cycle can be reached from it. -/
theorem load_bounded_acyclic (directory : Path) (store : Store) (path : Path) :
    let c : ContentRoot := .of directory (.memory store)
    (∀ other, Load.guardedFile c other (c.source.eagerFiles.toFinset.card + 1) path .start =
      c.load path .start) ∧
    (∀ depth file s, (Load.after (Load.document c (Load.file c depth) file) s).loading =
      s.loading) ∧
    (∀ d, Load.answer (c.load path) .start = .ok d →
      ¬ ∃ q, Relation.ReflTransGen c.Refers path q ∧ Relation.TransGen c.Refers q q) := by
  intro c
  refine ⟨fun other => ?_, fun depth file s => ?_, fun d hd => ?_⟩
  · have hnesting := c.card_eagerFiles_lt_nesting
    have hcard := c.room_le []
    refine (Load.Related.apply_eq ?_).symm
    exact .guardedFile other List.nodup_nil (by omega) (by omega) path
  · exact (Load.Related.document (fun _ => Load.timeless_file depth s.loading 0 file) s s
      ⟨rfl, rfl⟩).2.1
  · rintro ⟨q, hreach, hcycle⟩
    exact ((Load.ends_of_answer rfl hd).of_reaches hreach).not_cycle hcycle

theorem load_bounded_acyclic_pair :
    (∃ d, Load.answer ((pairRoot libraryBytes).load ⟨"/l/a"⟩) .start = .ok d) ∧
      ¬ ∃ q, Relation.ReflTransGen (pairRoot libraryBytes).Refers ⟨"/l/a"⟩ q ∧
        Relation.TransGen (pairRoot libraryBytes).Refers q q := by
  obtain ⟨d, hload⟩ := Load.exists_of_isOk (x := (pairRoot libraryBytes).load ⟨"/l/a"⟩)
    (s := .start) (by decide +kernel)
  have hd : Load.answer ((pairRoot libraryBytes).load ⟨"/l/a"⟩) .start = .ok d :=
    congrArg Prod.fst hload
  exact ⟨⟨d, hd⟩, (load_bounded_acyclic _ _ _).2.2 d hd⟩

/-- Two files that refer to each other. -/
example : (Load.answer ((pairRoot (sceneBytes "a#m")).load ⟨"/l/a"⟩) .start).isOk = false :=
  by decide +kernel

end ContentRoot

end RiggedScene
