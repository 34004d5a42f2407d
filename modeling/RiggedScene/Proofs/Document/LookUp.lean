import RiggedScene.Proofs.Document.Related

/-!
# Looking files up

A file that a reference leads into is remembered after it is loaded. `Load.fresh` is the answer for
it without any memory, and a state is `Load.Consistent` if what it remembers are such answers.

* `Load.document_eq` : everything that a look-up can do;
* `Load.Related.document` : files are looked up alike if they are loaded alike;
* `Load.Consistent.answer_document` : what is remembered does not show in the answers;
* `Load.Consistent.after_document` : a look-up ends in a consistent state again.
-/

namespace RiggedScene

namespace LoadState

/-- The state in which a nested load begins. -/
def entering (s : LoadState) (file : String) : LoadState :=
  { s with loading := file :: s.loading, supporting := [] }

/-- The state after a nested load that ends in `t`. -/
def leaving (s t : LoadState) : LoadState :=
  { t with loading := t.loading.tail, supporting := s.supporting }

/-- Both states are within the nest `L`, and `t` differs from `s` by `k` more reads. -/
def Later (k : Nat) (L : List String) (s t : LoadState) : Prop :=
  s.loading = L ∧ t = { s with reads := s.reads + k }

theorem Later.eq_of_zero {L : List String} {s t : LoadState} (h : Later 0 L s t) : t = s := h.2

end LoadState

namespace Load

variable {c : ContentRoot} {load load' : Path → Load Document} {file : String} {k : Nat}
  {L : List String}

theorem Related.apply_eq {α : Type} {x y : Load α} {s : LoadState}
    (h : Related (LoadState.Later 0 s.loading) x y) : x s = y s := by
  obtain ⟨hanswer, hafter⟩ := h s s ⟨rfl, rfl⟩
  exact Prod.ext hanswer hafter.eq_of_zero.symm

/-! ### One look-up -/

theorem nested_of_ok {α : Type} {path : Path} {x : Load α} {s t : LoadState} {a : α}
    (h : x (s.entering file) = (.ok a, t)) : nested file path x s = (.ok a, s.leaving t) := by
  unfold nested
  rw [LoadState.entering] at h
  rw [h]
  rfl

theorem nested_of_error {α : Type} {path : Path} {x : Load α} {s t : LoadState} {e : Error}
    (h : x (s.entering file) = (.error e, t)) :
    nested file path x s = (.error (asReference file path e), s.leaving t) := by
  unfold nested
  rw [LoadState.entering] at h
  rw [h]
  rfl

/-- **A look-up**: the file is among the supporting documents, or it is loaded and put there. -/
theorem document_eq (file : String) (s : LoadState) : document c load file s =
    match s.supporting.lookup file with
    | some libraries => (.ok libraries, s)
    | none =>
      if c.source.isDir c.directory = false then (.error (.contentRootMissing c.directory), s)
      else if file ∈ s.loading then
        (.error (.referenceNotFound (file ++ " (circular reference)")), s)
      else
        match load (c.filePath file) (s.entering file) with
        | (.ok d, t) => (.ok d.libraries,
            { s.leaving t with supporting := s.supporting ++ [(file, d.libraries)] })
        | (.error e, t) => (.error (asReference file (c.filePath file) e), s.leaving t) := by
  unfold document
  rw [get_bind]
  dsimp only
  cases s.supporting.lookup file with
  | some libraries => rfl
  | none =>
    cases c.source.isDir c.directory with
    | false => rfl
    | true =>
      by_cases hmem : file ∈ s.loading
      · simp only [hmem]
        rfl
      · simp only [hmem]
        change (nested file (c.filePath file) (load (c.filePath file)) >>= _) s = _
        cases hload : load (c.filePath file) (s.entering file) with
        | mk r t =>
          cases r with
          | error e => exact bind_apply_error (nested_of_error hload)
          | ok d => exact bind_apply_ok (nested_of_ok hload)

/-- Files are looked up alike if they are loaded alike within the longer nest. -/
theorem Related.document
    (h : file ∉ L → Related (LoadState.Later k (file :: L))
      (load (c.filePath file)) (load' (c.filePath file))) :
    Related (LoadState.Later k L) (document c load file) (Load.document c load' file) := by
  rintro s t ⟨rfl, rfl⟩
  unfold answer after
  rw [document_eq, document_eq]
  dsimp only
  cases s.supporting.lookup file with
  | some libraries => exact ⟨rfl, rfl, rfl⟩
  | none =>
    dsimp only
    split
    · exact ⟨rfl, rfl, rfl⟩
    · split
      · exact ⟨rfl, rfl, rfl⟩
      · next hmem =>
        let t : LoadState := { s with reads := s.reads + k }
        obtain ⟨hanswer, hloading, hafter⟩ := h hmem (s.entering file) (t.entering file) ⟨rfl, rfl⟩
        change (load (c.filePath file) (s.entering file)).2.loading = _ at hloading
        unfold answer at hanswer
        unfold after at hafter
        cases hs : load (c.filePath file) (s.entering file) with
        | mk r s' =>
          cases ht : load' (c.filePath file) (t.entering file) with
          | mk r' t' =>
            rw [hs] at hanswer hafter hloading
            rw [ht] at hanswer hafter
            dsimp only at hanswer hafter hloading
            subst hanswer hafter
            cases r with
            | error e => exact ⟨rfl, congrArg List.tail hloading, rfl⟩
            | ok d => exact ⟨rfl, congrArg List.tail hloading, rfl⟩

theorem lookup_after_document {s : LoadState} {other : String} {libraries : Libraries}
    (h : (after (document c load file) s).supporting.lookup other = some libraries) :
    s.supporting.lookup other = some libraries ∨
      other = file ∧ answer (document c load file) s = .ok libraries := by
  unfold after at h
  unfold answer
  rw [document_eq] at h ⊢
  cases hlookup : s.supporting.lookup file with
  | some known => exact .inl (by simpa only [hlookup] using h)
  | none =>
    simp only [hlookup] at h ⊢
    split at h
    · exact .inl h
    · split at h
      · exact .inl h
      · next hdir hmem =>
        rw [if_neg hdir, if_neg hmem]
        split at h
        · next d t _ =>
          rw [List.lookup_append] at h
          cases hother : s.supporting.lookup other with
          | some known => exact .inl (by simpa [hother] using h)
          | none =>
            have hnew : List.lookup other [(file, d.libraries)] = some libraries := by
              simpa [hother] using h
            rw [List.lookup_cons] at hnew
            split at hnew
            · next heq => exact .inr ⟨eq_of_beq heq, congrArg Except.ok (Option.some.inj hnew)⟩
            · cases hnew
        · exact .inl h

theorem answer_document_of_lookup_eq_none {s : LoadState} (h : s.supporting.lookup file = none) :
    answer (document c load file) s = answer (document c load file) { s with supporting := [] } := by
  unfold answer
  rw [document_eq, document_eq, h]
  dsimp only [List.lookup_nil]
  split
  · rfl
  · split
    · rfl
    · have hentering : ({ s with supporting := [] } : LoadState).entering file = s.entering file :=
        rfl
      rw [hentering]
      rcases load (c.filePath file) (s.entering file) with ⟨_ | d, t⟩
      · rfl
      · rfl

/-! ### Answers without memory -/

section Memory

variable (c load L)

/-- The answer for a file within a nest when nothing is remembered. -/
def fresh (file : String) : Except Error Libraries := answer (document c load file) ⟨0, L, []⟩

variable {c load L} in
theorem fresh_eq_ok_iff {libraries : Libraries} : fresh c load L file = .ok libraries ↔
    c.source.isDir c.directory = true ∧ file ∉ L ∧
      ∃ d, answer (load (c.filePath file)) ⟨0, file :: L, []⟩ = .ok d ∧
        d.libraries = libraries := by
  rw [fresh, answer, document_eq]
  simp only [List.lookup_nil, LoadState.entering]
  cases c.source.isDir c.directory with
  | false => simp
  | true =>
    by_cases hmem : file ∈ L
    · simp [hmem]
    · simp only [hmem, answer]
      cases load (c.filePath file) ⟨0, file :: L, []⟩ with
      | mk r t =>
        cases r with
        | error e => simp
        | ok d => simp

/-- **What is remembered are the answers that a load would give.** -/
structure Consistent (s : LoadState) : Prop where
  loading : s.loading = L
  lookup : ∀ file libraries, s.supporting.lookup file = some libraries →
    fresh c load L file = .ok libraries

/-- Loads within a longer nest do not depend on what was read before. -/
def Timeless : Prop := ∀ k file, Related (LoadState.Later k (file :: L))
  (load (c.filePath file)) (load (c.filePath file))

variable {c load L}

theorem consistent_start (reads : Nat) : Consistent c load L ⟨reads, L, []⟩ :=
  ⟨rfl, fun _ _ h => nomatch h⟩

namespace Consistent

variable (htimeless : Timeless c load L) {s t : LoadState}
include htimeless

/-- **A look-up answers as if nothing were remembered.** -/
theorem answer_document (hs : Consistent c load L s) (file : String) :
    answer (document c load file) s = fresh c load L file := by
  cases hlookup : s.supporting.lookup file with
  | some libraries =>
    rw [hs.lookup file libraries hlookup, answer, document_eq, hlookup]
  | none =>
    rw [answer_document_of_lookup_eq_none hlookup]
    refine (Related.document (fun _ => htimeless s.reads file) ⟨0, L, []⟩ _ ⟨rfl, ?_⟩).1.symm
    rw [← hs.loading]
    simp

/-- A look-up remembers what it may. -/
theorem after_document (hs : Consistent c load L s) (file : String) :
    Consistent c load L (after (document c load file) s) where
  loading :=
    (Related.document (fun _ => htimeless 0 file) s s ⟨hs.loading, rfl⟩).2.1
  lookup other libraries hother := by
    obtain h | ⟨rfl, hanswer⟩ := lookup_after_document hother
    · exact hs.lookup other libraries h
    · rw [← hs.answer_document htimeless, hanswer]

end Consistent

theorem Timeless.lookUpKeeps (h : Timeless c load L) (file : String) :
    Keeps (Consistent c load L) (document c load file) :=
  fun _ hs => hs.after_document h file

theorem Timeless.related_document (h : Timeless c load L) (h' : Timeless c load' L)
    {file : String} (hfresh : fresh c load L file = fresh c load' L file) :
    Related (fun s t => Consistent c load L s ∧ Consistent c load' L t)
      (document c load file) (document c load' file) := by
  rintro s t ⟨hs, ht⟩
  refine ⟨?_, hs.after_document h file, ht.after_document h' file⟩
  rw [hs.answer_document h, ht.answer_document h', hfresh]

end Memory

end Load

end RiggedScene
