import RiggedScene.Proofs.Document.Recall
import RiggedScene.Proofs.Document.Visits

/-!
# Files that are opened

A document remembers the files that it has looked up by the text of the reference, while the file
that is read is found by what is left of the text without slashes in front. So one file can be
opened under several texts; and a file that cannot be loaded is not remembered at all.

* `Load.opened` lists the look-ups that read, and `Load.mem_opened` tells which ones do;
* `Load.opened_pairwise_iff` : when no place is opened twice;
* `Origin.load_lookUps` and `ContentRoot.afterQueries_eq` : a document that is loaded and asked
  looks files up and does nothing else;
* `ContentRoot.opened_once_iff` says when a document opens each file once, whatever it is asked for;
* `ContentRoot.exists_opened_twice` : a slash in front is enough for a file to be read twice.
-/

namespace RiggedScene

namespace Load

variable {c : ContentRoot} {load : Path → Load Document}

/-! ### Look-ups that read -/

section Opened

variable (c load)

/-- The look-ups that read, of those that are made one after another. Each of them reads its own
file first, and what is nested in it afterwards. -/
def opened : List String → LoadState → List String
  | [], _ => []
  | file :: files, s =>
    let t := after (document c load file) s
    if t.reads = s.reads then opened files t else file :: opened files t

/-- A file that a look-up within the nest `L` can read. -/
structure Readable (L : List String) (file : String) : Prop where
  directory : c.source.isDir c.directory = true
  free : file ∉ L
  read : ∃ bytes, c.source.read (c.filePath file) = .ok bytes

/-- Two file references lead to one place. -/
def SamePlace (file file' : String) : Prop := (c.filePath file).same (c.filePath file') = true

instance (c : ContentRoot) (file file' : String) : Decidable (SamePlace c file file') :=
  inferInstanceAs (Decidable (_ = true))

theorem SamePlace.symm {c : ContentRoot} {file file' : String} (h : SamePlace c file file') :
    SamePlace c file' file := by
  exact beq_iff_eq.2 (beq_iff_eq.1 h).symm

/-- Loads within the nest read their own file, if it can be read, and else nothing. -/
def ReadsOwn (L : List String) : Prop := ∀ file s, s.loading = file :: L →
  ((after (load (c.filePath file)) s).reads = s.reads ↔
    ¬ ∃ bytes, c.source.read (c.filePath file) = .ok bytes)

/-- No place is opened twice. -/
def OpensOnce (files : List String) (s : LoadState) : Prop :=
  (opened c load files s).Pairwise fun file file' => ¬ SamePlace c file file'

/-- References that lead to one place that can be read have one text, and can be loaded. -/
def OneText (L files : List String) : Prop :=
  files.Pairwise fun file file' => Readable c L file → Readable c L file' →
    SamePlace c file file' → file = file' ∧ (fresh c load L file).isOk = true

/-- Two references to one place that can be read have one text, which can be loaded, unless they are
remembered already. -/
def Agree (L : List String) (s : LoadState) (file file' : String) : Prop :=
  s.supporting.lookup file = none → s.supporting.lookup file' = none →
    Readable c L file → Readable c L file' → SamePlace c file file' →
      file = file' ∧ (fresh c load L file).isOk = true

end Opened

section Reads

variable {n : Nat}

theorem keeps_reads_document (h : ∀ path, Keeps (n ≤ ·.reads) (load path)) (file : String) :
    Keeps (n ≤ ·.reads) (document c load file) := by
  intro s hs
  unfold after
  rw [document_eq]
  split
  · exact hs
  · split
    · exact hs
    · split
      · exact hs
      · have hload : n ≤ (load (c.filePath file) (s.entering file)).2.reads :=
          h (c.filePath file) (s.entering file) hs
        split
        · next hd => exact (congrArg (n ≤ ·.2.reads) hd).mp hload
        · next he => exact (congrArg (n ≤ ·.2.reads) he).mp hload

theorem keeps_reads_text (h : ∀ path, Keeps (n ≤ ·.reads) (load path)) (path : Path)
    (text : String) : Keeps (n ≤ ·.reads) (Load.text c load path text) :=
  (Related.text (fun _ _ hst => congrArg LoadState.supporting hst.1) fun _ _ file _ =>
    (keeps_reads_document h file).related).keeps

theorem keeps_reads_file (depth : Nat) (path : Path) : Keeps (n ≤ ·.reads) (file c depth path) := by
  induction depth generalizing path with
  | zero => exact fun s hs => hs
  | succ depth ih =>
    have hread : Keeps (n ≤ ·.reads) (readText c.source path) := by
      intro s hs
      obtain ⟨k, hk⟩ := after_readText c.source path s
      rw [hk]
      exact Nat.le_add_right_of_le hs
    exact (Related.bind hread.related fun text _ => (keeps_reads_text ih path text).related).keeps

theorem readText_eq (source : AssetSource) (path : Path) (s : LoadState) :
    readText source path s =
      match source.read path with
      | .error e => (.error (.storage e), s)
      | .ok bytes =>
        match decodeText bytes with
        | .error e => (.error (.storage e), { s with reads := s.reads + 1 })
        | .ok text => (.ok text, { s with reads := s.reads + 1 }) := by
  unfold readText
  cases source.read path with
  | error e => rfl
  | ok bytes => cases hdecode : decodeText bytes <;> simp only [hdecode] <;> rfl

theorem readsOwn_file (c : ContentRoot) (depth : Nat) (L : List String) :
    ReadsOwn c (file c (depth + 1)) L := by
  intro file s _
  have hread := readText_eq c.source (c.filePath file) s
  let rest := text c (Load.file c depth) (c.filePath file)
  change ((readText c.source (c.filePath file) >>= rest) s).2.reads = s.reads ↔ _
  cases hfile : c.source.read (c.filePath file) with
  | error e =>
    rw [hfile] at hread
    rw [bind_apply_error hread]
    exact iff_of_true rfl (by simp)
  | ok bytes =>
    rw [hfile] at hread
    -- the file is read before it is decoded, and nothing takes that back
    refine iff_of_false ?_ (by simp)
    cases hdecode : decodeText bytes with
    | error e =>
      simp only [hdecode] at hread
      rw [bind_apply_error hread]
      exact Nat.succ_ne_self s.reads
    | ok t =>
      simp only [hdecode] at hread
      rw [bind_apply_ok hread]
      have hle : s.reads + 1 ≤ (rest t { s with reads := s.reads + 1 }).2.reads :=
        keeps_reads_text (keeps_reads_file depth) (c.filePath file) t
          { s with reads := s.reads + 1 } (Nat.le_refl (s.reads + 1))
      exact fun heq => Nat.not_succ_le_self s.reads (hle.trans heq.le)

end Reads

/-! ### One look-up -/

section LookUp

variable {L : List String} {s : LoadState} {f g : String} {files : List String}

/-- **A look-up reads** the file that is not remembered and can be read, and none else. -/
theorem reads_after_document (hown : ReadsOwn c load L) (hs : s.loading = L) :
    (after (document c load f) s).reads = s.reads ↔
      ¬ (s.supporting.lookup f = none ∧ Readable c L f) := by
  unfold after
  rw [document_eq]
  cases s.supporting.lookup f with
  | some libraries => simp
  | none =>
    dsimp only
    split
    · next hdir => exact iff_of_true rfl fun hread => by simp [hread.2.directory] at hdir
    · next hdir =>
      split
      · next hmem => exact iff_of_true rfl fun hread => hread.2.free (hs ▸ hmem)
      · next hmem =>
        have hload := hown f (s.entering f) (congrArg (f :: ·) hs)
        have hreadable : (none : Option Libraries) = none ∧ Readable c L f ↔
            ∃ bytes, c.source.read (c.filePath f) = .ok bytes :=
          ⟨fun h => h.2.read, fun h => ⟨rfl, by simpa using hdir, hs ▸ hmem, h⟩⟩
        rw [hreadable, ← hload]
        unfold after
        split
        · next hd => rw [hd]; rfl
        · next he => rw [he]; rfl

theorem supporting_after_document : (after (document c load f) s).supporting =
    match s.supporting.lookup f, answer (document c load f) s with
    | none, .ok libraries => s.supporting ++ [(f, libraries)]
    | _, _ => s.supporting := by
  unfold after answer
  rw [document_eq]
  cases s.supporting.lookup f with
  | some libraries => rfl
  | none =>
    dsimp only
    split
    · rfl
    · split
      · rfl
      · split <;> rfl

section Timeless

variable (htimeless : Timeless c load L)
include htimeless

theorem lookup_after_document_eq_none (hs : Consistent c load L s) :
    (after (document c load f) s).supporting.lookup g = none ↔
      s.supporting.lookup g = none ∧ ¬ (g = f ∧ (fresh c load L f).isOk = true) := by
  rw [supporting_after_document, hs.answer_document htimeless]
  cases hf : s.supporting.lookup f with
  | some libraries =>
    refine (and_iff_left_of_imp fun hnone hg => ?_).symm
    rw [hg.1, hf] at hnone
    cases hnone
  | none =>
    cases hfresh : fresh c load L f with
    | error e => simp [Except.isOk, Except.toBool]
    | ok libraries =>
      by_cases hg : g = f
      · simp [List.lookup_append, hg, Except.isOk, Except.toBool]
      · have hne : (g == f) = false := by simpa using hg
        simp [List.lookup_append, List.lookup_cons, hg, hne]

variable (hown : ReadsOwn c load L)
include hown

/-- **The look-ups that read** are those of files that are not remembered and can be read. -/
theorem mem_opened (hs : Consistent c load L s) : g ∈ opened c load files s ↔
    g ∈ files ∧ s.supporting.lookup g = none ∧ Readable c L g := by
  -- `Consistent` holds after every look-up, and what a look-up remembers is known exactly
  induction files generalizing s with
  | nil => simp [opened]
  | cons f files ih =>
    have hafter := ih (hs.after_document htimeless f)
    have hreads := reads_after_document (f := f) hown hs.loading
    rw [lookup_after_document_eq_none htimeless hs] at hafter
    simp only [opened]
    split
    · next hsame =>
      have hnot := hreads.1 hsame
      rw [hafter, List.mem_cons]
      by_cases hg : g = f
      · subst hg
        exact iff_of_false (fun h => hnot ⟨h.2.1.1, h.2.2⟩) fun h => hnot h.2
      · simp [hg]
    · next hne =>
      have hread := not_not.1 (hreads.not.1 hne)
      -- whether the file is read once more does not matter here
      rw [List.mem_cons, hafter, List.mem_cons]
      by_cases hg : g = f
      · subst hg
        exact iff_of_true (.inl rfl) ⟨.inl rfl, hread⟩
      · simp [hg]

omit hown in
theorem agree_after_of_not_read (hs : Consistent c load L s)
    (hnot : ¬ (s.supporting.lookup f = none ∧ Readable c L f)) {g' : String} :
    Agree c load L (after (document c load f) s) g g' ↔ Agree c load L s g g' := by
  simp only [Agree, lookup_after_document_eq_none htimeless hs]
  constructor
  · intro h hg hg' hread hread'
    refine h ⟨hg, ?_⟩ ⟨hg', ?_⟩ hread hread'
    · rintro ⟨rfl, -⟩
      exact hnot ⟨hg, hread⟩
    · rintro ⟨rfl, -⟩
      exact hnot ⟨hg', hread'⟩
  · exact fun h hg hg' => h hg.1 hg'.1

theorem forall_opened_iff (hs : Consistent c load L s) (hnone : s.supporting.lookup f = none)
    (hread : Readable c L f) :
    (∀ g ∈ opened c load files (after (document c load f) s), ¬ SamePlace c f g) ↔
      ∀ g ∈ files, Agree c load L s f g := by
  simp only [mem_opened htimeless hown (hs.after_document htimeless f),
    lookup_after_document_eq_none htimeless hs]
  constructor
  · intro h g hg _ hnone' _ hread' hplace
    by_contra hnot
    exact h g ⟨hg, ⟨hnone', fun heq => hnot ⟨heq.1.symm, heq.2⟩⟩, hread'⟩ hplace
  · rintro h g ⟨hg, ⟨hnone', hnot⟩, hread'⟩ hplace
    obtain ⟨heq, hok⟩ := h g hg hnone hnone' hread hread' hplace
    exact hnot ⟨heq.symm, hok⟩

omit hown in
theorem pairwise_agree_after_iff (hs : Consistent c load L s)
    (hnone : s.supporting.lookup f = none) (hread : Readable c L f)
    (hagree : ∀ g ∈ files, Agree c load L s f g) :
    files.Pairwise (Agree c load L (after (document c load f) s)) ↔
      files.Pairwise (Agree c load L s) := by
  constructor
  · intro h
    refine h.imp_of_mem fun {g g'} hg hg' hpair hnone₁ hnone₂ hread₁ hread₂ hplace => ?_
    simp only [Agree, lookup_after_document_eq_none htimeless hs] at hpair
    -- the pair is known to agree unless one of them is remembered now; then it is the text `f`,
    -- which agrees with both
    by_cases h₁ : g = f ∧ (fresh c load L f).isOk = true
    · obtain ⟨rfl, -⟩ := h₁
      exact hagree g' hg' hnone hnone₂ hread hread₂ hplace
    · by_cases h₂ : g' = f ∧ (fresh c load L f).isOk = true
      · obtain ⟨rfl, hok⟩ := h₂
        obtain ⟨rfl, -⟩ := hagree g hg hnone hnone₁ hread hread₁ hplace.symm
        exact ⟨rfl, hok⟩
      · exact hpair ⟨hnone₁, h₁⟩ ⟨hnone₂, h₂⟩ hread₁ hread₂ hplace
  · refine fun h => h.imp fun hpair => ?_
    simp only [Agree, lookup_after_document_eq_none htimeless hs]
    exact fun hg hg' => hpair hg.1 hg'.1

/-- **No place is opened twice** exactly if references to one place have one text and can be loaded,
apart from those that are remembered already. -/
theorem opened_pairwise_iff (hs : Consistent c load L s) :
    OpensOnce c load files s ↔ files.Pairwise (Agree c load L s) := by
  induction files generalizing s with
  | nil => exact iff_of_true .nil .nil
  | cons f files ih =>
    have hafter := ih (hs.after_document htimeless f)
    have hreads := reads_after_document (f := f) hown hs.loading
    unfold OpensOnce at hafter ⊢
    simp only [opened]
    rw [List.pairwise_cons]
    split
    · next hsame =>
      have hnot := hreads.1 hsame
      -- a file that is not read agrees with everything
      have hhead : ∀ g ∈ files, Agree c load L s f g :=
        fun g _ hf _ hread _ _ => absurd ⟨hf, hread⟩ hnot
      rw [hafter, and_iff_right hhead]
      exact List.Pairwise.iff fun g g' => agree_after_of_not_read htimeless hs hnot
    · next hne =>
      obtain ⟨hnone, hread⟩ := not_not.1 (hreads.not.1 hne)
      rw [List.pairwise_cons, hafter, forall_opened_iff htimeless hown hs hnone hread]
      exact and_congr_right fun hagree =>
        pairwise_agree_after_iff htimeless hs hnone hread hagree

end Timeless

end LookUp

theorem opensOnce_iff_oneText {L files : List String} (htimeless : Timeless c load L)
    (hown : ReadsOwn c load L) (reads : Nat) :
    OpensOnce c load files ⟨reads, L, []⟩ ↔ OneText c load L files := by
  rw [opened_pairwise_iff htimeless hown (consistent_start reads)]
  exact List.Pairwise.iff fun f g => by simp [Agree]

/-! ### Loads of different depth -/

section Depth

variable {depth depth' : Nat}

theorem document_file_eq (hdepth : c.source.eagerFiles.toFinset.card < depth)
    (hdepth' : c.source.eagerFiles.toFinset.card < depth') (file : String) {s : LoadState}
    (hs : s.loading = []) :
    document c (Load.file c depth) file s = document c (Load.file c depth') file s := by
  have hroom := c.room_le [file]
  have h : Related (LoadState.Later 0 []) (document c (Load.file c depth) file)
      (document c (Load.file c depth') file) := .document fun _ =>
    .file_of_room (List.nodup_singleton file) (by omega) (by omega) (c.filePath file)
  exact Related.apply_eq (hs ▸ h)

theorem lookUps_file_eq (hdepth : c.source.eagerFiles.toFinset.card < depth)
    (hdepth' : c.source.eagerFiles.toFinset.card < depth') (files : List String) {s : LoadState}
    (hs : s.loading = []) :
    lookUps c (file c depth) files s = lookUps c (file c depth') files s := by
  induction files generalizing s with
  | nil => rfl
  | cons f files ih =>
    have hsame : after (document c (file c depth) f) s = after (document c (file c depth') f) s :=
      congrArg Prod.snd (document_file_eq hdepth hdepth' f hs)
    have hloading : (after (document c (file c depth) f) s).loading = [] :=
      (Related.document (fun _ => timeless_file depth [] 0 f) s s ⟨hs, rfl⟩).2.1
    change lookUps c (file c depth) files (after _ s) = lookUps c (file c depth') files (after _ s)
    rw [← hsame]
    exact ih hloading

end Depth

theorem file_lookUps {depth reads : Nat} {L : List String} {path : Path} {d : Document}
    {s : LoadState} (h : file c (depth + 1) path ⟨reads, L, []⟩ = (.ok d, s)) :
    ∃ r, (Origin.file path).record? c = some r ∧
      s = lookUps c (file c depth) (r.eagerReferences.filterMap fileOf?) ⟨reads + 1, L, []⟩ := by
  have hread := readText_eq c.source path ⟨reads, L, []⟩
  cases hfile : c.source.read path with
  | error e =>
    rw [hfile] at hread
    replace h := (bind_apply_error hread).symm.trans h
    cases h
  | ok bytes =>
    rw [hfile] at hread
    cases hdecode : decodeText bytes with
    | error e =>
      simp only [hdecode] at hread
      replace h := (bind_apply_error hread).symm.trans h
      cases h
    | ok t =>
      simp only [hdecode] at hread
      replace h := (bind_apply_ok hread).symm.trans h
      cases hparse : DocumentRecord.parse? t with
      | none =>
        simp only [text, hparse] at h
        cases h
      | some r =>
        refine ⟨r, by simp only [Origin.record?, hfile, hdecode, hparse], ?_⟩
        exact visits_text hparse _ _ _ h

end Load

namespace Origin

open Load

/-- How often the file of the document itself is read for it. -/
def ownReads : Origin → Nat
  | file _ => 1
  | text _ _ => 0

variable {c : ContentRoot} {o : Origin} {reads : Nat} {d : Document} {s : LoadState}

/-- **A document that is loaded has looked up its eager references in order.** -/
theorem load_lookUps (h : o.load c ⟨reads, [], []⟩ = (.ok d, s)) :
    ∃ r, o.record? c = some r ∧ s = lookUps c (Load.file c c.nesting)
      (r.eagerReferences.filterMap fileOf?) ⟨reads + o.ownReads, [], []⟩ := by
  have hnesting := c.card_eagerFiles_lt_nesting
  cases o with
  | file path =>
    obtain ⟨depth, hdepth⟩ : ∃ depth, c.nesting = depth + 1 := ⟨c.nesting - 1, by omega⟩
    replace h : Load.file c (depth + 1) path ⟨reads, [], []⟩ = (.ok d, s) := hdepth ▸ h
    obtain ⟨r, hrecord, hs⟩ := file_lookUps h
    exact ⟨r, hrecord, hs.trans (lookUps_file_eq (by omega) (by omega) _ rfl)⟩
  | text path t =>
    cases hparse : DocumentRecord.parse? t with
    | none =>
      simp only [load, ContentRoot.loadText, Load.text, hparse] at h
      cases h
    | some r =>
      refine ⟨r, hparse, ?_⟩
      exact (visits_text hparse _ _ _ h).trans (lookUps_file_eq (by omega) (by omega) _ rfl)

end Origin

namespace ContentRoot

open Load

variable {c : ContentRoot} {o : Origin} {d : Document} {s : LoadState}

/-- Asking a document looks files up and does nothing else. -/
theorem afterQueries_eq (queries : List Query) (s : LoadState) :
    c.afterQueries d queries s =
      lookUps c (file c c.nesting) ((queries.map Query.url).filterMap fileOf?) s := by
  induction queries generalizing s with
  | nil => rfl
  | cons q queries ih =>
    have hask : after (c.ask d q) s = lookUps c (file c c.nesting) (fileOf? q.url).toList s :=
      after_find q.kind.library q.url s
    change c.afterQueries d queries (after (c.ask d q) s) = _
    rw [ih, hask, ← lookUps_append, List.map_cons, List.filterMap_cons]
    cases fileOf? q.url <;> rfl

/-- **When a document opens each file once.** A document that is loaded and then asked looks up the
files of its eager references and of the questions, in this order, and opens no place twice exactly
if all references to a place that can be read have the same text, and if the file can be loaded
wherever it is referred to again. The same holds of a document that is loaded for another one. -/
theorem opened_once_iff {reads : Nat} (h : o.load c ⟨reads, [], []⟩ = (.ok d, s))
    (queries : List Query) :
    (∃ r, o.record? c = some r ∧
      let files := (r.eagerReferences ++ queries.map Query.url).filterMap fileOf?
      let start : LoadState := ⟨reads + o.ownReads, [], []⟩
      c.afterQueries d queries s = lookUps c (file c c.nesting) files start ∧
        (OpensOnce c (file c c.nesting) files start ↔ OneText c (file c c.nesting) [] files)) ∧
    ∀ depth L path reads d s, file c (depth + 2) path ⟨reads, L, []⟩ = (.ok d, s) →
      ∃ r, (Origin.file path).record? c = some r ∧
        let files := r.eagerReferences.filterMap fileOf?
        let start : LoadState := ⟨reads + 1, L, []⟩
        s = lookUps c (file c (depth + 1)) files start ∧
          (OpensOnce c (file c (depth + 1)) files start ↔
            OneText c (file c (depth + 1)) L files) := by
  have hnesting := c.card_eagerFiles_lt_nesting
  obtain ⟨depth, hdepth⟩ : ∃ depth, c.nesting = depth + 1 := ⟨c.nesting - 1, by omega⟩
  have hown : ReadsOwn c (file c c.nesting) [] := hdepth ▸ readsOwn_file c depth []
  -- the document itself may be loaded one level deeper than what is asked later, but all levels
  -- that are deep enough look files up alike
  constructor
  · obtain ⟨r, hrecord, hs⟩ := o.load_lookUps h
    refine ⟨r, hrecord, ?_, opensOnce_iff_oneText (timeless_file _ []) hown _⟩
    rw [afterQueries_eq, hs, List.filterMap_append, lookUps_append]
  · intro depth L path reads d s h
    obtain ⟨r, hrecord, hs⟩ := file_lookUps h
    exact ⟨r, hrecord, hs, opensOnce_iff_oneText (timeless_file _ L) (readsOwn_file c depth L) _⟩

/-- A document whose scene refers to a modifier of another one twice, and the other one. -/
def twiceRoot (url url' : String) : ContentRoot :=
  .of ⟨"/l"⟩ (.memory ((Store.empty.insert ⟨"/l/a"⟩ (documentBytes
    ("\"scene\":\x7b\"modifiers\":[\x7b\"id\":\"\",\"url\":\"" ++ url ++
      "\"\x7d,\x7b\"id\":\"\",\"url\":\"" ++ url' ++ "\"\x7d]\x7d"))).insert ⟨"/l/b"⟩
        libraryBytes))

/-- A document that writes its references alike, asked once more. -/
theorem opened_once_iff_twice : ∃ d s r,
    (Origin.file ⟨"/l/a"⟩).load (twiceRoot "b#m" "b#m") ⟨0, [], []⟩ = (.ok d, s) ∧
      (Origin.file ⟨"/l/a"⟩).record? (twiceRoot "b#m" "b#m") = some r ∧
      let files := (r.eagerReferences ++ ["b#m"]).filterMap fileOf?
      let load := file (twiceRoot "b#m" "b#m") (twiceRoot "b#m" "b#m").nesting
      (twiceRoot "b#m" "b#m").afterQueries d [⟨.modifier, "b#m"⟩] s =
          lookUps (twiceRoot "b#m" "b#m") load files ⟨1, [], []⟩ ∧
        (OpensOnce (twiceRoot "b#m" "b#m") load files ⟨1, [], []⟩ ↔
          OneText (twiceRoot "b#m" "b#m") load [] files) := by
  obtain ⟨d, h⟩ := exists_of_isOk
    (x := (Origin.file ⟨"/l/a"⟩).load (twiceRoot "b#m" "b#m")) (s := ⟨0, [], []⟩)
    (by decide +kernel)
  obtain ⟨r, hrecord, hopened⟩ := (opened_once_iff h [⟨.modifier, "b#m"⟩]).1
  exact ⟨d, _, r, h, hrecord, hopened⟩

/-- **A slash in front is enough** for a file to be read twice: `b` and `/b` are one place, and the
document ends up with two supporting documents for it. -/
theorem exists_opened_twice : ∃ c store d s r, c.source = .memory store ∧
    (Origin.file ⟨"/l/a"⟩).load c ⟨0, [], []⟩ = (.ok d, s) ∧
      (Origin.file ⟨"/l/a"⟩).record? c = some r ∧
      opened c (file c c.nesting) (r.eagerReferences.filterMap fileOf?) ⟨1, [], []⟩ = ["b", "/b"] ∧
      SamePlace c "b" "/b" ∧ s.reads = 3 ∧ d.supporting.map Prod.fst = ["b", "/b"] := by
  obtain ⟨d, s, h, hsupporting, hreads⟩ := exists_of_run
    (x := (Origin.file ⟨"/l/a"⟩).load (twiceRoot "b#m" "/b#m")) (s := ⟨0, [], []⟩)
    (g := fun d => d.supporting.map Prod.fst) (v := ["b", "/b"]) (n := 3)
    (by decide +kernel)
  have hfiles : ((Origin.file ⟨"/l/a"⟩).record? (twiceRoot "b#m" "/b#m")).map
      (fun r => r.eagerReferences.filterMap fileOf?) = some ["b", "/b"] := by decide +kernel
  obtain ⟨r, hrecord, hfiles⟩ := Option.map_eq_some_iff.1 hfiles
  refine ⟨_, _, d, s, r, rfl, h, hrecord, ?_, by decide +kernel, hreads, hsupporting⟩
  rw [hfiles]
  decide +kernel

/-- A file that cannot be loaded is read again whenever it is asked for. -/
example : opened (pairRoot []) (file (pairRoot []) (pairRoot []).nesting) ["b", "b"] .start =
    ["b", "b"] := by decide +kernel

end ContentRoot

end RiggedScene
