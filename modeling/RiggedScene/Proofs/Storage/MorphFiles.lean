import RiggedScene.Storage.Source
import RiggedScene.Proofs.Text.Path
import Mathlib.Data.List.MinMax
import Mathlib.Order.WellFounded

/-!
# The morph files of a store

The directories of a store are there only as beginnings of its files. As long as no file lies below
another, each entry of a directory is either a file or a directory.

* `Store.mem_readDir_iff` : the entries of a directory are the next components of what lies below;
* `Store.descends_wellFounded` : the way down from any directory ends, since the components of an
  entry are one more than those of its directory;
* `AssetSource.morphFiles_eq` : the search goes through the entries of a directory in order, and into
  each that is a directory;
* `AssetSource.morphFiles_complete` : it finds the morph files below a directory, each once and in
  order, and nothing else.
-/

namespace RiggedScene

open RiggedScene.Path (Component Ascending)

namespace Store

variable {s : Store} {dir entry : Path} {entries : List Path} {cs : List Component}

/-- A file stands at a place. -/
def HasFile (s : Store) (cs : List Component) : Prop := ∃ f ∈ s.files, f.1.components = cs

/-- No file lies below another. -/
def PrefixFree (s : Store) : Prop :=
  ∀ f ∈ s.files, ∀ g ∈ s.files, f.1.components <+: g.1.components → f.1.components = g.1.components

instance (s : Store) : Decidable s.PrefixFree :=
  inferInstanceAs (Decidable (∀ f ∈ s.files, ∀ g ∈ s.files, _))

/-- A place below a directory, at any depth. -/
def Below (dir : Path) (cs : List Component) : Prop := dir.components <+: cs ∧ cs ≠ dir.components

theorem isDir_iff : s.isDir dir = true ↔ ∃ cs, s.HasFile cs ∧ Below dir cs := by
  simp only [isDir, List.any_eq_true, Bool.and_eq_true, Bool.not_eq_true', Path.isBelow_iff,
    ← Bool.not_eq_true, Path.same_iff, HasFile, Below]
  constructor
  · rintro ⟨f, hf, hne, hbelow⟩
    exact ⟨_, ⟨f, hf, rfl⟩, hbelow, hne⟩
  · rintro ⟨_, ⟨f, hf, rfl⟩, hbelow, hne⟩
    exact ⟨f, hf, hne, hbelow⟩

theorem HasFile.length_le (h : s.HasFile cs) : cs.length ≤ s.depth := by
  obtain ⟨f, hf, rfl⟩ := h
  rw [depth, ← List.foldr_eq_foldl]
  exact List.le_max_of_le' 0 (List.mem_map_of_mem hf) le_rfl

theorem Below.trans (h : Below dir entry.components) (h' : Below entry cs) : Below dir cs := by
  refine ⟨h.1.trans h'.1, fun heq => ?_⟩
  have hlength := h'.1.length_le
  rw [heq] at hlength
  exact h.2 (h.1.eq_of_length_le hlength).symm

theorem PrefixFree.eq {cs' : List Component} (hfree : s.PrefixFree) (h : s.HasFile cs)
    (h' : s.HasFile cs') (hbegins : cs <+: cs') : cs = cs' := by
  obtain ⟨f, hf, rfl⟩ := h
  obtain ⟨g, hg, rfl⟩ := h'
  exact hfree f hf g hg hbegins

/-! ### Entries of a directory -/

theorem readDir_of_isDir_false (h : s.isDir dir = false) :
    s.readDir dir = .error (.notFound dir) := by
  rw [readDir, h]
  rfl

theorem isDir_of_readDir (h : s.readDir dir = .ok entries) : s.isDir dir = true := by
  by_contra hdir
  rw [readDir_of_isDir_false (Bool.eq_false_iff.2 hdir)] at h
  cases h

theorem isDir_of_readDir_error {e : StorageError} (h : s.readDir dir = .error e) :
    s.isDir dir = false := by
  refine Bool.eq_false_iff.2 fun hdir => ?_
  rw [readDir, if_pos hdir] at h
  cases h

theorem ascending_readDir (h : s.readDir dir = .ok entries) : Ascending entries := by
  rw [readDir, if_pos (isDir_of_readDir h)] at h
  obtain rfl := Except.ok.inj h
  exact Path.ascending_sorted _

/-- **The entries of a directory** are one component longer than it, and a file lies at each of them
or below. -/
theorem mem_readDir_iff (h : s.readDir dir = .ok entries) :
    cs ∈ entries.map Path.components ↔
      ∃ c cs', cs = dir.components ++ [c] ∧ cs <+: cs' ∧ s.HasFile cs' := by
  rw [readDir, if_pos (isDir_of_readDir h)] at h
  obtain rfl := Except.ok.inj h
  rw [Path.mem_map_sorted, List.map_map, List.mem_map]
  simp only [List.mem_filterMap, Function.comp_apply, Option.bind_eq_some_iff,
    Path.below?_eq_some_iff, List.head?_eq_some_iff]
  constructor
  · rintro ⟨c, ⟨f, hf, _, hbelow, rest, rfl⟩, rfl⟩
    have hbegins : dir.components ++ [c] <+: f.1.components := ⟨rest, by rw [hbelow]; simp⟩
    rw [Path.components_joinName_below hbegins]
    exact ⟨c, _, rfl, hbegins, f, hf, rfl⟩
  · rintro ⟨c, _, rfl, hbegins, f, hf, rfl⟩
    refine ⟨c, ?_, Path.components_joinName_below hbegins⟩
    obtain ⟨rest, hrest⟩ := hbegins
    exact ⟨f, hf, c :: rest, by rw [← hrest]; simp, rest, rfl⟩

theorem below_of_mem_readDir (h : s.readDir dir = .ok entries) (hentry : entry ∈ entries) :
    Below dir entry.components := by
  obtain ⟨c, -, hcs, -⟩ := (mem_readDir_iff h).1 (List.mem_map_of_mem hentry)
  rw [hcs]
  exact ⟨List.prefix_append _ _, by simp⟩

theorem hasFile_of_mem_readDir (h : s.readDir dir = .ok entries) (hentry : entry ∈ entries)
    (hdir : s.isDir entry = false) : s.HasFile entry.components := by
  obtain ⟨-, cs, -, hbegins, hfile⟩ := (mem_readDir_iff h).1 (List.mem_map_of_mem hentry)
  by_cases hcs : cs = entry.components
  · rwa [← hcs]
  · exact absurd (isDir_iff.2 ⟨cs, hfile, hbegins, hcs⟩) (Bool.eq_false_iff.1 hdir)

theorem exists_mem_readDir (h : s.readDir dir = .ok entries) (hfile : s.HasFile cs)
    (hbelow : Below dir cs) : ∃ entry ∈ entries, entry.components <+: cs := by
  obtain ⟨⟨rest, rfl⟩, hne⟩ := hbelow
  cases rest with
  | nil => exact absurd (List.append_nil _) hne
  | cons c rest =>
    have hbegins : dir.components ++ [c] <+: dir.components ++ c :: rest := ⟨rest, by simp⟩
    obtain ⟨entry, hentry, hcs⟩ :=
      List.mem_map.1 ((mem_readDir_iff h).2 ⟨c, _, rfl, hbegins, hfile⟩)
    exact ⟨entry, hentry, hcs ▸ hbegins⟩

/-- One directory is an entry of the other. -/
def Descends (s : Store) (dir entry : Path) : Prop :=
  ∃ entries, s.readDir dir = .ok entries ∧ entry ∈ entries ∧ s.isDir entry = true

theorem length_of_mem_readDir (h : s.readDir dir = .ok entries) (hentry : entry ∈ entries) :
    entry.components.length = dir.components.length + 1 := by
  obtain ⟨c, -, hcs, -⟩ := (mem_readDir_iff h).1 (List.mem_map_of_mem hentry)
  simp [hcs]

theorem length_lt_of_isDir (h : s.isDir dir = true) : dir.components.length < s.depth := by
  obtain ⟨cs, hfile, hbegins, hne⟩ := isDir_iff.1 h
  have hlt : dir.components.length < cs.length :=
    lt_of_le_of_ne hbegins.length_le fun heq => hne (hbegins.eq_of_length heq).symm
  exact hlt.trans_le hfile.length_le

/-- The way down from a directory ends. -/
theorem descends_wellFounded (s : Store) : WellFounded (Function.swap s.Descends) := by
  refine Subrelation.wf (r := InvImage (· < ·) fun dir => s.depth - dir.components.length) ?_
    (InvImage.wf _ Nat.lt_wfRel.wf)
  rintro entry dir ⟨entries, hentries, hentry, hdir⟩
  have hlength := length_of_mem_readDir hentries hentry
  have hlt := length_lt_of_isDir hdir
  show s.depth - entry.components.length < s.depth - dir.components.length
  omega

end Store

namespace AssetSource

open Store (HasFile Below)

variable {s : Store} {config : ImportConfig} {dir entry : Path} {entries : List Path}
  {cs : List Component}

/-! ### The search -/

theorem morphFilesWithin_of_not_isDir (fuel : Nat) (h : s.isDir dir = false) :
    (memory s).morphFilesWithin config fuel dir = [] := by
  cases fuel with
  | zero => rfl
  | succ fuel =>
    have hread : (memory s).readDir dir = .error (.notFound dir) := Store.readDir_of_isDir_false h
    rw [morphFilesWithin, hread]

theorem morphFilesWithin_congr {fuel fuel' : Nat}
    (h : s.depth ≤ fuel + dir.components.length) (h' : s.depth ≤ fuel' + dir.components.length) :
    (memory s).morphFilesWithin config fuel dir = (memory s).morphFilesWithin config fuel' dir := by
  induction fuel generalizing dir fuel' with
  | zero =>
    have hdir : s.isDir dir = false := Bool.eq_false_iff.2 fun hdir => by
      have hlt := Store.length_lt_of_isDir hdir
      omega
    rw [morphFilesWithin_of_not_isDir _ hdir, morphFilesWithin_of_not_isDir _ hdir]
  | succ fuel ih =>
    cases hread : s.readDir dir with
    | error e =>
      have hdir : s.isDir dir = false := Store.isDir_of_readDir_error hread
      rw [morphFilesWithin_of_not_isDir _ hdir, morphFilesWithin_of_not_isDir _ hdir]
    | ok entries =>
      have hlt := Store.length_lt_of_isDir (Store.isDir_of_readDir hread)
      obtain ⟨fuel', rfl⟩ : ∃ k, fuel' = k + 1 := ⟨fuel' - 1, by omega⟩
      have hread' : (memory s).readDir dir = .ok entries := hread
      simp only [morphFilesWithin, hread']
      refine List.flatMap_congr fun entry hentry => ?_
      have hlength := Store.length_of_mem_readDir hread hentry
      have hsame : (memory s).morphFilesWithin config fuel entry =
          (memory s).morphFilesWithin config fuel' entry := ih (by omega) (by omega)
      rw [hsame]

/-- What the search finds at an entry. -/
def foundAt (s : Store) (config : ImportConfig) (entry : Path) : List Path :=
  if s.isDir entry then (memory s).morphFiles config entry
  else if isMorphFile config entry then [entry]
  else []

/-- **The search goes through the entries of a directory in order**, and into each that is a
directory. -/
theorem morphFiles_eq (s : Store) (config : ImportConfig) (dir : Path) :
    (memory s).morphFiles config dir =
      match s.readDir dir with
      | .error _ => []
      | .ok entries => entries.flatMap (foundAt s config) := by
  have hdepth (dir : Path) : (memory s).morphFilesWithin config s.depth dir =
      (memory s).morphFiles config dir :=
    morphFilesWithin_congr (Nat.le_add_right ..) (by rw [depth]; omega)
  have hfound : foundAt s config = fun entry =>
      if s.isDir entry then (memory s).morphFilesWithin config s.depth entry
      else if isMorphFile config entry then [entry]
      else [] := funext fun entry => by rw [hdepth, foundAt]
  rw [hfound]
  rfl

theorem morphFiles_of_readDir (h : s.readDir dir = .ok entries) :
    (memory s).morphFiles config dir = entries.flatMap (foundAt s config) := by
  rw [morphFiles_eq, h]

theorem morphFiles_of_not_isDir (h : s.isDir dir = false) :
    (memory s).morphFiles config dir = [] := by
  rw [morphFiles_eq, Store.readDir_of_isDir_false h]

/-! ### What is found -/

/-- The place has the name of a morph file that is not left out. -/
def HasMorphName (config : ImportConfig) (cs : List Component) : Prop :=
  ∃ name, cs.getLast? = some (.normal name) ∧ ".dsf".toList <:+ name.toList ∧
    ∀ part ∈ config.morphExclude, ¬ part.toList <:+: name.toList

theorem isMorphFile_iff :
    isMorphFile config entry = true ↔ HasMorphName config entry.components := by
  unfold isMorphFile HasMorphName Path.fileName?
  cases entry.components.getLast? with
  | none => simp
  | some c =>
    cases c with
    | normal name =>
      simp [Split.endsWith_iff, ImportConfig.isExcludedMorph, Split.contains_iff, morphFileEnding]
    | root | current | parent => simp

theorem mem_foundAt_of_isDir_false (h : s.isDir entry = false) :
    cs ∈ (foundAt s config entry).map Path.components ↔
      cs = entry.components ∧ HasMorphName config cs := by
  rw [foundAt, h, if_neg Bool.false_ne_true]
  split
  · next hmorph =>
    rw [List.map_singleton, List.mem_singleton, iff_self_and]
    rintro rfl
    exact isMorphFile_iff.1 hmorph
  · next hmorph =>
    refine iff_of_false List.not_mem_nil ?_
    rintro ⟨rfl, hname⟩
    exact hmorph (isMorphFile_iff.2 hname)

/-- **The search finds the morph files below a directory, and nothing else.** -/
theorem mem_morphFiles_iff (hfree : s.PrefixFree) (dir : Path) :
    cs ∈ ((memory s).morphFiles config dir).map Path.components ↔
      s.HasFile cs ∧ Below dir cs ∧ HasMorphName config cs := by
  induction dir using s.descends_wellFounded.induction with
  | _ dir ih =>
  cases hread : s.readDir dir with
  | error e =>
    have hdir : s.isDir dir = false := Store.isDir_of_readDir_error hread
    rw [morphFiles_of_not_isDir hdir]
    refine iff_of_false List.not_mem_nil fun ⟨hfile, hbelow, _⟩ => ?_
    exact absurd (Store.isDir_iff.2 ⟨cs, hfile, hbelow⟩) (Bool.eq_false_iff.1 hdir)
  | ok entries =>
    rw [morphFiles_of_readDir hread, List.map_flatMap, List.mem_flatMap]
    constructor
    · rintro ⟨entry, hentry, hcs⟩
      have hbelow : Below dir entry.components := Store.below_of_mem_readDir hread hentry
      cases hdir : s.isDir entry with
      | true =>
        rw [foundAt, if_pos hdir] at hcs
        obtain ⟨hfile, hbelow', hname⟩ := (ih entry ⟨entries, hread, hentry, hdir⟩).1 hcs
        exact ⟨hfile, hbelow.trans hbelow', hname⟩
      | false =>
        obtain ⟨rfl, hname⟩ := (mem_foundAt_of_isDir_false hdir).1 hcs
        exact ⟨Store.hasFile_of_mem_readDir hread hentry hdir, hbelow, hname⟩
    · rintro ⟨hfile, hbelow, hname⟩
      obtain ⟨entry, hentry, hbegins⟩ := Store.exists_mem_readDir hread hfile hbelow
      refine ⟨entry, hentry, ?_⟩
      cases hdir : s.isDir entry with
      | true =>
        -- a directory is no file, so the file lies below it
        have hne : cs ≠ entry.components := by
          rintro rfl
          obtain ⟨cs', hfile', hbegins', hne'⟩ := Store.isDir_iff.1 hdir
          exact hne' (hfree.eq hfile hfile' hbegins').symm
        rw [foundAt, if_pos hdir]
        exact (ih entry ⟨entries, hread, hentry, hdir⟩).2 ⟨hfile, ⟨hbegins, hne⟩, hname⟩
      | false =>
        refine (mem_foundAt_of_isDir_false hdir).2 ⟨?_, hname⟩
        by_contra hne
        exact absurd (Store.isDir_iff.2 ⟨cs, hfile, hbegins, hne⟩) (Bool.eq_false_iff.1 hdir)

theorem begins_of_mem_foundAt (hfree : s.PrefixFree) {p : Path} (h : p ∈ foundAt s config entry) :
    entry.components <+: p.components := by
  cases hdir : s.isDir entry with
  | true =>
    rw [foundAt, if_pos hdir] at h
    exact ((mem_morphFiles_iff hfree entry).1 (List.mem_map_of_mem h)).2.1.1
  | false =>
    have hp : p.components ∈ (foundAt s config entry).map Path.components := List.mem_map_of_mem h
    exact ((mem_foundAt_of_isDir_false hdir).1 hp).1 ▸ List.prefix_rfl

/-- What is found is in order, each place once: the entries of a directory are, and so is what lies
below them. -/
theorem ascending_morphFiles (hfree : s.PrefixFree) (config : ImportConfig) (dir : Path) :
    Ascending ((memory s).morphFiles config dir) := by
  induction dir using s.descends_wellFounded.induction with
  | _ dir ih =>
  cases hread : s.readDir dir with
  | error e =>
    rw [morphFiles_of_not_isDir (Store.isDir_of_readDir_error hread)]
    exact .nil
  | ok entries =>
    rw [morphFiles_of_readDir hread]
    refine List.pairwise_flatMap.2 ⟨fun entry hentry => ?_, ?_⟩
    · unfold foundAt
      split
      · next hdir => exact ih entry ⟨entries, hread, hentry, hdir⟩
      · split
        · exact List.pairwise_singleton _ entry
        · exact .nil
    · refine (Store.ascending_readDir hread).imp_of_mem fun ha hb hlt p hp q hq => ?_
      obtain ⟨a, -, ha, -⟩ := (Store.mem_readDir_iff hread).1 (List.mem_map_of_mem ha)
      obtain ⟨b, -, hb, -⟩ := (Store.mem_readDir_iff hread).1 (List.mem_map_of_mem hb)
      exact Path.lt_of_entries hlt ha hb (begins_of_mem_foundAt hfree hp)
        (begins_of_mem_foundAt hfree hq)

/-- **The search for morph files is complete.** It ends for each directory, and goes through the
entries in order. Below a directory it finds the files that end like morph files and are not left
out, each once and in order of their paths, and nothing where there is no directory. -/
theorem morphFiles_complete (s : Store) (hfree : s.PrefixFree) (config : ImportConfig)
    (dir : Path) :
    WellFounded (Function.swap s.Descends) ∧
    ((memory s).morphFiles config dir =
      match s.readDir dir with
      | .error _ => []
      | .ok entries => entries.flatMap fun entry =>
          if s.isDir entry then (memory s).morphFiles config entry
          else if isMorphFile config entry then [entry]
          else []) ∧
    ((memory s).morphFiles config dir).Pairwise (fun p q => p.lt q = true) ∧
    (((memory s).morphFiles config dir).map Path.components).Nodup ∧
    (∀ cs, cs ∈ ((memory s).morphFiles config dir).map Path.components ↔
      s.HasFile cs ∧ Below dir cs ∧ HasMorphName config cs) ∧
    (s.isDir dir = false → (memory s).morphFiles config dir = []) :=
  ⟨s.descends_wellFounded, morphFiles_eq s config dir, ascending_morphFiles hfree config dir,
    (ascending_morphFiles hfree config dir).nodup, fun _ => mem_morphFiles_iff hfree dir,
    morphFiles_of_not_isDir⟩

/-- A store with morph files at two depths, one of which is left out. -/
def morphStore : Store :=
  ((Store.empty.insert ⟨"/c/morphs/smile.dsf"⟩ []).insert ⟨"/c/morphs/brow/frown.dsf"⟩ []).insert
    ⟨"/c/morphs/brow/CTRLRIG.dsf"⟩ []

/-- The frown is found, and the file beside it is not. -/
theorem morphFiles_complete_frown : morphStore.PrefixFree ∧
    (⟨"/c/morphs/brow/frown.dsf"⟩ : Path).components ∈
      ((memory morphStore).morphFiles .standard ⟨"/c/morphs"⟩).map Path.components ∧
    (⟨"/c/morphs/brow/CTRLRIG.dsf"⟩ : Path).components ∉
      ((memory morphStore).morphFiles .standard ⟨"/c/morphs"⟩).map Path.components ∧
    (memory morphStore).morphFiles .standard ⟨"/c/poses"⟩ = [] := by
  have hfree : morphStore.PrefixFree := by decide +kernel
  obtain ⟨-, -, -, -, hfound, -⟩ := morphFiles_complete morphStore hfree .standard ⟨"/c/morphs"⟩
  obtain ⟨-, -, -, -, -, habsent⟩ := morphFiles_complete morphStore hfree .standard ⟨"/c/poses"⟩
  refine ⟨hfree, (hfound _).2 ⟨?_, ?_, "frown.dsf", ?_⟩, fun hmem => ?_, habsent (by decide +kernel)⟩
  · exact ⟨(⟨"/c/morphs/brow/frown.dsf"⟩, []), by decide +kernel, rfl⟩
  · exact ⟨by decide +kernel, by decide +kernel⟩
  · decide +kernel
  · obtain ⟨-, -, name, hlast, -, hexcluded⟩ := (hfound _).1 hmem
    have hname : name = "CTRLRIG.dsf" := by
      have hlast' : (⟨"/c/morphs/brow/CTRLRIG.dsf"⟩ : Path).components.getLast? =
          some (.normal "CTRLRIG.dsf") := by decide +kernel
      exact Component.normal.inj (Option.some.inj (hlast.symm.trans hlast'))
    subst hname
    exact absurd (by decide +kernel) (hexcluded "CTRLRIG" (by decide +kernel))

end AssetSource

end RiggedScene
