import RiggedScene.Storage.Disk
import RiggedScene.Proofs.Text.Path
import Mathlib.Data.List.Forall2

/-!
# Repaired paths

A path whose names differ in case from those on the disk is repaired name by name, by looking the
entries of the directory up that the names before have led to. The first component is not looked up.

* `Path.Alike` : paths that differ in case at most;
* `Disk.mem_entriesAt_iff` and `Disk.follow_normal` : the entries of a directory are the names that
  lead on from it;
* `Disk.extend_found` : one name is repaired if an entry is like it, and `Disk.foldl_extend_found`
  all names one after another;
* `Disk.resolve_iff_head` : a path is repaired to the one on the disk exactly if the two begin with
  the same component.
-/

namespace RiggedScene

/-! ### Paths that differ in case -/

namespace Path

/-- The components differ in case at most. -/
def Component.Alike : Component → Component → Prop
  | .normal m, .normal n => LowerCase.alike m n = true
  | a, b => a = b

/-- The paths have the same components but for case. -/
def Alike (p q : Path) : Prop := List.Forall₂ Component.Alike p.components q.components

theorem Component.Alike.refl (c : Component) : c.Alike c := by
  cases c with
  | normal n => exact beq_self_eq_true _
  | root | current | parent => rfl

theorem Component.Alike.of_not_normal {a b : Component} (h : a.Alike b)
    (ha : ∀ n, a ≠ .normal n) : a = b := by
  cases a with
  | normal n => exact absurd rfl (ha n)
  | root | current | parent => exact h

end Path

namespace Disk

open RiggedScene.Path (Component)

variable {d : Disk} {p p' q : Place} {n m : String} {names : List String} {checked path : Path}
  {c c' : Component} {cs cs' : List Component}

/-! ### Entries -/

/-- The places that are known of a disk. -/
def places (d : Disk) : List Place := d.working :: d.directories ++ d.files.map Prod.fst

/-- All names on the disk are such that paths can hold them: not empty, without a slash, and neither
`.` nor `..`. -/
def Named (d : Disk) : Prop := ∀ p ∈ d.places, ∀ n ∈ p, (Component.normal n).Plain

/-- No two entries of a directory differ in case only. -/
def Unambiguous (d : Disk) : Prop :=
  ∀ p, ∀ m ∈ d.entriesAt p, ∀ n ∈ d.entriesAt p, LowerCase.alike m n = true → m = n

instance (d : Disk) : Decidable d.Named :=
  inferInstanceAs (Decidable (∀ p ∈ d.places, ∀ n ∈ p, (Component.normal n).Plain))

theorem leadsThrough_iff : leadsThrough p q = true ↔ q <+: p := by
  rw [leadsThrough, beq_iff_eq, List.prefix_iff_eq_take, eq_comm]

/-- A name is an entry of a directory if some place lies at or below it. -/
theorem mem_entriesAt_iff : n ∈ d.entriesAt p ↔ ∃ q ∈ d.places, p ++ [n] <+: q := by
  unfold entriesAt
  rw [List.mem_eraseDups, List.mem_filterMap]
  simp only [List.mem_filter, Bool.and_eq_true, decide_eq_true_eq, leadsThrough_iff]
  constructor
  · rintro ⟨q, ⟨hq, -, hbegins⟩, hn⟩
    obtain ⟨rest, rfl⟩ := hbegins
    refine ⟨_, hq, ?_⟩
    rw [List.getElem?_append_right le_rfl, Nat.sub_self] at hn
    obtain ⟨rest, rfl⟩ := List.head?_eq_some_iff.1 (List.head?_eq_getElem? .. ▸ hn)
    exact ⟨rest, by simp⟩
  · rintro ⟨q, hq, rest, rfl⟩
    exact ⟨_, ⟨hq, by simp, by simp⟩, by simp⟩

/-- The entries of a directory are the names that lead on from it. -/
theorem follow_normal (d : Disk) (p : Place) (n : String) : d.follow p (.normal n) =
    if d.isDirAt p = true ∧ n ∈ d.entriesAt p then some (p ++ [n]) else none := by
  have hentry : (d.isFileAt (p ++ [n]) || d.isDirAt (p ++ [n])) = true ↔ n ∈ d.entriesAt p := by
    rw [mem_entriesAt_iff]
    simp only [isFileAt, isDirAt, Bool.or_eq_true, List.any_eq_true, beq_iff_eq, Bool.and_eq_true,
      decide_eq_true_eq, leadsThrough_iff]
    constructor
    · rintro (⟨f, hf, heq⟩ | (hempty | ⟨q, hq, hbegins⟩) | ⟨f, hf, -, hbegins⟩)
      · exact ⟨f.1, List.mem_append_right _ (List.mem_map_of_mem hf), heq ▸ List.prefix_rfl⟩
      · simp at hempty
      · exact ⟨q, List.mem_append_left _ hq, hbegins⟩
      · exact ⟨f.1, List.mem_append_right _ (List.mem_map_of_mem hf), hbegins⟩
    · rintro ⟨q, hq, hbegins⟩
      rcases List.mem_append.1 hq with hq | hq
      · exact .inr (.inl (.inr ⟨q, hq, hbegins⟩))
      · obtain ⟨f, hf, rfl⟩ := List.mem_map.1 hq
        rcases hbegins.length_le.eq_or_lt with heq | hlt
        · exact .inl ⟨f, hf, (hbegins.eq_of_length heq).symm⟩
        · exact .inr (.inr ⟨f, hf, hlt, hbegins⟩)
  simp only [follow, Bool.and_eq_true, hentry]

theorem Named.plain (h : d.Named) (hn : n ∈ d.entriesAt p) : (Component.normal n).Plain := by
  obtain ⟨q, hq, hbegins⟩ := mem_entriesAt_iff.1 hn
  exact h q hq n (hbegins.subset (by simp))

theorem unambiguous_of_line (h : ∀ q ∈ d.places, q <+: p) : d.Unambiguous := by
  intro dir m hm n hn _
  obtain ⟨q, hq, hmq⟩ := mem_entriesAt_iff.1 hm
  obtain ⟨q', hq', hnq'⟩ := mem_entriesAt_iff.1 hn
  have hbegins : dir ++ [m] <+: dir ++ [n] :=
    List.prefix_of_prefix_length_le (hmq.trans (h q hq)) (hnq'.trans (h q' hq')) (by simp)
  simpa using hbegins.eq_of_length (by simp)

/-! ### Walks -/

theorem walk?_of_components {q : Path} (h : q.components = path.components ++ [c]) :
    d.walk? q = (d.walk? path).bind fun p => d.follow p c := by
  rw [walk?, walk?, h, List.foldlM_append]
  simp

theorem asksForDir_joinName (hchecked : checked.text ≠ "") (hc : c.Plain) :
    asksForDir (checked.joinName c.name) = false := by
  obtain ⟨front, htext, -⟩ := Path.exists_text_joinName hchecked hc
  obtain ⟨hslash, hname⟩ := hc
  have hend : c.name.toList = c.name.toList.reverse.reverse := (List.reverse_reverse _).symm
  unfold asksForDir
  rw [htext, List.reverse_append, List.reverse_cons]
  generalize c.name.toList.reverse = back at hend ⊢
  rw [hend] at hslash hname
  match back with
  | [] => cases hname
  | [x] =>
    split
    · next heq =>
      obtain rfl := (List.cons.inj heq).1
      simp at hslash
    · next heq =>
      obtain rfl := (List.cons.inj heq).1
      cases hname
    · rfl
  | x :: y :: back =>
    split
    · next heq =>
      obtain rfl := (List.cons.inj heq).1
      simp at hslash
    · next heq =>
      obtain rfl := (List.cons.inj (List.cons.inj heq).2).1
      simp at hslash
    · rfl

theorem exists?_joinName (hchecked : checked.text ≠ "") (hc : c.Plain) :
    d.exists? (checked.joinName c.name) = ((d.walk? checked).bind fun p => d.follow p c).isSome := by
  have hcomponents := Path.components_joinName hchecked hc
  have hempty : (checked.joinName c.name).text.isEmpty = false := by
    rw [String.isEmpty_eq_false_iff]
    refine mt Path.components_eq_nil_iff.2 ?_
    simp [hcomponents]
  rw [← walk?_of_components hcomponents, exists?, locate?, hempty, asksForDir_joinName hchecked hc]
  simp

/-! ### Corrections -/

theorem exists_foldl_of_choice {f : Option String → String → Option String}
    (hf : ∀ b n, f (some b) n = some n ∨ f (some b) n = some b) (names : List String) (n : String) :
    ∃ m ∈ n :: names, names.foldl f (some n) = some m := by
  induction names generalizing n with
  | nil => exact ⟨n, List.mem_singleton_self n, rfl⟩
  | cons n' names ih =>
    rw [List.foldl_cons]
    rcases hf n n' with hnext | hkept
    · obtain ⟨m, hm, hfold⟩ := ih n'
      exact ⟨m, List.mem_cons_of_mem n hm, by rw [hnext, hfold]⟩
    · obtain ⟨m, hm, hfold⟩ := ih n
      refine ⟨m, ?_, by rw [hkept, hfold]⟩
      rcases List.mem_cons.1 hm with rfl | hm
      · exact List.mem_cons_self
      · exact List.mem_cons_of_mem n (List.mem_cons_of_mem n' hm)

theorem least_cons (n : String) (names : List String) :
    ∃ m ∈ n :: names, least (n :: names) = some m := by
  unfold least
  rw [List.foldl_cons]
  refine exists_foldl_of_choice (fun b n => ?_) names n
  dsimp only
  split
  · exact .inl rfl
  · exact .inr rfl

theorem mem_of_least (h : least names = some n) : n ∈ names := by
  cases names with
  | nil => cases h
  | cons m names =>
    obtain ⟨n', hn', hleast⟩ := least_cons m names
    exact Option.some.inj (h.symm.trans hleast) ▸ hn'

theorem exists_least (h : n ∈ names) : ∃ m, least names = some m := by
  obtain ⟨m, names, rfl⟩ := List.exists_cons_of_ne_nil (List.ne_nil_of_mem h)
  obtain ⟨m', -, hleast⟩ := least_cons m names
  exact ⟨m', hleast⟩

theorem alike_iff : LowerCase.alike m n = true ↔
    LowerCase.ofChars m.toList = LowerCase.ofChars n.toList := beq_iff_eq

theorem of_correction? (h : d.correction? checked n = some m) :
    ∃ p, m ∈ d.entriesAt p ∧ LowerCase.alike n m = true := by
  unfold correction? at h
  split at h
  · cases h
  · next p _ =>
    split at h
    · obtain ⟨hm, halike⟩ := List.mem_filter.1 (mem_of_least h)
      exact ⟨p, hm, alike_iff.2 (alike_iff.1 halike).symm⟩
    · cases h

theorem correction?_eq (hcase : d.Unambiguous) (hchecked : checked.text ≠ "")
    (hwalk : d.walk? checked = some p) (hdir : d.isDirAt p = true) (hm : m ∈ d.entriesAt p)
    (halike : LowerCase.alike n m = true) : d.correction? checked n = some m := by
  have hlocate : d.locate? checked = some p := by
    have hempty : checked.text.isEmpty = false := by simpa using hchecked
    simp [locate?, hempty, hwalk, hdir]
  have hlike : LowerCase.alike m n = true := alike_iff.2 (alike_iff.1 halike).symm
  have hmem : m ∈ (d.entriesAt p).filter fun entry => LowerCase.alike entry n :=
    List.mem_filter.2 ⟨hm, hlike⟩
  obtain ⟨m', hleast⟩ := exists_least hmem
  obtain ⟨hm', hlike'⟩ := List.mem_filter.1 (mem_of_least hleast)
  have hsame : LowerCase.alike m' m = true :=
    alike_iff.2 ((alike_iff.1 hlike').trans (alike_iff.1 halike))
  obtain rfl := hcase p m' hm' m hm hsame
  simp only [correction?, hlocate, hdir, if_true, hleast]

/-! ### One component -/

theorem extend_of_not_normal (hc : ¬ ∃ n, c = .normal n) (d : Disk) (checked : Path) :
    d.extend checked c = checked.joinName c.name := by
  cases c with
  | normal n => exact absurd ⟨n, rfl⟩ hc
  | root | current | parent => rfl

theorem extend_alike (hnamed : d.Named) (hchecked : checked.text ≠ "") (hc : c.Plain) :
    ∃ c' : Component, c.Alike c' ∧ (d.extend checked c).components = checked.components ++ [c'] := by
  by_cases hnormal : ∃ n, c = .normal n
  · obtain ⟨n, rfl⟩ := hnormal
    have hkept : (checked.joinName n).components = checked.components ++ [.normal n] :=
      Path.components_joinName (c := .normal n) hchecked hc
    unfold extend
    dsimp only
    split
    · exact ⟨_, .refl _, hkept⟩
    · cases hfound : d.correction? checked n with
      | none => exact ⟨_, .refl _, hkept⟩
      | some m =>
        obtain ⟨p, hm, halike⟩ := of_correction? hfound
        exact ⟨.normal m, halike,
          Path.components_joinName (c := .normal m) hchecked (hnamed.plain hm)⟩
  · rw [extend_of_not_normal hnormal]
    exact ⟨c, .refl c, Path.components_joinName hchecked hc⟩

/-- A name is corrected to the entry that is like it, if there is no other of the kind. -/
theorem extend_normal (hcase : d.Unambiguous) (hchecked : checked.text ≠ "")
    (hn : (Component.normal n).Plain) (hwalk : d.walk? checked = some p)
    (hdir : d.isDirAt p = true) (hm : m ∈ d.entriesAt p) (halike : LowerCase.alike n m = true) :
    d.extend checked (.normal n) = checked.joinName m := by
  have hexists : d.exists? (checked.joinName n) = (d.follow p (.normal n)).isSome := by
    rw [← Option.bind_some p fun p => d.follow p (.normal n), ← hwalk]
    exact exists?_joinName (c := .normal n) hchecked hn
  rw [follow_normal] at hexists
  unfold extend
  dsimp only
  by_cases hentry : n ∈ d.entriesAt p
  · obtain rfl := hcase p n hentry m hm halike
    rw [if_pos ⟨hdir, hentry⟩, Option.isSome_some] at hexists
    rw [if_pos hexists]
  · rw [if_neg fun h => hentry h.2, Option.isSome_none] at hexists
    rw [if_neg (Bool.eq_false_iff.1 hexists), correction?_eq hcase hchecked hwalk hdir hm halike]

/-- **A component is corrected to the one on the disk**, if there is no other of the kind. -/
theorem extend_found (hnamed : d.Named) (hcase : d.Unambiguous) (hchecked : checked.text ≠ "")
    (hc : c.Plain) (halike : c.Alike c') (hwalk : d.walk? checked = some p)
    (hfollow : d.follow p c' = some p') :
    (d.extend checked c).components = checked.components ++ [c'] := by
  by_cases hnormal : ∃ n, c = .normal n
  · obtain ⟨n, rfl⟩ := hnormal
    cases c' with
    | normal m =>
      rw [follow_normal] at hfollow
      split at hfollow
      · next hentry =>
        rw [extend_normal hcase hchecked hc hwalk hentry.1 hentry.2 halike]
        exact Path.components_joinName (c := .normal m) hchecked (hnamed.plain hentry.2)
      · cases hfollow
    | root | current | parent => cases halike
  · obtain rfl := halike.of_not_normal fun n hn => hnormal ⟨n, hn⟩
    rw [extend_of_not_normal hnormal]
    exact Path.components_joinName hchecked hc

/-! ### All components -/

theorem text_ne_of_components (h : path.components = cs ++ [c]) : path.text ≠ "" :=
  mt Path.components_eq_nil_iff.2 (by simp [h])

theorem foldl_extend_alike (hnamed : d.Named) (hchecked : checked.text ≠ "")
    (hcs : ∀ c ∈ cs, c.Plain) : ∃ cs', List.Forall₂ Component.Alike cs cs' ∧
      (cs.foldl d.extend checked).components = checked.components ++ cs' := by
  induction cs generalizing checked with
  | nil => exact ⟨[], .nil, (List.append_nil _).symm⟩
  | cons c cs ih =>
    obtain ⟨hc, hcs⟩ := List.forall_mem_cons.1 hcs
    obtain ⟨c', halike, hextend⟩ := extend_alike hnamed hchecked hc
    obtain ⟨cs', hall, hfold⟩ := ih (text_ne_of_components hextend) hcs
    refine ⟨c' :: cs', .cons halike hall, ?_⟩
    rw [List.foldl_cons, hfold, hextend, List.append_assoc]
    rfl

/-- **All names are corrected one after another** to those on the disk. -/
theorem foldl_extend_found (hnamed : d.Named) (hcase : d.Unambiguous) (hchecked : checked.text ≠ "")
    (hcs : ∀ c ∈ cs, c.Plain) (halike : List.Forall₂ Component.Alike cs cs')
    (hwalk : d.walk? checked = some p) (hfollow : cs'.foldlM d.follow p = some p') :
    (cs.foldl d.extend checked).components = checked.components ++ cs' := by
  induction halike generalizing checked p with
  | nil => exact (List.append_nil _).symm
  | @cons c c' cs cs' hcc' _ ih =>
    obtain ⟨hc, hcs⟩ := List.forall_mem_cons.1 hcs
    rw [List.foldlM_cons] at hfollow
    obtain ⟨p₁, hstep, hrest⟩ := Option.bind_eq_some_iff.1 hfollow
    have hextend := extend_found hnamed hcase hchecked hc hcc' hwalk hstep
    have hwalk₁ : d.walk? (d.extend checked c) = some p₁ := by
      rw [walk?_of_components hextend, hwalk, Option.bind_some, hstep]
    rw [List.foldl_cons, ih (text_ne_of_components hextend) hcs hwalk₁ hrest, hextend,
      List.append_assoc]
    rfl

/-! ### Whole paths -/

theorem resolve_of_components (h : path.components = c :: cs) :
    d.resolve path = cs.foldl d.extend ⟨c.name⟩ := by
  rw [resolve, h]

theorem components_first (h : path.components = c :: cs) :
    (⟨c.name⟩ : Path).components = [] ++ [c] ∧ ∀ b ∈ cs, b.Plain := by
  obtain ⟨hhead, htail⟩ := path.components_cases
  rw [h] at hhead htail
  exact ⟨(hhead c rfl).components, htail⟩

theorem resolve_alike (hnamed : d.Named) (path : Path) : path.Alike (d.resolve path) ∧
    (d.resolve path).components.head? = path.components.head? := by
  unfold Path.Alike
  cases h : path.components with
  | nil =>
    rw [resolve, h]
    exact ⟨.nil, rfl⟩
  | cons c cs =>
    obtain ⟨hfirst, hplain⟩ := components_first h
    obtain ⟨cs', halike, hfold⟩ := foldl_extend_alike hnamed (text_ne_of_components hfirst) hplain
    rw [resolve_of_components h, hfold, hfirst]
    exact ⟨.cons (.refl c) halike, rfl⟩

theorem exists_walk? {q : Path} (h : d.exists? q = true) : ∃ p, d.walk? q = some p := by
  obtain ⟨p, hlocate⟩ := Option.isSome_iff_exists.1 h
  unfold locate? at hlocate
  split at hlocate
  · cases hlocate
  · exact ⟨p, (Option.filter_eq_some_iff.1 hlocate).1⟩

/-- A path that begins like the one on the disk is repaired to it. -/
theorem resolve_found (hnamed : d.Named) (hcase : d.Unambiguous) {q : Path}
    (hq : d.exists? q = true) (halike : path.Alike q)
    (hhead : path.components.head? = q.components.head?) :
    (d.resolve path).components = q.components := by
  obtain ⟨p', hwalk⟩ := exists_walk? hq
  unfold Path.Alike at halike
  cases h : path.components with
  | nil =>
    rw [h] at halike
    rw [List.forall₂_nil_left_iff.1 halike, resolve, h]
    rfl
  | cons c cs =>
    rw [h] at halike hhead
    obtain ⟨c', cs', -, hcs, hcomponents⟩ := List.forall₂_cons_left_iff.1 halike
    rw [hcomponents] at hhead
    obtain rfl := Option.some.inj hhead
    obtain ⟨hfirst, hplain⟩ := components_first h
    rw [walk?, hcomponents, List.foldlM_cons] at hwalk
    obtain ⟨p, hfollow, hrest⟩ := Option.bind_eq_some_iff.1 hwalk
    have hstart : d.walk? ⟨c.name⟩ = some p := by
      rw [walk?, hfirst, List.nil_append, List.foldlM_cons, hfollow]
      rfl
    rw [resolve_of_components h, foldl_extend_found hnamed hcase (text_ne_of_components hfirst)
      hplain hcs hstart hrest, hfirst, hcomponents]
    rfl

theorem head?_congr_of_root {q : Path} (halike : path.Alike q)
    (hroot : path.components.head? = some .root) :
    path.components.head? = q.components.head? := by
  obtain ⟨cs, hcs⟩ := List.head?_eq_some_iff.1 hroot
  unfold Path.Alike at halike
  rw [hcs] at halike
  obtain ⟨c', cs', hc', -, hcomponents⟩ := List.forall₂_cons_left_iff.1 halike
  rw [hroot, hcomponents, ← hc'.of_not_normal nofun]
  rfl

/-- **A path is repaired to the one on the disk exactly if the two begin with the same component**,
as they do if the path is absolute. A path that leads somewhere stays as it is, and all others keep
the number of their components and differ from what they were in case at most. -/
theorem resolve_iff_head (d : Disk) (hnamed : d.Named) (hcase : d.Unambiguous) (path : Path) :
    (∀ q, d.exists? q = true → path.Alike q →
      ((d.resolve path).components = q.components ↔
        path.components.head? = q.components.head?)) ∧
    (∀ q, d.exists? q = true → path.Alike q → path.isAbsolute = true →
      (d.resolve path).components = q.components) ∧
    (d.exists? path = true → (d.resolve path).components = path.components) ∧
    path.Alike (d.resolve path) := by
  obtain ⟨halike, hhead⟩ := resolve_alike hnamed path
  refine ⟨fun q hq hpq => ⟨fun h => h ▸ hhead.symm, resolve_found hnamed hcase hq hpq⟩,
    fun q hq hpq habsolute => resolve_found hnamed hcase hq hpq ?_, fun hpath => ?_, halike⟩
  · exact head?_congr_of_root hpq (Path.head?_of_isAbsolute habsolute)
  · exact resolve_found hnamed hcase hpath (List.forall₂_same.2 fun c _ => .refl c) rfl

/-- A disk with one file, below the working directory. -/
def homeDisk : Disk := ⟨[(["home", "Data", "cube.duf"], [])], [], ["home"]⟩

theorem homeDisk_unambiguous : homeDisk.Unambiguous :=
  unambiguous_of_line (p := ["home", "Data", "cube.duf"]) (by decide)

/-- Names are repaired below the working directory. -/
theorem resolve_iff_head_cube : homeDisk.Named ∧ homeDisk.Unambiguous ∧
    homeDisk.exists? ⟨"./Data/cube.duf"⟩ = true ∧
    (homeDisk.resolve ⟨"./data/CUBE.duf"⟩).components = (⟨"./Data/cube.duf"⟩ : Path).components := by
  have hnamed : homeDisk.Named := by decide +kernel
  have hexists : homeDisk.exists? ⟨"./Data/cube.duf"⟩ = true := by decide +kernel
  obtain ⟨hfound, -⟩ := resolve_iff_head homeDisk hnamed homeDisk_unambiguous ⟨"./data/CUBE.duf"⟩
  refine ⟨hnamed, homeDisk_unambiguous, hexists, (hfound _ hexists ?_).2 (by decide +kernel)⟩
  have hpath : (⟨"./data/CUBE.duf"⟩ : Path).components =
      [.current, .normal "data", .normal "CUBE.duf"] := by decide +kernel
  have hq : (⟨"./Data/cube.duf"⟩ : Path).components =
      [.current, .normal "Data", .normal "cube.duf"] := by decide +kernel
  unfold Path.Alike
  rw [hpath, hq]
  exact .cons rfl (.cons (by decide +kernel : LowerCase.alike _ _ = true)
    (.cons (by decide +kernel : LowerCase.alike _ _ = true) .nil))

/-- **The first name of a relative path is not repaired**, though the path on the disk differs in case
only. -/
theorem exists_first_kept : ∃ (d : Disk) (path q : Path), d.Named ∧ d.Unambiguous ∧
    Component.parent ∉ path.components ∧ d.exists? q = true ∧ path.Alike q ∧
    (d.resolve path).components ≠ q.components ∧ d.exists? (d.resolve path) = false := by
  refine ⟨homeDisk, ⟨"data/CUBE.duf"⟩, ⟨"Data/cube.duf"⟩, by decide +kernel, homeDisk_unambiguous,
    by decide +kernel, by decide +kernel, ?_, by decide +kernel, by decide +kernel⟩
  have hpath : (⟨"data/CUBE.duf"⟩ : Path).components =
      [.normal "data", .normal "CUBE.duf"] := by decide +kernel
  have hq : (⟨"Data/cube.duf"⟩ : Path).components =
      [.normal "Data", .normal "cube.duf"] := by decide +kernel
  unfold Path.Alike
  rw [hpath, hq]
  exact .cons (by decide +kernel : LowerCase.alike _ _ = true)
    (.cons (by decide +kernel : LowerCase.alike _ _ = true) .nil)

end Disk

end RiggedScene
