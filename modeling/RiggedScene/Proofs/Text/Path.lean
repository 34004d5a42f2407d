import RiggedScene.Text.Path
import RiggedScene.Proofs.Text.Split
import Mathlib.Data.Char
import Mathlib.Data.List.Infix
import Mathlib.Data.List.Lex
import Mathlib.Data.Prod.Lex

/-!
# Paths by their components

What is known of a path is said about its components.

* `Path.components_joinName` : a component that may stand behind others is appended as it is;
* `Path.lt_iff` : paths are ordered as the lists of their components are, by `Component.key`;
* `Path.Ascending` : paths in order, each place once; `Path.ascending_sorted` and
  `Path.mem_map_sorted` are what sorting does to a list.
-/

namespace RiggedScene

namespace Path

variable {p q base : Path} {ps : List Path} {cs : List Component} {c : Component}

theorem same_iff : p.same q = true ↔ p.components = q.components := beq_iff_eq

theorem below?_eq_some_iff : p.below? base = some cs ↔ p.components = base.components ++ cs := by
  unfold below?
  generalize base.components = bs
  generalize p.components = as
  induction bs generalizing as with
  | nil => simp [below?.go]
  | cons b bs ih =>
    cases as with
    | nil => simp [below?.go]
    | cons a as =>
      by_cases hab : b = a
      · simp [below?.go, hab, ih]
      · simp [below?.go, hab, Ne.symm hab]

theorem isBelow_iff : p.isBelow base = true ↔ base.components <+: p.components := by
  rw [isBelow, Option.isSome_iff_exists]
  exact exists_congr fun cs => below?_eq_some_iff.trans eq_comm

/-! ### The order -/

namespace Component

/-- What components are ordered by. -/
def key (c : Component) : ℕ ×ₗ List Char := toLex (c.rank, c.name.toList)

theorem key_injective : Function.Injective key := by
  intro a b h
  obtain ⟨hrank, hname⟩ := Prod.mk.inj (toLex_inj.1 h)
  have hname : a.name = b.name := String.toList_inj.1 hname
  cases a <;> cases b <;> first | rfl | exact congrArg normal hname | cases hrank

theorem lt_iff {a b : Component} : a.lt b = true ↔ a.key < b.key := by
  have hkey : a.key < b.key ↔
      a.rank < b.rank ∨ a.rank = b.rank ∧ a.name.toList < b.name.toList :=
    Prod.Lex.toLex_lt_toLex
  have hname (x y : String) : (normal x).lt (normal y) = true ↔ x.toList < y.toList :=
    decide_eq_true_iff.trans String.lt_iff
  rw [hkey]
  cases a with
  | normal x =>
    cases b with
    | normal y => simp [hname, rank, name]
    | root | current | parent => simp [lt, rank]
  | root | current | parent => cases b <;> simp [lt, rank]

end Component

/-- What paths are ordered by. -/
def key (p : Path) : List (ℕ ×ₗ List Char) := p.components.map Component.key

theorem key_inj : p.key = q.key ↔ p.components = q.components :=
  (List.map_injective_iff.2 Component.key_injective).eq_iff

theorem ltComponents_iff {as bs : List Component} :
    ltComponents as bs = true ↔ as.map Component.key < bs.map Component.key := by
  induction as generalizing bs with
  | nil =>
    cases bs with
    | nil => simp [ltComponents]
    | cons b bs => simp [ltComponents]
  | cons a as ih =>
    cases bs with
    | nil => simp [ltComponents]
    | cons b bs =>
      simp only [ltComponents, Bool.or_eq_true, Bool.and_eq_true, beq_iff_eq, Component.lt_iff, ih,
        List.map_cons, List.cons_lt_cons_iff, Component.key_injective.eq_iff]

/-- Paths are ordered as the lists of their components are. -/
theorem lt_iff : p.lt q = true ↔ p.key < q.key := ltComponents_iff

theorem components_ne_of_lt (h : p.lt q = true) : p.components ≠ q.components :=
  mt key_inj.2 (lt_iff.1 h).ne

/-- What lies below different entries of a directory is in the order of the entries. -/
theorem lt_of_entries {p' q' : Path} {dir : List Component} {a b : Component} (h : p.lt q = true)
    (hp : p.components = dir ++ [a]) (hq : q.components = dir ++ [b])
    (hp' : p.components <+: p'.components) (hq' : q.components <+: q'.components) :
    p'.lt q' = true := by
  obtain ⟨as, has⟩ := hp'
  obtain ⟨bs, hbs⟩ := hq'
  rw [lt, hp, hq] at h
  rw [lt, ← has, ← hbs, hp, hq, List.append_assoc, List.append_assoc]
  clear has hbs hp hq
  have hirrefl (c : Component) : c.lt c = false :=
    Bool.eq_false_iff.2 fun hc => lt_irrefl _ (Component.lt_iff.1 hc)
  induction dir with
  | nil =>
    have hab : a.lt b = true := by simpa [ltComponents] using h
    simp [ltComponents, hab]
  | cons e dir ih =>
    refine Bool.or_eq_true_iff.2 (.inr (Bool.and_eq_true_iff.2 ⟨beq_self_eq_true e, ih ?_⟩))
    simpa [ltComponents, hirrefl] using h

/-! ### Sorted lists -/

/-- Paths in order, each place once. -/
def Ascending (ps : List Path) : Prop := ps.Pairwise fun p q => p.lt q = true

theorem Ascending.nodup (h : Ascending ps) : (ps.map components).Nodup :=
  List.pairwise_map.2 (h.imp components_ne_of_lt)

theorem mem_map_insertSorted :
    cs ∈ (insertSorted p ps).map components ↔ cs = p.components ∨ cs ∈ ps.map components := by
  induction ps with
  | nil => simp [insertSorted]
  | cons q qs ih =>
    unfold insertSorted
    split
    · next hsame =>
      rw [same_iff.1 hsame, List.map_cons, List.mem_cons, or_self_left]
    · split
      · simp
      · rw [List.map_cons, List.mem_cons, ih, List.map_cons, List.mem_cons, or_left_comm]

theorem ascending_insertSorted (p : Path) (h : Ascending ps) : Ascending (insertSorted p ps) := by
  induction ps with
  | nil => exact List.pairwise_singleton _ p
  | cons q qs ih =>
    obtain ⟨hq, hqs⟩ := List.pairwise_cons.1 h
    unfold insertSorted
    split
    · exact h
    · next hne =>
      split
      · next hlt =>
        refine List.pairwise_cons.2 ⟨List.forall_mem_cons.2 ⟨hlt, fun r hr => ?_⟩, h⟩
        exact lt_iff.2 ((lt_iff.1 hlt).trans (lt_iff.1 (hq r hr)))
      · next hnlt =>
        have hqp : q.key < p.key := by
          rcases lt_trichotomy q.key p.key with hlt | heq | hlt
          · exact hlt
          · exact absurd (same_iff.2 (key_inj.1 heq.symm)) hne
          · exact absurd (lt_iff.2 hlt) hnlt
        refine List.pairwise_cons.2 ⟨fun r hr => ?_, ih hqs⟩
        -- the new list has the components of `p` and of the old list
        have hmem : r.components ∈ (insertSorted p qs).map components := List.mem_map_of_mem hr
        rw [lt_iff]
        rcases mem_map_insertSorted.1 hmem with heq | hmem
        · rwa [key_inj.2 heq]
        · obtain ⟨r', hr', heq⟩ := List.mem_map.1 hmem
          rw [← key_inj.2 heq]
          exact lt_iff.1 (hq r' hr')

/-- **Sorting puts paths in order**, and it leaves one of each place. -/
theorem ascending_sorted (ps : List Path) : Ascending (sorted ps) :=
  List.foldlRecOn ps _ .nil fun _ h p _ => ascending_insertSorted p h

theorem mem_map_sorted : cs ∈ (sorted ps).map components ↔ cs ∈ ps.map components := by
  have hfold (acc : List Path) :
      cs ∈ (ps.foldl (fun acc p => insertSorted p acc) acc).map components ↔
        cs ∈ ps.map components ∨ cs ∈ acc.map components := by
    induction ps generalizing acc with
    | nil => simp
    | cons p ps ih => rw [List.foldl_cons, ih, mem_map_insertSorted, List.map_cons, List.mem_cons,
        or_left_comm, or_assoc]
  exact (hfold []).trans (or_iff_left List.not_mem_nil)

/-! ### Components behind each other -/

namespace Component

/-- A component that may stand behind others: it is written as one piece, and read back. -/
def Plain (c : Component) : Prop := '/' ∉ c.name.toList ∧ component? c.name.toList = some c

instance (c : Component) : Decidable c.Plain :=
  inferInstanceAs (Decidable (_ ∧ _))

end Component

theorem name_of_component? {piece : List Char} (h : component? piece = some c) :
    c.name.toList = piece := by
  unfold component? at h
  split at h
  · cases h
  · split at h
    · next hparent =>
      obtain rfl := Option.some.inj h
      exact hparent.symm
    · obtain rfl := Option.some.inj h
      exact String.toList_ofList

theorem plain_of_mem {text : List Char}
    (h : c ∈ (Split.pieces '/' text).filterMap component?) : c.Plain := by
  obtain ⟨piece, hpiece, hc⟩ := List.mem_filterMap.1 h
  rw [Component.Plain, name_of_component? hc]
  exact ⟨Split.notMem_of_mem_pieces hpiece, hc⟩

theorem componentsOf_slash (text : List Char) : componentsOf ('/' :: text) =
    .root :: (Split.pieces '/' text).filterMap component? := rfl

theorem head?_of_isAbsolute (h : p.isAbsolute = true) : p.components.head? = some .root := by
  obtain ⟨ds, hds⟩ := List.head?_eq_some_iff.1 (beq_iff_eq.1 h)
  rw [components, hds, componentsOf_slash]
  rfl

theorem componentsOf_of_pieces {text piece : List Char} {pieces : List (List Char)}
    (htext : text.head? ≠ some '/') (h : Split.pieces '/' text = piece :: pieces) :
    componentsOf text = (if piece = ['.'] then [.current] else (component? piece).toList) ++
      pieces.filterMap component? := by
  unfold componentsOf
  split
  · simp at htext
  · rw [h]
    by_cases hpiece : piece = ['.']
    · simp [hpiece]
    · rw [if_neg hpiece]
      split
      · next heq => exact absurd (List.cons.inj heq).1 hpiece
      · rw [List.filterMap_cons]
        cases component? piece <;> rfl

/-- **The components of a text and of what stands behind it**, with a slash between them. -/
theorem componentsOf_append {text more : List Char} (htext : text ≠ []) :
    componentsOf (text ++ '/' :: more) =
      componentsOf text ++ (Split.pieces '/' more).filterMap component? := by
  obtain ⟨d, ds, rfl⟩ := List.exists_cons_of_ne_nil htext
  by_cases hd : d = '/'
  · rw [hd, List.cons_append, componentsOf_slash, componentsOf_slash, Split.pieces_append,
      List.filterMap_append, List.cons_append]
  · obtain ⟨piece, pieces, hpieces⟩ := Split.exists_pieces_cons '/' (d :: ds)
    have happend : Split.pieces '/' (d :: ds ++ '/' :: more) =
        piece :: (pieces ++ Split.pieces '/' more) := by
      rw [Split.pieces_append, hpieces, List.cons_append]
    rw [componentsOf_of_pieces (by simpa using hd) hpieces,
      componentsOf_of_pieces (by simpa using hd) happend, List.filterMap_append, List.append_assoc]

namespace Component

/-- A component that a path may begin with. -/
def Leading (c : Component) : Prop := c = root ∨ c = current ∨ c.Plain

end Component

/-- The first component of a path may be any, and those behind it are plain. -/
theorem components_cases (p : Path) : (∀ c ∈ p.components.head?, c.Leading) ∧
    ∀ c ∈ p.components.tail, c.Plain := by
  unfold components
  generalize p.text.toList = text
  by_cases htext : text.head? = some '/'
  · obtain ⟨ds, rfl⟩ := List.head?_eq_some_iff.1 htext
    rw [componentsOf_slash]
    refine ⟨fun c hc => ?_, fun c hc => plain_of_mem hc⟩
    exact .inl (Option.some.inj hc).symm
  · obtain ⟨piece, pieces, hpieces⟩ := Split.exists_pieces_cons '/' text
    have hplain : ∀ c ∈ (piece :: pieces).filterMap component?, c.Plain :=
      fun c hc => plain_of_mem (hpieces ▸ hc)
    rw [componentsOf_of_pieces htext hpieces]
    by_cases hpiece : piece = ['.']
    · rw [if_pos hpiece]
      refine ⟨fun c hc => .inr (.inl (Option.some.inj hc).symm), fun c hc => hplain c ?_⟩
      rw [List.filterMap_cons]
      split
      · exact hc
      · exact List.mem_cons_of_mem _ hc
    · have hall : (if piece = ['.'] then [.current] else (component? piece).toList) ++
          pieces.filterMap component? = (piece :: pieces).filterMap component? := by
        rw [if_neg hpiece, List.filterMap_cons]
        cases component? piece <;> rfl
      rw [hall]
      exact ⟨fun c hc => .inr (.inr (hplain c (List.mem_of_mem_head? hc))),
        fun c hc => hplain c (List.mem_of_mem_tail hc)⟩

theorem Component.Plain.components (h : c.Plain) : componentsOf c.name.toList = [c] := by
  obtain ⟨hslash, hc⟩ := h
  have hhead : c.name.toList.head? ≠ some '/' := fun hhead =>
    hslash (List.mem_of_mem_head? hhead)
  have hdot : c.name.toList ≠ ['.'] := by
    intro hdot
    rw [hdot] at hc
    cases hc
  rw [componentsOf_of_pieces hhead (Split.pieces_of_notMem hslash), if_neg hdot, hc]
  rfl

theorem Component.Leading.components (h : c.Leading) : (⟨c.name⟩ : Path).components = [c] := by
  rcases h with rfl | rfl | hplain
  · rfl
  · rfl
  · exact hplain.components

theorem components_eq_nil_iff : p.components = [] ↔ p.text = "" := by
  refine ⟨fun h => ?_, fun h => by rw [components, h]; rfl⟩
  unfold components at h
  cases htext : p.text.toList with
  | nil => exact String.toList_eq_nil_iff.1 htext
  | cons d ds =>
    rw [htext] at h
    by_cases hd : d = '/'
    · rw [hd, componentsOf_slash] at h
      cases h
    · -- the first piece begins with `d`
      obtain ⟨piece, pieces, hpieces⟩ := Split.exists_pieces_cons '/' ds
      rw [componentsOf_of_pieces (by simpa using hd) (Split.pieces_cons hd hpieces)] at h
      obtain ⟨hfirst, -⟩ := List.append_eq_nil_iff.1 h
      split at hfirst
      · cases hfirst
      · next hdot =>
        rw [component?, if_neg (by simpa using hdot)] at hfirst
        split at hfirst <;> cases hfirst

/-- A plain component is written behind a slash, which `p` may end with. -/
theorem exists_text_joinName (hp : p.text ≠ "") (hc : c.Plain) :
    ∃ front, (p.joinName c.name).text.toList = front ++ '/' :: c.name.toList ∧
      (p.text.toList = front ∨ p.text.toList = front ++ ['/']) := by
  have habsolute : (⟨c.name⟩ : Path).isAbsolute = false :=
    beq_eq_false_iff_ne.2 fun hhead => hc.1 (List.mem_of_mem_head? hhead)
  have hempty : p.text.isEmpty = false := by simpa using hp
  simp only [joinName, join, habsolute, hempty, Bool.or_false, Bool.false_eq_true, if_false]
  split
  · next hlast =>
    obtain ⟨front, hfront⟩ := List.getLast?_eq_some_iff.1 (beq_iff_eq.1 hlast)
    refine ⟨front, ?_, .inr hfront⟩
    rw [String.toList_append, hfront, List.append_assoc]
    rfl
  · refine ⟨p.text.toList, ?_, .inl rfl⟩
    rw [String.toList_append, String.toList_append, List.append_assoc]
    rfl

/-- **A plain component is appended as it is.** -/
theorem components_joinName (hp : p.text ≠ "") (hc : c.Plain) :
    (p.joinName c.name).components = p.components ++ [c] := by
  have htext : p.text.toList ≠ [] := mt String.toList_eq_nil_iff.1 hp
  have hbehind : (Split.pieces '/' c.name.toList).filterMap component? = [c] := by
    rw [Split.pieces_of_notMem hc.1]
    simp [hc.2]
  obtain ⟨front, hjoined, hfront | hfront⟩ := exists_text_joinName hp hc
  · rw [components, hjoined, componentsOf_append (hfront ▸ htext), hbehind, components, hfront]
  · -- the slash is there already
    rw [components, hjoined, components, hfront]
    cases front with
    | nil =>
      rw [List.nil_append, componentsOf_slash, hbehind]
      rfl
    | cons d ds =>
      rw [componentsOf_append (List.cons_ne_nil d ds), componentsOf_append (List.cons_ne_nil d ds),
        hbehind]
      simp [Split.pieces, component?]

theorem components_joinName_below (h : p.components ++ [c] <+: q.components) :
    (p.joinName c.name).components = p.components ++ [c] := by
  obtain ⟨hhead, htail⟩ := q.components_cases
  obtain ⟨more, hmore⟩ := h
  by_cases hp : p.text = ""
  · have hempty := components_eq_nil_iff.2 hp
    rw [hempty, List.nil_append] at hmore ⊢
    have hleading : c.Leading := hhead c (by rw [← hmore]; rfl)
    rw [joinName, join, hp]
    simpa using hleading.components
  · refine components_joinName hp (htail c ?_)
    obtain ⟨b, bs, hbs⟩ := List.exists_cons_of_ne_nil (mt components_eq_nil_iff.1 hp)
    rw [← hmore, hbs]
    simp

end Path

end RiggedScene
