import RiggedScene.Text.Split
import Mathlib.Data.List.Infix

/-!
# Cutting text

What the operations on characters find, said without running them.

* `Split.pieces_append` : two texts are cut one after the other, with a separator between them;
* `Split.of_cut` : a text is cut at its first separator;
* `Split.after?_eq_some_iff` : what follows a known beginning;
* `Split.occurs_iff` : the search for a part.
-/

namespace RiggedScene

namespace Split

variable {c : Char} {cs part rest start : List Char}

/-! ### Pieces -/

theorem pieces_ne_nil (c : Char) (cs : List Char) : pieces c cs ≠ [] := by
  cases cs with
  | nil => simp [pieces]
  | cons d ds =>
    unfold pieces
    split
    · simp
    · split <;> simp

/-- A character that is not the separator goes to the first piece. -/
theorem pieces_cons {d : Char} (hd : d ≠ c) {p : List Char} {ps : List (List Char)}
    (h : pieces c cs = p :: ps) : pieces c (d :: cs) = (d :: p) :: ps := by
  rw [pieces, if_neg hd, h]

theorem exists_pieces_cons (c : Char) (cs : List Char) : ∃ p ps, pieces c cs = p :: ps :=
  List.exists_cons_of_ne_nil (pieces_ne_nil c cs)

/-- **Two texts are cut one after the other**, with a separator between them. -/
theorem pieces_append (c : Char) (cs rest : List Char) :
    pieces c (cs ++ c :: rest) = pieces c cs ++ pieces c rest := by
  induction cs with
  | nil => simp [pieces]
  | cons d ds ih =>
    by_cases hd : d = c
    · simp [pieces, hd, ih]
    · obtain ⟨p, ps, hps⟩ := exists_pieces_cons c ds
      rw [pieces_cons hd hps, List.cons_append, pieces_cons hd (by rw [ih, hps]; rfl)]
      rfl

theorem pieces_of_notMem (h : c ∉ cs) : pieces c cs = [cs] := by
  induction cs with
  | nil => rfl
  | cons d ds ih =>
    obtain ⟨hd, hds⟩ := not_or.1 (mt List.mem_cons.2 h)
    exact pieces_cons (Ne.symm hd) (ih hds)

theorem notMem_of_mem_pieces (h : part ∈ pieces c cs) : c ∉ part := by
  induction cs generalizing part with
  | nil =>
    obtain rfl := List.mem_singleton.1 h
    exact List.not_mem_nil
  | cons d ds ih =>
    by_cases hd : d = c
    · rw [pieces, if_pos hd, List.mem_cons] at h
      rcases h with rfl | h
      · exact List.not_mem_nil
      · exact ih h
    · obtain ⟨p, ps, hps⟩ := exists_pieces_cons c ds
      rw [pieces_cons hd hps, List.mem_cons] at h
      rcases h with rfl | h
      · exact fun hmem => (List.mem_cons.1 hmem).elim (fun h => hd h.symm)
          (ih (hps ▸ List.mem_cons_self))
      · exact ih (hps ▸ List.mem_cons_of_mem p h)

/-! ### Cuts and searches -/

theorem cut_eq_none_iff : cut c cs = none ↔ c ∉ cs := by
  induction cs with
  | nil => simp [cut]
  | cons d ds ih =>
    by_cases hd : d = c
    · simp [cut, hd]
    · simp [cut, hd, ih, Ne.symm hd]

theorem cut_append (h : c ∉ part) : cut c (part ++ c :: rest) = some (part, rest) := by
  induction part with
  | nil => simp [cut]
  | cons d ds ih =>
    obtain ⟨hd, hds⟩ := not_or.1 (mt List.mem_cons.2 h)
    simp [cut, Ne.symm hd, ih hds]

/-- **A text is cut at its first separator.** -/
theorem of_cut (h : cut c cs = some (part, rest)) : cs = part ++ c :: rest ∧ c ∉ part := by
  induction cs generalizing part with
  | nil => cases h
  | cons d ds ih =>
    by_cases hd : d = c
    · obtain ⟨rfl, rfl⟩ : [] = part ∧ ds = rest := by simpa [cut, hd] using h
      exact ⟨congrArg (· :: ds) hd, List.not_mem_nil⟩
    · obtain ⟨a, hcut, rfl⟩ : ∃ a, cut c ds = some (a, rest) ∧ d :: a = part := by
        simpa [cut, hd] using h
      obtain ⟨rfl, hnot⟩ := ih hcut
      exact ⟨rfl, by simp [hnot, Ne.symm hd]⟩

theorem after?_eq_some_iff : after? start cs = some rest ↔ cs = start ++ rest := by
  induction start generalizing cs with
  | nil => simp [after?]
  | cons s ss ih =>
    cases cs with
    | nil => simp [after?]
    | cons d ds =>
      by_cases hd : s = d
      · simp [after?, hd, ih]
      · simp [after?, hd, Ne.symm hd]

theorem after?_isSome_iff : (after? start cs).isSome ↔ start <+: cs := by
  rw [Option.isSome_iff_exists]
  exact exists_congr fun rest => after?_eq_some_iff.trans eq_comm

theorem after?_eq_none_iff : after? start cs = none ↔ ¬ start <+: cs := by
  rw [← after?_isSome_iff, Option.not_isSome_iff_eq_none]

/-- Searching finds a part exactly where it occurs. -/
theorem occurs_iff : occurs part cs = true ↔ part <:+: cs := by
  induction cs with
  | nil => simp [occurs]
  | cons d ds ih =>
    rw [occurs, Bool.or_eq_true, after?_isSome_iff, ih, List.infix_cons_iff]

theorem contains_iff {s t : String} : contains s t = true ↔ t.toList <:+: s.toList := occurs_iff

theorem endsWith_iff {s t : String} : endsWith s t = true ↔ t.toList <:+ s.toList := by
  rw [endsWith, after?_isSome_iff, List.reverse_prefix]

/-! ### Parts that begin with a separator -/

/-- A part that begins with the only `c` of a text occurs where that one stands, or nowhere. -/
theorem infix_append_cons_iff (h : c ∉ cs) (h' : c ∉ rest) :
    c :: part <:+: cs ++ c :: rest ↔ part <+: rest := by
  induction cs with
  | nil =>
    have hnot : ¬ c :: part <:+: rest := fun hpart => h' (hpart.subset List.mem_cons_self)
    rw [List.nil_append, List.infix_cons_iff, or_iff_left hnot, List.cons_prefix_cons]
    exact and_iff_right rfl
  | cons d ds ih =>
    obtain ⟨hd, hds⟩ := not_or.1 (mt List.mem_cons.2 h)
    have hnot : ¬ c :: part <+: d :: (ds ++ c :: rest) := fun hprefix =>
      hd (List.cons_prefix_cons.1 hprefix).1
    rw [List.cons_append, List.infix_cons_iff, or_iff_right hnot, ih hds]

theorem prefix_append_cons_iff (h : c ∉ part) : part <+: cs ++ c :: rest ↔ part <+: cs := by
  refine ⟨fun hpart => ?_, fun hpart => hpart.trans (List.prefix_append _ _)⟩
  rcases List.prefix_or_prefix_of_prefix hpart (List.prefix_append cs (c :: rest)) with
    hshort | ⟨more, rfl⟩
  · exact hshort
  · cases more with
    | nil => simp
    | cons d ds =>
      obtain ⟨rfl, -⟩ := List.cons_prefix_cons.1 ((List.prefix_append_right_inj cs).1 hpart)
      simp at h

end Split

end RiggedScene
