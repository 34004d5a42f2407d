import RiggedScene.Proofs.Mesh.Groups
import RiggedScene.Proofs.Numeric.Order
import RiggedScene.Weights

/-!
# United weights

A list of weights in strictly ascending order of the vertices is a map from vertices to weights.

* `IndexMap.ascending_ofList` and `IndexMap.lookup_ofList` : a map of indices is in order, and has
  the last value of each index;
* `Weights.ascending_mergeWith` and `Weights.lookup_mergeWith` : uniting two lists is joining the
  weights of each vertex, and `Weights.mergeWith_comm` that their order is of no account;
* `Joint.across` are the axes that a bone extends less along than along another one, and
  `Joint.weight?` is the weight that a vertex has from the lists of these axes;
* `Joint.group_of_united` : the group of a joint has the weights that are large enough.
-/

namespace RiggedScene

/-! ### Maps from indices -/

namespace IndexMap

variable {α : Type} {m es : List (Nat × α)} {e : Nat × α} {i : Nat}

/-- The indices go up strictly. -/
def Ascending (m : List (Nat × α)) : Prop := m.Pairwise fun d e => d.1 < e.1

theorem lookup_cons : (e :: m).lookup i = if i = e.1 then some e.2 else m.lookup i :=
  Keyed.lookup_cons

theorem lookup_eq_none_of_lt (h : ∀ j ∈ m.map Prod.fst, i < j) : m.lookup i = none :=
  List.lookup_eq_none_iff.2 fun e he =>
    bne_iff_ne.2 (Nat.ne_of_lt (h e.1 (List.mem_map_of_mem he)))

theorem ascending_cons_iff :
    Ascending (e :: m) ↔ (∀ j ∈ m.map Prod.fst, e.1 < j) ∧ Ascending m :=
  List.pairwise_cons.trans (and_congr_left' List.forall_mem_map.symm)

/-- Below the first index there are no others. -/
theorem Ascending.lt_of_mem (h : Ascending (e :: m)) (hi : i < e.1) :
    ∀ j ∈ (e :: m).map Prod.fst, i < j := by
  rw [List.map_cons, List.forall_mem_cons]
  exact ⟨hi, fun j hj => hi.trans ((ascending_cons_iff.1 h).1 j hj)⟩

theorem lookup_insert : (insert e m).lookup i = if i = e.1 then some e.2 else m.lookup i := by
  fun_induction insert e m with
  | case1 => exact lookup_cons
  | case2 d m hlt => exact lookup_cons
  | case3 d m hle hlt ih =>
    rw [lookup_cons, ih, lookup_cons]
    split <;> split <;> first | rfl | omega
  | case4 d m hle hge =>
    have hsame : e.1 = d.1 := by omega
    rw [lookup_cons, lookup_cons, hsame]
    split <;> rfl

theorem ascending_insert (h : Ascending m) : Ascending (insert e m) := by
  fun_induction insert e m with
  | case1 => exact List.pairwise_singleton _ _
  | case2 d m hlt => exact ascending_cons_iff.2 ⟨h.lt_of_mem hlt, h⟩
  | case3 d m hle hlt ih =>
    obtain ⟨hd, hm⟩ := ascending_cons_iff.1 h
    refine ascending_cons_iff.2 ⟨?_, ih hm⟩
    intro j hj
    obtain rfl | hj := mem_keys_insert.1 hj
    · exact hlt
    · exact hd j hj
  | case4 d m hle hge =>
    have hsame : e.1 = d.1 := by omega
    exact ascending_cons_iff.2 (hsame ▸ ascending_cons_iff.1 h)

theorem ofList_concat : ofList (es ++ [e]) = insert e (ofList es) := List.foldl_append

/-- A map is in order, whatever it is made of. -/
theorem ascending_ofList : Ascending (ofList es) := by
  induction es using List.reverseRecOn with
  | nil => exact .nil
  | append_singleton es e ih => exact ofList_concat ▸ ascending_insert ih

/-- **A map has the last value of each index.** -/
theorem lookup_ofList : (ofList es).lookup i = es.reverse.lookup i := by
  induction es using List.reverseRecOn with
  | nil => rfl
  | append_singleton es e ih =>
    rw [ofList_concat, lookup_insert, ih, List.reverse_concat, lookup_cons]

theorem Ascending.lookup_reverse (h : Ascending m) : m.reverse.lookup i = m.lookup i := by
  induction m with
  | nil => rfl
  | cons e m ih =>
    obtain ⟨hlt, hm⟩ := ascending_cons_iff.1 h
    rw [List.reverse_cons, List.lookup_append, ih hm, lookup_cons, lookup_cons]
    by_cases hi : i = e.1
    · rw [lookup_eq_none_of_lt (hi ▸ hlt), if_pos hi, if_pos hi]
      rfl
    · rw [if_neg hi, if_neg hi]
      exact Option.or_none

theorem Ascending.lookup_filter {p : α → Bool} (h : Ascending m) :
    (m.filter fun e => p e.2).lookup i = (m.lookup i).filter p := by
  induction m with
  | nil => rfl
  | cons e m ih =>
    obtain ⟨hlt, hm⟩ := ascending_cons_iff.1 h
    by_cases hi : i = e.1
    · -- no other entry has this index, whether or not the first one stays
      have hnone : (m.filter fun e => p e.2).lookup i = none := by
        rw [ih hm, lookup_eq_none_of_lt (hi ▸ hlt)]
        rfl
      rw [List.filter_cons, lookup_cons, if_pos hi, Option.filter_some]
      split
      · rw [lookup_cons, if_pos hi]
      · exact hnone
    · rw [List.filter_cons, lookup_cons, if_neg hi, ← ih hm]
      split
      · rw [lookup_cons, if_neg hi]
      · rfl

end IndexMap

/-! ### Two lists -/

namespace Weights

open IndexMap

section Two

variable {α : Type} {mean : α → α → α} {as bs : List (Nat × α)} {i : Nat}

theorem mem_keys_mergeWith : i ∈ (mergeWith mean as bs).map Prod.fst ↔
    i ∈ as.map Prod.fst ∨ i ∈ bs.map Prod.fst := by
  fun_induction mergeWith mean as bs with
  | case1 bs => simp
  | case2 a as => simp
  | case3 a as b bs hlt ih => simp only [List.map_cons, List.mem_cons, ih, or_assoc]
  | case4 a as b bs hge hlt ih =>
    simp only [List.map_cons, List.mem_cons, ih]
    exact or_left_comm
  | case5 a as b bs hge hle ih =>
    have hsame : a.1 = b.1 := by omega
    simp only [List.map_cons, List.mem_cons, ih, hsame]
    exact or_or_distrib_left

theorem ascending_mergeWith (ha : Ascending as) (hb : Ascending bs) :
    Ascending (mergeWith mean as bs) := by
  fun_induction mergeWith mean as bs with
  | case1 bs => exact hb
  | case2 a as => exact ha
  | case3 a as b bs hlt ih =>
    obtain ⟨has, ha'⟩ := ascending_cons_iff.1 ha
    refine ascending_cons_iff.2 ⟨?_, ih ha' hb⟩
    intro j hj
    obtain hj | hj := mem_keys_mergeWith.1 hj
    · exact has j hj
    · exact hb.lt_of_mem hlt j hj
  | case4 a as b bs hge hlt ih =>
    obtain ⟨hbs, hb'⟩ := ascending_cons_iff.1 hb
    refine ascending_cons_iff.2 ⟨?_, ih ha hb'⟩
    intro j hj
    obtain hj | hj := mem_keys_mergeWith.1 hj
    · exact ha.lt_of_mem hlt j hj
    · exact hbs j hj
  | case5 a as b bs hge hle ih =>
    have hsame : a.1 = b.1 := by omega
    obtain ⟨has, ha'⟩ := ascending_cons_iff.1 ha
    obtain ⟨hbs, hb'⟩ := ascending_cons_iff.1 hb
    refine ascending_cons_iff.2 ⟨?_, ih ha' hb'⟩
    intro j hj
    obtain hj | hj := mem_keys_mergeWith.1 hj
    · exact has j hj
    · exact hsame ▸ hbs j hj

/-- **A vertex of both lists gets the mean, one of a single list the weight it has there.** -/
theorem lookup_mergeWith (ha : Ascending as) (hb : Ascending bs) :
    (mergeWith mean as bs).lookup i = Option.merge mean (as.lookup i) (bs.lookup i) := by
  fun_induction mergeWith mean as bs with
  | case1 bs => exact Option.merge_none_left.symm
  | case2 a as => exact Option.merge_none_right.symm
  | case3 a as b bs hlt ih =>
    obtain ⟨-, ha'⟩ := ascending_cons_iff.1 ha
    rw [lookup_cons, ih ha' hb, lookup_cons (e := a)]
    by_cases hi : i = a.1
    · -- the other list begins beyond this vertex
      have hnone : (b :: bs).lookup i = none := lookup_eq_none_of_lt (hb.lt_of_mem (hi ▸ hlt))
      rw [if_pos hi, if_pos hi, hnone, Option.merge_none_right]
    · rw [if_neg hi, if_neg hi]
  | case4 a as b bs hge hlt ih =>
    obtain ⟨-, hb'⟩ := ascending_cons_iff.1 hb
    rw [lookup_cons, ih ha hb', lookup_cons (e := b)]
    by_cases hi : i = b.1
    · have hnone : (a :: as).lookup i = none := lookup_eq_none_of_lt (ha.lt_of_mem (hi ▸ hlt))
      rw [if_pos hi, if_pos hi, hnone, Option.merge_none_left]
    · rw [if_neg hi, if_neg hi]
  | case5 a as b bs hge hle ih =>
    have hsame : a.1 = b.1 := by omega
    obtain ⟨-, ha'⟩ := ascending_cons_iff.1 ha
    obtain ⟨-, hb'⟩ := ascending_cons_iff.1 hb
    rw [lookup_cons, ih ha' hb', lookup_cons, lookup_cons, hsame]
    split <;> rfl

/-- The order of the lists is of no account if it is of none to the mean. -/
theorem mergeWith_comm (h : ∀ a b, mean a b = mean b a) :
    mergeWith mean as bs = mergeWith mean bs as := by
  fun_induction mergeWith mean as bs with
  | case1 bs => cases bs <;> simp only [mergeWith]
  | case2 a as => simp only [mergeWith]
  | case3 a as b bs hlt ih =>
    rw [ih, mergeWith, if_neg (Nat.lt_asymm hlt), if_pos hlt]
  | case4 a as b bs hge hlt ih =>
    rw [ih, mergeWith.eq_3, if_pos hlt]
  | case5 a as b bs hge hle ih =>
    have hsame : a.1 = b.1 := by omega
    rw [ih, mergeWith.eq_3, if_neg hle, if_neg hge, hsame, h]

end Two

theorem mean_comm (a b : Float) : mean a b = mean b a := by
  rw [mean, mean, Binary64.add_comm]

/-! ### Several lists -/

/-- The lists united one after another. -/
def unite : List WeightList → WeightList
  | [] => []
  | first :: rest => rest.foldl merge first

variable {first : WeightList} {rest ls : List WeightList} {i : Nat}

theorem ascending_foldl_merge (hf : Ascending first) (hr : ∀ l ∈ rest, Ascending l) :
    Ascending (rest.foldl merge first) := by
  induction rest generalizing first with
  | nil => exact hf
  | cons l rest ih =>
    obtain ⟨hl, hr⟩ := List.forall_mem_cons.1 hr
    exact ih (ascending_mergeWith hf hl) hr

theorem lookup_foldl_merge (hf : Ascending first) (hr : ∀ l ∈ rest, Ascending l) :
    (rest.foldl merge first).lookup i =
      (rest.map (List.lookup i)).foldl (Option.merge mean) (first.lookup i) := by
  induction rest generalizing first with
  | nil => rfl
  | cons l rest ih =>
    obtain ⟨hl, hr⟩ := List.forall_mem_cons.1 hr
    have hstep : (merge first l).lookup i = Option.merge mean (first.lookup i) (l.lookup i) :=
      lookup_mergeWith hf hl
    rw [List.foldl_cons, List.map_cons, List.foldl_cons, ← hstep]
    exact ih (ascending_mergeWith hf hl) hr

theorem ascending_unite (h : ∀ l ∈ ls, Ascending l) : Ascending (unite ls) := by
  cases ls with
  | nil => exact .nil
  | cons first rest =>
    obtain ⟨hf, hr⟩ := List.forall_mem_cons.1 h
    exact ascending_foldl_merge hf hr

theorem lookup_unite (h : ∀ l ∈ ls, Ascending l) :
    (unite ls).lookup i = (ls.map (List.lookup i)).foldl (Option.merge mean) none := by
  cases ls with
  | nil => rfl
  | cons first rest =>
    obtain ⟨hf, hr⟩ := List.forall_mem_cons.1 h
    rw [List.map_cons, List.foldl_cons, Option.merge_none_left]
    exact lookup_foldl_merge hf hr

end Weights

/-! ### Joints -/

namespace Joint

open IndexMap

variable {j : Joint} {lists : Triple WeightList} {head tail : Vec3} {least : Float} {v : Nat}

/-- How far a bone extends along an axis. -/
def extent (head tail : Vec3) (a : Axis) : Float := ((head.sub tail).map Float.abs).get a

/-- The axes that a bone extends less along than along another one. -/
def across (head tail : Vec3) : List Axis :=
  Axis.all.filter fun a => Axis.all.any fun b => extent head tail a < extent head tail b

/-- The weight that a vertex has in the lists across a bone: the mean, one list after another, of
those that it has. -/
def weight? (lists : Triple WeightList) (head tail : Vec3) (v : Nat) : Option Float :=
  ((across head tail).map fun a => (lists.get a).lookup v).foldl (Option.merge Weights.mean) none

theorem crossLists_eq : crossLists lists head tail = (across head tail).map lists.get := by
  refine congrArg (List.map lists.get) (List.filter_congr fun a _ => ?_)
  rw [Bool.eq_iff_iff, decide_eq_true_iff, List.any_eq_true, Vec3.lt_maxComponent_iff]
  constructor
  · rintro ⟨b, hb⟩
    exact ⟨b, by cases b <;> decide, decide_eq_true hb⟩
  · rintro ⟨b, -, hb⟩
    exact ⟨b, of_decide_eq_true hb⟩

theorem weights_eq (hj : j.localWeights = some lists) :
    j.weights head tail = Weights.unite ((across head tail).map lists.get) := by
  rw [← crossLists_eq, weights, hj]
  rfl

theorem lookup_weights (hj : j.localWeights = some lists) (h : ∀ a, Ascending (lists.get a)) :
    (j.weights head tail).lookup v = weight? lists head tail v := by
  rw [weights_eq hj, Weights.lookup_unite (List.forall_mem_map.2 fun a _ => h a), List.map_map]
  rfl

theorem lookup_group : (j.group head tail least).lookup v =
    ((j.weights head tail).filter fun e => e.2 ≥ least).reverse.lookup v :=
  IndexMap.lookup_ofList

theorem lookup_group_of_ascending (hj : j.localWeights = some lists)
    (h : ∀ a, Ascending (lists.get a)) : (j.group head tail least).lookup v =
      (weight? lists head tail v).filter (fun w => w ≥ least) := by
  have hweights : Ascending (j.weights head tail) := by
    rw [weights_eq hj]
    exact Weights.ascending_unite (List.forall_mem_map.2 fun a _ => h a)
  have hlarge : Ascending ((j.weights head tail).filter fun e => e.2 ≥ least) :=
    hweights.filter _
  rw [lookup_group, hlarge.lookup_reverse, ← lookup_weights hj h]
  exact hweights.lookup_filter (p := fun w => w ≥ least)

/-- **What uniting lists of weights does, and what group comes of it.** Two lists in order are
united to a list in order, of the vertices of both, with the mean of the weights that both have.
The group of a joint is in order; it has the weights of the lists across the bone that are large
enough if there are lists for the axes, and otherwise those of the list for all axes. -/
theorem group_of_united :
    (∀ as bs : WeightList, Ascending as → Ascending bs →
      Ascending (Weights.merge as bs) ∧
      (∀ i, i ∈ (Weights.merge as bs).map Prod.fst ↔ i ∈ as.map Prod.fst ∨ i ∈ bs.map Prod.fst) ∧
      (∀ i, (Weights.merge as bs).lookup i =
        Option.merge Weights.mean (as.lookup i) (bs.lookup i)) ∧
      Weights.merge as bs = Weights.merge bs as) ∧
    ∀ (j : Joint) (head tail : Vec3) (least : Float),
      (∀ lists ∈ j.localWeights, ∀ a, Ascending (lists.get a)) →
      Ascending (j.group head tail least) ∧
      ∀ v, (j.group head tail least).lookup v = match j.localWeights with
        | some lists => (weight? lists head tail v).filter fun w => w ≥ least
        | none => ((j.nodeWeights.getD []).filter fun e => e.2 ≥ least).reverse.lookup v := by
  constructor
  · intro as bs ha hb
    exact ⟨Weights.ascending_mergeWith ha hb, fun i => Weights.mem_keys_mergeWith,
      fun i => Weights.lookup_mergeWith ha hb, Weights.mergeWith_comm Weights.mean_comm⟩
  · intro j head tail least h
    refine ⟨ascending_ofList, ?_⟩
    intro v
    cases hj : j.localWeights with
    | none => rw [lookup_group, weights, hj]
    | some lists => exact lookup_group_of_ascending hj (h lists hj)

/-- A joint with a list for each axis. -/
def shin : Joint where
  id := "shin"
  node := "#shin"
  localWeights := some ⟨[(0, 0.5), (2, 1.0)], [(0, 1.0), (1, 1.0)], [(2, 0.5), (3, 0.05)]⟩
  nodeWeights := some [(4, 1.0)]

/-- The bone goes along Y, so that the lists of X and Z are united; one weight is too small. -/
theorem group_of_united_shin :
    (shin.group ⟨0.0, 3.0, 0.0⟩ ⟨0.5, 1.0, 0.0⟩ 0.1).lookup 0 = some 0.5 ∧
    (shin.group ⟨0.0, 3.0, 0.0⟩ ⟨0.5, 1.0, 0.0⟩ 0.1).lookup 1 = none ∧
    (shin.group ⟨0.0, 3.0, 0.0⟩ ⟨0.5, 1.0, 0.0⟩ 0.1).lookup 2 = some 0.75 ∧
    (shin.group ⟨0.0, 3.0, 0.0⟩ ⟨0.5, 1.0, 0.0⟩ 0.1).lookup 3 = none ∧
    (Weights.merge [(0, 0.5), (2, 1.0)] [(2, 0.5), (3, 0.05)]).lookup 2 = some 0.75 := by
  have hlists : ∀ lists ∈ shin.localWeights, ∀ a, Ascending (lists.get a) := by
    rintro lists ⟨⟩ a
    cases a <;> simp [Ascending, Triple.get]
  obtain ⟨hmerge, hgroup⟩ := group_of_united
  have hlookup := (hgroup shin ⟨0.0, 3.0, 0.0⟩ ⟨0.5, 1.0, 0.0⟩ 0.1 hlists).2
  obtain ⟨-, -, hmean, -⟩ := hmerge [(0, 0.5), (2, 1.0)] [(2, 0.5), (3, 0.05)]
    (by simp [Ascending]) (by simp [Ascending])
  rw [hlookup, hlookup, hlookup, hlookup, hmean]
  decide +kernel

end Joint

end RiggedScene
