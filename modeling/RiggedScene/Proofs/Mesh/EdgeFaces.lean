import RiggedScene.Proofs.Keyed
import RiggedScene.Mesh.Normal
import Mathlib.Data.List.Nodup
import Mathlib.Data.List.Rotate
import Mathlib.Data.List.Sort

/-!
# The faces at each edge

The table of the faces at each edge is filled face by face and corner by corner. A face of distinct
corners comes to each of its edges once, the one from its last corner to the first included.

* `Edge.Follows` and `Edge.Joins` say which corners of a face are next to each other, and
  `Edge.mem_around_iff` : the edges of a face are those that join such corners;
* `Edge.nodup_around` : a proper face has each edge once;
* `EdgeSet.mem_insert` and `EdgeSet.Ascending.insert` : a set of edges is kept in ascending order,
  and `EdgeSet.Ascending.ext` : it is then determined by its members;
* `EdgeMap.lookup_push` and `EdgeMap.lookup_ofUses` : the table has, for each edge, the faces that
  came to it, in their order;
* `Mesh.faces?_edgeFaces_eq_some_iff` : in a mesh of proper faces these are the faces in which the
  edge joins corners, each once and in ascending order.
-/

namespace RiggedScene

/-! ### The edges of a face -/

/-- A face is empty, or it has at least three corners, all distinct. -/
def ProperFace (face : List Nat) : Prop := face = [] ∨ 3 ≤ face.length ∧ face.Nodup

instance (face : List Nat) : Decidable (ProperFace face) := inferInstanceAs (Decidable (_ ∨ _))

namespace Edge

variable {face : List Nat} {a b i : Nat} {e : Edge}

/-- One corner follows another one around a face; the first corner follows the last one. -/
def Follows (face : List Nat) (a b : Nat) : Prop :=
  ∃ i < face.length, face[i]? = some a ∧ face[(i + 1) % face.length]? = some b

/-- The edge joins two corners of a face that are next to each other. -/
def Joins (e : Edge) (face : List Nat) : Prop := Follows face e.1 e.2 ∨ Follows face e.2 e.1

instance : Decidable (Follows face a b) := inferInstanceAs (Decidable (∃ i < face.length, _))

instance : Decidable (e.Joins face) := inferInstanceAs (Decidable (_ ∨ _))

theorem between_eq_iff (h : e.1 < e.2) :
    between a b = e ↔ (a = e.1 ∧ b = e.2) ∨ (b = e.1 ∧ a = e.2) := by
  unfold between
  split <;> rw [Prod.ext_iff] <;> omega

theorem lt_between (h : a ≠ b) : (between a b).1 < (between a b).2 := by
  unfold between
  split
  · assumption
  · exact Nat.lt_of_le_of_ne (by omega) h.symm

theorem along_eq_zipWith (first : Nat) (cs : List Nat) :
    along first cs = List.zipWith between cs (cs.tail ++ [first]) := by
  fun_induction along first cs with
  | case1 => rfl
  | case2 a => rfl
  | case3 a b rest ih => simp [ih]

theorem around_eq_zipWith (face : List Nat) :
    around face = List.zipWith between face (face.rotate 1) := by
  cases face with
  | nil => rfl
  | cons a rest =>
    rw [around, along_eq_zipWith, List.rotate_cons_succ, List.rotate_zero, List.tail_cons]

theorem around_getElem?_eq_some_iff : (around face)[i]? = some e ↔
    i < face.length ∧ ∃ a b, face[i]? = some a ∧ face[(i + 1) % face.length]? = some b ∧
      between a b = e := by
  rw [around_eq_zipWith, List.getElem?_zipWith_eq_some]
  constructor
  · rintro ⟨a, b, ha, hb, he⟩
    have hi : i < face.length := (List.getElem?_eq_some_iff.1 ha).1
    exact ⟨hi, a, b, ha, List.getElem?_rotate hi ▸ hb, he⟩
  · rintro ⟨hi, a, b, ha, hb, he⟩
    exact ⟨a, b, ha, (List.getElem?_rotate hi).trans hb, he⟩

/-- **The edges of a face join the corners that are next to each other.** -/
theorem mem_around_iff (h : e.1 < e.2) : e ∈ around face ↔ e.Joins face := by
  simp only [List.mem_iff_getElem?, around_getElem?_eq_some_iff, between_eq_iff h]
  constructor
  · rintro ⟨i, hi, a, b, ha, hb, ⟨rfl, rfl⟩ | ⟨rfl, rfl⟩⟩
    · exact .inl ⟨i, hi, ha, hb⟩
    · exact .inr ⟨i, hi, ha, hb⟩
  · rintro (⟨i, hi, ha, hb⟩ | ⟨i, hi, ha, hb⟩)
    · exact ⟨i, hi, _, _, ha, hb, .inl ⟨rfl, rfl⟩⟩
    · exact ⟨i, hi, _, _, ha, hb, .inr ⟨rfl, rfl⟩⟩

theorem succ_mod {n : Nat} (hi : i < n) : (i + 1) % n = if i + 1 = n then 0 else i + 1 := by
  split
  · next heq => rw [heq, Nat.mod_self]
  · exact Nat.mod_eq_of_lt (by omega)

theorem lt_of_mem_around (h : ProperFace face) (he : e ∈ around face) : e.1 < e.2 := by
  obtain ⟨i, hedge⟩ := List.mem_iff_getElem?.1 he
  obtain ⟨hi, a, b, ha, hb, rfl⟩ := around_getElem?_eq_some_iff.1 hedge
  obtain rfl | ⟨hlength, hnodup⟩ := h
  · cases ha
  · -- a corner that followed itself would stand at two places
    refine lt_between fun hab => ?_
    have hsame : i = (i + 1) % face.length :=
      (List.getElem?_inj hi hnodup).1 (by rw [ha, hb, hab])
    rw [succ_mod hi] at hsame
    split at hsame <;> omega

/-- **A proper face has each edge once.** -/
theorem nodup_around (h : ProperFace face) : (around face).Nodup := by
  obtain rfl | ⟨hlength, hnodup⟩ := h
  · exact List.nodup_nil
  · refine List.nodup_iff_getElem?_ne_getElem?.2 fun i j hij hj heq => ?_
    obtain ⟨e, he⟩ : ∃ e, (around face)[j]? = some e := ⟨_, List.getElem?_eq_getElem hj⟩
    have hlt := lt_of_mem_around (.inr ⟨hlength, hnodup⟩) (List.mem_of_getElem? he)
    obtain ⟨hi, a, b, ha, hb, hab⟩ := around_getElem?_eq_some_iff.1 (heq.trans he)
    obtain ⟨hj, c, d, hc, hd, hcd⟩ := around_getElem?_eq_some_iff.1 he
    have hor : (a = c) ∨ (a = d ∧ b = c) := by
      rcases (between_eq_iff hlt).1 hab with ⟨ha, hb⟩ | ⟨hb, ha⟩ <;>
        rcases (between_eq_iff hlt).1 hcd with ⟨hc, hd⟩ | ⟨hd, hc⟩ <;> omega
    rcases hor with rfl | ⟨rfl, rfl⟩
    · have hsame : i = j := (List.getElem?_inj hi hnodup).1 (ha.trans hc.symm)
      omega
    · -- each of the two corners would follow the other one, so that there were no others
      have hback : i = (j + 1) % face.length :=
        (List.getElem?_inj hi hnodup).1 (ha.trans hd.symm)
      have hforth : j = (i + 1) % face.length :=
        (List.getElem?_inj hj hnodup).1 (hc.trans hb.symm)
      rw [succ_mod hj] at hback
      rw [succ_mod hi] at hforth
      split at hback <;> split at hforth <;> omega

/-! ### The order of edges -/

theorem lt_iff {e f : Edge} : e.lt f = true ↔ e.1 < f.1 ∨ (e.1 = f.1 ∧ e.2 < f.2) := by
  simp [lt]

theorem lt_irrefl (e : Edge) : e.lt e = false := by
  simp [lt]

theorem lt_trans {e f g : Edge} (hef : e.lt f = true) (hfg : f.lt g = true) : e.lt g = true := by
  rw [lt_iff] at *
  omega

theorem eq_of_not_lt {e f : Edge} (hef : ¬ e.lt f = true) (hfe : ¬ f.lt e = true) : e = f := by
  rw [lt_iff] at hef hfe
  exact Prod.ext (by omega) (by omega)

theorem ne_of_lt {e f : Edge} (h : e.lt f = true) : e ≠ f := by
  rintro rfl
  rw [lt_irrefl] at h
  cases h

instance : Std.Irrefl fun e f : Edge => e.lt f = true := ⟨fun _ h => ne_of_lt h rfl⟩

instance : Std.Antisymm fun e f : Edge => e.lt f = true :=
  ⟨fun _ _ hef hfe => absurd rfl (ne_of_lt (lt_trans hef hfe))⟩

end Edge

/-! ### Sets of edges -/

namespace EdgeSet

variable {s t : EdgeSet} {d e f : Edge} {es : List Edge}

/-- Each edge is there once, in ascending order. -/
def Ascending (s : EdgeSet) : Prop := s.Pairwise fun e f => e.lt f = true

/-- What is below the first edge is below all of them. -/
theorem Ascending.forall_lt (h : Ascending (d :: s)) (hlt : e.lt d = true) :
    ∀ f ∈ d :: s, e.lt f = true :=
  List.forall_mem_cons.2 ⟨hlt, fun f hf => Edge.lt_trans hlt ((List.pairwise_cons.1 h).1 f hf)⟩

theorem mem_insert : f ∈ insert e s ↔ f = e ∨ f ∈ s := by
  fun_induction insert e s with
  | case1 => exact List.mem_cons
  | case2 d s hlt => exact List.mem_cons
  | case3 d s hle hlt ih =>
    simp only [List.mem_cons, ih]
    exact or_left_comm
  | case4 d s hle hge =>
    obtain rfl : e = d := Edge.eq_of_not_lt hle hge
    simp

theorem Ascending.insert (h : Ascending s) (e : Edge) : Ascending (insert e s) := by
  fun_induction EdgeSet.insert e s with
  | case1 => exact List.pairwise_singleton _ _
  | case2 d s hlt => exact List.pairwise_cons.2 ⟨h.forall_lt hlt, h⟩
  | case3 d s hle hlt ih =>
    obtain ⟨hd, hs⟩ := List.pairwise_cons.1 h
    refine List.pairwise_cons.2 ⟨fun c hc => ?_, ih hs⟩
    rcases mem_insert.1 hc with rfl | hmem
    · exact hlt
    · exact hd c hmem
  | case4 d s hle hge => exact h

/-- Adds several edges. -/
def insertAll (es : List Edge) (s : EdgeSet) : EdgeSet := es.foldl (fun s e => insert e s) s

theorem insertAll_append (es fs : List Edge) :
    insertAll (es ++ fs) s = insertAll fs (insertAll es s) := List.foldl_append

theorem mem_insertAll : f ∈ insertAll es s ↔ f ∈ s ∨ f ∈ es := by
  induction es generalizing s with
  | nil => simp [insertAll]
  | cons e es ih =>
    rw [insertAll, List.foldl_cons, ← insertAll, ih, mem_insert, List.mem_cons, or_assoc]
    exact or_left_comm

theorem Ascending.insertAll (h : Ascending s) (es : List Edge) : Ascending (insertAll es s) := by
  induction es generalizing s with
  | nil => exact h
  | cons e es ih => exact ih (h.insert e)

/-- **A set of edges is determined by its members.** -/
theorem Ascending.ext (hs : Ascending s) (ht : Ascending t) (h : ∀ e, e ∈ s ↔ e ∈ t) : s = t :=
  hs.eq_of_mem_iff ht h

end EdgeSet

/-! ### The table -/

namespace EdgeMap

variable {m : EdgeMap} {d : Edge × List Nat} {e f : Edge} {face : Nat}

/-- Each edge is there once, in ascending order. -/
def Ascending (m : EdgeMap) : Prop := EdgeSet.Ascending (m.map Prod.fst)

theorem lookup_eq_none_of_lt (h : ∀ f ∈ m.map Prod.fst, e.lt f = true) : m.lookup e = none :=
  List.lookup_eq_none_iff.2 fun d hd =>
    bne_iff_ne.2 (Edge.ne_of_lt (h d.1 (List.mem_map_of_mem hd)))

/-- A face that comes to an edge stands behind the others there. -/
theorem lookup_push (h : Ascending m) : (push e face m).lookup f =
    if f = e then some ((m.lookup e).getD [] ++ [face]) else m.lookup f := by
  fun_induction push e face m with
  | case1 => exact Keyed.lookup_cons
  | case2 d m hlt =>
    have hnone : List.lookup e (d :: m) = none :=
      lookup_eq_none_of_lt (EdgeSet.Ascending.forall_lt h hlt)
    rw [Keyed.lookup_cons, hnone]
    rfl
  | case3 d m hle hlt ih =>
    rw [Keyed.lookup_cons, ih (List.pairwise_cons.1 h).2, Keyed.lookup_cons, Keyed.lookup_cons,
      if_neg (Edge.ne_of_lt hlt).symm]
    by_cases hf : f = d.1
    · rw [if_pos hf, if_pos hf, if_neg (hf ▸ Edge.ne_of_lt hlt)]
    · rw [if_neg hf, if_neg hf]
  | case4 d m hle hge =>
    obtain rfl : e = d.1 := Edge.eq_of_not_lt hle hge
    rw [Keyed.lookup_cons, Keyed.lookup_cons, Keyed.lookup_cons, if_pos rfl]
    split <;> rfl

theorem map_fst_push : (push e face m).map Prod.fst = EdgeSet.insert e (m.map Prod.fst) := by
  fun_induction push e face m with
  | case1 => rfl
  | case2 d m hlt => rw [List.map_cons, List.map_cons, EdgeSet.insert, if_pos hlt]
  | case3 d m hle hlt ih =>
    rw [List.map_cons, List.map_cons, EdgeSet.insert, if_neg hle, if_pos hlt, ih]
  | case4 d m hle hge =>
    rw [List.map_cons, List.map_cons, EdgeSet.insert, if_neg hle, if_neg hge]

theorem ascending_push (h : Ascending m) : Ascending (push e face m) := by
  rw [Ascending, map_fst_push]
  exact EdgeSet.Ascending.insert h e

/-- The table for a list of edges, each with a face that comes to it. -/
def ofUses (us : List (Edge × Nat)) : EdgeMap := us.foldl (fun m u => push u.1 u.2 m) []

/-- The faces that come to an edge, in their order. -/
def comers (e : Edge) (us : List (Edge × Nat)) : List Nat :=
  (us.filter fun u => u.1 = e).map Prod.snd

variable {us : List (Edge × Nat)} {u : Edge × Nat}

theorem ofUses_concat : ofUses (us ++ [u]) = push u.1 u.2 (ofUses us) := List.foldl_concat ..

theorem ascending_ofUses : Ascending (ofUses us) := by
  induction us using List.reverseRecOn with
  | nil => exact .nil
  | append_singleton us u ih => exact ofUses_concat ▸ ascending_push ih

theorem comers_append (us vs : List (Edge × Nat)) :
    comers e (us ++ vs) = comers e us ++ comers e vs := by
  rw [comers, List.filter_append, List.map_append]
  rfl

/-- **The table has the faces that come to an edge**, if there are any. -/
theorem lookup_ofUses :
    (ofUses us).lookup e = if comers e us = [] then none else some (comers e us) := by
  induction us using List.reverseRecOn generalizing e with
  | nil => rfl
  | append_singleton us u ih =>
    rw [ofUses_concat, lookup_push ascending_ofUses, comers_append]
    by_cases he : u.1 = e
    · subst he
      have hold : ((ofUses us).lookup u.1).getD [] = comers u.1 us := by
        rw [ih]
        split
        · next hnil => exact hnil.symm
        · rfl
      have hnew : comers u.1 [u] = [u.2] := by simp [comers]
      rw [if_pos rfl, hold, hnew, if_neg (by simp)]
    · have hnew : comers e [u] = [] := by simp [comers, he]
      rw [if_neg (Ne.symm he), hnew, List.append_nil, ih]

/-- Each face with the edges that it comes to. -/
def uses (faces : List (List Nat)) : List (Edge × Nat) :=
  (faces.mapIdx fun i face => (Edge.around face).map fun e => (e, i)).flatten

theorem uses_concat (faces : List (List Nat)) (face : List Nat) : uses (faces ++ [face]) =
    uses faces ++ (Edge.around face).map fun e => (e, faces.length) := by
  rw [uses, List.mapIdx_concat, List.flatten_concat]
  rfl

theorem ofFaces_eq_ofUses (faces : List (List Nat)) : ofFaces faces = ofUses (uses faces) := by
  induction faces using List.reverseRecOn with
  | nil => rfl
  | append_singleton faces face ih =>
    rw [ofFaces, List.mapIdx_concat, List.foldl_concat, ← ofFaces, ih, uses_concat, ofUses, ofUses,
      List.foldl_append, List.foldl_map]

/-- A proper face comes to each of its edges once. -/
theorem comers_around {face : List Nat} (h : ProperFace face) (i : Nat) :
    comers e ((Edge.around face).map fun e => (e, i)) =
      if e ∈ Edge.around face then [i] else [] := by
  have hfilter : ((Edge.around face).map fun f => (f, i)).filter (fun u => u.1 = e) =
      (List.replicate ((Edge.around face).count e) e).map fun f => (f, i) := by
    rw [List.filter_map, ← List.filter_beq]
    refine congrArg (List.map _) (List.filter_congr fun f _ => ?_)
    rw [Function.comp_apply, beq_eq_decide]
  rw [comers, hfilter, (Edge.nodup_around h).count]
  split <;> rfl

/-- Proper faces come to an edge in the order of their numbers. -/
theorem comers_uses {faces : List (List Nat)} (h : ∀ face ∈ faces, ProperFace face) :
    comers e (uses faces) =
      (List.range faces.length).filter fun i => e ∈ Edge.around ((faces[i]?).getD []) := by
  induction faces using List.reverseRecOn with
  | nil => rfl
  | append_singleton faces face ih =>
    have hbefore : ((List.range faces.length).filter fun i =>
        e ∈ Edge.around (((faces ++ [face])[i]?).getD [])) =
          (List.range faces.length).filter fun i => e ∈ Edge.around ((faces[i]?).getD []) :=
      List.filter_congr fun i hi => by rw [List.getElem?_append_left (List.mem_range.1 hi)]
    rw [uses_concat, comers_append, comers_around (h face (by simp)),
      ih fun face' hmem => h face' (List.mem_append_left _ hmem), List.length_append,
      List.length_singleton, List.range_succ, List.filter_append, hbefore]
    congr 1
    by_cases he : e ∈ Edge.around face <;> simp [he]

end EdgeMap

/-! ### The faces at the edges of a mesh -/

namespace Mesh

variable {m : Mesh} {e : Edge}

/-- The faces in which an edge joins corners, in ascending order. -/
def facesAt (m : Mesh) (e : Edge) : List Nat :=
  (List.range m.faceCount).filter fun i => e.Joins (m.corners i)

theorem mem_facesAt_iff {i : Nat} : i ∈ m.facesAt e ↔ e.Joins (m.corners i) := by
  rw [facesAt, List.mem_filter, List.mem_range, decide_eq_true_eq, and_iff_right_of_imp]
  -- a face that is not there has no corners
  intro hjoins
  by_contra hi
  have hnone : m.corners i = [] := by
    rw [corners, List.getElem?_eq_none (Nat.le_of_not_lt hi)]
    rfl
  rw [hnone] at hjoins
  rcases hjoins with ⟨j, hj, -⟩ | ⟨j, hj, -⟩ <;> cases hj

theorem pairwise_facesAt : (m.facesAt e).Pairwise (· < ·) := List.pairwise_lt_range.filter _

theorem ascending_edgeFaces (m : Mesh) : EdgeMap.Ascending m.edgeFaces := by
  rw [edgeFaces, EdgeMap.ofFaces_eq_ofUses]
  exact EdgeMap.ascending_ofUses

/-- The table has the faces in which an edge joins corners, and nothing for an edge that joins
none. -/
theorem faces?_edgeFaces (h : ∀ face ∈ m.faces, ProperFace face) (e : Edge) :
    m.edgeFaces.faces? e =
      if e.1 < e.2 ∧ m.facesAt e ≠ [] then some (m.facesAt e) else none := by
  have hproper : ∀ i : Nat, ProperFace ((m.faces[i]?).getD []) := by
    intro i
    cases hface : m.faces[i]? with
    | none => exact .inl rfl
    | some face => exact h face (List.mem_of_getElem? hface)
  rw [EdgeMap.faces?, edgeFaces, EdgeMap.ofFaces_eq_ofUses, EdgeMap.lookup_ofUses,
    EdgeMap.comers_uses h]
  by_cases he : e.1 < e.2
  · have hfaces : ((List.range m.faces.length).filter fun i =>
        e ∈ Edge.around ((m.faces[i]?).getD [])) = m.facesAt e :=
      List.filter_congr fun i _ => decide_eq_decide.2 (Edge.mem_around_iff he)
    rw [hfaces]
    by_cases hnil : m.facesAt e = [] <;> simp [he, hnil]
  · have hnil : ((List.range m.faces.length).filter fun i =>
        e ∈ Edge.around ((m.faces[i]?).getD [])) = [] := by
      refine List.filter_eq_nil_iff.2 fun i _ hmem => he ?_
      exact Edge.lt_of_mem_around (hproper i) (of_decide_eq_true hmem)
    rw [if_pos hnil, if_neg fun hand => he hand.1]

/-- **The faces at an edge.** The table has a list for an edge exactly if its lower vertex comes
first, and the list is that of the faces in which the edge joins corners, if there are any. -/
theorem faces?_edgeFaces_eq_some_iff (h : ∀ face ∈ m.faces, ProperFace face) {is : List Nat} :
    m.edgeFaces.faces? e = some is ↔ e.1 < e.2 ∧ is ≠ [] ∧ is.Pairwise (· < ·) ∧
      ∀ i, i ∈ is ↔ e.Joins (m.corners i) := by
  rw [faces?_edgeFaces h]
  constructor
  · intro hsome
    split at hsome
    · next hedge =>
      obtain rfl := Option.some.inj hsome
      exact ⟨hedge.1, hedge.2, pairwise_facesAt, fun i => mem_facesAt_iff⟩
    · cases hsome
  · rintro ⟨he, hnil, hascending, hmem⟩
    have hsame : is = m.facesAt e :=
      hascending.eq_of_mem_iff pairwise_facesAt fun i => (hmem i).trans mem_facesAt_iff.symm
    rw [if_pos ⟨he, hsame ▸ hnil⟩, hsame]

end Mesh

end RiggedScene
