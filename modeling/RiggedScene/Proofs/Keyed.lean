import RiggedScene.Keyed
import Mathlib.Data.List.Forall2
import Mathlib.Data.List.Induction
import Mathlib.Data.List.Nodup
import Mathlib.Data.List.Pairwise

/-!
# Keyed lists under changes

* `eraseDups_concat` and `nodup_eraseDups` are about what comes first in a list;
* `Keyed.map_modify` : a change that a projection does not see leaves the projected list alone;
* `Keyed.find?_map` : looking a key up commutes with projections that keep the key;
* `Keyed.modify_modify_self` and `Keyed.modify_comm` : changes of one entry join, and changes of
  different entries may change places;
* `Keyed.mem_insert` and `Keyed.exists_key_insert` are what is in a list after inserting an entry,
  `Keyed.map_key_insert` are its keys, and `Keyed.find?_insert_self` and `Keyed.find?_insert_of_ne`
  what is found in it;
* `Keyed.mergeIn` puts an entry together with the one of its key, and `Keyed.find?_foldl_mergeIn`
  is what is found after all entries of another list have been merged in;
* `Keyed.replace` is what a list becomes when entries are set at its end one after another, and
  `Keyed.mem_replace_iff` : an entry stays unless one of its key is set, and of those that are set
  under one key the last one stays.
-/

namespace RiggedScene

/-! ### First occurrences -/

section Firsts

variable {α : Type} [BEq α] [LawfulBEq α]

theorem eraseDups_concat (xs : List α) (x : α) :
    (xs ++ [x]).eraseDups = xs.eraseDups ++ (if x ∈ xs then [] else [x]) := by
  rw [List.eraseDups_append, List.removeAll]
  by_cases hx : x ∈ xs <;> simp [hx, List.eraseDups_cons]

theorem nodup_eraseDups (xs : List α) : xs.eraseDups.Nodup := by
  induction xs using List.reverseRecOn with
  | nil => exact List.nodup_nil
  | append_singleton xs x ih =>
    rw [eraseDups_concat]
    split
    · rwa [List.append_nil]
    · next hx =>
      exact ih.append (List.nodup_singleton x)
        (List.disjoint_singleton.2 fun hmem => hx (List.mem_eraseDups.1 hmem))

end Firsts

namespace Keyed

variable {α β κ : Type} [DecidableEq κ] {key : α → κ} {k : κ} {xs : List α}

theorem map_modify {g : α → β} {f : α → α} (h : ∀ x, g (f x) = g x) :
    (modify key k f xs).map g = xs.map g := by
  induction xs with
  | nil => rfl
  | cons x xs ih =>
    simp only [modify]
    split
    · simp [h]
    · simp [ih]

theorem key_of_find? {x : α} (h : find? key k xs = some x) : key x = k := by
  simpa using List.find?_some h

theorem mem_of_find? {x : α} (h : find? key k xs = some x) : x ∈ xs :=
  List.mem_of_find?_eq_some h

/-- Looking a key up in the projected list finds the projected entry. -/
theorem find?_map {g : α → β} {key' : β → κ} (h : ∀ x, key' (g x) = key x) :
    find? key' k (xs.map g) = (find? key k xs).map g := by
  simp only [find?, List.find?_map, Function.comp_def, h]

/-! ### Changing entries -/

section Modify

variable {f g : α → α}

/-- Changing an entry twice is changing it once by both. -/
theorem modify_modify_self (h : ∀ x, key (g x) = key x) :
    modify key k f (modify key k g xs) = modify key k (f ∘ g) xs := by
  induction xs with
  | nil => rfl
  | cons x xs ih =>
    by_cases hx : key x = k
    · simp [modify, hx, h]
    · simp [modify, hx, ih]

/-- Changes of different entries may change places. -/
theorem modify_comm {k' : κ} (hne : k ≠ k') (hf : ∀ x, key (f x) = key x)
    (hg : ∀ x, key (g x) = key x) :
    modify key k f (modify key k' g xs) = modify key k' g (modify key k f xs) := by
  induction xs with
  | nil => rfl
  | cons x xs ih =>
    by_cases hx : key x = k
    · simp [modify, hf, hx, hne]
    · by_cases hx' : key x = k'
      · simp [modify, hg, hx', hne.symm]
      · simp [modify, hx, hx', ih]

theorem find?_modify_self (hf : ∀ x, key (f x) = key x) :
    find? key k (modify key k f xs) = (find? key k xs).map f := by
  induction xs with
  | nil => rfl
  | cons x xs ih =>
    by_cases hx : key x = k
    · simp [modify, find?, hf, hx]
    · simpa [modify, find?, hx] using ih

theorem find?_modify_of_ne {k' : κ} (hne : k ≠ k') (hf : ∀ x, key (f x) = key x) :
    find? key k' (modify key k f xs) = find? key k' xs := by
  induction xs with
  | nil => rfl
  | cons x xs ih =>
    by_cases hx : key x = k
    · simp [modify, find?, hf, hx, hne]
    · by_cases hx' : key x = k'
      · simp [modify, find?, hx', hne.symm]
      · simpa [modify, find?, hx, hx'] using ih

end Modify

/-! ### Inserting -/

theorem mem_insert {x y : α} (h : x ∈ insert key y xs) : x = y ∨ x ∈ xs := by
  induction xs with
  | nil => exact .inl (List.mem_singleton.1 h)
  | cons z zs ih =>
    simp only [insert] at h
    split at h
    · exact (List.mem_cons.1 h).imp_right (List.mem_cons_of_mem z)
    · rcases List.mem_cons.1 h with rfl | h
      · exact .inr List.mem_cons_self
      · exact (ih h).imp_right (List.mem_cons_of_mem z)

theorem mem_insert_self (y : α) : y ∈ insert key y xs := by
  induction xs with
  | nil => exact List.mem_cons_self
  | cons z zs ih =>
    simp only [insert]
    split
    · exact List.mem_cons_self
    · exact List.mem_cons_of_mem z ih

/-- A key that is there stays there. -/
theorem exists_key_insert {x : α} (y : α) (h : x ∈ xs) :
    ∃ z ∈ insert key y xs, key z = key x := by
  induction xs with
  | nil => cases h
  | cons w ws ih =>
    simp only [insert]
    split
    · next heq =>
      rcases List.mem_cons.1 h with rfl | h
      · exact ⟨y, List.mem_cons_self, heq.symm⟩
      · exact ⟨x, List.mem_cons_of_mem y h, rfl⟩
    · rcases List.mem_cons.1 h with rfl | h
      · exact ⟨x, List.mem_cons_self, rfl⟩
      · obtain ⟨z, hz, hkey⟩ := ih h
        exact ⟨z, List.mem_cons_of_mem w hz, hkey⟩

theorem find?_insert_self (x : α) : find? key (key x) (insert key x xs) = some x := by
  induction xs with
  | nil => simp [insert, find?]
  | cons y ys ih =>
    by_cases hy : key y = key x
    · simp [insert, find?, hy]
    · simpa [insert, find?, hy] using ih

theorem find?_insert_of_ne {x : α} (h : key x ≠ k) :
    find? key k (insert key x xs) = find? key k xs := by
  induction xs with
  | nil => simp [insert, find?, h]
  | cons y ys ih =>
    by_cases hy : key y = key x
    · simp [insert, find?, hy, h]
    · by_cases hk : key y = k
      · simp [insert, find?, hk, Ne.symm h]
      · simpa [insert, find?, hy, hk] using ih

/-- The keys stay in their order, and a new one comes behind them. -/
theorem map_key_insert (x : α) (xs : List α) : (insert key x xs).map key =
    xs.map key ++ (if key x ∈ xs.map key then [] else [key x]) := by
  induction xs with
  | nil => simp [insert]
  | cons y ys ih =>
    by_cases hy : key y = key x
    · simp [insert, hy]
    · simp [insert, hy, Ne.symm hy, ih]

theorem nodup_insert {x : α} (h : (xs.map key).Nodup) : ((insert key x xs).map key).Nodup := by
  rw [map_key_insert]
  split
  · rwa [List.append_nil]
  · next hx => exact h.append (List.nodup_singleton _) (List.disjoint_singleton.2 hx)

/-- An entry is found under its key. -/
theorem find?_of_mem {x : α} (h : (xs.map key).Nodup) (hx : x ∈ xs) :
    find? key (key x) xs = some x := by
  induction xs with
  | nil => cases hx
  | cons y ys ih =>
    obtain ⟨hy, hys⟩ := List.nodup_cons.1 h
    rcases List.mem_cons.1 hx with rfl | hx
    · simp [find?]
    · have hne : key y ≠ key x := fun heq => hy (heq ▸ List.mem_map_of_mem hx)
      simpa [find?, hne] using ih hys hx

/-! ### Merging -/

section Merge

theorem isSome_find?_iff : (find? key k xs).isSome ↔ k ∈ xs.map key := by
  simp [find?, List.mem_map]

theorem find?_cons (x : α) :
    find? key k (x :: xs) = if key x = k then some x else find? key k xs := by
  simp only [find?, List.find?_cons]
  split <;> simp_all

variable (key) in
/-- Puts an entry together with the first one of its key, or adds it. -/
def mergeIn (f : α → α → α) (xs : List α) (y : α) : List α :=
  insert key ((find? key (key y) xs).elim y (f · y)) xs

variable {f : α → α → α}

theorem find?_mergeIn (hf : ∀ x y, key (f x y) = key x) (y : α) : find? key k (mergeIn key f xs y) =
    if key y = k then some ((find? key k xs).elim y (f · y)) else find? key k xs := by
  have hkey : key ((find? key (key y) xs).elim y (f · y)) = key y := by
    cases h : find? key (key y) xs with
    | none => rfl
    | some x => exact (hf x y).trans (key_of_find? h)
  split
  · next hk =>
    subst hk
    have hself : find? key (key (_ : α)) (mergeIn key f xs y) = some _ := find?_insert_self _
    rwa [hkey] at hself
  · next hk => exact find?_insert_of_ne (by rwa [hkey])

/-- **What is found after one list has been merged into another**: an entry that only one of them
has, and both together where both have one. -/
theorem find?_foldl_mergeIn (hf : ∀ x y, key (f x y) = key x) {ys : List α}
    (hys : (ys.map key).Nodup) : find? key k (ys.foldl (mergeIn key f) xs) =
      Option.merge f (find? key k xs) (find? key k ys) := by
  induction ys generalizing xs with
  | nil => exact Option.merge_none_right.symm
  | cons y ys ih =>
    obtain ⟨hy, hys⟩ := List.nodup_cons.1 hys
    rw [List.foldl_cons, ih hys, find?_mergeIn hf, find?_cons]
    split
    · -- no later entry has this key
      next hk =>
      have hnone : find? key k ys = none := by
        rw [← Option.not_isSome_iff_eq_none, isSome_find?_iff, ← hk]
        exact hy
      rw [hnone, Option.merge_none_right]
      cases find? key k xs <;> rfl
    · rfl

theorem nodup_foldl_mergeIn (ys : List α) (h : (xs.map key).Nodup) :
    ((ys.foldl (mergeIn key f) xs).map key).Nodup := by
  induction ys generalizing xs with
  | nil => exact h
  | cons y ys ih => exact ih (nodup_insert h)

end Merge

/-- A key is looked up at the first entry or in the others. -/
theorem lookup_cons [BEq κ] [LawfulBEq κ] {e : κ × β} {m : List (κ × β)} :
    (e :: m).lookup k = if k = e.1 then some e.2 else m.lookup k := by
  by_cases hk : k = e.1
  · rw [if_pos hk, hk, List.lookup_cons_self]
  · rw [if_neg hk, List.lookup_cons, beq_false_of_ne hk]

/-! ### Setting entries at the end -/

variable (key) in
/-- The last entry of each key. -/
def lasts (xs : List α) : List α := xs.pwFilter fun x y => key x ≠ key y

variable (key) in
/-- A list after entries have been set at its end: all of the same keys make way. -/
def replace (new old : List α) : List α :=
  old.filter (fun x => key x ∉ new.map key) ++ lasts key new

variable {x y : α} {new old : List α}

@[simp] theorem lasts_nil : lasts key [] = [] := rfl

theorem lasts_cons :
    lasts key (x :: xs) = if key x ∈ xs.map key then lasts key xs else x :: lasts key xs := by
  have hlater : (∀ y ∈ lasts key xs, key x ≠ key y) ↔ key x ∉ xs.map key := by
    rw [lasts, List.forall_mem_pwFilter]
    · simp [eq_comm]
    · intro x y z hxz
      by_cases hxy : key x = key y
      · exact .inr (hxy ▸ hxz)
      · exact .inl hxy
  split
  · next hx => exact List.pwFilter_cons_of_neg (by rwa [← lasts, hlater, not_not])
  · next hx => exact List.pwFilter_cons_of_pos (by rwa [← lasts, hlater])

theorem lasts_map {key' : β → κ} {f : α → β} (h : ∀ x, key' (f x) = key x) :
    lasts key' (xs.map f) = (lasts key xs).map f := by
  induction xs with
  | nil => rfl
  | cons x xs ih =>
    have hkeys : (xs.map f).map key' = xs.map key := by simp [Function.comp_def, h]
    rw [List.map_cons, lasts_cons, lasts_cons, hkeys, h, ih]
    split <;> rfl

theorem nodup_lasts : ((lasts key xs).map key).Nodup :=
  List.pairwise_map.2 (List.pairwise_pwFilter xs)

omit [DecidableEq κ] in
/-- The last one of its key: the first entry, or the last one among the others. -/
theorem exists_last_cons_iff :
    (∃ before after, y :: xs = before ++ x :: after ∧ key x ∉ after.map key) ↔
      (y = x ∧ key x ∉ xs.map key) ∨
        ∃ before after, xs = before ++ x :: after ∧ key x ∉ after.map key := by
  constructor
  · rintro ⟨_ | ⟨z, before⟩, after, heq, hkey⟩
    · obtain ⟨rfl, rfl⟩ := List.cons.inj heq
      exact .inl ⟨rfl, hkey⟩
    · exact .inr ⟨before, after, (List.cons.inj heq).2, hkey⟩
  · rintro (⟨rfl, hkey⟩ | ⟨before, after, rfl, hkey⟩)
    · exact ⟨[], xs, rfl, hkey⟩
    · exact ⟨y :: before, after, rfl, hkey⟩

theorem mem_lasts_iff : x ∈ lasts key xs ↔
    ∃ before after, xs = before ++ x :: after ∧ key x ∉ after.map key := by
  induction xs with
  | nil => simp
  | cons y xs ih =>
    rw [exists_last_cons_iff, ← ih, lasts_cons]
    split
    · -- the first entry makes way for a later one of its key
      next hy =>
      refine ⟨.inr, fun h => h.resolve_left ?_⟩
      rintro ⟨rfl, hkey⟩
      exact hkey hy
    · next hy =>
      rw [List.mem_cons]
      refine or_congr_left ⟨?_, fun h => h.1.symm⟩
      rintro rfl
      exact ⟨rfl, hy⟩

theorem head?_lasts_eq_some_iff : (lasts key xs).head? = some x ↔
    ∃ before after, xs = before ++ x :: after ∧ key x ∉ after.map key ∧
      ∀ y ∈ before, key y ∈ (x :: after).map key := by
  induction xs with
  | nil => simp
  | cons y xs ih =>
    rw [lasts_cons]
    split
    · next hy =>
      rw [ih]
      constructor
      · rintro ⟨before, after, rfl, hkey, hbefore⟩
        refine ⟨y :: before, after, rfl, hkey, List.forall_mem_cons.2 ⟨?_, hbefore⟩⟩
        rw [List.map_append, List.mem_append] at hy
        refine hy.elim (fun hy => ?_) id
        obtain ⟨z, hz, heq⟩ := List.mem_map.1 hy
        exact heq ▸ hbefore z hz
      · rintro ⟨_ | ⟨z, before⟩, after, heq, hkey, hbefore⟩
        · obtain ⟨rfl, rfl⟩ := List.cons.inj heq
          exact absurd hy hkey
        · exact ⟨before, after, (List.cons.inj heq).2, hkey,
            fun w hw => hbefore w (List.mem_cons_of_mem z hw)⟩
    · next hy =>
      rw [List.head?_cons, Option.some.injEq]
      constructor
      · rintro rfl
        exact ⟨[], xs, rfl, hy, nofun⟩
      · rintro ⟨_ | ⟨z, before⟩, after, heq, hkey, hbefore⟩
        · exact (List.cons.inj heq).1
        · have hxs : xs = before ++ x :: after := (List.cons.inj heq).2
          refine absurd ?_ hy
          rw [hxs, (List.cons.inj heq).1, List.map_append, List.mem_append]
          exact .inr (hbefore z List.mem_cons_self)

@[simp] theorem replace_nil (old : List α) : replace key [] old = old := by
  simp [replace]

theorem replace_cons : replace key (x :: new) old =
    replace key new ((old.filter fun y => key y ≠ key x) ++ [x]) := by
  have hold : (old.filter fun y => key y ∉ (x :: new).map key) =
      (old.filter fun y => key y ≠ key x).filter fun y => key y ∉ new.map key := by
    rw [List.filter_filter]
    refine List.filter_congr fun y _ => ?_
    simp only [List.map_cons, List.mem_cons, not_or, Bool.decide_and, Bool.and_comm, ne_eq]
  rw [replace, replace, hold, List.filter_append, List.append_assoc, lasts_cons]
  -- whether the entry is filtered out at once or when a later one of its key is set
  congr 1
  split
  · next hx => rw [List.filter_cons_of_neg (by simpa using hx), List.filter_nil, List.nil_append]
  · next hx =>
    rw [List.filter_cons_of_pos (by simpa using hx), List.filter_nil, List.singleton_append]

theorem replace_append (first next : List α) :
    replace key (first ++ next) old = replace key next (replace key first old) := by
  induction first generalizing old with
  | nil => simp
  | cons x first ih => rw [List.cons_append, replace_cons, ih, replace_cons]

/-- **An entry stays unless one of its key is set, and of those set the last of each key stays.** -/
theorem mem_replace_iff : x ∈ replace key new old ↔ (x ∈ old ∧ key x ∉ new.map key) ∨
    ∃ before after, new = before ++ x :: after ∧ key x ∉ after.map key := by
  simp only [replace, List.mem_append, List.mem_filter, decide_eq_true_eq, mem_lasts_iff]

/-! ### Lists side by side -/

section Related

variable {R : α → α → Prop} {ys : List α}

theorem find?_related (hkey : ∀ x y, R x y → key y = key x) (h : List.Forall₂ R xs ys) :
    Option.Rel R (find? key k xs) (find? key k ys) := by
  induction h with
  | nil => exact .none
  | @cons x y xs ys hxy _ ih =>
    by_cases hx : key x = k
    · simpa [find?, hkey x y hxy, hx] using Option.Rel.some hxy
    · simpa [find?, hkey x y hxy, hx] using ih

theorem insert_related (hkey : ∀ x y, R x y → key y = key x) (h : List.Forall₂ R xs ys) {x y : α}
    (hxy : R x y) : List.Forall₂ R (insert key x xs) (insert key y ys) := by
  induction h with
  | nil => exact .cons hxy .nil
  | cons hhead htail ih =>
    simp only [insert, hkey _ _ hhead, hkey _ _ hxy]
    split
    · exact .cons hxy htail
    · exact .cons hhead ih

end Related

end Keyed

end RiggedScene
