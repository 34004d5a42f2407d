import RiggedScene.Content.Modifier
import RiggedScene.Morph.Rig
import RiggedScene.Proofs.Keyed
import Mathlib.Data.List.Nodup

/-!
# The last entry wins in place

Libraries, rigs and skins hold their assets, morphs and joints by key. An entry that comes later
takes the place of the first one of its key.

* `Keyed.LastWins` says what is left of a list of entries; `Keyed.LastWins.insert` puts one more in,
  and `Keyed.LastWins.insertAll` any number of them;
* `Keyed.Table` is an array of entries with the places of the keys beside it, and
  `Keyed.Table.InStep.insert` : the places stay right when an entry is put in, whether it takes a
  place or gets a new one;
* `Keyed.Collects` puts this together for a collection with a look-up;
* `Keyed.collections_lastWins` : libraries, rigs and skins are such collections.
-/

namespace RiggedScene

namespace Keyed

variable {α κ : Type} [DecidableEq κ] {key : α → κ} {k : κ} {xs entries : List α}

/-! ### The last entry of each key -/

/-- What is left of the entries `xs`: one for each key. -/
structure LastWins (key : α → κ) (xs entries : List α) : Prop where
  /-- The keys stand in the order in which they came first, each once. -/
  keys : entries.map key = (xs.map key).eraseDups
  /-- No entry of the same key comes later. -/
  last : ∀ x ∈ entries, ∃ before after, xs = before ++ x :: after ∧ key x ∉ after.map key

theorem find?_eq_some_iff_mem {x : α} (h : (xs.map key).Nodup) :
    find? key k xs = some x ↔ x ∈ xs ∧ key x = k := by
  constructor
  · exact fun hx => ⟨mem_of_find? hx, key_of_find? hx⟩
  · rintro ⟨hx, rfl⟩
    exact find?_of_mem h hx

namespace LastWins

theorem nil : LastWins key [] [] := ⟨rfl, nofun⟩

theorem nodup (h : LastWins key xs entries) : (entries.map key).Nodup := by
  rw [h.keys]
  exact nodup_eraseDups _

/-- One more entry is the last one of its key, and the others stay the last ones of theirs. -/
theorem insert (h : LastWins key xs entries) (x : α) :
    LastWins key (xs ++ [x]) (Keyed.insert key x entries) := by
  refine ⟨?_, fun y hy => ?_⟩
  · simp only [map_key_insert, h.keys, List.map_append, List.map_singleton, eraseDups_concat,
      List.mem_eraseDups]
  · by_cases hkey : key y = key x
    · -- the entry that was there before has made way
      obtain rfl : y = x :=
        List.inj_on_of_nodup_map (nodup_insert h.nodup) hy (mem_insert_self x) hkey
      exact ⟨xs, [], rfl, List.not_mem_nil⟩
    · have hold : y ∈ entries := (mem_insert hy).resolve_left fun heq => hkey (heq ▸ rfl)
      obtain ⟨before, after, rfl, hafter⟩ := h.last y hold
      refine ⟨before, after ++ [x], by simp, ?_⟩
      simpa [hkey] using hafter

theorem insertAll (h : LastWins key xs entries) (ys : List α) :
    LastWins key (xs ++ ys) (Keyed.insertAll key entries ys) := by
  induction ys generalizing xs entries with
  | nil => rwa [List.append_nil]
  | cons y ys ih =>
    rw [List.append_cons]
    exact ih (h.insert y)

/-- **The last entry of a key takes the place of the first one.** -/
theorem ofList (xs : List α) : LastWins key xs (Keyed.ofList key xs) := nil.insertAll xs

end LastWins

/-- A key that comes again keeps its place. -/
example : ofList Prod.fst [("a", 1), ("b", 2), ("a", 3)] = [("a", 3), ("b", 2)] := by decide

/-! ### An array with the places of the keys -/

/-- Entries in an array, with the place of each key. -/
structure Table (α κ : Type) [BEq κ] [Hashable κ] where
  entries : Array α
  places : Std.HashMap κ Nat

/-- Where a key comes first. -/
def place? (key : α → κ) (k : κ) (entries : List α) : Option Nat :=
  entries.findIdx? fun x => key x = k

theorem place?_cons (x : α) : place? key k (x :: xs) =
    if key x = k then some 0 else (place? key k xs).map (· + 1) := by
  simp only [place?, List.findIdx?_cons, decide_eq_true_eq]

/-- Places do not change; a new key gets the one behind all others. -/
theorem place?_insert (x : α) : place? key k (insert key x xs) =
    (place? key k xs).or (if key x = k then some xs.length else none) := by
  induction xs with
  | nil => simp only [insert, place?_cons]; rfl
  | cons y ys ih =>
    by_cases hy : key y = key x
    · rw [insert, if_pos hy, place?_cons, place?_cons, hy]
      split <;> simp
    · rw [insert, if_neg hy, place?_cons, place?_cons, ih]
      by_cases hk : key y = k
      · simp [hk]
      · simp only [hk, if_false, List.length_cons]
        cases place? key k ys <;> simp

theorem insert_of_place? {x : α} {i : Nat} (h : place? key (key x) xs = some i) :
    insert key x xs = xs.set i x := by
  induction xs generalizing i with
  | nil => cases h
  | cons y ys ih =>
    rw [place?_cons] at h
    split at h
    · next hy =>
      obtain rfl := Option.some.inj h
      simp [insert, hy]
    · next hy =>
      obtain ⟨j, hj, rfl⟩ := Option.map_eq_some_iff.1 h
      simp [insert, hy, ih hj]

theorem insert_of_place?_none {x : α} (h : place? key (key x) xs = none) :
    insert key x xs = xs ++ [x] := by
  induction xs with
  | nil => rfl
  | cons y ys ih =>
    rw [place?_cons] at h
    split at h
    · cases h
    · next hy => simp [insert, hy, ih (Option.map_eq_none_iff.1 h)]

namespace Table

variable [Hashable κ]

/-- The table without entries. -/
def empty : Table α κ := ⟨#[], ∅⟩

/-- Puts an entry in the place of its key, or behind the others, which is its place from then on. -/
def insert (key : α → κ) (t : Table α κ) (x : α) : Table α κ :=
  match t.places[key x]? with
  | some i => { t with entries := t.entries.setIfInBounds i x }
  | none => ⟨t.entries.push x, t.places.insert (key x) t.entries.size⟩

/-- The table of entries that are put in one after another. -/
def ofList (key : α → κ) (xs : List α) : Table α κ := xs.foldl (insert key) empty

/-- The entry in the place of a key. -/
def find? (t : Table α κ) (k : κ) : Option α := t.places[k]?.bind fun i => t.entries[i]?

/-- A table of these entries, each key at its place. -/
structure InStep (key : α → κ) (t : Table α κ) (entries : List α) : Prop where
  toList : t.entries.toList = entries
  places : ∀ k, t.places[k]? = place? key k entries

namespace InStep

variable {t : Table α κ}

theorem empty : (empty : Table α κ).InStep key [] :=
  ⟨rfl, fun _ => Std.HashMap.getElem?_empty⟩

/-- The place of a key that is there stays; a new key gets the place where its entry goes. -/
theorem insert (h : t.InStep key entries) (x : α) :
    (t.insert key x).InStep key (Keyed.insert key x entries) := by
  have hplace := h.places (key x)
  unfold Table.insert
  cases hx : t.places[key x]? with
  | some i =>
    rw [hx] at hplace
    refine ⟨?_, fun k => ?_⟩
    · rw [Array.toList_setIfInBounds, h.toList, insert_of_place? hplace.symm]
    · rw [place?_insert, h.places]
      split
      · next hk => rw [← hk, ← hplace, Option.some_or]
      · rw [Option.or_none]
  | none =>
    rw [hx] at hplace
    refine ⟨?_, fun k => ?_⟩
    · rw [Array.toList_push, h.toList, insert_of_place?_none hplace.symm]
    · have hsize : t.entries.size = entries.length := by rw [← h.toList, Array.length_toList]
      rw [Std.HashMap.getElem?_insert, place?_insert, h.places, hsize]
      by_cases hk : key x = k
      · subst hk
        simp [← hplace]
      · simp [hk]

theorem insertAll (h : t.InStep key entries) (xs : List α) :
    (xs.foldl (Table.insert key) t).InStep key (Keyed.insertAll key entries xs) := by
  induction xs generalizing t entries with
  | nil => exact h
  | cons x xs ih => exact ih (h.insert x)

theorem find? (h : t.InStep key entries) (k : κ) : t.find? k = Keyed.find? key k entries := by
  rw [Table.find?, Keyed.find?, List.find?_eq_bind_findIdx?_getElem?, h.places, ← h.toList, place?]
  simp only [Array.getElem?_toList]

end InStep

end Table

/-! ### Collections -/

/-- A collection that the entries `xs` were put into one after another. It holds `entries`, and
`find` looks a key up. -/
structure Collects [Hashable κ] (key : α → κ) (xs entries : List α) (find : κ → Option α) : Prop
    extends LastWins key xs entries where
  /-- A key finds the entry that has it, and nothing else. -/
  find_iff : ∀ k x, find k = some x ↔ x ∈ entries ∧ key x = k
  /-- The table of the entries has all keys at their places. -/
  inStep : (Table.ofList key xs).InStep key entries
  find_table : ∀ k, (Table.ofList key xs).find? k = find k

theorem collects_ofList [Hashable κ] (xs : List α) :
    Collects key xs (ofList key xs) fun k => find? key k (ofList key xs) := by
  have hlast : LastWins key xs (ofList key xs) := LastWins.ofList xs
  have htable : (Table.ofList key xs).InStep key (ofList key xs) := Table.InStep.empty.insertAll xs
  exact ⟨hlast, fun k x => find?_eq_some_iff_mem hlast.nodup, htable, htable.find?⟩

end Keyed

namespace Library

variable {α : Type} [Identified α]

theorem entries_ofList (xs : List α) : (ofList xs).entries = Keyed.ofList Identified.id xs := by
  have hfold : ∀ l : Library α, (xs.foldl insert l).entries =
      Keyed.insertAll Identified.id l.entries xs := by
    induction xs with
    | nil => exact fun _ => rfl
    | cons x xs ih => exact fun l => ih (l.insert x)
  exact hfold empty

theorem collects_ofList (xs : List α) :
    Keyed.Collects Identified.id xs (ofList xs).entries (ofList xs).find? := by
  have h : Keyed.Collects Identified.id xs (Keyed.ofList Identified.id xs) _ :=
    Keyed.collects_ofList xs
  rw [← entries_ofList] at h
  exact h

end Library

namespace MorphRig

/-- The morphs of modifiers, not yet set. Modifiers that are no morphs are left out. -/
def ofModifiers (ms : List Modifier) : List RiggedMorph :=
  ms.filterMap fun m => m.morph?.map (ofModifier m)

/-- The rig after modifiers have been taken in one after another, each with the mesh that it is for.
One that is no morph changes nothing. -/
def registerEach (r : MorphRig) (calls : List (Modifier × Mesh)) : MorphRig :=
  calls.foldl (fun r c => (r.register? c.1 c.2).elim r Prod.fst) r

theorem morphs_registerEach (r : MorphRig) (calls : List (Modifier × Mesh)) :
    (r.registerEach calls).morphs =
      Keyed.insertAll RiggedMorph.name r.morphs (ofModifiers (calls.map Prod.fst)) := by
  induction calls generalizing r with
  | nil => rfl
  | cons c calls ih =>
    refine (ih _).trans ?_
    simp only [register?, ofModifiers, List.map_cons, List.filterMap_cons]
    cases c.1.morph? <;> rfl

theorem collects_registerEach (calls : List (Modifier × Mesh)) :
    Keyed.Collects RiggedMorph.name (ofModifiers (calls.map Prod.fst))
      (empty.registerEach calls).morphs (empty.registerEach calls).find? := by
  have hmorphs : (empty.registerEach calls).morphs =
      Keyed.ofList RiggedMorph.name (ofModifiers (calls.map Prod.fst)) :=
    empty.morphs_registerEach calls
  have h : Keyed.Collects RiggedMorph.name (ofModifiers (calls.map Prod.fst)) _ _ :=
    Keyed.collects_ofList _
  rw [← hmorphs] at h
  exact h

end MorphRig

/-- **The last entry wins in place.** After any insertions into a library, after any registrations
of morphs, and for any list of joints, there is one entry for each key. It stands where the key came
first, and it is the last one of its key. A library and a rig find it under its key, and find
nothing under a key that never came; an array with the places of the keys beside it, which all stay
right, finds the same. -/
theorem Keyed.collections_lastWins :
    (∀ {α : Type} [Identified α] (xs : List α),
      Collects Identified.id xs (Library.ofList xs).entries (Library.ofList xs).find?) ∧
    (∀ calls : List (Modifier × Mesh),
      Collects RiggedMorph.name (MorphRig.ofModifiers (calls.map Prod.fst))
        (MorphRig.empty.registerEach calls).morphs (MorphRig.empty.registerEach calls).find?) ∧
    ∀ (node geometry : Option String) (joints : List Joint),
      LastWins Joint.node joints (Skin.ofJoints node geometry joints).joints :=
  ⟨Library.collects_ofList, MorphRig.collects_registerEach,
    fun _ _ joints => LastWins.ofList joints⟩

end RiggedScene
