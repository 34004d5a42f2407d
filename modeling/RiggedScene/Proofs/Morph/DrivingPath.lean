import RiggedScene.Proofs.Morph.Rerun

/-!
# Driving paths

A morph may be driven in several ways, by several results of one morph or through different morphs.
A path tells these ways apart, by the numbers of the results that it follows.

* `MorphRig.DrivesBy` are the edges of the drive graph with the results that make them;
* `MorphRig.DrivingPath` are the ways along these edges;
* `MorphRig.drivingPath_iff` : a path ends where it begins, or it begins with one of the results of
  its first morph.
-/

namespace RiggedScene

namespace MorphRig

variable {r r' : MorphRig}

/-! ### Results and what they drive -/

/-- Result number `k` of the morph `i` names the other morph `t`. -/
def DrivesBy (r : MorphRig) (i : String) (k : Nat) (t : String) : Prop :=
  ∃ m, r.find? i = some m ∧ ∃ output, (outcomes m)[k]? = some output ∧
    (r.target? output).map RiggedMorph.name = some t ∧ t ≠ i

/-- A way from one morph to another one, by the numbers of the results that drive. -/
inductive DrivingPath (r : MorphRig) : String → List Nat → String → Prop
  | here (i : String) : DrivingPath r i [] i
  | through {i t n : String} {k : Nat} {ks : List Nat} :
      r.DrivesBy i k t → DrivingPath r t ks n → DrivingPath r i (k :: ks) n

theorem drives_iff_exists_drivesBy {i t : String} : r.Drives i t ↔ ∃ k, r.DrivesBy i k t := by
  constructor
  · rintro ⟨hne, hsome, m, hm, f, hf, ⟨e, he⟩, u, hu, rfl⟩
    obtain ⟨x, hx⟩ := Option.isSome_iff_exists.1 hsome
    have hmem : f.output ∈ outcomes m := by
      have houtcome := (Formula.exists_evaluate_iff .binary64 r.resolve f).1 ⟨e, he⟩
      exact List.mem_filterMap.2 ⟨f, hf, by rw [houtcome]; rfl⟩
    obtain ⟨k, hk⟩ := List.getElem?_of_mem hmem
    refine ⟨k, m, hm, f.output, hk, ?_, hne⟩
    rw [target?_eq_some_iff.2 ⟨u, hu, hx⟩, Option.map_some, show x.name = u.assetId from
      Keyed.key_of_find? hx]
  · rintro ⟨k, m, hm, output, hk, ht, hne⟩
    obtain ⟨f, hf, hresult⟩ := List.mem_filterMap.1 (List.mem_of_getElem? hk)
    obtain ⟨x, hx, rfl⟩ := Option.map_eq_some_iff.1 ht
    obtain ⟨u, hu, hfind⟩ := target?_eq_some_iff.1 hx
    have hname : x.name = u.assetId := Keyed.key_of_find? hfind
    cases houtcome : f.outcome with
    | error e => simp [houtcome, Except.toOption] at hresult
    | ok _ =>
      obtain rfl : f.output = output := by simpa [houtcome, Except.toOption] using hresult
      refine ⟨hne, by rw [hname, hfind]; rfl, m, hm, f, hf, ?_, u, hu, hname.symm⟩
      exact (Formula.exists_evaluate_iff .binary64 r.resolve f).2 houtcome

/-- A driving path leads along the drive graph. -/
theorem DrivingPath.reaches {i n : String} {ks : List Nat} (h : r.DrivingPath i ks n) :
    Relation.ReflTransGen r.Drives i n := by
  induction h with
  | here i => exact .refl
  | through hk _ ih => exact .head (drives_iff_exists_drivesBy.2 ⟨_, hk⟩) ih

/-- A path that begins with one of the results number `k` and following of the morph `i`. -/
def Behind (r : MorphRig) (i : String) (k : Nat) (outputs : List String) (ks : List Nat)
    (n : String) : Prop :=
  ∃ j output t q, outputs[j]? = some output ∧ (r.target? output).map RiggedMorph.name = some t ∧
    t ≠ i ∧ ks = (k + j) :: q ∧ r.DrivingPath t q n

/-- A path that begins with one result. -/
def Through (r : MorphRig) (i : String) (k : Nat) (output : String) (ks : List Nat) (n : String) :
    Prop :=
  ∃ t q, (r.target? output).map RiggedMorph.name = some t ∧ t ≠ i ∧ ks = k :: q ∧
    r.DrivingPath t q n

theorem behind_cons {i output n : String} {outputs : List String} {k : Nat} {ks : List Nat} :
    r.Behind i k (output :: outputs) ks n ↔
      r.Through i k output ks n ∨ r.Behind i (k + 1) outputs ks n := by
  constructor
  · rintro ⟨j, o, t, q, hj, ht, hne, rfl, hq⟩
    cases j with
    | zero =>
      obtain rfl : output = o := by simpa using hj
      exact .inl ⟨t, q, ht, hne, rfl, hq⟩
    | succ j =>
      have hplace : k + (j + 1) = k + 1 + j := Nat.add_right_comm k j 1
      exact .inr ⟨j, o, t, q, by simpa using hj, ht, hne, by rw [hplace], hq⟩
  · rintro (⟨t, q, ht, hne, rfl, hq⟩ | ⟨j, o, t, q, hj, ht, hne, rfl, hq⟩)
    · exact ⟨0, output, t, q, rfl, ht, hne, rfl, hq⟩
    · have hplace : k + 1 + j = k + (j + 1) := Nat.add_right_comm k 1 j
      exact ⟨j + 1, o, t, q, by simpa using hj, ht, hne, by rw [hplace], hq⟩

theorem Behind.not_through {i output n n' : String} {outputs : List String} {k : Nat}
    {ks : List Nat} (h : r.Behind i (k + 1) outputs ks n) : ¬ r.Through i k output ks n' := by
  rintro ⟨_, _, -, -, hthrough, -⟩
  obtain ⟨j, _, _, _, -, -, -, hbehind, -⟩ := h
  obtain ⟨hk, -⟩ := List.cons.inj (hthrough.symm.trans hbehind)
  omega

/-- A path ends where it begins, or it begins with a result. -/
theorem drivingPath_iff {m : RiggedMorph} (hm : r.Holds m) {ks : List Nat} {n : String} :
    r.DrivingPath m.name ks n ↔
      (ks = [] ∧ n = m.name) ∨ r.Behind m.name 0 (outcomes m) ks n := by
  obtain ⟨m', hm', hunset⟩ := hm.exists_find?
  have houtcomes : outcomes m' = outcomes m := outcomes_congr hunset
  constructor
  · rintro (- | ⟨⟨m'', hm'', output, hk, ht, hne⟩, hq⟩)
    · exact .inl ⟨rfl, rfl⟩
    · obtain rfl := Option.some.inj (hm'.symm.trans hm'')
      exact .inr ⟨_, output, _, _, houtcomes ▸ hk, ht, hne, by rw [Nat.zero_add], hq⟩
  · rintro (⟨rfl, rfl⟩ | ⟨j, output, t, q, hj, ht, hne, rfl, hq⟩)
    · exact .here m.name
    · rw [Nat.zero_add]
      exact .through ⟨m', hm', output, houtcomes ▸ hj, ht, hne⟩ hq

end MorphRig

end RiggedScene
