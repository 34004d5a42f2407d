import RiggedScene.Proofs.Morph.Totals

/-!
# Joining results target by target

The results of formulas come in the order in which the formulas are run, those for one target
between those for others.

* `Output.combine_of_nodup` : results for different targets are left as they are;
* `Output.Reordered` says that results come in another order, where those for one target keep
  theirs, and `Output.Reordered.exchange` that exchanging neighbours for different targets is such a
  change;
* `Output.combine_joined` : joining leaves one result for each target, made of its own results, so
  that joining again and reordering change nothing but the order.
-/

namespace RiggedScene

namespace Output

variable {α : Type} {A : Arithmetic α} {os os' : List (Output α)} {o o' later : Output α}

/-! ### Joining again -/

theorem join_of_notMem (h : later.target ∉ os.map target) : join A later os = os ++ [later] := by
  induction os with
  | nil => rfl
  | cons o os ih =>
    obtain ⟨ho, hos⟩ := not_or.1 (mt List.mem_cons.2 h)
    simp only [join, if_neg (Ne.symm ho), ih hos, List.cons_append]

/-- **Results for different targets are left as they are.** -/
theorem combine_of_nodup (h : (os.map target).Nodup) : combine A os = os := by
  -- from the end, since results are joined from the front
  induction os using List.reverseRecOn with
  | nil => rfl
  | append_singleton os o ih =>
    rw [List.map_append, List.map_singleton, ← List.concat_eq_append, List.nodup_concat] at h
    obtain ⟨hnew, hos⟩ := h
    have hlast : combine A (os ++ [o]) = join A o (combine A os) := List.foldl_append
    rw [hlast, ih hos, join_of_notMem hnew]

/-! ### Results in another order -/

/-- The results of `os` in another order, where those for one target keep theirs. -/
def Reordered (os os' : List (Output α)) : Prop :=
  ∀ text, (os'.filter fun o => o.target = text) = os.filter fun o => o.target = text

/-- Neighbours for different targets may change places. -/
theorem Reordered.exchange (before after : List (Output α)) (h : o.target ≠ o'.target) :
    Reordered (before ++ o :: o' :: after) (before ++ o' :: o :: after) := by
  intro text
  by_cases ho : o.target = text
  · have ho' : o'.target ≠ text := fun heq => h (ho.trans heq.symm)
    simp [List.filter_append, ho, ho']
  · simp [List.filter_append, List.filter_cons, ho]

/-- **What is joined depends on the results for each target alone.** -/
theorem mem_combine_congr (h : Reordered os os') : o ∈ combine A os' ↔ o ∈ combine A os := by
  rw [mem_combine_iff, mem_combine_iff, h o.target]

theorem nodup_combine (os : List (Output α)) : (combine A os).Nodup :=
  (nodup_targets_combine os).of_map target

/-- **Joining leaves one result for each target**, in order of first occurrence: the first result
for the target, with the values of the later ones joined to its value one after another, each with
its own stage. So joining again changes nothing, and if results for different targets come in
another order, so do the joined ones at most. -/
theorem combine_joined (A : Arithmetic α) (os : List (Output α)) :
    (combine A os).map target = (os.map target).eraseDups ∧
      (∀ o ∈ combine A os, ∃ first later,
        (os.filter fun o' => o'.target = o.target) = first :: later ∧
          o = ⟨first.target, first.stage, later.foldl (fun v o' => match o'.stage with
            | .sum => A.add v o'.value
            | .mult => A.mult v o'.value) first.value⟩) ∧
      combine A (combine A os) = combine A os ∧
      ∀ os', Reordered os os' → (combine A os').Perm (combine A os) := by
  refine ⟨targets_combine os, fun o ho => ?_, combine_of_nodup (nodup_targets_combine os),
    fun os' hos' => ?_⟩
  · have hjoined := mem_combine_iff.1 ho
    cases hown : os.filter fun o' => o'.target = o.target with
    | nil =>
      rw [hown] at hjoined
      cases hjoined
    | cons first later =>
      rw [hown] at hjoined
      exact ⟨first, later, rfl, (Option.some.inj hjoined).symm⟩
  · exact (List.perm_ext_iff_of_nodup (nodup_combine os') (nodup_combine os)).2 fun o =>
      mem_combine_congr hos'

/-- Four results, three of them for one target: the first is multiplied where it is joined to
others, but it is the later ones that say how. -/
theorem combine_joined_bend :
    let A : Arithmetic Int := ⟨(· + ·), (· - ·), (· * ·), (· / ·), -2⟩
    let bend : Output Int := ⟨"thigh?rotation/x", .mult, 2⟩
    let twist : Output Int := ⟨"thigh?rotation/y", .sum, 5⟩
    let more : Output Int := ⟨"thigh?rotation/x", .sum, 3⟩
    let times : Output Int := ⟨"thigh?rotation/x", .mult, 4⟩
    Reordered [bend, twist, more, times] [twist, bend, more, times] ∧
      combine A [bend, twist, more, times] = [{ bend with value := (2 + 3) * 4 }, twist] ∧
      combine A [twist, bend, more, times] = [twist, { bend with value := (2 + 3) * 4 }] ∧
      (combine A [twist, bend, more, times]).Perm (combine A [bend, twist, more, times]) := by
  intro A bend twist more times
  have hreordered : Reordered [bend, twist, more, times] [twist, bend, more, times] :=
    .exchange [] [more, times] (by decide)
  exact ⟨hreordered, rfl, rfl,
    (combine_joined A [bend, twist, more, times]).2.2.2 _ hreordered⟩

end Output

end RiggedScene
