import RiggedScene.Formula
import Mathlib.Data.List.Basic
import Mathlib.Data.List.Induction

/-!
# Formulas: the depth of the stack, and joined results

Whether a formula has a result depends on its operations only, not on the numbers it meets.

* `Formula.depthRun` runs the operations on the depth of the stack alone;
* `Formula.run_depth` says that the machine follows it, whatever the arithmetic, the literals and
  the references lead to;
* `Formula.evaluate_outcome` is the same for the whole evaluation;
* `Formula.evaluate_congr` : the result depends on what `Formula.reads` lead to only;
* `Output.exists_combine` : joining results keeps their targets.
-/

namespace RiggedScene

namespace Formula

variable {α : Type}

/-- What the step at `position` does to the depth of the stack. -/
def depthStep (position depth : Nat) : Operation α → Except FormulaError Nat
  | .push _ _ => .ok (depth + 1)
  | .unsupported name => .error (.unsupported name)
  | .arith _ => if depth < 2 then .error (.stackUnderflow position) else .ok (depth - 1)

/-- What the steps from `position` on do to the depth of the stack. -/
def depthRun : Nat → Nat → List (Operation α) → Except FormulaError Nat
  | _, depth, [] => .ok depth
  | position, depth, op :: ops =>
    match depthStep position depth op with
    | .error e => .error e
    | .ok depth' => depthRun (position + 1) depth' ops

/-- Whether a formula has a result, and if not, why. -/
def outcome (f : Formula α) : Except FormulaError Unit :=
  match depthRun 0 0 f.operations with
  | .error e => .error e
  | .ok 0 => .error .emptyStack
  | .ok (_ + 1) => .ok ()

variable (A : Arithmetic α) (resolve : String → Option α)

theorem step_depth (position : Nat) (m : Machine α) (op : Operation α) :
    (step A resolve position m op).map (·.stack.length) =
      depthStep position m.stack.length op := by
  cases op with
  | push literal url =>
    cases url with
    | none => rfl
    | some url =>
      simp only [step, depthStep]
      cases resolve url <;> rfl
  | unsupported name => rfl
  | arith op =>
    obtain ⟨stack, unresolved⟩ := m
    match stack with
    | [] => rfl
    | [_] => rfl
    | a :: b :: rest => simp [step, depthStep, Except.map]

theorem run_depth (ops : List (Operation α)) :
    ∀ (position : Nat) (m : Machine α), (run A resolve position m ops).map (·.stack.length) =
      depthRun position m.stack.length ops := by
  induction ops with
  | nil => intro position m; rfl
  | cons op ops ih =>
    intro position m
    have hstep := step_depth A resolve position m op
    simp only [run, depthRun]
    rw [← hstep]
    cases step A resolve position m op with
    | error e => rfl
    | ok m' => exact ih (position + 1) m'

theorem evaluate_outcome (f : Formula α) :
    (f.evaluate A resolve).map (fun _ => ()) = f.outcome := by
  have hrun : (run A resolve 0 ⟨[], []⟩ f.operations).map (·.stack.length) =
      depthRun 0 0 f.operations := run_depth A resolve f.operations 0 ⟨[], []⟩
  simp only [evaluate, outcome]
  rw [← hrun]
  cases run A resolve 0 ⟨[], []⟩ f.operations with
  | error e => rfl
  | ok m =>
    obtain ⟨stack, unresolved⟩ := m
    cases stack <;> rfl

/-- A formula that has a result has one whatever its references lead to. -/
theorem exists_evaluate_iff (f : Formula α) :
    (∃ e, f.evaluate A resolve = .ok e) ↔ f.outcome = .ok () := by
  rw [← evaluate_outcome A resolve f]
  cases f.evaluate A resolve with
  | error e => simp [Except.map]
  | ok e => simp [Except.map]

/-! ### What a formula reads -/

/-- The references that steps read. -/
def readsOf (ops : List (Operation α)) : List String :=
  ops.filterMap fun
    | .push _ url => url
    | _ => none

/-- The references that a formula reads. -/
def reads (f : Formula α) : List String := readsOf f.operations

variable {resolve} {resolve' : String → Option α}

theorem run_congr {ops : List (Operation α)} (h : ∀ url ∈ readsOf ops, resolve url = resolve' url)
    (position : Nat) (m : Machine α) :
    run A resolve position m ops = run A resolve' position m ops := by
  induction ops generalizing position m with
  | nil => rfl
  | cons op ops ih =>
    have hstep : step A resolve position m op = step A resolve' position m op := by
      cases op with
      | push literal url =>
        cases url with
        | none => rfl
        | some url => simp only [step, h url (by simp [readsOf])]
      | arith op => rfl
      | unsupported name => rfl
    have hops : ∀ url ∈ readsOf ops, resolve url = resolve' url := fun url hurl =>
      h url (by
        obtain ⟨op', hop', hread⟩ := List.mem_filterMap.1 hurl
        exact List.mem_filterMap.2 ⟨op', List.mem_cons_of_mem op hop', hread⟩)
    simp only [run, hstep]
    cases step A resolve' position m op with
    | error e => rfl
    | ok m' => exact ih hops (position + 1) m'

/-- The result of a formula depends on what its references lead to only. -/
theorem evaluate_congr {f : Formula α} (h : ∀ url ∈ f.reads, resolve url = resolve' url) :
    f.evaluate A resolve = f.evaluate A resolve' := by
  simp only [evaluate, run_congr A h]

end Formula

/-! ### Joined results -/

namespace Output

variable {α : Type} {A : Arithmetic α} {P : String → Prop} {os : List (Output α)}

theorem exists_join {later : Output α} :
    (∃ o ∈ join A later os, P o.target) ↔ P later.target ∨ ∃ o ∈ os, P o.target := by
  induction os with
  | nil => simp [join]
  | cons o os ih =>
    simp only [join]
    split
    · next heq => simp [heq]
    · rw [List.exists_mem_cons_iff, ih, List.exists_mem_cons_iff, or_left_comm]

theorem join_targets {os' : List (Output α)} {later later' : Output α}
    (hlater : later'.target = later.target) (h : os'.map target = os.map target) :
    (join A later' os').map target = (join A later os).map target := by
  induction os generalizing os' with
  | nil =>
    obtain rfl : os' = [] := by simpa using h
    simpa [join] using hlater
  | cons o os ih =>
    cases os' with
    | nil => simp at h
    | cons o' os' =>
      obtain ⟨ho, hos⟩ := List.cons.inj h
      simp only [join, ho, hlater]
      split
      · simp [hos]
      · simp [ho, ih hos]

theorem foldl_join_targets {os' acc acc' : List (Output α)}
    (hacc : acc'.map target = acc.map target) (h : os'.map target = os.map target) :
    (os'.foldl (fun acc o => join A o acc) acc').map target =
      (os.foldl (fun acc o => join A o acc) acc).map target := by
  induction os generalizing os' acc acc' with
  | nil =>
    obtain rfl : os' = [] := by simpa using h
    exact hacc
  | cons o os ih =>
    cases os' with
    | nil => simp at h
    | cons o' os' =>
      obtain ⟨ho, hos⟩ := List.cons.inj h
      rw [List.foldl_cons, List.foldl_cons]
      exact ih (join_targets ho hacc) hos

theorem combine_targets {os' : List (Output α)} (h : os'.map target = os.map target) :
    (combine A os').map target = (combine A os).map target :=
  foldl_join_targets rfl h

/-- Joining keeps the targets. -/
theorem exists_combine (P : String → Prop) :
    (∃ o ∈ combine A os, P o.target) ↔ ∃ o ∈ os, P o.target := by
  induction os using List.reverseRecOn with
  | nil => rfl
  | append_singleton os o ih =>
    have hlast : combine A (os ++ [o]) = join A o (combine A os) := List.foldl_append
    rw [hlast, exists_join, ih]
    simp [or_and_right, exists_or, or_comm]

end Output

end RiggedScene
