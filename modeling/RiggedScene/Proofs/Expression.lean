import RiggedScene.Proofs.Formula

/-!
# Expressions as programs

Formulas are written for a stack. What they are written from is an expression: a number, a
reference, or two expressions and an operation between them.

* `Expression.value` is what an expression stands for, without a stack;
* `Expression.steps` is its program: the right operand first, then the left one, then the
  operation, since an operation takes its left operand from the top; `Expression.readsOf_steps` :
  it reads the references of the expression;
* `Expression.run_steps` : wherever the program starts and whatever lies on the stack then, it leaves
  the value on top of what was there;
* `Formula.run_unresolved` : the references that led nowhere are those of the program, in its
  order;
* `Expression.evaluate_steps` puts both together.
-/

namespace RiggedScene

/-- An expression that a formula can compute. -/
inductive Expression (α : Type) where
  | literal (v : α)
  /-- A reference, and the number that is written beside it and not read. -/
  | reference (beside : α) (url : String)
  | binary (op : BinaryOp) (left right : Expression α)
  deriving Repr, DecidableEq

namespace Formula

variable {α : Type} (A : Arithmetic α) (resolve : String → Option α)

/-! ### Runs in pieces -/

theorem readsOf_append (ops ops' : List (Operation α)) :
    readsOf (ops ++ ops') = readsOf ops ++ readsOf ops' :=
  List.filterMap_append

theorem run_append (ops ops' : List (Operation α)) (position : Nat) (m : Machine α) :
    run A resolve position m (ops ++ ops') =
      match run A resolve position m ops with
      | .error e => .error e
      | .ok m' => run A resolve (position + ops.length) m' ops' := by
  induction ops generalizing position m with
  | nil => rfl
  | cons op ops ih =>
    simp only [List.cons_append, run, List.length_cons]
    cases step A resolve position m op with
    | error e => rfl
    | ok m' => simp only [ih, Nat.add_assoc, Nat.add_comm 1]

/-- The references among `urls` that lead nowhere. -/
def missing (urls : List String) : List String := urls.filter fun url => (resolve url).isNone

theorem missing_append (urls urls' : List String) :
    missing resolve (urls ++ urls') = missing resolve urls ++ missing resolve urls' :=
  List.filter_append urls urls'

variable {A resolve}

theorem step_unresolved {position : Nat} {m m' : Machine α} {op : Operation α}
    (h : step A resolve position m op = .ok m') :
    m'.unresolved = (missing resolve (readsOf [op])).reverse ++ m.unresolved := by
  cases op with
  | push literal url =>
    cases url with
    | none =>
      cases h
      rfl
    | some url =>
      simp only [step] at h
      cases hurl : resolve url with
      | none =>
        rw [hurl] at h
        cases h
        simp [readsOf, missing, hurl]
      | some v =>
        rw [hurl] at h
        cases h
        simp [readsOf, missing, hurl]
  | unsupported name => cases h
  | arith op =>
    simp only [step] at h
    split at h
    · cases h
      rfl
    · cases h

/-- A run notes the references of its steps that lead nowhere, each as often as it is read. -/
theorem run_unresolved {ops : List (Operation α)} {position : Nat} {m m' : Machine α}
    (h : run A resolve position m ops = .ok m') :
    m'.unresolved = (missing resolve (readsOf ops)).reverse ++ m.unresolved := by
  induction ops generalizing position m with
  | nil =>
    cases h
    rfl
  | cons op ops ih =>
    simp only [run] at h
    split at h
    · cases h
    · next m₁ hstep =>
      have hreads : readsOf (op :: ops) = readsOf [op] ++ readsOf ops := readsOf_append [op] ops
      rw [ih h, step_unresolved hstep, hreads, missing_append, List.reverse_append,
        List.append_assoc]

end Formula

namespace Expression

open Formula

variable {α : Type} (A : Arithmetic α) (resolve : String → Option α)

/-- What an expression stands for. -/
def value : Expression α → α
  | literal v => v
  | reference _ url => (resolve url).getD A.unresolved
  | binary .add left right => A.add left.value right.value
  | binary .sub left right => A.sub left.value right.value
  | binary .mult left right => A.mult left.value right.value
  | binary .div left right => A.div left.value right.value

/-- The program of an expression. -/
def steps : Expression α → List (Operation α)
  | literal v => [.push v none]
  | reference beside url => [.push beside (some url)]
  | binary op left right => right.steps ++ left.steps ++ [.arith op]

/-- The references of an expression, in the order in which its program reads them. -/
def references : Expression α → List String
  | literal _ => []
  | reference _ url => [url]
  | binary _ left right => right.references ++ left.references

theorem readsOf_steps (e : Expression α) : readsOf e.steps = e.references := by
  induction e with
  | literal v => rfl
  | reference beside url => rfl
  | binary op left right ihleft ihright =>
    simp only [steps, references, readsOf_append, ihleft, ihright]
    exact List.append_nil _

theorem step_arith (op : BinaryOp) (left right : Expression α) (position : Nat) (stack : List α)
    (unresolved : List String) :
    step A resolve position
        ⟨left.value A resolve :: right.value A resolve :: stack, unresolved⟩ (.arith op) =
      .ok ⟨(binary op left right).value A resolve :: stack, unresolved⟩ := by
  cases op <;> rfl

/-- The program of an expression puts its value on the stack and touches nothing below. -/
theorem run_steps (e : Expression α) (position : Nat) (m : Machine α) :
    ∃ unresolved,
      run A resolve position m e.steps = .ok ⟨e.value A resolve :: m.stack, unresolved⟩ := by
  induction e generalizing position m with
  | literal v => exact ⟨_, rfl⟩
  | reference beside url =>
    simp only [steps, run, step, value]
    cases resolve url with
    | none => exact ⟨_, rfl⟩
    | some v => exact ⟨_, rfl⟩
  | binary op left right ihleft ihright =>
    -- the left operand is computed last and lies on top
    obtain ⟨before, hright⟩ := ihright position m
    obtain ⟨unresolved, hleft⟩ :=
      ihleft (position + right.steps.length) ⟨right.value A resolve :: m.stack, before⟩
    refine ⟨unresolved, ?_⟩
    simp only [steps, run_append, hright, hleft, run, step_arith]

/-- Behind steps that run, the program of an expression has the value of the expression for its
result, and the references that led nowhere are those of all the steps. -/
theorem evaluate_steps (e : Expression α) (output : String) (stage : Stage)
    {before : List (Operation α)} {m : Machine α}
    (hbefore : run A resolve 0 ⟨[], []⟩ before = .ok m) :
    evaluate A resolve ⟨output, before ++ e.steps, stage⟩ =
        .ok ⟨e.value A resolve, missing resolve (readsOf before ++ e.references)⟩ ∧
      Arithmetic.binary64.unresolved = -1.99 := by
  refine ⟨?_, rfl⟩
  obtain ⟨unresolved, hsteps⟩ := run_steps A resolve e (0 + before.length) m
  have hrun : run A resolve 0 ⟨[], []⟩ (before ++ e.steps) =
      .ok ⟨e.value A resolve :: m.stack, unresolved⟩ := by
    rw [run_append, hbefore]
    exact hsteps
  have hunresolved :
      unresolved = (missing resolve (readsOf before ++ e.references)).reverse := by
    have hreads := run_unresolved hrun
    rwa [readsOf_append, readsOf_steps, List.append_nil] at hreads
  simp only [evaluate, hrun, hunresolved, List.reverse_reverse]

/-- With what is left of three steps below, `7 + 3 * (x - y) / 2` for an `x` that leads nowhere. -/
theorem evaluate_steps_difference :
    let A : Arithmetic Int := ⟨(· + ·), (· - ·), (· * ·), (· / ·), -2⟩
    let resolve : String → Option Int := fun url => if url = "y" then some 5 else none
    let before : List (Operation Int) := [.push 1 none, .push 0 (some "z"), .push 0 (some "y")]
    let difference : Expression Int := binary .sub (reference 0 "x") (reference 0 "y")
    let e := binary .add (literal 7) (binary .div (binary .mult (literal 3) difference) (literal 2))
    run A resolve 0 ⟨[], []⟩ before = .ok ⟨[5, -2, 1], ["z"]⟩ ∧
      evaluate A resolve ⟨"hip?value", before ++ e.steps, .sum⟩ = .ok ⟨-4, ["z", "x"]⟩ := by
  intro A resolve before difference e
  have hbefore : run A resolve 0 ⟨[], []⟩ before = .ok ⟨[5, -2, 1], ["z"]⟩ := rfl
  exact ⟨hbefore, (evaluate_steps A resolve e "hip?value" .sum hbefore).1⟩

end Expression

end RiggedScene
