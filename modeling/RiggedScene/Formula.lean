import RiggedScene.Json.Record

/-!
# Formulas

A formula is a short postfix program whose result drives a property. The numbers it runs on and
their arithmetic are a parameter, `Arithmetic`.

* `Formula.evaluate` runs the program: an operation takes `a` from the top of the stack and `b`
  from below it and puts `a op b` back;
* `Stage.combine` joins a later result of the same output to an earlier one;
* `Output.combine` joins all results output by output.
-/

namespace RiggedScene

/-- The arithmetic formulas run on. -/
structure Arithmetic (α : Type) where
  add : α → α → α
  sub : α → α → α
  mult : α → α → α
  div : α → α → α
  /-- The value of a reference that leads nowhere. -/
  unresolved : α

/-- Binary64 arithmetic. -/
def Arithmetic.binary64 : Arithmetic Float where
  add := (· + ·)
  sub := (· - ·)
  mult := (· * ·)
  div := (· / ·)
  unresolved := -1.99

/-- How results of one output are joined. -/
inductive Stage where
  | sum
  | mult
  deriving Repr, DecidableEq, Inhabited

namespace Stage

/-- Every other word than `sum` multiplies. -/
def ofText (s : String) : Stage := if s = "sum" then .sum else .mult

/-- The word of a stage. -/
def text : Stage → String
  | sum => "sum"
  | mult => "mult"

/-- Joins a later value to an earlier one. -/
def combine {α : Type} (A : Arithmetic α) : Stage → α → α → α
  | sum => A.add
  | mult => A.mult

end Stage

/-- An arithmetic operation. -/
inductive BinaryOp where
  | add
  | sub
  | mult
  | div
  deriving Repr, DecidableEq

namespace BinaryOp

/-- The operation on numbers. -/
def apply {α : Type} (A : Arithmetic α) : BinaryOp → α → α → α
  | add => A.add
  | sub => A.sub
  | mult => A.mult
  | div => A.div

/-- The word of an operation. -/
def text : BinaryOp → String
  | add => "add"
  | sub => "sub"
  | mult => "mult"
  | div => "div"

/-- The operation of a word. -/
def ofText? (s : String) : Option BinaryOp := [add, sub, mult, div].find? fun op => op.text = s

end BinaryOp

/-- A step of a formula. -/
inductive Operation (α : Type) where
  /-- Puts a number on the stack: the literal, or what the reference leads to. -/
  | push (literal : α) (url : Option String)
  | arith (op : BinaryOp)
  /-- A step that formulas do not know. -/
  | unsupported (name : String)
  deriving Repr, DecidableEq

/-- A postfix program and the property it drives. -/
structure Formula (α : Type) where
  /-- Reference to the property. -/
  output : String
  operations : List (Operation α)
  stage : Stage
  deriving Repr, DecidableEq

/-- Why a formula has no result. -/
inductive FormulaError where
  | stackUnderflow (position : Nat)
  | unsupported (name : String)
  | emptyStack
  deriving Repr, DecidableEq

namespace FormulaError

/-- What is said about a formula without result. -/
def message : FormulaError → String
  | stackUnderflow position => "stack underflow at operation " ++ toString position
  | unsupported name => "unsupported operation '" ++ name ++ "'"
  | emptyStack => "no result on the stack"

end FormulaError

/-- The result of a formula. -/
structure Evaluation (α : Type) where
  value : α
  /-- References that led nowhere, in program order. -/
  unresolved : List String
  deriving Repr, DecidableEq

namespace Formula

variable {α : Type}

/-- The first unknown step. -/
def unsupportedOperation (f : Formula α) : Option String :=
  f.operations.findSome? fun
    | .unsupported name => some name
    | _ => none

/-- The stack, its top first, and the references that led nowhere, the last one first. -/
structure Machine (α : Type) where
  stack : List α
  unresolved : List String

variable (A : Arithmetic α) (resolve : String → Option α)

/-- Runs the step at `position`. -/
def step (position : Nat) (m : Machine α) : Operation α → Except FormulaError (Machine α)
  | .push literal none => .ok { m with stack := literal :: m.stack }
  | .push _ (some url) =>
    match resolve url with
    | some v => .ok { m with stack := v :: m.stack }
    | none => .ok ⟨A.unresolved :: m.stack, url :: m.unresolved⟩
  | .unsupported name => .error (.unsupported name)
  | .arith op =>
    match m.stack with
    | a :: b :: rest => .ok { m with stack := op.apply A a b :: rest }
    | _ => .error (.stackUnderflow position)

/-- Runs the steps from `position` on. -/
def run : Nat → Machine α → List (Operation α) → Except FormulaError (Machine α)
  | _, m, [] => .ok m
  | position, m, op :: ops =>
    match step A resolve position m op with
    | .error e => .error e
    | .ok m' => run (position + 1) m' ops

/-- Runs the program; its result is the top of the stack. -/
def evaluate (f : Formula α) : Except FormulaError (Evaluation α) :=
  match run A resolve 0 ⟨[], []⟩ f.operations with
  | .error e => .error e
  | .ok m =>
    match m.stack with
    | [] => .error .emptyStack
    | v :: _ => .ok ⟨v, m.unresolved.reverse⟩

end Formula

/-! ### Results of formulas -/

/-- The result of a formula for the property it drives. -/
structure Output (α : Type) where
  /-- Reference to the property. -/
  target : String
  stage : Stage
  value : α
  deriving Repr, DecidableEq

namespace Output

variable {α : Type} (A : Arithmetic α)

/-- Joins a result to an earlier one of the same target with its own stage, or appends it. -/
def join (later : Output α) : List (Output α) → List (Output α)
  | [] => [later]
  | o :: os =>
    if o.target = later.target then
      { o with value := later.stage.combine A o.value later.value } :: os
    else o :: join later os

/-- Joins the results target by target, in order of first occurrence. -/
def combine (outputs : List (Output α)) : List (Output α) :=
  outputs.foldl (fun acc o => join A o acc) []

end Output

/-! ### Reading formulas -/

namespace Operation

/-- The step of a word, with the literal and the reference written beside it. An empty reference
is none. -/
def ofParts (word : String) (literal : Option Json) (url : Option String) : Operation Float :=
  if word = "push" then
    .push ((literal.bind Json.number?).getD 0.0) (url.filter fun u => !u.isEmpty)
  else
    match BinaryOp.ofText? word with
    | some op => .arith op
    | none => .unsupported word

/-- Reads a step. -/
def ofJson? (j : Json) : Option (Operation Float) := do
  let fs ← j.record? ["op", "val", "url"]
  let word ← fs.required "op" Json.asString
  let literal ← fs.optional "val" Json.keep?
  let url ← fs.optional "url" Json.asString
  return ofParts word literal url

end Operation

namespace Formula

/-- Reads a formula; its results are summed unless it says otherwise. -/
def ofJson? (j : Json) : Option (Formula Float) := do
  let fs ← j.record? ["output", "operations", "stage"]
  let output ← fs.required "output" Json.asString
  let operations ← fs.orDefault "operations" (Json.asList Operation.ofJson?) []
  let stage ← fs.optional "stage" Json.asString
  return { output, operations, stage := (stage.map Stage.ofText).getD .sum }

end Formula

end RiggedScene
