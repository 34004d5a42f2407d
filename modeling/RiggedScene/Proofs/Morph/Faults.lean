import RiggedScene.Proofs.Morph.Registered

/-!
# Formulas that end without a result

A program is stopped by a step that formulas do not know, and by an operation that finds less than
two numbers on the stack. Both can be seen from the kinds of its steps: before the first such step
every push has put a number on the stack and every operation has taken one away.

* `StepKind.faultAt?` is what would stop a program at a position, and `StepKind.ending` how it ends:
  by the first fault, or for lack of steps, or with a result;
* `StepKind.eq_nil_or_one_le_surplus` : without a fault something is left on the stack;
* `Formula.outcome_eq_ending` : the depth of the stack follows the kinds;
* `RigCall.supported_run` : after any calls the formulas of a rig are made of known steps;
* `Formula.evaluate_ending` puts both together.
-/

namespace RiggedScene

/-- What a step is for the stack. -/
inductive StepKind where
  | push
  | arith
  | unsupported (name : String)
  deriving Repr, DecidableEq

/-- The kind of a step, without its number and its reference. -/
def Operation.kind {α : Type} : Operation α → StepKind
  | .push _ _ => .push
  | .arith _ => .arith
  | .unsupported name => .unsupported name

/-! ### The faults of a program -/

namespace StepKind

/-- Pushes less arithmetic operations. -/
def surplus (ks : List StepKind) : Int := ks.count .push - ks.count .arith

/-- What stops a program at a position: an unknown step, or an operation with less than two numbers
before it. -/
def faultAt? (ks : List StepKind) (i : Nat) : Option FormulaError :=
  match ks[i]? with
  | some (.unsupported name) => some (.unsupported name)
  | some .arith => if surplus (ks.take i) < 2 then some (.stackUnderflow i) else none
  | _ => none

/-- The faults of a program, in order of their positions. -/
def faults (ks : List StepKind) : List FormulaError :=
  (List.range ks.length).filterMap (faultAt? ks)

/-- How a program ends: by its first fault if it has one. -/
def ending (ks : List StepKind) : Except FormulaError Unit :=
  match faults ks with
  | e :: _ => .error e
  | [] => if ks = [] then .error .emptyStack else .ok ()

variable {ks : List StepKind} {k : StepKind} {i : Nat}

theorem surplus_concat : surplus (ks ++ [k]) = surplus ks + surplus [k] := by
  simp only [surplus, List.count_append]
  omega

theorem faultAt?_append_of_lt (h : i < ks.length) : faultAt? (ks ++ [k]) i = faultAt? ks i := by
  simp only [faultAt?, List.getElem?_append_left h, List.take_append_of_le_length (Nat.le_of_lt h)]

theorem faultAt?_concat_self : faultAt? (ks ++ [k]) ks.length =
    match k with
    | .push => none
    | .arith => if surplus ks < 2 then some (.stackUnderflow ks.length) else none
    | .unsupported name => some (.unsupported name) := by
  cases k <;> simp [faultAt?]

theorem faults_concat :
    faults (ks ++ [k]) = faults ks ++ (faultAt? (ks ++ [k]) ks.length).toList := by
  have hbefore : (List.range ks.length).filterMap (faultAt? (ks ++ [k])) = faults ks :=
    List.filterMap_congr fun i hi => faultAt?_append_of_lt (List.mem_range.1 hi)
  have hlast : [ks.length].filterMap (faultAt? (ks ++ [k])) =
      (faultAt? (ks ++ [k]) ks.length).toList := by
    cases hfault : faultAt? (ks ++ [k]) ks.length <;> simp [hfault]
  rw [faults, List.length_append, List.length_singleton, List.range_succ, List.filterMap_append,
    hbefore, hlast]

/-- **A program without faults leaves something on the stack**, unless it has no steps. -/
theorem eq_nil_or_one_le_surplus (h : faults ks = []) : ks = [] ∨ 1 ≤ surplus ks := by
  induction ks using List.reverseRecOn with
  | nil => exact .inl rfl
  | append_singleton ks k ih =>
    rw [faults_concat, List.append_eq_nil_iff, faultAt?_concat_self] at h
    obtain ⟨hbefore, hlast⟩ := h
    rw [surplus_concat]
    cases k with
    | push =>
      have hpush : surplus [.push] = 1 := rfl
      rcases ih hbefore with rfl | hle
      · exact .inr (by decide)
      · exact .inr (by omega)
    | arith =>
      have harith : surplus [.arith] = -1 := rfl
      have htwo : ¬ surplus ks < 2 := fun hlow => by simp [hlow] at hlast
      exact .inr (by omega)
    | unsupported name => simp at hlast

theorem mem_of_ending {name : String} (h : ending ks = .error (.unsupported name)) :
    .unsupported name ∈ ks := by
  unfold ending at h
  cases hfaults : faults ks with
  | nil =>
    rw [hfaults] at h
    dsimp only at h
    split at h <;> cases h
  | cons e es =>
    rw [hfaults] at h
    obtain rfl : e = .unsupported name := Except.error.inj h
    have hmem : .unsupported name ∈ faults ks := hfaults ▸ List.mem_cons_self
    obtain ⟨i, -, hfault⟩ := List.mem_filterMap.1 hmem
    unfold faultAt? at hfault
    split at hfault
    · next hk =>
      obtain rfl : _ = name := by simpa using hfault
      exact List.mem_of_getElem? hk
    · split at hfault <;> cases hfault
    · cases hfault

end StepKind

/-! ### Runs on the depth of the stack -/

namespace Formula

open StepKind (faults surplus ending)

variable {α : Type}

theorem depthRun_concat (ops : List (Operation α)) (op : Operation α) (position depth : Nat) :
    depthRun position depth (ops ++ [op]) =
      match depthRun position depth ops with
      | .error e => .error e
      | .ok depth' => depthStep (position + ops.length) depth' op := by
  induction ops generalizing position depth with
  | nil =>
    simp only [List.nil_append, depthRun, List.length_nil, Nat.add_zero]
    cases depthStep position depth op <;> rfl
  | cons o ops ih =>
    simp only [List.cons_append, depthRun, List.length_cons]
    cases depthStep position depth o with
    | error e => rfl
    | ok depth' => simp only [ih, Nat.add_assoc, Nat.add_comm 1]

/-- **The first fault stops a program**, and without a fault the stack is as deep as the surplus. -/
theorem depthRun_faults (ops : List (Operation α)) :
    depthRun 0 0 ops =
      match faults (ops.map Operation.kind) with
      | e :: _ => .error e
      | [] => .ok (surplus (ops.map Operation.kind)).toNat := by
  induction ops using List.reverseRecOn with
  | nil => rfl
  | append_singleton ops op ih =>
    rw [depthRun_concat, ih, List.map_append, List.map_singleton, StepKind.faults_concat,
      StepKind.faultAt?_concat_self, StepKind.surplus_concat, List.length_map, Nat.zero_add]
    cases hfaults : faults (ops.map Operation.kind) with
    | cons e es => rfl
    | nil =>
      have hdeep : 0 ≤ surplus (ops.map Operation.kind) := by
        rcases StepKind.eq_nil_or_one_le_surplus hfaults with hnil | hle
        · rw [hnil]
          decide
        · omega
      cases op with
      | push literal url =>
        have hpush : (surplus (ops.map Operation.kind) + 1).toNat =
            (surplus (ops.map Operation.kind)).toNat + 1 := by omega
        exact congrArg Except.ok hpush.symm
      | arith op =>
        have harith : surplus [.arith] = -1 := rfl
        by_cases hlow : surplus (ops.map Operation.kind) < 2
        · have hdepth : (surplus (ops.map Operation.kind)).toNat < 2 := by omega
          simp [depthStep, Operation.kind, hlow, hdepth]
        · have hdepth : ¬ (surplus (ops.map Operation.kind)).toNat < 2 := by omega
          have hrest : (surplus (ops.map Operation.kind) + -1).toNat =
              (surplus (ops.map Operation.kind)).toNat - 1 := by omega
          simp [depthStep, Operation.kind, hlow, hdepth, harith, hrest]
      | unsupported name => rfl

/-- How a formula ends can be seen from the kinds of its steps. -/
theorem outcome_eq_ending (f : Formula α) :
    f.outcome = ending (f.operations.map Operation.kind) := by
  rw [outcome, depthRun_faults, ending]
  cases hfaults : faults (f.operations.map Operation.kind) with
  | cons e es => rfl
  | nil =>
    rcases StepKind.eq_nil_or_one_le_surplus hfaults with hnil | hle
    · rw [hnil]
      rfl
    · have hne : f.operations.map Operation.kind ≠ [] := by
        intro hnil
        rw [hnil] at hle
        exact absurd hle (by decide)
      obtain ⟨n, hn⟩ : ∃ n, (surplus (f.operations.map Operation.kind)).toNat = n + 1 :=
        Nat.exists_eq_add_of_le' (by omega)
      simp only [hn, if_neg hne]

theorem notMem_of_supported {f : Formula α} (h : f.unsupportedOperation = none) (name : String) :
    .unsupported name ∉ f.operations.map Operation.kind := by
  intro hmem
  obtain ⟨op, hop, hkind⟩ := List.mem_map.1 hmem
  have hknown := List.findSome?_eq_none_iff.1 h op hop
  cases op with
  | push literal url => cases hkind
  | arith op => cases hkind
  | unsupported name => cases hknown

end Formula

/-! ### Formulas of a rig -/

/-- The formulas of all morphs are made of known steps. -/
def MorphRig.Supported (r : MorphRig) : Prop :=
  ∀ m ∈ r.morphs, ∀ f ∈ m.formulas, f.unsupportedOperation = none

theorem MorphRig.Supported.congr {r r' : MorphRig} (h : r.Supported) (hunset : r'.unset = r.unset) :
    r'.Supported := by
  intro m hm f hf
  have hmem : m.unset ∈ r.unset.morphs := hunset ▸ List.mem_map_of_mem hm
  obtain ⟨m', hm', hsame⟩ := List.mem_map.1 hmem
  exact h m' hm' f (RiggedMorph.formulas_of_unset hsame ▸ hf)

theorem MorphState.supported_register {s : MorphState} (h : s.rig.Supported) (m : Modifier) :
    (s.register m).rig.Supported := by
  unfold register MorphRig.register?
  cases m.morph? with
  | none => exact h
  | some x =>
    intro m' hm' f hf
    rcases Keyed.mem_insert hm' with rfl | hold
    · simpa using (List.mem_filter.1 hf).2
    · exact h m' hold f hf

namespace RigCall

theorem supported_apply {s : MorphState} (h : s.rig.Supported) (call : RigCall) :
    (call.apply s).rig.Supported := by
  cases call with
  | register m => exact MorphState.supported_register h m
  | set config armature name value =>
    exact h.congr ((MorphStage.mk s armature).setValue_unset config name value)

/-- **The formulas of a rig are made of known steps**, whatever was registered and set. -/
theorem supported_run {s : MorphState} (h : s.rig.Supported) (calls : List RigCall) :
    (run calls s).rig.Supported := by
  induction calls generalizing s with
  | nil => exact h
  | cons call calls ih => exact ih (supported_apply h call)

end RigCall

/-- **How a formula ends depends on the kinds of its steps alone**, not on its numbers, its
references and what they lead to: the first step that is unknown, or that is an operation with less
than two numbers before it, stops it, and else it has a result unless it has no steps. So a formula
that a rig has kept never meets an unknown step, after any registrations and changes of sliders. -/
theorem Formula.evaluate_ending {α : Type} (A : Arithmetic α) (resolve : String → Option α)
    (f : Formula α) :
    (f.evaluate A resolve).map (fun _ => ()) =
        StepKind.ending (f.operations.map Operation.kind) ∧
      ∀ (calls : List RigCall) (mesh : Mesh) (notes : List Diagnostic),
        ∀ m ∈ (RigCall.run calls ⟨.empty, mesh, notes⟩).rig.morphs, ∀ g ∈ m.formulas,
          ∀ (B : Arithmetic Float) (lookup : String → Option Float) (name : String),
            g.evaluate B lookup ≠ .error (.unsupported name) := by
  refine ⟨(evaluate_outcome A resolve f).trans (outcome_eq_ending f), ?_⟩
  intro calls mesh notes m hm g hg B lookup name hevaluate
  have hempty : (⟨.empty, mesh, notes⟩ : MorphState).rig.Supported := List.forall_mem_nil _
  have hknown := RigCall.supported_run hempty calls m hm g hg
  have hending : StepKind.ending (g.operations.map Operation.kind) = .error (.unsupported name) := by
    rw [← outcome_eq_ending, ← evaluate_outcome B lookup, hevaluate]
    rfl
  exact notMem_of_supported hknown name (StepKind.mem_of_ending hending)

/-- A formula that adds a number to nothing. -/
def shortFormula : Formula Float :=
  ⟨"thigh:#thigh?rotation/y", [.push 1.0 none, .arith .add], .sum⟩

/-- An operation finds one number before an unknown step is reached. Of two formulas of a morph,
one with an unknown step and one that is too short, the rig keeps the second. -/
theorem Formula.evaluate_ending_short :
    let A : Arithmetic Int := ⟨(· + ·), (· - ·), (· * ·), (· / ·), -2⟩
    let f : Formula Int := ⟨"hip?value", [.push 3 (some "x"), .push 4 none, .arith .sub,
      .arith .add, .unsupported "spline_tcb"], .sum⟩
    let calls : List RigCall := [.register ⟨"bend", "bend", none, none, .morph ⟨none,
      [⟨"thigh:#thigh?rotation/x", [.push 1.0 none, .unsupported "spline_tcb"], .sum⟩,
        shortFormula]⟩⟩]
    let start : MorphState := ⟨.empty, .ofFaces "body" [] [], []⟩
    (f.evaluate A fun _ => none).map (fun _ => ()) = .error (.stackUnderflow 3) ∧
      ∃ m ∈ (RigCall.run calls start).rig.morphs, shortFormula ∈ m.formulas ∧
        shortFormula.evaluate .binary64 (fun _ => none) = .error (.stackUnderflow 1) ∧
          ∀ name, shortFormula.evaluate .binary64 (fun _ => none) ≠ .error (.unsupported name) := by
  intro A f calls start
  obtain ⟨hfirst, hkept⟩ := evaluate_ending A (fun _ => none) f
  have hmorph : (⟨"bend", true, [shortFormula], false, none⟩ : RiggedMorph) ∈
      (RigCall.run calls start).rig.morphs := List.mem_singleton_self _
  have hformula : shortFormula ∈ [shortFormula] := List.mem_singleton_self _
  exact ⟨hfirst, _, hmorph, hformula, rfl,
    hkept calls _ [] _ hmorph _ hformula .binary64 fun _ => none⟩

end RiggedScene
