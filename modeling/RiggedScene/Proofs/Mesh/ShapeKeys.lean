import RiggedScene.Mesh.Basic
import RiggedScene.Proofs.Keyed

/-!
# Shape keys that are added one after another

The first shape key that is added brings the basis along, which holds the positions as they are.
From then on the basis is a shape key like the others: one that is added under its name makes it
give way, and stands at the end.

* `Mesh.movedAt` is where deltas move one position, and `Mesh.foldl_moved` : deltas that are applied
  one after another move each position by its own ones;
* `Mesh.keysWithBasis_addShapeKeys` : shape keys that are added replace those of their names;
* `Mesh.mem_addShapeKeys_iff` and `Mesh.head?_addShapeKeys_iff`, together `Mesh.addShapeKeys_iff` :
  which shape keys there are in the end, and when the basis is still the first of them;
* `Mesh.exists_basis_displaced` : it need not be.
-/

namespace RiggedScene

/-- A shape key to be added. -/
structure KeyCall where
  name : String
  deltas : List VertexDelta

namespace Mesh

/-! ### Deltas -/

/-- Where the deltas of vertex `v` move its position `p`, in their order. -/
def movedAt (deltas : List VertexDelta) (v : Nat) (p : Vec3) : Vec3 :=
  (deltas.filter fun d => d.index = v).foldl (fun p d => p.add d.output) p

/-- Each position is moved by its own deltas, and a delta for a vertex that is not there moves
none. -/
theorem foldl_moved (deltas : List VertexDelta) (positions : List Vec3) :
    deltas.foldl moved positions = positions.mapIdx (movedAt deltas) := by
  induction deltas generalizing positions with
  | nil =>
    refine List.ext_getElem? fun v => ?_
    rw [List.getElem?_mapIdx]
    exact Option.map_id_apply.symm
  | cons d deltas ih =>
    rw [List.foldl_cons, ih]
    refine List.ext_getElem? fun v => ?_
    rw [List.getElem?_mapIdx, List.getElem?_mapIdx, moved, List.getElem?_modify, Option.map_eq_map,
      Option.map_map]
    congr 1
    funext p
    by_cases hv : d.index = v <;> simp [movedAt, hv]

/-! ### Keys -/

variable (m : Mesh)

/-- The shape key that holds the positions as they are. -/
def basis : ShapeKey := ⟨basisName, m.positions, 0.0⟩

/-- The shape key that a call adds. -/
def keyOf (c : KeyCall) : ShapeKey := ⟨c.name, m.positions.mapIdx (movedAt c.deltas), 0.0⟩

/-- Adds shape keys one after another. -/
def addShapeKeys (calls : List KeyCall) : Mesh :=
  calls.foldl (fun m c => m.addShapeKey c.name c.deltas) m

variable {m} {calls : List KeyCall} {c : KeyCall}

theorem shapeKeys_addShapeKey : (m.addShapeKey c.name c.deltas).shapeKeys =
    (m.keysWithBasis.filter fun k => k.name ≠ c.name) ++ [m.keyOf c] := by
  simp only [addShapeKey, foldl_moved, bne, beq_eq_decide, decide_not]
  rfl

theorem keysWithBasis_addShapeKey :
    (m.addShapeKey c.name c.deltas).keysWithBasis = (m.addShapeKey c.name c.deltas).shapeKeys := by
  rw [keysWithBasis, if_neg]
  simp [addShapeKey]

/-- **Shape keys that are added replace those of their names**, the basis included. -/
theorem keysWithBasis_addShapeKeys (m : Mesh) (calls : List KeyCall) :
    (m.addShapeKeys calls).keysWithBasis =
      Keyed.replace ShapeKey.name (calls.map m.keyOf) m.keysWithBasis := by
  induction calls generalizing m with
  | nil => exact (Keyed.replace_nil _).symm
  | cons c calls ih =>
    refine (ih (m.addShapeKey c.name c.deltas)).trans ?_
    rw [keysWithBasis_addShapeKey, shapeKeys_addShapeKey, List.map_cons, Keyed.replace_cons]
    rfl

theorem shapeKeys_addShapeKeys (hm : m.shapeKeys = []) (hcalls : calls ≠ []) :
    (m.addShapeKeys calls).shapeKeys =
      (if basisName ∈ calls.map KeyCall.name then [] else [m.basis]) ++
        (Keyed.lasts KeyCall.name calls).map m.keyOf := by
  have hbasis : m.keysWithBasis = [m.basis] := by simp [keysWithBasis, hm, basis]
  have hkeys : (m.addShapeKeys calls).keysWithBasis = (m.addShapeKeys calls).shapeKeys := by
    -- the last call leaves a shape key behind
    obtain ⟨calls, c, rfl⟩ := (List.eq_nil_or_concat' calls).resolve_left hcalls
    rw [addShapeKeys, List.foldl_concat]
    exact keysWithBasis_addShapeKey
  have hnames : (calls.map m.keyOf).map ShapeKey.name = calls.map KeyCall.name := by
    simp [keyOf, Function.comp_def]
  have hlasts : Keyed.lasts ShapeKey.name (calls.map m.keyOf) =
      (Keyed.lasts KeyCall.name calls).map m.keyOf := Keyed.lasts_map fun _ => rfl
  rw [← hkeys, keysWithBasis_addShapeKeys, hbasis, Keyed.replace, hnames, hlasts]
  congr 1
  by_cases hname : basisName ∈ calls.map KeyCall.name
  · rw [if_pos hname, List.filter_cons_of_neg (by simpa [basis] using hname), List.filter_nil]
  · rw [if_neg hname, List.filter_cons_of_pos (by simpa [basis] using hname), List.filter_nil]

theorem nodup_addShapeKeys (hm : m.shapeKeys = []) (hcalls : calls ≠ []) :
    ((m.addShapeKeys calls).shapeKeys.map ShapeKey.name).Nodup := by
  have hlasts : ((Keyed.lasts KeyCall.name calls).map m.keyOf).map ShapeKey.name =
      (Keyed.lasts KeyCall.name calls).map KeyCall.name := by simp [keyOf, Function.comp_def]
  rw [shapeKeys_addShapeKeys hm hcalls, List.map_append, hlasts]
  split
  · exact Keyed.nodup_lasts
  · next hname =>
    refine List.nodup_cons.2 ⟨fun hmem => hname ?_, Keyed.nodup_lasts⟩
    obtain ⟨c, hc, heq⟩ := List.mem_map.1 hmem
    exact List.mem_map.2 ⟨c, List.pwFilter_subset calls hc, heq⟩

/-- The shape keys are those of the last calls, with the basis if no call has its name. -/
theorem mem_addShapeKeys_iff (hm : m.shapeKeys = []) (hcalls : calls ≠ []) {k : ShapeKey} :
    k ∈ (m.addShapeKeys calls).shapeKeys ↔
      (basisName ∉ calls.map KeyCall.name ∧ k = m.basis) ∨
        ∃ before c after, calls = before ++ c :: after ∧ c.name ∉ after.map KeyCall.name ∧
          k = m.keyOf c := by
  have hlasts : k ∈ (Keyed.lasts KeyCall.name calls).map m.keyOf ↔
      ∃ before c after, calls = before ++ c :: after ∧ c.name ∉ after.map KeyCall.name ∧
        k = m.keyOf c := by
    simp only [List.mem_map, Keyed.mem_lasts_iff]
    constructor
    · rintro ⟨c, ⟨before, after, heq, hname⟩, rfl⟩
      exact ⟨before, c, after, heq, hname, rfl⟩
    · rintro ⟨before, c, after, heq, hname, rfl⟩
      exact ⟨c, ⟨before, after, heq, hname⟩, rfl⟩
  rw [shapeKeys_addShapeKeys hm hcalls, List.mem_append, hlasts]
  refine or_congr_left ?_
  split <;> simp [*]

/-- The basis comes first if no call has its name, or if all names called before it come again. -/
theorem head?_addShapeKeys_iff (hm : m.shapeKeys = []) (hcalls : calls ≠ []) :
    (∃ k, (m.addShapeKeys calls).shapeKeys.head? = some k ∧ k.name = basisName ∧
        k.positions = m.positions) ↔
      basisName ∉ calls.map KeyCall.name ∨
        ∃ before c after, calls = before ++ c :: after ∧ c.name = basisName ∧
          basisName ∉ after.map KeyCall.name ∧
          (∀ d ∈ before, d.name ∈ (c :: after).map KeyCall.name) ∧
          m.positions.mapIdx (movedAt c.deltas) = m.positions := by
  rw [shapeKeys_addShapeKeys hm hcalls]
  by_cases hname : basisName ∈ calls.map KeyCall.name
  · rw [if_pos hname, List.nil_append, List.head?_map, or_iff_right (not_not.2 hname)]
    constructor
    · rintro ⟨k, hk, hbasis, hpositions⟩
      obtain ⟨c, hc, rfl⟩ := Option.map_eq_some_iff.1 hk
      obtain ⟨before, after, heq, hafter, hbefore⟩ := Keyed.head?_lasts_eq_some_iff.1 hc
      have hc : c.name = basisName := hbasis
      exact ⟨before, c, after, heq, hc, hc ▸ hafter, hbefore, hpositions⟩
    · rintro ⟨before, c, after, heq, hc, hafter, hbefore, hpositions⟩
      have hfirst := Keyed.head?_lasts_eq_some_iff.2 ⟨before, after, heq, hc ▸ hafter, hbefore⟩
      exact ⟨m.keyOf c, by rw [hfirst]; rfl, hc, hpositions⟩
  · rw [if_neg hname, or_iff_left_of_imp fun _ => hname]
    exact iff_of_true ⟨m.basis, rfl, rfl, rfl⟩ hname

/-- **The shape keys of a mesh to which some have been added.** They have different names, and are
those that the last calls of each name add, with the basis if no call has its name. The first one is
a basis exactly if no call has its name, or if the last one of its name moves nothing and all names
before come again. -/
theorem addShapeKeys_iff (m : Mesh) (hm : m.shapeKeys = []) {calls : List KeyCall}
    (hcalls : calls ≠ []) :
    ((m.addShapeKeys calls).shapeKeys.map ShapeKey.name).Nodup ∧
      (∀ k, k ∈ (m.addShapeKeys calls).shapeKeys ↔
        (basisName ∉ calls.map KeyCall.name ∧ k = m.basis) ∨
          ∃ before c after, calls = before ++ c :: after ∧ c.name ∉ after.map KeyCall.name ∧
            k = m.keyOf c) ∧
      ((∃ k, (m.addShapeKeys calls).shapeKeys.head? = some k ∧ k.name = basisName ∧
          k.positions = m.positions) ↔
        basisName ∉ calls.map KeyCall.name ∨
          ∃ before c after, calls = before ++ c :: after ∧ c.name = basisName ∧
            basisName ∉ after.map KeyCall.name ∧
            (∀ d ∈ before, d.name ∈ (c :: after).map KeyCall.name) ∧
            m.positions.mapIdx (movedAt c.deltas) = m.positions) :=
  ⟨nodup_addShapeKeys hm hcalls, fun _ => mem_addShapeKeys_iff hm hcalls,
    head?_addShapeKeys_iff hm hcalls⟩

/-- Two vertices without faces. -/
def pair : Mesh := .ofFaces "pair" [Vec3.zero, Vec3.one] []

/-- The second vertex is moved, and a shape key that moves nothing is added under the name of the
basis. -/
def basisCalls : List KeyCall := [⟨"smile", [⟨1, Vec3.one⟩]⟩, ⟨basisName, []⟩]

/-- The basis comes first again once the name in front of it has come again. -/
theorem addShapeKeys_iff_smile : pair.shapeKeys = [] ∧ basisCalls ++ [⟨"smile", []⟩] ≠ [] ∧
    ((pair.addShapeKeys (basisCalls ++ [⟨"smile", []⟩])).shapeKeys.map ShapeKey.name).Nodup ∧
      pair.keyOf ⟨"smile", []⟩ ∈ (pair.addShapeKeys (basisCalls ++ [⟨"smile", []⟩])).shapeKeys ∧
      ∃ k, (pair.addShapeKeys (basisCalls ++ [⟨"smile", []⟩])).shapeKeys.head? = some k ∧
        k.name = basisName ∧ k.positions = pair.positions := by
  have hcalls : basisCalls ++ [⟨"smile", []⟩] ≠ [] := by simp
  obtain ⟨hnames, hmem, hbasis⟩ := addShapeKeys_iff pair rfl hcalls
  refine ⟨rfl, hcalls, hnames, (hmem _).2 (.inr ⟨basisCalls, _, [], rfl, by simp, rfl⟩), ?_⟩
  exact hbasis.2 (.inr ⟨[⟨"smile", [⟨1, Vec3.one⟩]⟩], ⟨basisName, []⟩, [⟨"smile", []⟩], rfl, rfl,
    by decide, by simp, rfl⟩)

/-- **The first shape key need not be the basis**, even if nothing is ever moved under its name. -/
theorem exists_basis_displaced : ∃ (m : Mesh) (calls : List KeyCall),
    m.shapeKeys = [] ∧ calls ≠ [] ∧
      ¬ ∃ k, (m.addShapeKeys calls).shapeKeys.head? = some k ∧ k.name = basisName ∧
        k.positions = m.positions := by
  refine ⟨pair, basisCalls, rfl, List.cons_ne_nil _ _, ?_⟩
  rintro ⟨k, hk, hname, -⟩
  have hfirst : (pair.addShapeKeys basisCalls).shapeKeys.head?.map ShapeKey.name =
    some "smile" := rfl
  rw [hk, Option.map_some, hname] at hfirst
  exact absurd hfirst (by decide)

end Mesh

end RiggedScene
