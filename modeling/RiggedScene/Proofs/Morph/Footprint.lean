import RiggedScene.Proofs.Morph.Independent

/-!
# The footprint of a slider

A change of a slider that is applied may overwrite much: the values and shape keys of all morphs
that it leads to, and the bones that their results address. Nothing else is touched.

* `MorphRig.not_transGen_self` : an application that goes through never comes back to the morph that
  it begins with;
* `MorphStage.setValue_own_value` : so that morph keeps the value that it is given;
* `MorphStage.Footprint` says where the stages before and after a change may differ;
* `MorphStage.setValue_footprint` : a change that is applied has this footprint, and one that is
  ignored has none.
-/

namespace RiggedScene

/-! ### Entries of other keys -/

theorem Keyed.getElem?_modify_of_ne {α κ : Type} [DecidableEq κ] {key : α → κ} {k : κ} {f : α → α}
    {xs : List α} {i : Nat} {x : α} (h : xs[i]? = some x) (hne : key x ≠ k) :
    (modify key k f xs)[i]? = some x := by
  induction xs generalizing i with
  | nil => cases h
  | cons y ys ih =>
    simp only [modify]
    cases i with
    | zero =>
      obtain rfl : y = x := by simpa using h
      simp [hne]
    | succ i =>
      have htail : ys[i]? = some x := by simpa using h
      split
      · simpa using htail
      · simpa using ih htail

namespace MorphState

variable {s : MorphState} {ws : List MorphWrite} {i : Nat} {k : ShapeKey}

theorem shapeKeys_writes (h : .weight k.name ∉ ws.map MorphWrite.place)
    (hk : s.mesh.shapeKeys[i]? = some k) : (s.writes ws).mesh.shapeKeys[i]? = some k := by
  induction ws generalizing s with
  | nil => exact hk
  | cons w ws ih =>
    obtain ⟨hw, hws⟩ := not_or.1 (mt List.mem_cons.2 h)
    refine ih (s := s.write w) hws ?_
    obtain ⟨place, value⟩ := w
    cases place with
    | setting name => exact hk
    | weight name =>
      have hne : k.name ≠ name := fun heq => hw (congrArg MorphPlace.weight heq)
      exact Keyed.getElem?_modify_of_ne hk hne

theorem writes_unweighted : (s.writes ws).mesh.unweighted = s.mesh.unweighted := by
  induction ws generalizing s with
  | nil => rfl
  | cons w ws ih =>
    refine (ih (s := s.write w)).trans ?_
    unfold write
    split
    · rfl
    · exact s.mesh.unweighted_setShapeKey _ _

end MorphState

/-! ### The morph that is set -/

namespace MorphRig

variable {r : MorphRig} {name : String}

theorem hasCycle_of_transGen (depth : Nat) (h : Relation.TransGen r.Drives name name) :
    r.HasCycle depth name := by
  obtain ⟨t, hdrives, hback⟩ := Relation.TransGen.head'_iff.1 h
  obtain ⟨w, hw, hlast⟩ := List.exists_isChain_cons_of_relationReflTransGen hback
  refine ⟨t :: w, .cons_cons hdrives hw, .inl fun hnodup => ?_⟩
  have hmem : name ∈ t :: w := hlast ▸ List.getLast_mem (List.cons_ne_nil t w)
  exact (List.nodup_cons.1 hnodup).1 hmem

/-- **An application that goes through never comes back to its morph.** -/
theorem not_transGen_self {depth : Nat} {m : RiggedMorph} {value : Float} {s s' : MorphState}
    {os : List (Output Float)} (hm : s.rig.find? name = some m)
    (h : apply depth [] m value s = (s', .ok os)) :
    ¬ Relation.TransGen s.rig.Drives name name := by
  intro hback
  have hname : m.name = name := Keyed.key_of_find? hm
  have hblocked := hasCycle_iff_blocked.1 (hasCycle_of_transGen depth hback)
  rw [← hname] at hblocked
  obtain ⟨e, he⟩ := ((apply_error_iff depth []).error_iff m value s rfl (holds_of_find? hm)).2
    hblocked
  rw [h] at he
  cases he

theorem DrivingPath.transGen {n : String} {ks : List Nat} (h : r.DrivingPath name ks n)
    (hne : ks ≠ []) : Relation.TransGen r.Drives name n := by
  cases h with
  | here => exact absurd rfl hne
  | through hk hq =>
    exact Relation.TransGen.head' (drives_iff_exists_drivesBy.2 ⟨_, hk⟩) hq.reaches

theorem Tour.own_value {r' : MorphRig} {own os : List (Output Float)} {vs : List Visit}
    {cs : List Contribution} {value : Float}
    (h : Tour r r' (r.DrivingPath name) (fun ks x => ks = [] ∧ x = value) own os vs cs)
    (hback : ¬ Relation.TransGen r.Drives name name) : r'.value? name = some value := by
  have hown : ∀ v ∈ vs, v.morph = name → v.value = value := by
    intro v hv hname
    have hpath : v.path = [] := by
      by_contra hne
      exact hback (((h.paths v.path name).1 ⟨v, hv, rfl, hname⟩).transGen hne)
    rcases h.given v hv with ⟨-, hvalue⟩ | ⟨u, -, k, hlonger, -⟩
    · exact hvalue
    · rw [hpath] at hlonger
      exact absurd hlonger.symm (List.append_ne_nil_of_right_ne_nil _ (List.cons_ne_nil k []))
  obtain ⟨v, hv, -, hname⟩ := (h.paths [] name).2 (.here name)
  rw [h.settled, h.evaluated.value?]
  cases hlast : vs.reverse.find? fun w => w.morph = name with
  | none =>
    have hnone := List.find?_eq_none.1 hlast v (List.mem_reverse.2 hv)
    exact absurd (decide_eq_true hname) hnone
  | some w =>
    have hmem : w ∈ vs := List.mem_reverse.1 (List.mem_of_find?_eq_some hlast)
    have hmorph : w.morph = name := by simpa using List.find?_some hlast
    exact congrArg some (hown w hmem hmorph)

end MorphRig

namespace MorphStage

open MorphRig MorphState

variable {t : MorphStage} {config : ImportConfig} {name : String} {value : Float}

/-- **The morph that is set keeps the value that it is given.** -/
theorem setValue_own_value (h : (t.setValue config name value).2 = .ok true) :
    (t.setValue config name value).1.state.rig.value? name = some value := by
  obtain ⟨m, s, hm, happly, hcommit, -⟩ := setValue_applied h
  obtain ⟨own, vs, cs, htour⟩ := apply_tour t.state.rig _ _ rfl (holds_of_find? hm) happly
  rw [show m.name = name from Keyed.key_of_find? hm] at htour
  have hrig : (t.setValue config name value).1.state.rig = s.rig := hcommit.rig
  rw [hrig]
  exact htour.own_value (not_transGen_self hm happly)

/-! ### Where stages may differ -/

/-- Where the stage after a change of the morph `name` to `value` may differ from the one before:
in the values and weights of the morphs that `name` leads to, in the poses and segments of the bones
that they move, and in notes. -/
structure Footprint (t : MorphStage) (name : String) (value : Float) (t' : MorphStage) : Prop where
  value : t'.state.rig.value? name = some value
  values : ∀ n, ¬ Relation.ReflTransGen t.state.rig.Drives name n →
    t'.state.rig.find? n = t.state.rig.find? n
  rig : t'.state.rig.unset = t.state.rig.unset
  weights : ∀ (i : Nat) (k : ShapeKey), t.state.mesh.shapeKeys[i]? = some k →
    ¬ Relation.ReflTransGen t.state.rig.Drives name k.name →
      t'.state.mesh.shapeKeys[i]? = some k
  mesh : t'.state.mesh.unweighted = t.state.mesh.unweighted
  bones : ∀ i : Nat, ¬ t.Moves name i →
    (t'.armature.bind fun a => a.bones[i]?) = t.armature.bind fun a => a.bones[i]?
  /-- No bone is changed in anything but its pose and its segment. -/
  bare : (t'.armature.map fun a => a.bones.map Bone.bare) =
    t.armature.map fun a => a.bones.map Bone.bare
  /-- The name of the armature and its mode. -/
  boneless : t'.armature.map Armature.boneless = t.armature.map Armature.boneless

theorem commit_bare (a : Armature) (k : Commitment) :
    (a.commit k).1.bones.map Bone.bare = a.bones.map Bone.bare := by
  refine List.ext_getElem? fun i => ?_
  rw [List.getElem?_map, List.getElem?_map, Armature.commit_bone, Option.map_map]
  congr 1
  funext b
  simp

/-- **A change of a slider touches what it leads to and nothing else.** If it is applied, the morph
has the value that it is given, and other values, weights and bones are changed only if the morph
leads to them. If it is ignored nothing is changed at all. -/
theorem setValue_footprint (t : MorphStage) (config : ImportConfig) (name : String)
    (value : Float) :
    ((t.setValue config name value).2 = .ok true →
      t.Footprint name value (t.setValue config name value).1) ∧
    ((t.setValue config name value).2 = .ok false → (t.setValue config name value).1 = t) := by
  constructor
  · intro happlied
    have hwritten := t.setValue_written config name value
    have harmature := t.setValue_armature config name value
    exact
      { value := setValue_own_value happlied
        values := fun n hn => setValue_find? hn
        rig := by rw [hwritten.rig, writes_unset]
        weights := fun i k hk hn => by
          rw [hwritten.mesh]
          exact shapeKeys_writes (notMem_changeWrites (.weight k.name) hn) hk
        mesh := by rw [hwritten.mesh, writes_unweighted]
        bones := fun i hi => by
          rw [harmature]
          cases ha : t.armature with
          | none => rfl
          | some a =>
            have hunchanged : ¬ a.ChangedBy (.ofOutputs (some a) name
                (Output.combine .binary64 (t.outputs config name value))) i :=
              fun h => hi (moves_of_changedBy ha h)
            exact Armature.commit_bone_of_not_changedBy hunchanged
        bare := by
          rw [harmature, Option.map_map]
          congr 1
          funext a
          exact commit_bare a _
        boneless := by
          rw [harmature, Option.map_map]
          congr 1
          funext a
          exact a.commit_boneless _ }
  · intro hignored
    rcases t.setValue_cases config name value with ⟨-, hset⟩ | ⟨m, hm, ⟨-, hset⟩ |
      ⟨-, s, e, notes, -, hset⟩ | ⟨-, s, os, -, hset⟩⟩
    · rw [hset] at hignored
      cases hignored
    · rw [hset]
    · rw [hset] at hignored
      cases hignored
    · rw [hset] at hignored
      cases hignored

theorem setValue_footprint_figure :
    ((figureStage.setValue .standard "crouch" 1.0).2 = .ok true ∧
      figureStage.Footprint "crouch" 1.0 (figureStage.setValue .standard "crouch" 1.0).1) ∧
    (((figureStage.setValue .standard "crouch" 1.0).1.setValue .standard "crouch" 1.0).2 =
        .ok false ∧
      ((figureStage.setValue .standard "crouch" 1.0).1.setValue .standard "crouch" 1.0).1 =
        (figureStage.setValue .standard "crouch" 1.0).1) := by
  have happlied : (figureStage.setValue .standard "crouch" 1.0).2 = .ok true := by rfl
  have hignored : ((figureStage.setValue .standard "crouch" 1.0).1.setValue .standard "crouch"
      1.0).2 = .ok false := by rfl
  exact ⟨⟨happlied, (setValue_footprint _ _ _ _).1 happlied⟩,
    hignored, (setValue_footprint _ _ _ _).2 hignored⟩

end MorphStage

end RiggedScene
