import RiggedScene.Proofs.Morph.Commitment

/-!
# What is left of each result

Results are joined twice on their way to a bone: first those with the same text for a target, then
those that name a bone in the same way.

* `Output.joined?` joins results one after another, and `Output.total?` is their value;
  `Output.mem_combine_iff` and `Output.targets_combine` say that joining them target by target
  leaves for each text what its own results make, in order of first occurrence;
* `Commitment.Collected` says which output a change has the value of a component from: the last
  one that asks for it. `Commitment.collected_ofOutputs` proves it of poses and of rest positions.
-/

namespace RiggedScene

/-! ### First occurrences -/

section Firsts

variable {α β : Type} [BEq α] [LawfulBEq α] [BEq β] [LawfulBEq β]

theorem eraseDups_filterMap_eraseDups (f : α → Option β) (xs : List α) :
    (xs.eraseDups.filterMap f).eraseDups = (xs.filterMap f).eraseDups := by
  induction xs using List.reverseRecOn with
  | nil => rfl
  | append_singleton xs x ih =>
    rw [eraseDups_concat, List.filterMap_append, List.filterMap_append]
    cases hfx : f x with
    | none => split <;> simpa [hfx] using ih
    | some y =>
      have hy : y ∈ xs.eraseDups.filterMap f ↔ y ∈ xs.filterMap f := by simp
      split
      · next hx =>
        -- what is there already is projected already
        have hmem : y ∈ xs.filterMap f := List.mem_filterMap.2 ⟨x, hx, hfx⟩
        simp only [List.filterMap_cons, List.filterMap_nil, hfx, List.append_nil, ih,
          eraseDups_concat, if_pos hmem]
      · simp only [List.filterMap_cons, List.filterMap_nil, hfx, eraseDups_concat, ih, hy]

end Firsts

/-! ### Joined results -/

namespace Output

variable {α : Type} (A : Arithmetic α)

/-- A value with a later result joined to it, which is added or multiplied as its own stage says. -/
def joinTo (v : α) (later : Output α) : α :=
  match later.stage with
  | .sum => A.add v later.value
  | .mult => A.mult v later.value

/-- Results joined one after another, each later one with its own stage. -/
def total? : List (Output α) → Option α
  | [] => none
  | o :: os => some (os.foldl (joinTo A) o.value)

/-- The value of a result that comes after others. -/
def extend (later : Output α) : Option α → α
  | none => later.value
  | some v => joinTo A v later

/-- The first of some results with the total of them all. -/
def joined? : List (Output α) → Option (Output α)
  | [] => none
  | o :: os => some { o with value := os.foldl (joinTo A) o.value }

/-- A result with a later one joined to it. -/
def absorb (later : Output α) : Option (Output α) → Output α
  | none => later
  | some o => { o with value := joinTo A o.value later }

variable {A} {os : List (Output α)} {o later : Output α} {text : String}

theorem combine_eq_joinTo (v : α) : later.stage.combine A v later.value = joinTo A v later := by
  unfold joinTo
  cases later.stage with
  | sum => rfl
  | mult => rfl

theorem total?_concat : total? A (os ++ [o]) = some (extend A o (total? A os)) := by
  cases os with
  | nil => rfl
  | cons o' os => simp [total?, extend, List.foldl_append]

theorem map_value_joined? : (joined? A os).map value = total? A os := by
  cases os <;> rfl

theorem joined?_concat : joined? A (os ++ [o]) = some (absorb A o (joined? A os)) := by
  cases os with
  | nil => rfl
  | cons o' os => simp [joined?, absorb, List.foldl_append]

theorem find?_join : Keyed.find? target text (join A later os) =
    if later.target = text then some (absorb A later (Keyed.find? target text os))
    else Keyed.find? target text os := by
  induction os with
  | nil =>
    by_cases htext : later.target = text <;> simp [join, Keyed.find?, absorb, htext]
  | cons o os ih =>
    by_cases ho : o.target = later.target
    · by_cases htext : later.target = text <;>
        simp [join, Keyed.find?, absorb, combine_eq_joinTo, ho, htext]
    · by_cases htext : o.target = text
      · simp [join, Keyed.find?, htext, Ne.symm (htext ▸ ho), htext ▸ ho]
      · simpa [join, Keyed.find?, ho, htext] using ih

/-- **A text gets its own results, joined one after another.** -/
theorem find?_combine (os : List (Output α)) (text : String) :
    Keyed.find? target text (combine A os) = joined? A (os.filter fun o => o.target = text) := by
  -- from the end, since results are joined from the front
  induction os using List.reverseRecOn with
  | nil => rfl
  | append_singleton os o ih =>
    have hlast : combine A (os ++ [o]) = join A o (combine A os) := List.foldl_append
    rw [hlast, find?_join, ih, List.filter_append]
    split
    · next htext => simp [htext, joined?_concat]
    · next htext => simp [htext]

theorem targets_join : (join A later os).map target =
    os.map target ++ (if later.target ∈ os.map target then [] else [later.target]) := by
  induction os with
  | nil => simp [join]
  | cons o os ih =>
    by_cases ho : o.target = later.target
    · simp [join, ho]
    · simp [join, ho, Ne.symm ho, ih]

/-- The texts are kept in order of first occurrence. -/
theorem targets_combine (os : List (Output α)) :
    (combine A os).map target = (os.map target).eraseDups := by
  induction os using List.reverseRecOn with
  | nil => rfl
  | append_singleton os o ih =>
    have hlast : combine A (os ++ [o]) = join A o (combine A os) := List.foldl_append
    simp only [hlast, targets_join, ih, List.map_append, List.map_singleton, eraseDups_concat,
      List.mem_eraseDups]

theorem nodup_targets_combine (os : List (Output α)) : ((combine A os).map target).Nodup := by
  rw [targets_combine]
  exact nodup_eraseDups _

/-- **The joined results** are those that the results of a text make when they are joined. -/
theorem mem_combine_iff :
    o ∈ combine A os ↔ joined? A (os.filter fun o' => o'.target = o.target) = some o := by
  rw [← find?_combine]
  exact ⟨Keyed.find?_of_mem (nodup_targets_combine os), Keyed.mem_of_find?⟩

theorem value_of_mem_combine (h : o ∈ combine A os) :
    total? A (os.filter fun o' => o'.target = o.target) = some o.value := by
  rw [← map_value_joined?, mem_combine_iff.1 h, Option.map_some]

end Output

/-! ### Changes and the outputs that they have their values from -/

/-- The text of an output asks for a component of the bone that it names. -/
def Reference.asksFor (bone : String) (p : BoneProperty) (slot : Axis) (text : String) : Bool :=
  match Reference.boneAddress? text with
  | none => false
  | some (name, q, axis) => name = bone ∧ q = p ∧ (axis = none ∨ axis = some slot)

/-- The bone that the text of an output names, if it is there and the property that is addressed is
one of its rest position, or of its pose. -/
def Armature.caller? (a : Armature) (edit : Bool) (text : String) : Option String :=
  match Reference.boneAddress? text with
  | none => none
  | some (bone, p, _) => if (a.position? bone).isSome ∧ p.isEdit = edit then some bone else none

namespace BoneChange

variable {c : BoneChange} {p : BoneProperty} {axis : Option Axis} {slot : Axis} {v : Float}

theorem get_update_self (hnone : axis = none → p = .scale) (h : axis = none ∨ axis = some slot) :
    (c.update p axis v).get p slot = some v := by
  cases axis with
  | none =>
    obtain rfl := hnone rfl
    cases slot <;> rfl
  | some a =>
    obtain rfl : a = slot := by simpa using h
    cases p <;> cases a <;> rfl

end BoneChange

theorem Reference.scale_of_boneAddress? {text bone : String} {p : BoneProperty}
    (h : boneAddress? text = some (bone, p, none)) : p = .scale := by
  obtain ⟨u, -, hu⟩ := Option.bind_eq_some_iff.1 h
  obtain ⟨⟨q, c⟩, hpath, heq⟩ := Option.map_eq_some_iff.1 hu
  obtain ⟨-, rfl, rfl⟩ : u.boneTarget.1 = bone ∧ q = p ∧ c = none := by simpa using heq
  unfold BoneProperty.ofPath? at hpath
  split at hpath
  · obtain ⟨q, -, hq⟩ := Option.bind_eq_some_iff.1 hpath
    obtain ⟨c, hc, heq⟩ := Option.map_eq_some_iff.1 hq
    obtain ⟨rfl, rfl⟩ := Prod.mk.inj heq
    unfold BoneProperty.component? at hc
    split at hc
    · simp at hc
    · split at hc
      · simp at hc
      · split at hc
        · simp at hc
        · split at hc
          · next hscale => exact hscale.2
          · cases hc
  · cases hpath

namespace Commitment

variable {a : Armature} {morph : String} {edit : Bool} {os : List (Output Float)}
  {o : Output Float} {cs : List BoneChange}

/-- The changes of rest positions, or of poses. -/
def changes (k : Commitment) (edit : Bool) : List BoneChange := if edit then k.edits else k.poses

/-- What one output does to the changes. -/
theorem add_changes {k : Commitment} : (add (some a) morph k o).changes edit =
    match Reference.boneAddress? o.target with
    | none => k.changes edit
    | some (bone, p, axis) =>
      if (a.position? bone).isSome ∧ p.isEdit = edit then
        BoneChange.updateIn bone p axis o.value (k.changes edit)
      else k.changes edit := by
  unfold add Reference.boneAddress?
  cases Reference.parse? o.target with
  | none => rfl
  | some u =>
    dsimp only
    cases hpath : BoneProperty.ofPath? u.boneTarget.2 with
    | none => simp [hpath]
    | some x =>
      obtain ⟨p, axis⟩ := x
      simp only [hpath, Option.bind_some, Option.map_some, Armature.find?_isNone]
      cases a.position? u.boneTarget.1 with
      | none => simp [changes]
      | some i => cases hp : p.isEdit <;> cases edit <;> simp [changes]

/-- The value of the last output that asks for a component. -/
def asked? (os : List (Output Float)) (bone : String) (p : BoneProperty) (slot : Axis) :
    Option Float :=
  ((os.filter fun o => Reference.asksFor bone p slot o.target).getLast?).map Output.value

theorem asked?_concat {bone : String} {p : BoneProperty} {slot : Axis} :
    asked? (os ++ [o]) bone p slot =
      if Reference.asksFor bone p slot o.target then some o.value else asked? os bone p slot := by
  unfold asked?
  rw [List.filter_append]
  split
  · next h => simp [h]
  · next h => simp [h]

/-- Changes collected from outputs: one for each bone that is named, in order of first occurrence,
with the values of the last outputs that ask for them. -/
structure Collected (a : Armature) (edit : Bool) (os : List (Output Float))
    (cs : List BoneChange) : Prop where
  names : cs.map BoneChange.bone = ((os.map Output.target).filterMap (a.caller? edit)).eraseDups
  values : ∀ bone c, Keyed.find? BoneChange.bone bone cs = some c → ∀ p slot, p.isEdit = edit →
    c.get p slot = (asked? os bone p slot).or p.blank

theorem caller?_of_asksFor {text bone : String} {p : BoneProperty} {slot : Axis}
    (h : Reference.asksFor bone p slot text = true) (hbone : (a.position? bone).isSome = true) :
    a.caller? p.isEdit text = some bone := by
  unfold Reference.asksFor at h
  unfold Armature.caller?
  cases haddress : Reference.boneAddress? text with
  | none => simp [haddress] at h
  | some x =>
    obtain ⟨name, q, axis⟩ := x
    obtain ⟨rfl, rfl, -⟩ : name = bone ∧ q = p ∧ (axis = none ∨ axis = some slot) := by
      simpa [haddress] using h
    simp [hbone]

theorem Collected.isSome_of_find? (h : Collected a edit os cs) {bone : String} {c : BoneChange}
    (hc : Keyed.find? BoneChange.bone bone cs = some c) : (a.position? bone).isSome = true := by
  have hmem : bone ∈ cs.map BoneChange.bone :=
    List.mem_map.2 ⟨c, Keyed.mem_of_find? hc, Keyed.key_of_find? hc⟩
  rw [h.names, List.mem_eraseDups] at hmem
  obtain ⟨text, -, hcaller⟩ := List.mem_filterMap.1 hmem
  unfold Armature.caller? at hcaller
  split at hcaller
  · cases hcaller
  · split at hcaller
    · next hsome =>
      obtain rfl := Option.some.inj hcaller
      exact hsome.1
    · cases hcaller

theorem Collected.asked?_eq_none (h : Collected a edit os cs) {bone : String}
    (hnone : Keyed.find? BoneChange.bone bone cs = none)
    (hbone : (a.position? bone).isSome = true) {p : BoneProperty} {slot : Axis}
    (hp : p.isEdit = edit) : asked? os bone p slot = none := by
  have hnot : bone ∉ cs.map BoneChange.bone := fun hmem => by
    obtain ⟨c, hc, rfl⟩ := List.mem_map.1 hmem
    simpa using List.find?_eq_none.1 hnone c hc
  rw [h.names, List.mem_eraseDups] at hnot
  have hfilter : (os.filter fun o => Reference.asksFor bone p slot o.target) = [] :=
    List.filter_eq_nil_iff.2 fun o ho hasks => hnot <|
      List.mem_filterMap.2 ⟨o.target, List.mem_map_of_mem ho, hp ▸ caller?_of_asksFor hasks hbone⟩
  simp [asked?, hfilter]

theorem Collected.skip (h : Collected a edit os cs) (hskip : a.caller? edit o.target = none) :
    Collected a edit (os ++ [o]) cs := by
  refine ⟨by simp [h.names, hskip], fun bone c hc p slot hp => ?_⟩
  -- the bones among the changes are there, so who asks for one of them calls it
  have hnot : Reference.asksFor bone p slot o.target = false := by
    by_contra hasks
    have hcaller := caller?_of_asksFor (Bool.eq_true_of_not_eq_false hasks) (h.isSome_of_find? hc)
    rw [hp, hskip] at hcaller
    cases hcaller
  rw [asked?_concat, hnot]
  exact h.values bone c hc p slot hp

theorem get_update_of_address {c : BoneChange} {bone : String} {p q : BoneProperty}
    {axis : Option Axis} {slot : Axis} {v : Float}
    (ho : Reference.boneAddress? o.target = some (bone, p, axis)) :
    (c.update p axis v).get q slot =
      if Reference.asksFor bone q slot o.target then some v else c.get q slot := by
  split
  · next hasks =>
    obtain ⟨rfl, haxis⟩ : p = q ∧ (axis = none ∨ axis = some slot) := by
      simpa [Reference.asksFor, ho] using hasks
    have hscale : axis = none → p = .scale := by
      rintro rfl
      exact Reference.scale_of_boneAddress? ho
    exact BoneChange.get_update_self hscale haxis
  · next hasks =>
    refine BoneChange.get_update_of_ne ?_
    rintro rfl
    exact not_or.1 fun haxis => hasks (by simp [Reference.asksFor, ho, haxis])

theorem Collected.values_getD (h : Collected a edit os cs) {bone : String}
    (hbone : (a.position? bone).isSome = true) {old : BoneChange}
    (hold : (Keyed.find? BoneChange.bone bone cs).getD (.start bone) = old) :
    old.bone = bone ∧ ∀ p slot, p.isEdit = edit →
      old.get p slot = (asked? os bone p slot).or p.blank := by
  cases hfind : Keyed.find? BoneChange.bone bone cs with
  | none =>
    obtain rfl : BoneChange.start bone = old := by simpa [hfind] using hold
    refine ⟨rfl, fun p slot hp => ?_⟩
    rw [h.asked?_eq_none hfind hbone hp, BoneChange.get_start, Option.none_or]
  | some c =>
    obtain rfl : c = old := by simpa [hfind] using hold
    exact ⟨Keyed.key_of_find? hfind, h.values bone c hfind⟩

/-- An output that calls a bone is put into its change. -/
theorem Collected.updateIn (h : Collected a edit os cs) {bone : String} {p : BoneProperty}
    {axis : Option Axis} (ho : Reference.boneAddress? o.target = some (bone, p, axis))
    (hbone : (a.position? bone).isSome = true) (hedit : p.isEdit = edit) :
    Collected a edit (os ++ [o]) (BoneChange.updateIn bone p axis o.value cs) := by
  unfold BoneChange.updateIn
  generalize hold : (Keyed.find? BoneChange.bone bone cs).getD (.start bone) = old
  obtain ⟨holdbone, holdvalues⟩ := h.values_getD hbone hold
  have hnew : (old.update p axis o.value).bone = bone := BoneChange.bone_update.trans holdbone
  have hcaller : a.caller? edit o.target = some bone := by
    simp [Armature.caller?, ho, hbone, hedit]
  refine ⟨?_, fun bone' c hc q slot hq => ?_⟩
  · simp only [Keyed.map_key_insert, hnew, h.names, List.map_append, List.filterMap_append,
      List.map_singleton, List.filterMap_cons, hcaller, List.filterMap_nil, eraseDups_concat,
      List.mem_eraseDups]
  · rw [asked?_concat]
    by_cases hsame : bone = bone'
    · subst hsame
      have hfound : Keyed.find? BoneChange.bone (old.update p axis o.value).bone
          (Keyed.insert BoneChange.bone (old.update p axis o.value) cs) =
            some (old.update p axis o.value) := Keyed.find?_insert_self _
      rw [hnew, hc] at hfound
      obtain rfl := Option.some.inj hfound
      rw [get_update_of_address ho, holdvalues q slot hq]
      split <;> rfl
    · have hnot : Reference.asksFor bone' q slot o.target = false := by
        simp [Reference.asksFor, ho, hsame]
      rw [Keyed.find?_insert_of_ne (hnew ▸ hsame)] at hc
      rw [hnot]
      exact h.values bone' c hc q slot hq

/-- **Changes are collected from the outputs**, those of poses and those of rest positions. -/
theorem collected_ofOutputs (a : Armature) (morph : String) (edit : Bool)
    (os : List (Output Float)) :
    Collected a edit os ((ofOutputs (some a) morph os).changes edit) := by
  -- the outputs are taken from the front, and each is either put into a change or passed over
  induction os using List.reverseRecOn with
  | nil => exact ⟨by cases edit <;> rfl, by cases edit <;> simp [ofOutputs, empty, changes,
      Keyed.find?]⟩
  | append_singleton os o ih =>
    have hlast : ofOutputs (some a) morph (os ++ [o]) =
        add (some a) morph (ofOutputs (some a) morph os) o := List.foldl_append
    rw [hlast, add_changes]
    cases haddress : Reference.boneAddress? o.target with
    | none => exact ih.skip (by simp [Armature.caller?, haddress])
    | some x =>
      obtain ⟨bone, p, axis⟩ := x
      dsimp only
      split
      · next hcalls => exact ih.updateIn haddress hcalls.1 hcalls.2
      · next hcalls => exact ih.skip (by simpa [Armature.caller?, haddress] using hcalls)

end Commitment

end RiggedScene
