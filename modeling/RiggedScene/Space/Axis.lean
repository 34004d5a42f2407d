/-!
# Axes, rotation orders and signed axes

* `RotationOrder` is a sequence of all three axes, the first one applied first;
* `AxisSign` is the direction a bone points in;
* `RotationOrder.ofText?` and `AxisSign.ofText?` read labels of either case.
-/

namespace RiggedScene

/-- One of the three cartesian axes. -/
inductive Axis where
  | x
  | y
  | z
  deriving Repr, DecidableEq, Inhabited

namespace Axis

/-- Component index. -/
def index : Axis → Nat
  | x => 0
  | y => 1
  | z => 2

/-- Upper-case letter. -/
def letter : Axis → Char
  | x => 'X'
  | y => 'Y'
  | z => 'Z'

/-- The axis of a letter of either case. -/
def ofLetter? (c : Char) : Option Axis :=
  if c = 'x' ∨ c = 'X' then some x
  else if c = 'y' ∨ c = 'Y' then some y
  else if c = 'z' ∨ c = 'Z' then some z
  else none

/-- Exchanges `b` and `c`, leaving the third axis alone. -/
def swapped (a b c : Axis) : Axis := if a = b then c else if a = c then b else a

/-- All axes, in order of their index. -/
def all : List Axis := [x, y, z]

theorem swapped_injective {a a' b c : Axis} (h : swapped a b c = swapped a' b c) : a = a' := by
  revert h; cases a <;> cases a' <;> cases b <;> cases c <;> decide

end Axis

/-- The order of three rotations about distinct axes; `first` is applied first. -/
structure RotationOrder where
  first : Axis
  second : Axis
  third : Axis
  /-- Each axis occurs once. -/
  distinct : first ≠ second ∧ first ≠ third ∧ second ≠ third
  deriving Repr, DecidableEq

namespace RotationOrder

/-- X, then Y, then Z. -/
def xyz : RotationOrder := ⟨.x, .y, .z, by decide⟩

instance : Inhabited RotationOrder := ⟨xyz⟩

variable (o : RotationOrder)

/-- The axes in order. -/
def axes : List Axis := [o.first, o.second, o.third]

/-- The axis a bone of this order points along. -/
def dominant : Axis := o.first

/-- The order with two axes exchanged. -/
def swap (a b : Axis) : RotationOrder where
  first := o.first.swapped a b
  second := o.second.swapped a b
  third := o.third.swapped a b
  distinct := by
    obtain ⟨h1, h2, h3⟩ := o.distinct
    exact ⟨fun h => h1 (Axis.swapped_injective h), fun h => h2 (Axis.swapped_injective h),
      fun h => h3 (Axis.swapped_injective h)⟩

/-- The same order in the output frame, where Y and Z have changed places. -/
def toOutput : RotationOrder := o.swap .y .z

/-- The order of a bone's pose channels: bones along X exchange X and Y, bones along Z exchange
Y and Z. -/
def poseOrder : RotationOrder :=
  match o.dominant with
  | .x => o.swap .x .y
  | .y => o
  | .z => o.swap .y .z

/-- Three upper-case letters. -/
def text : String := String.ofList (o.axes.map Axis.letter)

/-- Reads exactly three letters of distinct axes. -/
def ofText? (s : String) : Option RotationOrder :=
  match s.toList.map Axis.ofLetter? with
  | [some a, some b, some c] =>
    if h : a ≠ b ∧ a ≠ c ∧ b ≠ c then some ⟨a, b, c, h⟩ else none
  | _ => none

end RotationOrder

/-- An axis with a direction. -/
structure AxisSign where
  axis : Axis
  /-- Points towards larger values. -/
  positive : Bool
  deriving Repr, DecidableEq, Inhabited

namespace AxisSign

variable (s : AxisSign)

/-- One or minus one. -/
def factor : Float := if s.positive then 1.0 else -1.0

/-- A sign and an upper-case letter. -/
def label : String := String.ofList [if s.positive then '+' else '-', s.axis.letter]

/-- Reads a sign and one letter. -/
def ofText? (t : String) : Option AxisSign :=
  match t.toList with
  | [sign, c] =>
    match Axis.ofLetter? c with
    | some a => if sign = '+' then some ⟨a, true⟩ else if sign = '-' then some ⟨a, false⟩ else none
    | none => none
  | _ => none

/-- What is said about a label that cannot be read. -/
def invalidLabel (t : String) : String := "invalid axis '" ++ t ++ "'"

end AxisSign

end RiggedScene
