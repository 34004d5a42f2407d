import RiggedScene.Space.Axis

/-!
# Triples and vectors

* `Triple α` holds one value per axis;
* `Vec3` is a triple of numbers with the operations of a vector space;
* `Vec3.normalised?` is the unit vector of a direction, unless it has no usable length.
-/

namespace RiggedScene

/-- One value per axis. -/
structure Triple (α : Type) where
  x : α
  y : α
  z : α
  deriving Repr, DecidableEq, Inhabited

namespace Triple

variable {α β γ : Type}

/-- The value of an axis. -/
def get (t : Triple α) : Axis → α
  | .x => t.x
  | .y => t.y
  | .z => t.z

/-- Replaces the value of an axis. -/
def set (t : Triple α) : Axis → α → Triple α
  | .x, v => { t with x := v }
  | .y, v => { t with y := v }
  | .z, v => { t with z := v }

/-- Applies a function to each value. -/
def map (f : α → β) (t : Triple α) : Triple β := ⟨f t.x, f t.y, f t.z⟩

/-- Combines two triples axis by axis. -/
def zipWith (f : α → β → γ) (s : Triple α) (t : Triple β) : Triple γ :=
  ⟨f s.x t.x, f s.y t.y, f s.z t.z⟩

/-- The same value on each axis. -/
def replicate (v : α) : Triple α := ⟨v, v, v⟩

/-- The triple with Y and Z exchanged. -/
def swapYZ (t : Triple α) : Triple α := ⟨t.x, t.z, t.y⟩

/-- The values in order of their axes. -/
def toList (t : Triple α) : List α := [t.x, t.y, t.z]

@[simp] theorem get_set_self (t : Triple α) (a : Axis) (v : α) : (t.set a v).get a = v := by
  cases a <;> rfl

theorem get_set_of_ne (t : Triple α) {a b : Axis} (v : α) (h : b ≠ a) :
    (t.set a v).get b = t.get b := by
  cases a <;> cases b <;> simp_all [get, set]

theorem ext_get {t t' : Triple α} (h : ∀ a, t.get a = t'.get a) : t = t' := by
  obtain ⟨x, y, z⟩ := t
  obtain ⟨x', y', z'⟩ := t'
  obtain rfl : x = x' := h .x
  obtain rfl : y = y' := h .y
  obtain rfl : z = z' := h .z
  rfl

end Triple

/-- A vector of three numbers. -/
abbrev Vec3 := Triple Float

namespace Vec3

/-- The zero vector. -/
def zero : Vec3 := .replicate 0.0

/-- One on each axis. -/
def one : Vec3 := .replicate 1.0

/-- Sum. -/
def add (a b : Vec3) : Vec3 := a.zipWith (· + ·) b

/-- Difference. -/
def sub (a b : Vec3) : Vec3 := a.zipWith (· - ·) b

/-- Multiple. -/
def scale (a : Vec3) (k : Float) : Vec3 := a.map (· * k)

/-- Inner product. -/
def dot (a b : Vec3) : Float := a.x * b.x + a.y * b.y + a.z * b.z

/-- Squared length. -/
def lengthSquared (a : Vec3) : Float := a.dot a

/-- Length. -/
def length (a : Vec3) : Float := a.lengthSquared.sqrt

/-- Whether all components are equal as numbers: the two zeros are, nothing equals NaN. -/
def same (a b : Vec3) : Bool := a.x == b.x && a.y == b.y && a.z == b.z

/-- The unit vector of a direction, unless the reciprocal of its length is not a positive
finite number. -/
def normalised? (a : Vec3) : Option Vec3 :=
  let r := 1.0 / a.length
  if r.isFinite && r > 0.0 then some (a.scale r) else none

/-- The unit vector of a direction, or zero. -/
def normalisedOrZero (a : Vec3) : Vec3 := a.normalised?.getD zero

/-- The larger of two numbers; a number is larger than NaN. -/
def larger (a b : Float) : Float :=
  if a.isNaN then b else if b.isNaN then a else if a < b then b else a

/-- The largest component. -/
def maxComponent (a : Vec3) : Float := larger a.x (larger a.y a.z)

/-- The angle between two directions. -/
def angleBetween (a b : Vec3) : Float :=
  let c := a.dot b / (a.lengthSquared * b.lengthSquared).sqrt
  -- NaN passes through both comparisons
  let c := if c < -1.0 then -1.0 else c
  let c := if c > 1.0 then 1.0 else c
  c.acos

end Vec3

end RiggedScene
