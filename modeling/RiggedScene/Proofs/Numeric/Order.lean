import RiggedScene.Space.Vector
import Mathlib

/-!
# The order of binary64 numbers

Numbers are compared by sign, exponent and mantissa; what is not a number is neither less nor
greater than anything.

* `Binary64.lt_iff` : the order is that of places in a linear order;
* `Binary64.lt_larger_iff` and `Vec3.lt_maxComponent_iff` : a number is less than the largest of
  several ones if it is less than one of them;
* `Binary64.add_comm` : a sum does not depend on the order of its terms.
-/

namespace RiggedScene

namespace Binary64

open Float.Model

/-- Where an unpacked number stands among all others, by sign, exponent and mantissa. -/
def place : UnpackedFloat → ℤ ×ₗ ℤ ×ₗ ℤ
  | .infinity .negative => toLex (-2, toLex (0, 0))
  | .finite .negative m e _ => toLex (-1, toLex (-e, -m))
  | .notANumber | .zero _ => toLex (0, toLex (0, 0))
  | .finite .positive m e _ => toLex (1, toLex (e, m))
  | .infinity .positive => toLex (2, toLex (0, 0))

theorem unpacked_lt_iff (a b : UnpackedFloat) :
    a.lt b = true ↔ a.isNaN = false ∧ b.isNaN = false ∧ place a < place b := by
  have hsign : compare UnpackedFloat.Sign.negative UnpackedFloat.Sign.positive = .lt := rfl
  rcases a with (_ | _) | _ | (_ | _) | ⟨_ | _, m, e, h⟩ <;>
    rcases b with (_ | _) | _ | (_ | _) | ⟨_ | _, m', e', h'⟩ <;>
      simp [UnpackedFloat.lt, UnpackedFloat.compare, UnpackedFloat.isNaN, place, hsign,
        Prod.Lex.toLex_lt_toLex, Ordering.then_eq_lt, Ordering.swap_then, compare_lt_iff_lt,
        compare_gt_iff_gt]

variable {x a b : Float}

/-- The order is that of places, but for what is not a number. -/
theorem lt_iff : a < b ↔ a.isNaN = false ∧ b.isNaN = false ∧
    place a.toModel.unpack < place b.toModel.unpack := by
  have hunpacked : a < b ↔ a.toModel.unpack.lt b.toModel.unpack = true := by
    change a.lt b = true ↔ _
    rw [Float.lt, decide_eq_true_eq]
    rfl
  rw [hunpacked, unpacked_lt_iff]
  rfl

theorem not_lt_of_isNaN (hb : b.isNaN = true) : ¬ a < b := fun h => by
  rw [(lt_iff.1 h).2.1] at hb
  cases hb

theorem lt_trans (hxa : x < a) (hab : a < b) : x < b := by
  obtain ⟨hx, -, hplace⟩ := lt_iff.1 hxa
  obtain ⟨-, hb, hplace'⟩ := lt_iff.1 hab
  exact lt_iff.2 ⟨hx, hb, hplace.trans hplace'⟩

theorem lt_of_lt_of_not_lt (ha : a.isNaN = false) (hxb : x < b) (hab : ¬ a < b) : x < a := by
  obtain ⟨hx, hb, hplace⟩ := lt_iff.1 hxb
  have hle : place b.toModel.unpack ≤ place a.toModel.unpack :=
    not_lt.1 fun hlt => hab (lt_iff.2 ⟨ha, hb, hlt⟩)
  exact lt_iff.2 ⟨hx, ha, hplace.trans_le hle⟩

/-- A number is less than the larger one of two if it is less than one of them. -/
theorem lt_larger_iff : x < Vec3.larger a b ↔ x < a ∨ x < b := by
  unfold Vec3.larger
  split
  · next ha => exact (or_iff_right (not_lt_of_isNaN ha)).symm
  · next ha =>
    split
    · next hb => exact (or_iff_left (not_lt_of_isNaN hb)).symm
    · split
      · next hab => exact ⟨.inr, fun h => h.elim (lt_trans · hab) id⟩
      · next hab =>
        rw [Bool.not_eq_true] at ha
        exact ⟨.inl, fun h => h.elim id (lt_of_lt_of_not_lt ha · hab)⟩

theorem unpacked_add_comm (spec : Format) (a b : UnpackedFloat) :
    UnpackedFloat.add spec a b = UnpackedFloat.add spec b a := by
  rcases a with (_ | _) | _ | (_ | _) | ⟨s, m, e, h⟩ <;>
    rcases b with (_ | _) | _ | (_ | _) | ⟨s', m', e', h'⟩ <;> try rfl
  -- the digits of two finite numbers are shifted to the smaller exponent and added
  simp only [UnpackedFloat.add, min_comm e' e, Int.add_comm (s'.apply _)]

/-- **A sum does not depend on the order of its terms.** -/
theorem add_comm (a b : Float) : a + b = b + a :=
  congrArg (fun u => Float.ofModel (Float.Model.pack u))
    (unpacked_add_comm Format.binary64 a.toModel.unpack b.toModel.unpack)

end Binary64

namespace Vec3

variable {v : Vec3} {x : Float}

/-- A number is less than the largest component if it is less than one of them. -/
theorem lt_maxComponent_iff : x < maxComponent v ↔ ∃ a : Axis, x < v.get a := by
  rw [maxComponent, Binary64.lt_larger_iff, Binary64.lt_larger_iff]
  constructor
  · rintro (h | h | h)
    · exact ⟨.x, h⟩
    · exact ⟨.y, h⟩
    · exact ⟨.z, h⟩
  · rintro ⟨a, h⟩
    cases a with
    | x => exact .inl h
    | y => exact .inr (.inl h)
    | z => exact .inr (.inr h)

end Vec3

end RiggedScene
