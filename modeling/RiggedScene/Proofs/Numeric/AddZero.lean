import Mathlib

/-!
# Adding zero

Arithmetic on binary64 numbers unpacks them into a sign, an exponent and a mantissa, and packs the
result.

* `Binary64.add_zero_cases` : adding zero changes nothing but minus zero, which becomes zero.
-/

namespace RiggedScene

namespace Binary64

open Float.Model

theorem pack_unpack (x : Float.Model) : Float.Model.pack x.unpack = x := by
  obtain ⟨bits, hvalid⟩ := x
  simp only [Float.Model.pack, Float.Model.unpack, UnpackedFloat.pack_unpack_of_valid hvalid]

/-- **Adding zero** changes nothing but minus zero, which becomes zero. -/
theorem add_zero_cases (x : Float) : x + 0.0 = x ∨ x = -0.0 ∧ x + 0.0 = 0.0 := by
  obtain ⟨m⟩ := x
  have hself := pack_unpack m
  have hsum : Float.ofModel m + 0.0 =
      .ofModel (Float.Model.pack (UnpackedFloat.add Format.binary64 m.unpack (.zero .positive))) :=
    rfl
  rw [hsum]
  cases hm : m.unpack with
  | zero s =>
    cases s with
    | negative =>
      refine .inr ⟨?_, rfl⟩
      rw [← hself, hm]
      rfl
    | positive => exact .inl (by rw [← hself, hm]; rfl)
  | notANumber => exact .inl (by rw [← hself, hm]; rfl)
  | infinity s => exact .inl (by rw [← hself, hm]; rfl)
  | finite s c e hc => exact .inl (by rw [← hself, hm]; rfl)

theorem add_zero_add_zero (x : Float) : x + 0.0 + 0.0 = x + 0.0 := by
  rcases add_zero_cases x with h | ⟨-, h⟩
  · rw [h, h]
  · rw [h]
    decide

end Binary64

end RiggedScene
