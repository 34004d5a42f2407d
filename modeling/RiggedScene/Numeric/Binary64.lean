/-!
# Binary64 numbers as exact values

A `Float` is a sign, a whole coefficient and a power of two, or else infinite or not a number.

* `Binary64.ofFloat` reads the three parts off the bit pattern;
* `Binary64.Finite.ratio` is the magnitude as a quotient of two natural numbers;
* `Float.ofDecimal` goes the other way, from a decimal literal to the nearest number.
-/

namespace RiggedScene

namespace Binary64

/-- A finite number: `coefficient * 2 ^ exponent`, negated when `negative`. -/
structure Finite where
  /-- Sign bit; zero has a sign too. -/
  negative : Bool
  /-- Whole coefficient, below `2 ^ 53`. -/
  coefficient : Nat
  /-- Power of two the coefficient is scaled by. -/
  exponent : Int
  deriving Repr, DecidableEq

/-- The three kinds of binary64 values. -/
inductive Kind where
  | finite (value : Finite)
  | infinite (negative : Bool)
  | notANumber
  deriving Repr, DecidableEq

/-- A power of two. -/
def twoTo (n : Nat) : Nat := Nat.pow 2 n

/-- Splits a bit pattern into sign, exponent and fraction fields. -/
def ofBits (bits : Nat) : Kind :=
  let negative : Bool := bits / twoTo 63 % 2 == 1
  let scale : Nat := bits / twoTo 52 % twoTo 11
  let fraction : Nat := bits % twoTo 52
  if scale == twoTo 11 - 1 then
    if fraction == 0 then .infinite negative else .notANumber
  else if scale == 0 then
    .finite ⟨negative, fraction, -1074⟩
  else
    .finite ⟨negative, twoTo 52 + fraction, (scale : Int) - 1075⟩

/-- The exact value of a `Float`. -/
def ofFloat (x : Float) : Kind := ofBits x.toBits.toNat

namespace Finite

variable (v : Finite)

/-- The magnitude as numerator and denominator. -/
def ratio : Nat × Nat :=
  if v.exponent < 0 then (v.coefficient, twoTo v.exponent.natAbs)
  else (v.coefficient * twoTo v.exponent.natAbs, 1)

/-- The lowest coefficient of a binade: the gap below it is half the gap above it. -/
def isBinadeStart : Bool := v.coefficient == twoTo 52 && decide (-1074 < v.exponent)

/-- The interval of magnitudes that round to `v`, over four times the denominator of
`ratio`: lower end, upper end, and whether the ends belong to it. -/
def roundingInterval : Nat × Nat × Bool :=
  let unit := if v.exponent < 0 then 1 else twoTo v.exponent.natAbs
  let below := if v.isBinadeStart then unit else 2 * unit
  (4 * v.ratio.1 - below, 4 * v.ratio.1 + 2 * unit, v.coefficient % 2 == 0)

end Finite

end Binary64

/-- The number nearest to `digits * 10 ^ exponent`, negated when `negative`. Literals beyond
the finite range become infinite or zero without their power of ten being computed. -/
def Float.ofDecimal (negative : Bool) (digits : Nat) (exponent : Int) : Float :=
  let top := ((Nat.toDigits 10 digits).length : Int) + exponent
  let magnitude : Float :=
    if digits == 0 || top < -400 then 0.0
    else if 400 < top then 1.0 / 0.0
    else if exponent < 0 then Float.ofScientific digits true exponent.natAbs
    else Float.ofScientific digits false exponent.natAbs
  if negative then -magnitude else magnitude

end RiggedScene
