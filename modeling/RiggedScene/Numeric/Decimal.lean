import RiggedScene.Numeric.Binary64

/-!
# Decimal text of binary64 numbers

Every text is computed from the exact value, so the last digit is right in all cases.

* `Decimal.scientific n x` has `n` significant digits: `1.25e-3`;
* `Decimal.fixed k x` has `k` digits after the point: `0.001`;
* `Decimal.shortest x` has the fewest digits that read back as `x`, written positionally.

Roundings take the even neighbour on a tie.
-/

namespace RiggedScene

namespace Decimal

/-- A power of ten. -/
def tenTo (n : Nat) : Nat := Nat.pow 10 n

/-- The whole number nearest to `num / den`; of two equally near ones the even one. -/
def roundHalfEven (num den : Nat) : Nat :=
  let q := num / den
  let r := num % den
  if 2 * r < den then q
  else if den < 2 * r then q + 1
  else if q % 2 == 0 then q
  else q + 1

/-- The decimal digits of a natural number, most significant first. -/
def digits (n : Nat) : List Char := Nat.toDigits 10 n

/-- Digits padded with zeros on the left to at least `width` places. -/
def padded (width n : Nat) : List Char :=
  let ds := digits n
  List.replicate (width - ds.length) '0' ++ ds

/-- The power of ten of the leading digit of `num / den`, for a positive quotient. -/
def leadingPower (num den : Nat) : Int :=
  let guess : Int := (digits num).length - (digits den).length
  let reached :=
    if guess < 0 then den ≤ num * tenTo guess.natAbs else den * tenTo guess.natAbs ≤ num
  if reached then guess else guess - 1

/-- `num / den * 10 ^ power` rounded to a whole number. -/
def scaledRound (num den : Nat) (power : Int) : Nat :=
  if power < 0 then roundHalfEven num (den * tenTo power.natAbs)
  else roundHalfEven (num * tenTo power.natAbs) den

/-- The `n` leading digits of a positive quotient, and the power of ten of the first one. -/
def significant (n num den : Nat) : Nat × Int :=
  let e := leadingPower num den
  let m := scaledRound num den ((n : Int) - 1 - e)
  if m == tenTo n then (tenTo (n - 1), e + 1) else (m, e)

/-- A minus sign for negative numbers, zero included. -/
def sign (negative : Bool) : List Char := if negative then ['-'] else []

/-- The texts of the values that are not finite. -/
def special : Bool → List Char
  | true => "-inf".toList
  | false => "inf".toList

/-- The text of a value that is not a number. -/
def notANumber : List Char := "NaN".toList

/-- One digit, a point and the others, then the power of ten. -/
def exponentForm (ds : List Char) (power : Int) : List Char :=
  match ds with
  | [] => []
  | [d] => d :: 'e' :: (toString power).toList
  | d :: rest => d :: '.' :: rest ++ 'e' :: (toString power).toList

/-- Text with `n` significant digits and a power of ten. -/
def scientific (n : Nat) (x : Float) : String :=
  String.ofList <|
    match Binary64.ofFloat x with
    | .notANumber => notANumber
    | .infinite negative => special negative
    | .finite v =>
      let (num, den) := v.ratio
      sign v.negative ++
        if num == 0 then exponentForm (List.replicate n '0') 0
        else
          let (m, e) := significant n num den
          exponentForm (digits m) e

/-- A whole number of `10 ^ -places` written with a point. -/
def pointForm (places m : Nat) : List Char :=
  let whole := digits (m / tenTo places)
  if places == 0 then whole else whole ++ '.' :: padded places (m % tenTo places)

/-- Text with `places` digits after the point. -/
def fixed (places : Nat) (x : Float) : String :=
  String.ofList <|
    match Binary64.ofFloat x with
    | .notANumber => notANumber
    | .infinite negative => special negative
    | .finite v =>
      let (num, den) := v.ratio
      sign v.negative ++ pointForm places (roundHalfEven (num * tenTo places) den)

/-! ### The fewest digits that read back -/

/-- Whether `m * 10 ^ power` lies in the rounding interval of `v`. -/
def readsBack (v : Binary64.Finite) (m : Nat) (power : Int) : Bool :=
  let den := 4 * v.ratio.2
  let (low, high, closed) := v.roundingInterval
  -- compare `m * 10 ^ power` with `low / den` and `high / den`
  let (n, d) := if power < 0 then (m * 4 * v.ratio.2, tenTo power.natAbs)
    else (m * den * tenTo power.natAbs, 1)
  if closed then low * d ≤ n && n ≤ high * d else low * d < n && n < high * d

/-- The neighbours of `v` among the multiples of `10 ^ power` that read back, nearest first. -/
def candidates (v : Binary64.Finite) (power : Int) : List Nat :=
  let (num, den) := v.ratio
  let (n, d) := if power < 0 then (num * tenTo power.natAbs, den)
    else (num, den * tenTo power.natAbs)
  let floor := n / d
  let nearest := roundHalfEven n d
  let other := if nearest == floor then floor + 1 else floor
  [nearest, other].filter (readsBack v · power)

/-- The first grid, from `n` digits on, with a multiple that reads back. -/
def shortestFrom (v : Binary64.Finite) (lead : Int) : Nat → Nat → Nat × Int
  | 0, n => let p := lead + 1 - n; ((candidates v p).headD 0, p)
  | more + 1, n =>
    let p := lead + 1 - n
    match candidates v p with
    | m :: _ => (m, p)
    | [] => shortestFrom v lead more (n + 1)

/-- `m * 10 ^ power` written without a power of ten, trailing zeros of the fraction dropped. -/
def positional (m : Nat) (power : Int) : List Char :=
  if 0 ≤ power then digits (m * tenTo power.natAbs)
  else
    let places := power.natAbs
    let fraction := (padded places (m % tenTo places)).reverse.dropWhile (· == '0')
    let whole := digits (m / tenTo places)
    if fraction.isEmpty then whole else whole ++ '.' :: fraction.reverse

/-- Positional text with the fewest significant digits that read back as `x`. -/
def shortest (x : Float) : String :=
  String.ofList <|
    match Binary64.ofFloat x with
    | .notANumber => notANumber
    | .infinite negative => special negative
    | .finite v =>
      let (num, den) := v.ratio
      sign v.negative ++
        if num == 0 then ['0']
        else
          let (m, p) := shortestFrom v (leadingPower num den) 17 1
          positional m p

end Decimal

end RiggedScene
