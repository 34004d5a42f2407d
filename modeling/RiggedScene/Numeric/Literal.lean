import RiggedScene.Numeric.Binary64

/-!
# Number literals

Numbers as they are typed, which leaves more freedom than a data format does.

* `Literal.ofDigits`, `Literal.spanDigits` and `Literal.power?` read the parts of a literal;
* `Literal.toFloat?` reads a whole text: an optional sign, then digits with a point that has a
  digit on at least one side, an optional power of ten, or one of the words for infinity and for
  what is not a number.
-/

namespace RiggedScene

namespace Literal

/-- The value of a sequence of digits. -/
def ofDigits (ds : List Char) : Nat := ds.foldl (fun n d => n * 10 + (d.toNat - 48)) 0

/-- Digits at the front, and the rest. -/
def spanDigits (cs : List Char) : List Char × List Char :=
  (cs.takeWhile Char.isDigit, cs.dropWhile Char.isDigit)

/-- The power of ten at the end of a literal. -/
def power? : List Char → Option Int
  | [] => some 0
  | c :: cs =>
    if c = 'e' ∨ c = 'E' then
      let (negative, rest) :=
        match cs with
        | '-' :: r => (true, r)
        | '+' :: r => (false, r)
        | r => (false, r)
      if rest.isEmpty || !rest.all Char.isDigit then none
      else
        let n : Int := ofDigits rest
        some (if negative then -n else n)
    else none

/-- The digits of a literal without sign, the point left out, and its power of ten. -/
def unsigned? (cs : List Char) : Option (Nat × Int) :=
  let (int, rest) := spanDigits cs
  let (frac, rest) :=
    match rest with
    | '.' :: r => spanDigits r
    | r => ([], r)
  if int.isEmpty && frac.isEmpty then none
  else (power? rest).map fun e => (ofDigits (int ++ frac), e - frac.length)

/-- The sign of a literal and what follows it. -/
def sign : List Char → Bool × List Char
  | '-' :: cs => (true, cs)
  | '+' :: cs => (false, cs)
  | cs => (false, cs)

/-- The words for infinity; capitals do not matter. -/
def infinityWords : List String := ["inf", "infinity"]

/-- The word for what is not a number. -/
def notANumberWord : String := "nan"

/-- The number nearest to a literal. -/
def toFloat? (s : String) : Option Float :=
  let (negative, body) := sign s.toList
  let word := String.ofList (body.map Char.toLower)
  if word ∈ infinityWords then some (if negative then -(1.0 / 0.0) else 1.0 / 0.0)
  else if word = notANumberWord then some (0.0 / 0.0)
  else (unsigned? body).map fun (digits, e) => Float.ofDecimal negative digits e

end Literal

end RiggedScene
