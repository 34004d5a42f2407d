import RiggedScene.Keyed
import RiggedScene.Numeric.Binary64

/-!
# JSON trees

`Json` holds a text as it was written: numbers as literals, objects with all their entries in
order. Parts that may stand in a text but have no value of their own are marked: a string with
a lone surrogate, and arrays or objects nested too deeply.

* `Json.keep?` is the value of a tree all of whose parts have one;
* `Json.Number.toFloat?` is the value of a literal that does not overflow.
-/

namespace RiggedScene

/-- A number literal: `digits * 10 ^ exponent`, negated when `negative`. -/
structure Json.Number where
  /-- Written with a minus sign. -/
  negative : Bool
  /-- The digits, the point left out, as far as they fit into 64 bits. -/
  digits : Nat
  /-- Power of ten. -/
  exponent : Int
  /-- Written without fraction and exponent, and with digits that all fit. -/
  whole : Bool
  deriving Repr, DecidableEq, Inhabited

/-- A tree of JSON values. -/
inductive Json where
  | null
  | bool (b : Bool)
  | num (n : Json.Number)
  | str (s : String)
  /-- A string with a lone surrogate. -/
  | illFormed
  | arr (items : List Json)
  /-- Entries as written; a key is `none` when it has a lone surrogate. -/
  | obj (entries : List (Option String × Json))
  /-- An array or object below `Json.maxDepth` others. -/
  | tooDeep
  deriving Inhabited

namespace Json

/-- Arrays and objects nested deeper than this have no value. -/
def maxDepth : Nat := 127

namespace Number

/-- The greatest number of 64 bits, which is the greatest index that a record may hold. -/
def maxIndex : Nat := Nat.pow 2 64 - 1

/-- The greatest power of ten that is finite. -/
def maxPower : Nat := 308

/-- The number nearest to a power of ten. -/
def powerOfTen (n : Nat) : Float := Float.ofDecimal false 1 n

/-- Divides by the greatest power of ten several times, until nothing is left. -/
def lower : Nat → Float → Float
  | 0, x => x
  | n + 1, x => if x == 0.0 then x else lower n (x / powerOfTen maxPower)

/-- Moves the point of a number. Each step is rounded, so that the outcome may miss the nearest
number by a little. -/
def shift (x : Float) (exponent : Int) : Float :=
  let n := exponent.natAbs
  if exponent < 0 then
    -- so many whole steps that between one and `maxPower` places are left
    let steps := (n - 1) / maxPower
    lower steps x / powerOfTen (n - steps * maxPower)
  else if n ≤ maxPower then x * powerOfTen n
  else if x == 0.0 then x
  else 1.0 / 0.0

/-- The number that a literal is read as, infinite when the literal is too large. -/
def toFloat (n : Number) : Float :=
  let x := shift (Float.ofDecimal false n.digits 0) n.exponent
  if n.negative then -x else x

/-- The number that a literal is read as, unless it is too large. -/
def toFloat? (n : Number) : Option Float :=
  let x := n.toFloat
  if x.isInf then none else some x

/-- A whole literal without sign is an index. -/
def toIndex? (n : Number) : Option Nat :=
  if n.whole && !n.negative && n.digits ≤ maxIndex then some n.digits else none

end Number

/-! ### Values -/

mutual

/-- The tree with the last entry of each key only; `none` when some part has no value. -/
def keep? : Json → Option Json
  | null => some null
  | bool b => some (bool b)
  | num n => n.toFloat?.map fun _ => num n
  | str s => some (str s)
  | illFormed => none
  | arr items => (keepItems? items).map arr
  | obj entries => (keepEntries? entries).map fun es => obj (Keyed.ofList Prod.fst es)
  | tooDeep => none

/-- The values of all items. -/
def keepItems? : List Json → Option (List Json)
  | [] => some []
  | j :: js =>
    match keep? j, keepItems? js with
    | some v, some vs => some (v :: vs)
    | _, _ => none

/-- The entries with their values. -/
def keepEntries? : List (Option String × Json) → Option (List (Option String × Json))
  | [] => some []
  | (none, _) :: _ => none
  | (some k, j) :: es =>
    match keep? j, keepEntries? es with
    | some v, some vs => some ((some k, v) :: vs)
    | _, _ => none

end

/-- The number of a numeric value. -/
def number? : Json → Option Float
  | num n => some n.toFloat
  | _ => none

/-- The items of an array. -/
def items? : Json → Option (List Json)
  | arr items => some items
  | _ => none

end Json

end RiggedScene
