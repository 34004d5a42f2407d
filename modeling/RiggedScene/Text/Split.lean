/-!
# Cutting text

Operations on characters that know no format.

* `Split.pieces` cuts at every separator and `Split.unite` puts the pieces together again;
* `Split.cut` cuts at the first one;
* `Split.after?` takes a known beginning away;
* `Split.occurs` searches for a part.
-/

namespace RiggedScene

namespace Split

/-- Cuts at every `c`: `n` separators give `n + 1` pieces. -/
def pieces (c : Char) : List Char → List (List Char)
  | [] => [[]]
  | d :: ds =>
    if d = c then [] :: pieces c ds
    else
      match pieces c ds with
      | [] => [[d]]
      | p :: ps => (d :: p) :: ps

/-- Writes pieces with a `c` between them. -/
def unite (c : Char) : List (List Char) → List Char
  | [] => []
  | [p] => p
  | p :: ps => p ++ c :: unite c ps

/-- What stands before and after the first `c`. -/
def cut (c : Char) : List Char → Option (List Char × List Char)
  | [] => none
  | d :: ds => if d = c then some ([], ds) else (cut c ds).map fun (a, b) => (d :: a, b)

/-- What follows the beginning `start`. -/
def after? : List Char → List Char → Option (List Char)
  | [], cs => some cs
  | _ :: _, [] => none
  | s :: ss, c :: cs => if s = c then after? ss cs else none

/-- Whether `part` occurs in the text. -/
def occurs (part : List Char) : List Char → Bool
  | [] => part.isEmpty
  | c :: cs => (after? part (c :: cs)).isSome || occurs part cs

/-- Whether `s` contains `part`. -/
def contains (s part : String) : Bool := occurs part.toList s.toList

/-- Whether `s` ends in `part`. -/
def endsWith (s part : String) : Bool := (after? part.toList.reverse s.toList.reverse).isSome

/-- The text without one leading `c`. -/
def dropLeading (c : Char) (s : String) : String :=
  match s.toList with
  | d :: ds => if d = c then String.ofList ds else s
  | [] => s

end Split

end RiggedScene
