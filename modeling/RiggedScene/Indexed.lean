/-!
# Sets and maps of indices

Both are lists in strictly ascending order, so that equal contents are equal lists.

* `IndexSet.insert` and `IndexSet.ofList` build sets;
* `IndexMap.insert` and `IndexMap.ofList` build maps, the last value of an index winning.
-/

namespace RiggedScene

/-- A set of indices, in strictly ascending order. -/
abbrev IndexSet := List Nat

namespace IndexSet

/-- Adds an index. -/
def insert (i : Nat) : IndexSet → IndexSet
  | [] => [i]
  | j :: js =>
    if i < j then i :: j :: js
    else if j < i then j :: insert i js
    else j :: js

/-- Adds several indices. -/
def insertAll (s : IndexSet) (is : List Nat) : IndexSet := is.foldl (fun acc i => insert i acc) s

/-- The indices of a list, each once. -/
def ofList (is : List Nat) : IndexSet := insertAll [] is

end IndexSet

/-- A value for some indices, in strictly ascending order of the indices. -/
abbrev IndexMap (α : Type) := List (Nat × α)

namespace IndexMap

variable {α : Type}

/-- Sets the value of an index. -/
def insert (e : Nat × α) : IndexMap α → IndexMap α
  | [] => [e]
  | d :: ds =>
    if e.1 < d.1 then e :: d :: ds
    else if d.1 < e.1 then d :: insert e ds
    else e :: ds

/-- Sets the values one after another. -/
def insertAll (m : IndexMap α) (es : List (Nat × α)) : IndexMap α :=
  es.foldl (fun acc e => insert e acc) m

/-- The values of a list, the last one of each index. -/
def ofList (es : List (Nat × α)) : IndexMap α := insertAll [] es

end IndexMap

end RiggedScene
