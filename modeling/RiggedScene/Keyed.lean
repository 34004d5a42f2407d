/-!
# Keyed lists

A list in which a key projection picks out one entry.

* `Keyed.insert` replaces the entry of the same key where it stands, or appends;
* `Keyed.ofList` inserts one after another, so that the last entry of a key wins and keeps the
  place of the first;
* `Keyed.find?` looks a key up.
-/

namespace RiggedScene

namespace Keyed

variable {α κ : Type} [DecidableEq κ] (key : α → κ)

/-- Replaces the first entry with the key of `x`, or appends `x`. -/
def insert (x : α) : List α → List α
  | [] => [x]
  | y :: ys => if key y = key x then x :: ys else y :: insert x ys

/-- Inserts all of `xs` in order. -/
def insertAll (entries xs : List α) : List α := xs.foldl (fun acc x => insert key x acc) entries

/-- The entries of a list, the last one of each key. -/
def ofList (xs : List α) : List α := insertAll key [] xs

/-- The first entry with the key `k`. -/
def find? (k : κ) (entries : List α) : Option α := entries.find? fun x => key x = k

/-- Whether an entry has the key `k`. -/
def contains (k : κ) (entries : List α) : Bool := (find? key k entries).isSome

/-- Changes the first entry with the key `k`. -/
def modify (k : κ) (f : α → α) : List α → List α
  | [] => []
  | y :: ys => if key y = k then f y :: ys else y :: modify k f ys

end Keyed

end RiggedScene
