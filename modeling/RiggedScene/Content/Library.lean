import RiggedScene.Keyed

/-!
# Libraries

A library holds the assets of one kind by their ids. Entries keep the place of the first entry
with their id; a later one replaces it there.
-/

namespace RiggedScene

/-- Things with an id. -/
class Identified (α : Type) where
  /-- The id by which references find it. -/
  id : α → String

/-- Assets by id, in order of first occurrence. -/
structure Library (α : Type) where
  entries : List α
  deriving Inhabited

namespace Library

variable {α : Type} [Identified α]

/-- The library without entries. -/
def empty : Library α := ⟨[]⟩

/-- Adds an entry, in place of the one with the same id. -/
def insert (l : Library α) (x : α) : Library α := ⟨Keyed.insert Identified.id x l.entries⟩

/-- The library of a list of entries. -/
def ofList (xs : List α) : Library α := xs.foldl insert empty

/-- The entry with an id. -/
def find? (l : Library α) (id : String) : Option α := Keyed.find? Identified.id id l.entries

/-- Whether an entry has this id. -/
def contains (l : Library α) (id : String) : Bool := (l.find? id).isSome

/-- Number of entries. -/
def size (l : Library α) : Nat := l.entries.length

end Library

end RiggedScene
