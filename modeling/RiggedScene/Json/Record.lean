import RiggedScene.Json.Tree

/-!
# Records in JSON

A record has named fields in a fixed order. It is written as an object, or as an array with its
fields in order.

* `Json.record?` finds the fields: a known field occurs once, unknown ones are skipped;
* `Json.openRecord?` also keeps the unknown ones, the last value of each;
* `Json.Fields.required`, `optional` and `orDefault` read one field.
-/

namespace RiggedScene

namespace Json

/-! ### Values of fields -/

/-- A string. -/
def asString : Json → Option String
  | str s => some s
  | _ => none

/-- A truth value. -/
def asBool : Json → Option Bool
  | bool b => some b
  | _ => none

/-- A number. -/
def asFloat : Json → Option Float
  | num n => n.toFloat?
  | _ => none

/-- An index: a whole number without sign. -/
def asIndex : Json → Option Nat
  | num n => n.toIndex?
  | _ => none

/-- A list of values of one kind. -/
def asList {α : Type} (item : Json → Option α) : Json → Option (List α)
  | arr items => items.mapM item
  | _ => none

/-- Two values. -/
def asPair {α β : Type} (first : Json → Option α) (second : Json → Option β) :
    Json → Option (α × β)
  | arr [a, b] =>
    match first a, second b with
    | some x, some y => some (x, y)
    | _, _ => none
  | _ => none

/-- Exactly `n` values of one kind. -/
def asTuple {α : Type} (n : Nat) (item : Json → Option α) : Json → Option (List α)
  | arr items => if items.length = n then items.mapM item else none
  | _ => none

/-! ### Fields -/

/-- The known fields of a record that are present. -/
abbrev Fields := List (String × Json)

/-- The entries under a known key; `none` when some key has no value. -/
def knownEntries? (names : List String) : List (Option String × Json) → Option Fields
  | [] => some []
  | (none, _) :: _ => none
  | (some k, v) :: es =>
    (knownEntries? names es).map fun fs => if k ∈ names then (k, v) :: fs else fs

/-- The known fields of an object, each at most once. -/
def objectFields? (names : List String) (entries : List (Option String × Json)) :
    Option Fields :=
  (knownEntries? names entries).bind fun fs =>
    if (fs.map Prod.fst).Nodup then some fs else none

/-- The fields of a record with the given names, in order. -/
def record? (names : List String) : Json → Option Fields
  | obj entries => objectFields? names entries
  | arr items => if items.length ≤ names.length then some (names.zip items) else none
  | _ => none

/-- The entries under other keys, with their values. -/
def otherEntries (names : List String) (entries : List (Option String × Json)) :
    List (Option String × Json) :=
  entries.filter fun e =>
    match e.1 with
    | some k => !names.contains k
    | none => true

/-- A record whose further fields are kept: the known fields, and the value of each other one. -/
def openRecord? (names : List String) : Json → Option (Fields × Fields)
  | obj entries =>
    match objectFields? names entries, keep? (obj (otherEntries names entries)) with
    | some fs, some (obj others) => some (fs, others.filterMap fun (k, v) => k.map (·, v))
    | _, _ => none
  | _ => none

namespace Fields

variable {α : Type} (fs : Fields) (name : String) (value : Json → Option α)

/-- A field that must be present. -/
def required : Option α := (fs.lookup name).bind value

/-- A field that may be absent or null. -/
def optional : Option (Option α) :=
  match fs.lookup name with
  | none | some null => some none
  | some j => (value j).map some

/-- A field that has a default when absent. -/
def orDefault (default : α) : Option α :=
  match fs.lookup name with
  | none => some default
  | some j => value j

end Fields

/-- A list in a record of its own, as counted lists are written. -/
def asValues {α : Type} (item : Json → Option α) (j : Json) : Option (List α) := do
  let fs ← j.record? ["values"]
  fs.orDefault "values" (asList item) []

end Json

end RiggedScene
