import RiggedScene.Text.Split

/-!
# Paths

A path keeps its text, while comparison and look-up see its components only: repeated slashes
and inner `.` names do not count, `..` does.

* `Path.components` is the view that all other operations are described by;
* `Path.join` appends, or replaces when the second path is absolute;
* `Path.parent?` drops the last component;
* `Path.lt` orders paths component by component.
-/

namespace RiggedScene

/-- A path, as text. -/
structure Path where
  /-- The text as it is shown. -/
  text : String
  deriving Repr, DecidableEq, Inhabited

namespace Path

/-- What stands between the slashes of a path. -/
inductive Component where
  | root
  | current
  | parent
  | normal (name : String)
  deriving Repr, DecidableEq

namespace Component

/-- The text of a component. -/
def name : Component → String
  | root => "/"
  | current => "."
  | parent => ".."
  | normal n => n

/-- Rank of the kinds: the root comes first, names come last. -/
def rank : Component → Nat
  | root => 0
  | current => 1
  | parent => 2
  | normal _ => 3

/-- Names are ordered by their characters. -/
def lt (a b : Component) : Bool :=
  match a, b with
  | normal x, normal y => decide (x < y)
  | _, _ => decide (a.rank < b.rank)

end Component

/-- The component of a piece in the body of a path; empty pieces and `.` are none. -/
def component? (piece : List Char) : Option Component :=
  if piece = [] ∨ piece = ['.'] then none
  else if piece = ['.', '.'] then some .parent
  else some (.normal (String.ofList piece))

/-- The components of a path given as characters. -/
def componentsOf : List Char → List Component
  | '/' :: cs => .root :: (Split.pieces '/' cs).filterMap component?
  | cs =>
    match Split.pieces '/' cs with
    | ['.'] :: ps => .current :: ps.filterMap component?
    | ps => ps.filterMap component?

variable (p q : Path)

/-- The components in order. -/
def components : List Component := componentsOf p.text.toList

/-- Paths with the same components lead to the same place. -/
def same : Bool := p.components == q.components

/-- Whether the path starts at the root. -/
def isAbsolute : Bool := p.text.toList.head? == some '/'

/-- `q` below `p`: an absolute `q` replaces `p`, otherwise one slash parts them. -/
def join : Path :=
  if q.isAbsolute || p.text.isEmpty then q
  else if p.text.toList.getLast? == some '/' then ⟨p.text ++ q.text⟩
  else ⟨p.text ++ "/" ++ q.text⟩

/-- `p` with one more name. -/
def joinName (name : String) : Path := p.join ⟨name⟩

/-- The remainder of `p` below `base`, when `base` is one of its ancestors or `p` itself. -/
def below? (base : Path) : Option (List Component) :=
  go base.components p.components
where
  /-- Drops the components of the base one by one. -/
  go : List Component → List Component → Option (List Component)
    | [], cs => some cs
    | _ :: _, [] => none
    | b :: bs, c :: cs => if b = c then go bs cs else none

/-- Whether `base` is an ancestor of `p` or `p` itself. -/
def isBelow (base : Path) : Bool := (p.below? base).isSome

/-- Drops the pieces at the end that are no component. -/
def trimEnd (reversed : List (List Char)) : List (List Char) :=
  reversed.dropWhile fun piece => piece = [] ∨ piece = ['.']

/-- The directory a path lies in: its last component and all slashes before it are dropped.
The root and the empty path lie in none. -/
def parent? : Option Path :=
  match p.components.getLast? with
  | none | some .root => none
  | some .current => some ⟨""⟩
  | some _ =>
    match p.text.toList with
    | '/' :: cs => some ⟨String.ofList ('/' :: Split.unite '/' (climb (Split.pieces '/' cs)))⟩
    | cs =>
      match Split.pieces '/' cs with
      | ['.'] :: ps => some ⟨String.ofList (Split.unite '/' (['.'] :: climb ps))⟩
      | ps => some ⟨String.ofList (Split.unite '/' (climb ps))⟩
where
  /-- Pieces without the last component. -/
  climb (ps : List (List Char)) : List (List Char) :=
    (trimEnd ((trimEnd ps.reverse).drop 1)).reverse

/-- The last component, when it is a name. -/
def fileName? : Option String :=
  match p.components.getLast? with
  | some (.normal n) => some n
  | _ => none

/-- Component by component, a path before those below it. -/
def ltComponents : List Component → List Component → Bool
  | [], [] => false
  | [], _ :: _ => true
  | _ :: _, [] => false
  | a :: as, b :: bs => a.lt b || (a == b && ltComponents as bs)

/-- The order in which entries are listed. -/
def lt : Bool := ltComponents p.components q.components

/-- Paths in order, each place once; the first spelling of a place stays. -/
def insertSorted (p : Path) : List Path → List Path
  | [] => [p]
  | q :: qs =>
    if p.same q then q :: qs
    else if p.lt q then p :: q :: qs
    else q :: insertSorted p qs

/-- The paths of a list in order, each place once. -/
def sorted (ps : List Path) : List Path := ps.foldl (fun acc p => insertSorted p acc) []

end Path

end RiggedScene
