import RiggedScene.Indexed

/-!
# Edges

An edge joins two vertices and has no direction.

* `Edge.between` is the edge of two vertices, the lower one first;
* `EdgeSet` and `EdgeMap` are kept in lexicographic order;
* `Edge.around` lists the edges of a face.
-/

namespace RiggedScene

/-- Two vertices, the lower one first. -/
abbrev Edge := Nat × Nat

namespace Edge

/-- The edge between two vertices. -/
def between (a b : Nat) : Edge := if a < b then (a, b) else (b, a)

/-- Lexicographic order. -/
def lt (e f : Edge) : Bool := decide (e.1 < f.1 ∨ (e.1 = f.1 ∧ e.2 < f.2))

/-- The edges along a list of corners, ending at `first`. -/
def along (first : Nat) : List Nat → List Edge
  | [] => []
  | [a] => [between a first]
  | a :: b :: rest => between a b :: along first (b :: rest)

/-- The edges of a face, each corner joined to the next one and the last to the first. -/
def around : List Nat → List Edge
  | [] => []
  | a :: rest => along a (a :: rest)

end Edge

/-- Edges in ascending order. -/
abbrev EdgeSet := List Edge

/-- Adds an edge. -/
def EdgeSet.insert (e : Edge) : EdgeSet → EdgeSet
  | [] => [e]
  | f :: fs => if e.lt f then e :: f :: fs else if f.lt e then f :: EdgeSet.insert e fs else f :: fs

/-- The faces that use each edge, by ascending edge. -/
abbrev EdgeMap := List (Edge × List Nat)

namespace EdgeMap

/-- Adds a face at the end of the list of an edge. -/
def push (e : Edge) (face : Nat) : EdgeMap → EdgeMap
  | [] => [(e, [face])]
  | d :: ds =>
    if e.lt d.1 then (e, [face]) :: d :: ds
    else if d.1.lt e then d :: push e face ds
    else (d.1, d.2 ++ [face]) :: ds

/-- The faces that use an edge. -/
def faces? (m : EdgeMap) (e : Edge) : Option (List Nat) := m.lookup e

/-- The edges of all faces. -/
def ofFaces (faces : List (List Nat)) : EdgeMap :=
  (faces.mapIdx fun i face => (i, face)).foldl
    (fun m f => (Edge.around f.2).foldl (fun m e => push e f.1 m) m) []

end EdgeMap

end RiggedScene
