import RiggedScene.Indexed
import RiggedScene.Json.Record
import RiggedScene.Space.Vector
import RiggedScene.Text.Split

/-!
# Skin weights

A joint says how strongly a bone moves each vertex.

* `Weights.merge` unites two lists in order of their vertices; a vertex of both gets the mean;
* `Joint.weights` are the weights of a joint for a bone between two points;
* `Joint.group` drops the small ones.
-/

namespace RiggedScene

/-- Weights by vertex index. -/
abbrev WeightList := List (Nat × Float)

namespace Weights

/-- Unites two lists in ascending order; `mean` is taken for an index of both. -/
def mergeWith {α : Type} (mean : α → α → α) : List (Nat × α) → List (Nat × α) → List (Nat × α)
  | [], bs => bs
  | a :: as, [] => a :: as
  | a :: as, b :: bs =>
    if a.1 < b.1 then a :: mergeWith mean as (b :: bs)
    else if b.1 < a.1 then b :: mergeWith mean (a :: as) bs
    else (a.1, mean a.2 b.2) :: mergeWith mean as bs

/-- The mean of two weights. -/
def mean (a b : Float) : Float := (a + b) / 2.0

/-- Unites two weight lists. -/
def merge (as bs : WeightList) : WeightList := mergeWith mean as bs

end Weights

/-- The influence of a bone on the vertices. -/
structure Joint where
  id : String
  /-- Reference to the bone. -/
  node : String
  /-- Weights for each output axis. -/
  localWeights : Option (Triple WeightList)
  /-- Weights for all axes. -/
  nodeWeights : Option WeightList
  deriving Inhabited

namespace Joint

variable (j : Joint)

/-- The name of the bone, without the mark of a reference. -/
def boneId : String := Split.dropLeading '#' j.node

/-- The lists of the axes along which the bone extends less than along the longest. -/
def crossLists (lists : Triple WeightList) (head tail : Vec3) : List WeightList :=
  let extent := (head.sub tail).map Float.abs
  let longest := Vec3.maxComponent extent
  (Axis.all.filter fun a => extent.get a < longest).map lists.get

/-- The weights for a bone from `head` to `tail`: the lists across the bone united, or the list
for all axes. -/
def weights (head tail : Vec3) : WeightList :=
  match j.localWeights with
  | none => j.nodeWeights.getD []
  | some lists =>
    match crossLists lists head tail with
    | [] => []
    | first :: rest => rest.foldl Weights.merge first

/-- The weights that reach `least`, by ascending vertex. -/
def group (head tail : Vec3) (least : Float) : IndexMap Float :=
  IndexMap.ofList ((j.weights head tail).filter fun e => e.2 ≥ least)

/-- Reads a list of weights. -/
def weightsOfJson? : Json → Option WeightList :=
  Json.asValues (Json.asPair Json.asIndex Json.asFloat)

/-- Weights by source axis; Y and Z change places. -/
def axesOfJson? (j : Json) : Option (Triple WeightList) := do
  let fs ← j.record? ["x", "y", "z"]
  let x ← fs.optional "x" weightsOfJson?
  let y ← fs.optional "y" weightsOfJson?
  let z ← fs.optional "z" weightsOfJson?
  return (Triple.mk (x.getD []) (y.getD []) (z.getD [])).swapYZ

/-- Reads a joint. -/
def ofJson? (j : Json) : Option Joint := do
  let fs ← j.record? ["id", "node", "local_weights", "node_weights"]
  let id ← fs.required "id" Json.asString
  let node ← fs.required "node" Json.asString
  let localWeights ← fs.optional "local_weights" axesOfJson?
  let nodeWeights ← fs.optional "node_weights" weightsOfJson?
  return { id, node, localWeights, nodeWeights }

end Joint

end RiggedScene
