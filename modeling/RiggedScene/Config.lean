import RiggedScene.Json.Record
import RiggedScene.Text.Path
import RiggedScene.Text.Split

/-!
# Settings of an import

`ImportConfig` has a default for every setting.
-/

namespace RiggedScene

/-- Settings for loading documents and building a scene from them. -/
structure ImportConfig where
  /-- The directory that file references are relative to. -/
  contentRoot : Path := ⟨""⟩
  /-- Load the morph files beside each geometry's document. -/
  loadMorphs : Bool := true
  /-- Name of the directory with the morph files. -/
  morphDirectory : String := "Morphs"
  /-- Morph files whose name contains one of these are left out. -/
  morphExclude : List String := ["CTRLRIG"]
  /-- Skin weights below this are dropped. -/
  minWeight : Float := 0.001
  /-- Smaller changes of a slider do nothing. -/
  morphEpsilon : Float := 0.001
  /-- Bound on nested morph applications. -/
  maxMorphDepth : Nat := 64
  deriving Inhabited

namespace ImportConfig

/-- All settings at their defaults. -/
def standard : ImportConfig := {}

/-- The default settings with a content root. -/
def withContentRoot (root : Path) : ImportConfig := { contentRoot := root }

/-- Reads settings; those that are missing keep their defaults. -/
def ofJson? (j : Json) : Option ImportConfig := do
  let fs ← j.record?
    ["content_root", "load_morphs", "morph_directory", "morph_exclude", "min_weight",
      "morph_epsilon", "max_morph_depth"]
  let d := standard
  let root ← fs.orDefault "content_root" Json.asString d.contentRoot.text
  let loadMorphs ← fs.orDefault "load_morphs" Json.asBool d.loadMorphs
  let morphDirectory ← fs.orDefault "morph_directory" Json.asString d.morphDirectory
  let morphExclude ← fs.orDefault "morph_exclude" (Json.asList Json.asString) d.morphExclude
  let minWeight ← fs.orDefault "min_weight" Json.asFloat d.minWeight
  let morphEpsilon ← fs.orDefault "morph_epsilon" Json.asFloat d.morphEpsilon
  let maxMorphDepth ← fs.orDefault "max_morph_depth" Json.asIndex d.maxMorphDepth
  return {
    contentRoot := ⟨root⟩
    loadMorphs, morphDirectory, morphExclude, minWeight, morphEpsilon, maxMorphDepth }

/-- The settings of a text. -/
def parse? (text : String) : Option ImportConfig := (Json.parse? text.toList).bind ofJson?

/-- Whether a morph file is left out because of its name. -/
def isExcludedMorph (c : ImportConfig) (fileName : String) : Bool :=
  c.morphExclude.any fun part => Split.contains fileName part

end ImportConfig

end RiggedScene
