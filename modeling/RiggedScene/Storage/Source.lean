import RiggedScene.Config
import RiggedScene.Storage.Disk
import RiggedScene.Storage.Store

/-!
# Sources of documents

Documents come from a store in memory or from a disk. Images are always looked up on a disk; beside
a store it is one of which nothing is known.

* `AssetSource.read`, `isDir` and `readDir` look at either kind;
* `AssetSource.morphFiles` collects the morph files below a directory.
-/

namespace RiggedScene

/-- Where documents come from. -/
inductive AssetSource where
  | memory (store : Store)
  | disk (disk : Disk)
  deriving Inhabited

namespace AssetSource

/-- Reads a file. -/
def read : AssetSource → Path → Except StorageError (List UInt8)
  | memory s => s.read
  | disk d => d.read

/-- Whether a path leads to a directory. -/
def isDir : AssetSource → Path → Bool
  | memory s => s.isDir
  | disk d => d.isDir

/-- The entries of a directory in order. -/
def readDir : AssetSource → Path → Except StorageError (List Path)
  | memory s => s.readDir
  | disk d => d.readDir

/-- The disk that images are looked up on. -/
def imageDisk : AssetSource → Disk
  | memory _ => .empty
  | disk d => d

/-- The contents of all files. -/
def contents : AssetSource → List (List UInt8)
  | memory s => s.files.map Prod.snd
  | disk d => d.files.map Prod.snd

/-- No file lies deeper than this. -/
def depth : AssetSource → Nat
  | memory s => s.depth
  | disk d => d.depth

variable (source : AssetSource) (config : ImportConfig)

/-- How the names of morph files end. -/
def morphFileEnding : String := ".dsf"

/-- Whether an entry is a morph file that is not left out. -/
def isMorphFile (entry : Path) : Bool :=
  match entry.fileName? with
  | some name => Split.endsWith name morphFileEnding && !config.isExcludedMorph name
  | none => false

/-- The morph files below a directory; `fuel` bounds the nesting. -/
def morphFilesWithin : Nat → Path → List Path
  | 0, _ => []
  | fuel + 1, dir =>
    match source.readDir dir with
    | .error _ => []
    | .ok entries =>
      entries.flatMap fun entry =>
        if source.isDir entry then morphFilesWithin fuel entry
        else if isMorphFile config entry then [entry]
        else []

/-- The morph files below a directory, at any depth. -/
def morphFiles (dir : Path) : List Path := source.morphFilesWithin config (source.depth + 1) dir

end AssetSource

end RiggedScene
