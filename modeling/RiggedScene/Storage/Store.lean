import RiggedScene.Error

/-!
# Stores

A store is a finite set of files. Its directories are the ancestors of the files.

* `Store.insert` adds a file;
* `Store.read`, `Store.isDir` and `Store.readDir` look at it.
-/

namespace RiggedScene

/-- Files by path, in ascending order; one for each place. -/
structure Store where
  files : List (Path × List UInt8)
  deriving Inhabited

namespace Store

/-- The store without files. -/
def empty : Store := ⟨[]⟩

variable (s : Store)

/-- Puts a file in its place in the order. A file that is there keeps its path and gets the new
contents. -/
def place (path : Path) (contents : List UInt8) :
    List (Path × List UInt8) → List (Path × List UInt8)
  | [] => [(path, contents)]
  | f :: fs =>
    if path.same f.1 then (f.1, contents) :: fs
    else if path.lt f.1 then (path, contents) :: f :: fs
    else f :: place path contents fs

/-- Adds a file. -/
def insert (path : Path) (contents : List UInt8) : Store := ⟨place path contents s.files⟩

/-- The contents of a file. -/
def contents? (path : Path) : Option (List UInt8) :=
  (s.files.find? fun f => path.same f.1).map Prod.snd

/-- Reads a file. -/
def read (path : Path) : Except StorageError (List UInt8) :=
  match s.contents? path with
  | some bs => .ok bs
  | none => .error (.notFound path)

/-- Whether some file lies below a path. -/
def isDir (path : Path) : Bool := s.files.any fun f => !f.1.same path && f.1.isBelow path

/-- The entries of a directory in order. -/
def readDir (path : Path) : Except StorageError (List Path) :=
  if s.isDir path then
    .ok (Path.sorted ((s.files.filterMap fun f => (f.1.below? path).bind List.head?).map fun c =>
      path.joinName c.name))
  else .error (.notFound path)

/-- No file lies deeper than this. -/
def depth : Nat := (s.files.map fun f => f.1.components.length).foldl max 0

end Store

end RiggedScene
