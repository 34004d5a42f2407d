import RiggedScene.Error
import RiggedScene.Text.LowerCase

/-!
# Disks

A disk is a finite tree of files and directories, one of which is the working directory. Paths are
followed name by name, and `..` leads back to the directory above.

* `Disk.locate?` is the place that a path leads to;
* `Disk.resolve` repairs a path whose names differ in case from those on the disk;
* `Disk.read` reads a file at a path or at its repaired form.
-/

namespace RiggedScene

/-- A place on a disk: the names from the root. -/
abbrev Place := List String

/-- Files by place. -/
structure Disk where
  files : List (Place × List UInt8)
  /-- Directories besides those that files lie in. -/
  directories : List Place := []
  /-- Where relative paths start; a directory. -/
  working : Place
  deriving Inhabited

namespace Disk

/-- A disk of which nothing is known. -/
def empty : Disk := ⟨[], [], []⟩

variable (d : Disk)

/-- Whether a file is at a place. -/
def isFileAt (p : Place) : Bool := d.files.any fun f => f.1 == p

/-- Whether `p` leads to or through `q`. -/
def leadsThrough (p q : Place) : Bool := p.take q.length == q

/-- Whether a directory is at a place: the root, a directory, or an ancestor of a file or
directory. -/
def isDirAt (p : Place) : Bool :=
  p.isEmpty || (d.working :: d.directories).any (leadsThrough · p) ||
    d.files.any fun f => decide (p.length < f.1.length) && leadsThrough f.1 p

/-- Follows one component from a place; only directories lead on. -/
def follow (p : Place) (c : Path.Component) : Option Place :=
  match c with
  | .root => some []
  | .current => if d.isDirAt p then some p else none
  | .parent => if d.isDirAt p then some p.dropLast else none
  | .normal n =>
    if d.isDirAt p && (d.isFileAt (p ++ [n]) || d.isDirAt (p ++ [n])) then some (p ++ [n]) else none

/-- Whether the text of a path asks for a directory. -/
def asksForDir (path : Path) : Bool :=
  match path.text.toList.reverse with
  | '/' :: _ => true
  | '.' :: '/' :: _ => true
  | _ => false

/-- Follows all components of a path. -/
def walk? (path : Path) : Option Place := path.components.foldlM d.follow d.working

/-- The place that a path leads to, if something is there. -/
def locate? (path : Path) : Option Place :=
  if path.text.isEmpty then none
  else (d.walk? path).filter fun p => d.isDirAt p || !asksForDir path

/-- Whether a path leads to something. -/
def exists? (path : Path) : Bool := (d.locate? path).isSome

/-- Whether a path leads to a directory. -/
def isDir (path : Path) : Bool := ((d.locate? path).map d.isDirAt).getD false

/-- The names of the entries of a directory. -/
def entriesAt (p : Place) : List String :=
  (((d.working :: d.directories ++ d.files.map Prod.fst).filter fun q =>
    decide (p.length < q.length) && leadsThrough q p).filterMap fun q => q[p.length]?).eraseDups

/-- Whether some component but the last leads to a file. -/
def blocked (p : Place) : List Path.Component → Bool
  | [] => false
  | c :: cs =>
    match d.follow p c with
    | some q => blocked q cs
    | none => d.isFileAt p

/-- The error for a path that leads nowhere: a file that stands where a directory is needed is
another failure than a missing name. -/
def missing (path : Path) : StorageError :=
  if path.text.isEmpty then .notFound path
  else if (d.walk? path).isSome || d.blocked d.working path.components then .unreadable
  else .notFound path

/-- The entries of a directory in order. -/
def readDir (path : Path) : Except StorageError (List Path) :=
  match d.locate? path with
  | none => .error (d.missing path)
  | some p =>
    if d.isDirAt p then .ok (Path.sorted ((d.entriesAt p).map path.joinName))
    else .error .unreadable

/-! ### Repairing paths -/

/-- The least of some names. -/
def least (names : List String) : Option String :=
  names.foldl (fun best n =>
    match best with
    | none => some n
    | some b => if n < b then some n else some b) none

/-- The name in a directory that stands for a missing one: the least of those that differ in case
only. -/
def correction? (dir : Path) (name : String) : Option String :=
  match d.locate? dir with
  | none => none
  | some p =>
    if d.isDirAt p then least ((d.entriesAt p).filter fun n => LowerCase.alike n name) else none

/-- Appends a component, with its name corrected if it leads nowhere. -/
def extend (checked : Path) (c : Path.Component) : Path :=
  match c with
  | .normal n =>
    let candidate := checked.joinName n
    if d.exists? candidate then candidate
    else
      match d.correction? checked n with
      | some found => checked.joinName found
      | none => candidate
  | other => checked.joinName other.name

/-- The path with its names corrected one after another. The first component stays, and so does
every name without correction. -/
def resolve (path : Path) : Path :=
  match path.components with
  | [] => ⟨""⟩
  | c :: cs => cs.foldl d.extend ⟨c.name⟩

/-- The path itself if it leads somewhere, else its repaired form. -/
def repaired (path : Path) : Path := if d.exists? path then path else d.resolve path

/-- Reads the file at the end of a path. -/
def readAt (path : Path) : Except StorageError (List UInt8) :=
  match d.locate? path with
  | none => .error (d.missing path)
  | some p =>
    match d.files.lookup p with
    | some bs => .ok bs
    | none => .error .unreadable

/-- Reads a file at a path or at its repaired form. -/
def read (path : Path) : Except StorageError (List UInt8) := d.readAt (d.repaired path)

/-- No file or directory lies deeper than this. -/
def depth : Nat :=
  ((d.directories ++ d.files.map Prod.fst).map List.length).foldl max d.working.length

end Disk

end RiggedScene
