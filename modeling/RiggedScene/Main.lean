import RiggedScene.Command

/-!
# The program

Takes a picture of the disk, runs the command on it and writes what it says.
-/

namespace RiggedScene

/-- What is known of the disk while it is explored. -/
structure Snapshot where
  files : List (Place × List UInt8)
  directories : List Place

namespace Snapshot

/-- The first bytes that a document can have: blanks, the brackets of JSON, or the mark of
compressed data. -/
def documentStarts : List UInt8 := [0x09, 0x0A, 0x0D, 0x20, 0x5B, 0x7B, 0x1F]

/-- The contents of a file. Of a file that begins like no document the first byte is enough, since
no document can be made of either. -/
def contents (path : String) : IO (List UInt8) := do
  let start ← IO.FS.withFile path .read fun h => h.read 1
  if start.toList.all (documentStarts.contains ·) then
    return (← IO.FS.readBinFile path).toList
  return start.toList

/-- Explores a directory. What cannot be read is left out, and links to directories are not
followed. -/
partial def explore (path : String) (place : Place) (s : Snapshot) : IO Snapshot := do
  let s := { s with directories := place :: s.directories }
  let entries ← try (← IO.FS.realPath path).readDir catch _ => pure #[]
  entries.foldlM (fun (s : Snapshot) entry => do
    let path := entry.path.toString
    let here := place ++ [entry.fileName]
    try
      if ← entry.path.isDir then
        if (← IO.FS.realPath entry.path).toString == path then explore path here s else return s
      else return { s with files := (here, ← contents path) :: s.files }
    catch _ => return s) s

/-- The place that an absolute path names. -/
def placeOf (path : String) : Place :=
  (Path.components ⟨path⟩).filterMap fun c =>
    match c with
    | .normal n => some n
    | _ => none

/-- Explores a directory if it is there and not explored yet. -/
def add (path : String) (s : Snapshot) : IO Snapshot := do
  try
    let found := (← IO.FS.realPath path)
    let place := placeOf found.toString
    if s.directories.contains place then return s
    if ← found.isDir then explore found.toString place s else return s
  catch _ => return s

end Snapshot

/-- The disk as far as a command can need it: the working directory, the content root, and the
directory of the document. -/
def currentDisk (root : Option String) (document : Option String) : IO Disk := do
  let working ← IO.currentDir
  let start ← Snapshot.add working.toString ⟨[], []⟩
  let seen ← Snapshot.add (root.getD "") start
  let seen ← Snapshot.add (((document.bind fun d => Path.parent? ⟨d⟩).map Path.text).getD "") seen
  return ⟨seen.files, seen.directories, Snapshot.placeOf working.toString⟩

end RiggedScene

open RiggedScene in
/-- Runs the command. -/
def main (arguments : List String) : IO UInt32 := do
  let root ← IO.getEnv Command.rootVariable
  let disk ← currentDisk root arguments.head?
  let outcome := Command.run disk root arguments
  outcome.lines.forM IO.println
  outcome.remarks.forM IO.eprintln
  return if outcome.succeeded then 0 else 1
