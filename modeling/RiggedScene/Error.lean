import RiggedScene.Text.Path

/-!
# Errors

`Error` lists the causes that end a load or a morph application. Conditions that can be passed
over are diagnostics instead.
-/

namespace RiggedScene

/-- What may go wrong when bytes are read. -/
inductive StorageError where
  /-- Nothing can be read at this path. -/
  | notFound (path : Path)
  /-- The bytes cannot be read or decoded. -/
  | unreadable
  deriving Repr, DecidableEq

/-- Causes that end a load or a morph application. -/
inductive Error where
  | storage (cause : StorageError)
  /-- The text is not JSON, or not the record that is needed. -/
  | malformedRecord
  /-- A reference with an unknown scheme. -/
  | invalidReference (text : String)
  /-- A reference that leads nowhere. -/
  | referenceNotFound (text : String)
  /-- The directory that file references are relative to is missing. -/
  | contentRootMissing (root : Path)
  /-- Driving this morph leads back to it, or too deep. -/
  | formulaCycle (morph : String)
  /-- A structural change outside edit mode. -/
  | notInEditMode
  | unknownObject (name : String)
  | unknownMorph (name : String)
  deriving Repr, DecidableEq

namespace Error

/-- What is said about an error. -/
def message : Error → String
  | storage (.notFound path) => "IO error: " ++ path.text
  | storage .unreadable => "IO error"
  | malformedRecord => "JSON error"
  | invalidReference text => "Invalid URI scheme: " ++ text
  | referenceNotFound text => "Reference not found: " ++ text
  | contentRootMissing root => "Content root directory does not exist: " ++ root.text
  | formulaCycle morph => "Morph formula cycle through '" ++ morph ++ "'"
  | notInEditMode => "Armature is not in edit mode"
  | unknownObject name => "Unknown object: " ++ name
  | unknownMorph name => "Unknown morph: " ++ name

/-- The asset could not be located at all. -/
def isUnresolvedReference : Error → Bool
  | referenceNotFound _ | contentRootMissing _ => true
  | _ => false

end Error

end RiggedScene
