import RiggedScene.Archive.Gzip
import RiggedScene.Error
import RiggedScene.Text.Latin1

/-!
# The text of a file

A file is Latin-1 text, compressed or plain.
-/

namespace RiggedScene

/-- The text of the bytes of a file, unless they begin like a compressed member and are none. -/
def decodeText (bs : List UInt8) : Except StorageError String :=
  if Gzip.isMember bs then
    match Gzip.decode? bs with
    | some contents => .ok (String.ofList (Latin1.decode contents))
    | none => .error .unreadable
  else .ok (String.ofList (Latin1.decode bs))

end RiggedScene
