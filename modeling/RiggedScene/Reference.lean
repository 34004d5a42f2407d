import RiggedScene.Text.Percent
import RiggedScene.Text.Split

/-!
# References

A reference names an asset, or a property of one, across documents:

    [id://|name://][node:][file][#asset[?property]]

The parts are cut off from the left and percent-decoded afterwards, so an escaped separator is
text.

* `Reference.parse?` reads a reference; only an unknown scheme is refused;
* `Reference.text` writes one, with the same separators and canonical escapes.
-/

namespace RiggedScene

/-- How a reference addresses its target. -/
inductive Scheme where
  | id
  | name
  deriving Repr, DecidableEq, Inhabited

namespace Scheme

/-- The text that introduces a scheme. -/
def marker : Scheme → String
  | id => "id://"
  | name => "name://"

end Scheme

/-- The parts of a reference, decoded, and the separators it was written with. -/
structure Reference where
  scheme : Scheme
  nodePath : String
  filePath : String
  assetId : String
  propertyPath : String
  /-- The scheme was written. -/
  explicitScheme : Bool
  /-- A node path was written, possibly empty. -/
  hasNode : Bool
  /-- An asset id was written, possibly empty. -/
  hasAsset : Bool
  /-- A property path was written, possibly empty. -/
  hasProperty : Bool
  deriving Repr, DecidableEq, Inhabited

namespace Reference

/-- The end of every scheme marker. -/
def schemeEnd : List Char := "://".toList

/-- The scheme, whether it was written, and what follows it; `none` for an unknown scheme. -/
def scheme? (cs : List Char) : Option (Scheme × Bool × List Char) :=
  match Split.after? Scheme.id.marker.toList cs, Split.after? Scheme.name.marker.toList cs with
  | some rest, _ => some (.id, true, rest)
  | none, some rest => some (.name, true, rest)
  | none, none => if Split.occurs schemeEnd cs then none else some (.id, false, cs)

/-- A part that may be missing, and what stands after or instead of it. -/
def leadingPart (c : Char) (cs : List Char) : Option (List Char) × List Char :=
  match Split.cut c cs with
  | some (part, rest) => (some part, rest)
  | none => (none, cs)

/-- A part, and what stands behind it if its end was written. -/
def trailingPart (c : Char) (cs : List Char) : List Char × Option (List Char) :=
  match Split.cut c cs with
  | some (part, rest) => (part, some rest)
  | none => (cs, none)

/-- The decoded text of a part; a missing part is empty. -/
def decoded (part : Option (List Char)) : String := Percent.decode (String.ofList (part.getD []))

/-- Reads a reference, unless it has an unknown scheme. -/
def parse? (s : String) : Option Reference :=
  (scheme? s.toList).map fun (scheme, explicitScheme, rest) =>
    let (node, rest) := leadingPart ':' rest
    let (file, rest) := trailingPart '#' rest
    let (asset, property) := trailingPart '?' (rest.getD [])
    { scheme, explicitScheme
      nodePath := decoded node
      filePath := decoded (some file)
      assetId := decoded (some asset)
      propertyPath := decoded property
      hasNode := node.isSome
      hasAsset := rest.isSome
      hasProperty := property.isSome }

variable (r : Reference)

/-- Points into another document. -/
def isExternal : Bool := !r.filePath.isEmpty

/-- The names between the slashes of a property path; empty ones do not count. -/
def segments (path : String) : List String :=
  ((Split.pieces '/' path.toList).filter fun p => !p.isEmpty).map String.ofList

/-- The names of the property path. -/
def propertySegments : List String := segments r.propertyPath

/-- The reference as text. -/
def text : String :=
  (if r.explicitScheme then r.scheme.marker else "") ++
    (if r.hasNode then Percent.encode r.nodePath ++ ":" else "") ++
    Percent.encode r.filePath ++
    (if r.hasAsset then "#" ++ Percent.encode r.assetId else "") ++
    (if r.hasProperty then "?" ++ Percent.encode r.propertyPath else "")

end Reference

end RiggedScene
