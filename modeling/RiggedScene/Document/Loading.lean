import RiggedScene.Document.Basic
import RiggedScene.Storage.Source
import RiggedScene.Storage.Text

/-!
# Loading documents

References with a file path lead into other documents, which are loaded relative to a content
root when they are first needed and kept for the document that refers to them.

* `Load` is a computation that reads files: it counts them, knows which files are being loaded,
  and keeps the supporting documents of the document at hand;
* `Load.find` follows a reference, `Load.bindDocument` makes a document of a record;
* `ContentRoot.load` loads a document from its source, `ContentRoot.loadText` from a text;
* `ContentRoot.find` follows a reference of a loaded document.
-/

namespace RiggedScene

namespace AssetSource

variable (source : AssetSource)

/-- The files that some document of the source refers to eagerly. -/
def eagerFiles : List String :=
  source.contents.flatMap fun bytes =>
    match decodeText bytes with
    | .ok t => ((DocumentRecord.parse? t).map DocumentRecord.eagerFiles).getD []
    | .error _ => []

/-- More than the documents that can be nested in each other: no file reference occurs twice in a
nest, and all but the outermost two are eager references of the source. -/
def nesting : Nat := source.eagerFiles.length + 2

end AssetSource

/-- Where references lead: a directory, and the source that is read. -/
structure ContentRoot where
  directory : Path
  source : AssetSource
  /-- The bound on nested documents, kept because it takes the whole source to compute. -/
  nesting : Nat
  nesting_eq : nesting = source.nesting

namespace ContentRoot

/-- The content root at a directory of a source. -/
def of (directory : Path) (source : AssetSource) : ContentRoot :=
  ⟨directory, source, source.nesting, rfl⟩

instance : Inhabited ContentRoot := ⟨of ⟨""⟩ default⟩

/-- The path of a file reference; it is relative even if it starts with slashes. -/
def filePath (c : ContentRoot) (relative : String) : Path :=
  c.directory.join ⟨String.ofList (relative.toList.dropWhile (· == '/'))⟩

end ContentRoot

/-- What a computation that reads files carries along. -/
structure LoadState where
  /-- Number of successful reads. -/
  reads : Nat
  /-- The file references being loaded, the innermost first. -/
  loading : List String
  /-- The supporting documents of the document at hand. -/
  supporting : Supporting
  deriving Inhabited

/-- Nothing read yet. -/
def LoadState.start : LoadState := ⟨0, [], []⟩

/-- A computation that reads files. -/
abbrev Load := ExceptT Error (StateM LoadState)

namespace Load

/-- Reads and decodes a file. -/
def readText (source : AssetSource) (path : Path) : Load String := do
  match source.read path with
  | .error e => throw (.storage e)
  | .ok bytes =>
    modify fun s => { s with reads := s.reads + 1 }
    match decodeText bytes with
    | .error e => throw (.storage e)
    | .ok text => return text

/-- A missing file makes its reference unresolved; every other error stays. -/
def asReference (file : String) (path : Path) : Error → Error
  | .storage (.notFound _) => .referenceNotFound (file ++ " (" ++ path.text ++ ")")
  | e => e

/-- Puts `file` on the list of files being loaded, runs a nested load with supporting documents of
its own, and takes the innermost file off the list again. -/
def nested {α : Type} (file : String) (path : Path) (load : Load α) : Load α := fun s =>
  match load { s with loading := file :: s.loading, supporting := [] } with
  | (.ok a, t) => (.ok a, { t with loading := t.loading.tail, supporting := s.supporting })
  | (.error e, t) =>
    (.error (asReference file path e),
      { t with loading := t.loading.tail, supporting := s.supporting })

variable (c : ContentRoot) (load : Path → Load Document)

/-- The libraries of the document at a file reference, loaded by `load` when they are first
needed. -/
def document (file : String) : Load Libraries := do
  let s ← get
  match s.supporting.lookup file with
  | some libraries => return libraries
  | none =>
    if !c.source.isDir c.directory then throw (.contentRootMissing c.directory)
    if file ∈ s.loading then throw (.referenceNotFound (file ++ " (circular reference)"))
    let path := c.filePath file
    let d ← nested file path (load path)
    modify fun s => { s with supporting := s.supporting ++ [(file, d.libraries)] }
    return d.libraries

/-- The asset that a reference names, in the library chosen by `select` of the local document or of
the one referred to. -/
def find {α : Type} [Identified α] (here : Libraries) (select : Libraries → Library α)
    (url : String) : Load α := do
  match Reference.parse? url with
  | none => throw (.invalidReference url)
  | some u =>
    if !u.hasAsset then throw (.referenceNotFound (url ++ " (no asset id)"))
    let libraries ← if u.isExternal then document c load u.filePath else pure here
    match (select libraries).find? u.assetId with
    | some x => return x
    | none => throw (.referenceNotFound url)

/-- The reference that an instance must have. -/
def requiredUrl (id : String) (url : Option String) : Load String :=
  match url with
  | some u => return u
  | none => throw (.referenceNotFound ("instance " ++ id ++ " has no url"))

/-- Binds a geometry to its default UV set. -/
def bindGeometry (here : Libraries) (path : Path) (r : GeometryRecord) : Load Geometry := do
  match r.defaultUvSet with
  | none => return .ofRecord r path none
  | some url => return .ofRecord r path (some (← find c load here Libraries.uvSets url))

/-- Binds a geometry of an instance. -/
def bindLink (here : Libraries) (g : GeometryLink) : Load GeometryInstance := do
  let geometry ← find c load here Libraries.geometries g.url
  return { id := g.id.getD geometry.id, url := g.url, geometry := geometry }

/-- Binds a node to its template and geometries. -/
def bindNode (here : Libraries) (r : NodeRecord) : Load NodeInstance := do
  let url ← requiredUrl r.id r.url
  let template ← find c load here Libraries.nodes url
  let geometries ← r.geometries.mapM (bindLink c load here)
  return .ofRecord r url template geometries

/-- Binds a material to its template. -/
def bindMaterial (here : Libraries) (r : MaterialRecord) : Load MaterialInstance := do
  let url ← requiredUrl r.id r.url
  let template ← find c load here Libraries.materials url
  return { id := r.id, url := url, material := template.update r }

/-- Binds a modifier to its template. -/
def bindModifier (here : Libraries) (r : ModifierRecord) : Load ModifierInstance := do
  let url ← requiredUrl r.id r.url
  let modifier ← find c load here Libraries.modifiers url
  return { id := r.id, url := url, parent := r.parent, channel := r.channel, modifier := modifier }

/-- Binds the instances of a scene, nodes first. -/
def bindScene (here : Libraries) (r : SceneRecord) : Load Scene := do
  let nodes ← r.nodes.mapM (bindNode c load here)
  let materials ← r.materials.mapM (bindMaterial c load here)
  let modifiers ← r.modifiers.mapM (bindModifier c load here)
  return { nodes, materials, modifiers, animations := r.animations }

/-- Makes a document of a record. -/
def bindDocument (path : Path) (r : DocumentRecord) : Load Document := do
  let uvSets := Libraries.ofUvSets (.ofList r.uvSets)
  let geometries ← r.geometries.mapM (bindGeometry c load uvSets path)
  let libraries := Libraries.ofRecord r (Library.ofList geometries)
  let scene ← bindScene c load libraries r.scene
  return { path, assetId := r.assetId, libraries, scene, supporting := (← get).supporting }

/-- Makes a document of a text. -/
def text (path : Path) (t : String) : Load Document :=
  match DocumentRecord.parse? t with
  | none => throw .malformedRecord
  | some r => bindDocument c load path r

/-- Loads the document at a path, with at most `depth` documents nested in each other. -/
def file (c : ContentRoot) : Nat → Path → Load Document
  | 0, path => throw (.referenceNotFound (path.text ++ " (circular reference)"))
  | depth + 1, path => do
    let t ← readText c.source path
    text c (file c depth) path t

end Load

namespace ContentRoot

variable (c : ContentRoot)

/-- Loads the document at a path. -/
def load (path : Path) : Load Document := Load.file c c.nesting path

/-- Makes a document of a text. -/
def loadText (path : Path) (t : String) : Load Document :=
  let written := ((DocumentRecord.parse? t).map DocumentRecord.eagerFiles).getD []
  Load.text c (Load.file c (c.nesting + written.length)) path t

/-- Follows a reference from a loaded document. The state holds its supporting documents. -/
def find {α : Type} [Identified α] (d : Document) (select : Libraries → Library α)
    (url : String) : Load α :=
  Load.find c (Load.file c c.nesting) d.libraries select url

end ContentRoot

end RiggedScene
