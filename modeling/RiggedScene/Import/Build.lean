import RiggedScene.Armature.ScenePose
import RiggedScene.Import.Scene

/-!
# Importing a document

An import makes an object for each geometry of each node, an armature of the figures and bones,
materials, skin weights, and sets the morphs that the scene sets.

* `ImportedScene.ofDocument` is the whole import, step by step;
* `ContentRoot.importFile` loads a document and imports it.
-/

namespace RiggedScene

/-- Part of a parent reference that stands for a selection, which never is a parent. -/
def selectionMark : String := "@selection"

namespace NodeInstance

variable (n : NodeInstance)

/-- A figure that no other node carries. -/
def isStandaloneFigure : Bool :=
  n.node.kind == .figure && (n.parent.map fun p => Split.contains p selectionMark).getD true

/-- Nodes that objects are made for even without bones: plain nodes and figures. -/
def isGeometryNode : Bool := n.node.kind == .node || n.node.kind == .figure

/-- The bone to be made of the node. -/
def boneSource : BoneSource := ⟨n.id, n.templateId, n.parent, n.node⟩

end NodeInstance

/-- The nodes that become bones: figures without parent, and the first bone of each template. -/
def selectBones (nodes : List NodeInstance) : List NodeInstance :=
  nodes.foldl (fun bones n =>
    if n.isStandaloneFigure then bones ++ [n]
    else if n.node.kind == .bone && !bones.any (fun b => b.templateId == n.templateId) then
      bones ++ [n]
    else bones) []

namespace ImportedScene

/-! ### Objects -/

/-- Runs a load of its own: nothing is being loaded yet, and its supporting documents are not
kept. An error is passed over. -/
def attempt {α : Type} (load : Load α) : Load (Option α) := fun st =>
  match load { st with loading := [], supporting := [] } with
  | (.ok a, t) => (.ok (some a), { st with reads := t.reads })
  | (.error _, t) => (.ok none, { st with reads := t.reads })

/-- Registers all modifiers of a document. -/
def registerAll (modifiers : List Modifier) (state : MorphState) : MorphState :=
  modifiers.foldl (fun st m =>
    match st.rig.register? m st.mesh with
    | some (rig, mesh, notes) => ⟨rig, mesh, st.notes ++ notes⟩
    | none => st) state

/-- Registers the morphs of all files below a directory. A file that cannot be loaded is passed
over. -/
def loadMorphs (c : ContentRoot) (config : ImportConfig) (dir : Path) (state : MorphState) :
    Load MorphState :=
  if c.source.isDir dir then
    (c.source.morphFiles config dir).foldlM (fun st file => do
      match ← attempt (c.load file) with
      | some d => return registerAll d.libraries.modifiers.entries st
      | none => return st) state
  else return state

/-- The object of a geometry, and what is noted about it. -/
def geometryObject (c : ContentRoot) (config : ImportConfig) (n : NodeInstance)
    (g : GeometryInstance) : Load (SceneObject × List Diagnostic) := do
  let origin := n.node.center
  let (mesh, notes) := Mesh.ofGeometry g.geometry origin
  let start : MorphState := ⟨.empty, { mesh with name := g.id }, notes⟩
  let state ←
    match config.loadMorphs, g.geometry.sourceDir? with
    | true, some dir => loadMorphs c config (dir.joinName config.morphDirectory) start
    | _, _ => pure start
  return ({
    name := n.id, kind := n.node.kind, mesh := some state.mesh, parent := none
    transform := { ObjectTransform.identity with location := origin }
    morphs := state.rig, deform := false }, state.notes)

/-- The object of a plain node without geometry. -/
def emptyObject (n : NodeInstance) : SceneObject where
  name := n.id
  kind := .node
  mesh := none
  parent := none
  transform := .identity
  morphs := .empty
  deform := false

/-- Adds the objects of a node. -/
def addObjects (c : ContentRoot) (s : ImportedScene) (n : NodeInstance) : Load ImportedScene := do
  let made ← n.geometries.mapM (geometryObject c s.config n)
  let empties := if n.node.kind == .node && n.geometries.isEmpty then [emptyObject n] else []
  return { s with
    objects := s.objects ++ made.map Prod.fst ++ empties
    notes := s.notes ++ made.flatMap Prod.snd }

/-- The number of objects made for a node. -/
def objectCount (n : NodeInstance) : Nat :=
  if n.node.kind == .node && n.geometries.isEmpty then 1 else n.geometries.length

/-- The first object made for a figure without parent; `before` objects come first. -/
def firstFigureObject? (before : Nat) : List NodeInstance → Option Nat
  | [] => none
  | n :: ns =>
    if n.isStandaloneFigure && decide (0 < objectCount n) then some before
    else firstFigureObject? (before + objectCount n) ns

/-! ### Materials -/

/-- The object and geometry that a material is for. -/
def materialTarget? (s : ImportedScene) (d : Document) (m : Material) :
    Option (Nat × Geometry) := do
  let id := plainName (← m.geometry)
  let i ← s.objectForGeometry? id
  let (_, g) ← d.scene.findGeometry? id
  return (i, g.geometry)

/-- Adds a material of the scene, and assigns it if there is an object for it. -/
def addMaterial (c : ContentRoot) (d : Document) (s : ImportedScene) (m : MaterialInstance) :
    Load ImportedScene := do
  let shading ← ShadingMaterial.ofMaterial c d m.material
  match s.materialTarget? d m.material with
  | none => return { s with materials := s.materials ++ [shading] }
  | some (i, g) =>
    match s.objects[i]? with
    | none => return s
    | some o =>
      match o.mesh with
      | none => return s
      | some mesh =>
        let (uvMap, mesh) ← mesh.uvMapFor c d m.material
        let slot := mesh.materialSlots.length
        let (mesh, _) :=
          (mesh.addSlot m.material.id).assignMaterial m.material g slot mesh.edgeFaces
        return { s.modifyObject i fun o => { o with mesh := some mesh } with
          materials := s.materials ++
            [{ shading with uvMap, object := some o.name, slot := some slot }] }

/-! ### Armature and links -/

/-- Makes the armature, and hangs the first object of a figure from it. -/
def addArmature (s : ImportedScene) (d : Document) : ImportedScene :=
  let (armature, notes) := Armature.build ((selectBones d.scene.nodes).map NodeInstance.boneSource)
  let s := { s.noting notes with armature := armature }
  match armature, firstFigureObject? 0 d.scene.nodes with
  | some _, some i => s.modifyObject i fun o => { o with parent := some .armature }
  | _, _ => s

/-- The reference to what a node hangs from; a conform target stands in for a missing parent. -/
def linkReference? (n : NodeInstance) : Option String :=
  match n.parent with
  | some p => if Split.contains p selectionMark then none else some p
  | none => n.conformTarget

/-- What a reference to a parent leads to: an object, else a bone, else the armature. -/
def link? (s : ImportedScene) (reference : String) : Option ObjectParent :=
  match s.objectFor? reference with
  | some i => (s.objects[i]?).map fun o => .object o.name
  | none =>
    s.armature.map fun a =>
      match a.find? (plainName reference) with
      | some bone => .bone bone.name
      | none => .armature

/-- Links the object of a node to what the node hangs from. -/
def linkParent (s : ImportedScene) (n : NodeInstance) : ImportedScene :=
  match (linkReference? n).bind s.link?, s.objectIndex? n.id with
  | some parent, some i => s.modifyObject i fun o => { o with parent := some parent }
  | _, _ => s

/-- Places the object of a node. A figure that hangs straight from the armature moves the armature
instead, and a conforming descendant of the armature stays where it is. -/
def placeObject (s : ImportedScene) (n : NodeInstance) : ImportedScene :=
  match s.objectIndex? n.id with
  | none => s
  | some i =>
    let parent := (s.objects[i]?).bind SceneObject.parent
    let onArmature := (parent.map ObjectParent.isArmature).getD false
    if s.armature.isSome && onArmature && n.node.kind != .node then
      { s with armatureTransform := s.armatureTransform.place n.node }
    else if s.armature.isSome && s.rootedAtArmature i && n.conformTarget.isSome then s
    else s.modifyObject i fun o => { o with transform := o.transform.place n.node }

/-- Poses the bones with the rotations of their nodes; bones are named by their templates. -/
def poseBones (s : ImportedScene) (bones : List NodeInstance) : ImportedScene :=
  match s.armature with
  | none => s
  | some a =>
    let rotations := bones.map fun n => (⟨n.templateId, n.node.sourceRotation⟩ : BoneRotation)
    let (a', _, notes) := a.applyRotations rotations
    { s.noting notes with armature := some a' }

/-! ### Modifiers -/

/-- Adds the weight group of a joint. -/
def addJoint (bones : List NodeInstance) (least : Float) (state : Mesh × List Diagnostic)
    (j : Joint) : Mesh × List Diagnostic :=
  match bones.find? fun b => b.id == j.id with
  | none => (state.1, state.2 ++ [.unknownBone j.id])
  | some b =>
    (state.1.setVertexGroup b.templateId (j.group b.node.center b.node.tip least), state.2)

/-- Binds the mesh that a skin is for. -/
def applySkin (s : ImportedScene) (bones : List NodeInstance) (parent : String) (skin : Skin) :
    ImportedScene :=
  match s.objectFor? parent with
  | none => s
  | some i =>
    match (s.objects[i]?).bind SceneObject.mesh with
    | none => s
    | some mesh =>
      let (mesh, notes) := skin.joints.foldl (addJoint bones s.config.minWeight) (mesh, [])
      (s.modifyObject i fun o => { o with mesh := some mesh }).noting notes

/-- Registers a morph on an object that does not have it yet. -/
def registerOn (s : ImportedScene) (i : Nat) (m : Modifier) : ImportedScene :=
  match s.objects[i]? with
  | none => s
  | some o =>
    match o.morphs.find? m.id, o.mesh with
    | none, some mesh =>
      match o.morphs.register? m mesh with
      | some (rig, mesh, notes) =>
        (s.modifyObject i fun o => { o with morphs := rig, mesh := some mesh }).noting notes
      | none => s
    | _, _ => s

/-- Sets the morph of a modifier on the object it is for. A cycle is noted. -/
def applyMorph (s : ImportedScene) (parent : String) (channel : Channel) (m : Modifier) :
    Except Error ImportedScene :=
  match s.objectIndex? parent with
  | none => .ok s
  | some i =>
    let s := s.registerOn i m
    match s.objects[i]? with
    | none => .ok s
    | some o =>
      match o.morphs.find? m.id with
      | none => .ok s
      | some _ =>
        match s.setMorph o.name m.id (channel.currentFloat.getD 0.0) with
        | (s, .ok _) => .ok s
        | (s, .error (.formulaCycle morph)) => .ok (s.noting [.formulaCycle morph])
        | (_, .error e) => .error e

/-- Applies a modifier of the scene. -/
def applyModifier (bones : List NodeInstance) (s : ImportedScene) (m : ModifierInstance) :
    Except Error ImportedScene :=
  match m.parent with
  | none => .ok s
  | some parent =>
    match m.modifier.kind, m.channel with
    | .skin skin, _ => .ok (s.applySkin bones parent skin)
    | .morph _, some channel => s.applyMorph parent channel m.modifier
    | _, _ => .ok s

/-- Marks the objects that hang from the armature. -/
def markDeformed (s : ImportedScene) : ImportedScene :=
  match s.armature with
  | none => s
  | some _ =>
    { s with objects :=
        s.objects.mapIdx fun i o => { o with deform := o.deform || s.rootedAtArmature i } }

/-- Imports a loaded document. -/
def ofDocument (c : ContentRoot) (config : ImportConfig) (d : Document) : Load ImportedScene := do
  let bones := selectBones d.scene.nodes
  let places := d.scene.nodes.filter NodeInstance.isGeometryNode
  let s ← d.scene.nodes.foldlM (addObjects c) (empty config)
  let s ← d.scene.materials.foldlM (addMaterial c d) s
  let s := s.addArmature d
  let s := places.foldl linkParent s
  let s := places.foldl placeObject s
  let s := s.poseBones bones
  let s ← liftExcept (d.scene.modifiers.foldlM (applyModifier bones) s)
  return s.markDeformed
where
  /-- An error ends the import. -/
  liftExcept {α : Type} : Except Error α → Load α
    | .ok a => return a
    | .error e => throw e

end ImportedScene

namespace ContentRoot

variable (c : ContentRoot)

/-- Loads the document at a path and imports it. -/
def importFile (config : ImportConfig) (path : Path) : Load ImportedScene := do
  let d ← c.load path
  ImportedScene.ofDocument c config d

end ContentRoot

end RiggedScene
