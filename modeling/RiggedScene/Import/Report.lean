import RiggedScene.Import.Build
import RiggedScene.Text.Quoted

/-!
# Reports on imported scenes

A report lists the objects, the bones, the materials and the diagnostics of a scene, each on a line
of its own.

* `ImportedScene.report` is the whole report, line by line;
* `SceneObject.report`, `Armature.report` and `ShadingMaterial.report` are its sections.
-/

namespace RiggedScene

/-- A yes or no. -/
def yesNo (b : Bool) : String := if b then "true" else "false"

/-- A point with three places for each axis. -/
def Vec3.report (v : Vec3) : String :=
  "(" ++ String.intercalate ", " (v.toList.map (Decimal.fixed 3)) ++ ")"

/-- A kind of node; a word of its own is quoted. -/
def NodeKind.report : NodeKind → String
  | node => "Node"
  | bone => "Bone"
  | figure => "Figure"
  | other word => "Other(" ++ Quoted.write word ++ ")"

/-- What an object hangs from; names are quoted. -/
def ObjectParent.report : Option ObjectParent → String
  | none => "None"
  | some (object name) => "Some(Object(" ++ Quoted.write name ++ "))"
  | some armature => "Some(Armature)"
  | some (bone name) => "Some(Bone(" ++ Quoted.write name ++ "))"

/-- What an object consists of. -/
def SceneObject.contentsReport (o : SceneObject) : String :=
  match o.mesh with
  | none => "empty"
  | some m =>
    toString m.vertexCount ++ " vertices, " ++ toString m.faceCount ++ " faces, " ++
      toString m.shapeKeys.length ++ " shape keys, " ++ toString m.vertexGroups.length ++
      " groups, " ++ toString o.morphs.morphs.length ++ " morphs"

/-- The two lines of an object. -/
def SceneObject.report (o : SceneObject) : List String :=
  ["  " ++ o.name ++ " (" ++ o.kind.report ++ ") - " ++ o.contentsReport,
    "       Location: " ++ o.transform.location.report ++ "  Parent: " ++
      ObjectParent.report o.parent]

/-- The line of a bone: its name, its parent, and where it starts. -/
def Bone.report (b : Bone) : String :=
  "  " ++ b.name ++ " <- " ++ b.parent.getD "-" ++ " at " ++ b.segment.head.report

/-- The section of an armature. -/
def Armature.report (a : Armature) : List String :=
  ["", "--- Armature: " ++ a.name ++ " (" ++ toString a.bones.length ++ " bones) ---"] ++
    a.bones.map Bone.report

/-- The line of a material. -/
def ShadingMaterial.report (m : ShadingMaterial) : String :=
  "  " ++ m.name ++ " [" ++ m.kind ++ "] on " ++ m.object.getD "-" ++
    " (textured: " ++ yesNo m.hasTextures ++ ")"

/-- The section of the diagnostics, if there are any. -/
def Diagnostic.report (notes : List Diagnostic) : List String :=
  if notes.isEmpty then []
  else
    ["", "--- Diagnostics (" ++ toString notes.length ++ ") ---"] ++
      notes.map fun d => "  " ++ d.message Arithmetic.binary64.unresolved

/-- The report on a scene. -/
def ImportedScene.report (s : ImportedScene) : List String :=
  ["", "--- Objects ---"] ++ s.objects.flatMap SceneObject.report ++
    (s.armature.map Armature.report).getD [] ++
    ["", "--- Materials ---"] ++ s.materials.map ShadingMaterial.report ++
    Diagnostic.report s.notes

end RiggedScene
