import RiggedScene.Import.Report
import RiggedScene.Numeric.Literal

/-!
# The command line

The first argument is the path of a document. The document is imported, the assignments in the
other arguments are carried out in order, and the scene is reported.

* `Assignment.parse` reads `object:morph=value`;
* `Command.run` is the whole command on a disk. The first error ends it, and what was written until
  then stays.
-/

namespace RiggedScene

/-- A value for a slider of an object, as it is typed. -/
structure Assignment where
  object : String
  morph : String
  value : String
  deriving Repr, DecidableEq

namespace Assignment

/-- What may be missing in an assignment. -/
inductive Flaw where
  | value
  | object
  deriving Repr, DecidableEq

/-- What is said about an argument that is no assignment. -/
def Flaw.message (argument : String) : Flaw → String
  | value => "Ignoring malformed assignment " ++ argument
  | object => "Expected <object>:<morph>=<value>, got " ++ argument

/-- Cuts an argument at its first equals sign, and what comes before that at its first colon. -/
def parse (argument : String) : Except Flaw Assignment :=
  match Split.cut '=' argument.toList with
  | none => .error .value
  | some (target, value) =>
    match Split.cut ':' target with
    | none => .error .object
    | some (object, morph) =>
      .ok ⟨String.ofList object, String.ofList morph, String.ofList value⟩

end Assignment

namespace Command

/-- What a command writes, and whether it comes to its end. -/
structure Outcome where
  /-- The lines of the report. -/
  lines : List String
  /-- What is said about arguments and errors, aside from the report. -/
  remarks : List String
  succeeded : Bool
  deriving Repr, DecidableEq

/-- How the command is called. -/
def usage : List String :=
  ["Usage: inspect_duf <path-to-duf-file> [morph=value ...]", "", "Examples:",
    "  cargo run --example inspect_duf -- content/People/figure.duf",
    "  cargo run --example inspect_duf -- content/People/figure.duf Body:PBMBelly=0.5"]

/-- The variable of the environment that names the content root. -/
def rootVariable : String := "DSON_CONTENT_ROOT"

/-- The settings of a command: all defaults but for the content root. -/
def config (root : Option String) : ImportConfig :=
  match root with
  | some r => .withContentRoot ⟨r⟩
  | none => .standard

/-- What has been written so far, and the scene with what has been assigned so far. -/
structure Progress where
  lines : List String
  remarks : List String
  scene : ImportedScene

/-- Ends a command with an error. -/
def failed (lines remarks : List String) (reason : String) : Outcome :=
  ⟨lines, remarks ++ ["Error: " ++ reason], false⟩

/-- Carries one argument out. Arguments that are no assignments are passed over. -/
def assign (p : Progress) (argument : String) : Except Outcome Progress :=
  match Assignment.parse argument with
  | .error flaw => .ok { p with remarks := p.remarks ++ [flaw.message argument] }
  | .ok a =>
    match Literal.toFloat? a.value with
    | none => .error (failed p.lines p.remarks ("invalid number " ++ a.value))
    | some value =>
      match p.scene.setMorph a.object a.morph value with
      | (_, .error e) => .error (failed p.lines p.remarks e.message)
      | (scene, .ok applied) =>
        .ok { p with
          scene := scene
          lines := p.lines ++ ["Set " ++ a.object ++ ":" ++ a.morph ++ " = " ++
            Decimal.shortest value ++ " (applied: " ++ yesNo applied ++ ")"] }

/-- Imports the document at a path, carries assignments out, and reports. -/
def inspect (disk : Disk) (root : Option String) (path : String) (assignments : List String) :
    Outcome :=
  let lines := ["Importing DSON file: " ++ path]
  let settings := config root
  let c := ContentRoot.of settings.contentRoot (.disk disk)
  match (c.importFile settings ⟨path⟩).run.run .start with
  | (.error e, _) => failed lines [] e.message
  | (.ok scene, _) =>
    match assignments.foldlM assign ⟨lines, [], scene⟩ with
    | .error outcome => outcome
    | .ok p => ⟨p.lines ++ p.scene.report, p.remarks, true⟩

/-- Runs the command with its arguments; without any it tells how it is called. -/
def run (disk : Disk) (root : Option String) (arguments : List String) : Outcome :=
  match arguments with
  | [] => ⟨usage, [], true⟩
  | path :: assignments => inspect disk root path assignments

end Command

end RiggedScene
