import RiggedScene.Numeric.Decimal

/-!
# Diagnostics

Conditions that are passed over while a scene is built or a morph applied. They are kept in the
order in which they occur, and none of them stops the work.
-/

namespace RiggedScene

/-- How grave a diagnostic is. -/
inductive Severity where
  | warning
  | error
  deriving Repr, DecidableEq

/-- A condition that was passed over. -/
inductive Diagnostic where
  /-- A formula pushed a reference that led nowhere. -/
  | unresolvedOperand (morph url : String)
  /-- A formula has no result, or no target. -/
  | malformedFormula (morph output reason : String)
  /-- A formula has a step that formulas do not know. -/
  | unsupportedFormula (morph output : String)
  /-- A bone without length; its end point was moved. -/
  | degenerateBone (bone : String)
  /-- A joint for a bone that the armature does not have. -/
  | unknownBone (joint : String)
  /-- A pose for a bone that the armature does not have. -/
  | missingBone (bone : String)
  /-- A face with too few, repeated or unknown vertices. -/
  | malformedFace (geometry : String) (face : Nat)
  /-- A morph drives itself; its application was undone. -/
  | formulaCycle (morph : String)
  deriving Repr, DecidableEq

namespace Diagnostic

/-- A joint without bone loses its influence, which is an error; all else is a warning. -/
def severity : Diagnostic → Severity
  | unknownBone _ => .error
  | _ => .warning

/-- What is said about a diagnostic; `standIn` is the value of an unresolved operand. -/
def message (standIn : Float) : Diagnostic → String
  | unresolvedOperand morph url =>
    "morph " ++ morph ++ ": unresolved operand " ++ url ++ " (using " ++
      Decimal.shortest standIn ++ ")"
  | malformedFormula morph output reason =>
    "morph " ++ morph ++ ": formula for " ++ output ++ " skipped: " ++ reason
  | unsupportedFormula morph output =>
    "morph " ++ morph ++ ": unsupported formula for " ++ output
  | degenerateBone bone => "bone " ++ bone ++ " has zero length, end point nudged"
  | unknownBone joint => "could not find bone " ++ joint ++ " for skin joint"
  | missingBone bone => "bone not found " ++ bone
  | malformedFace geometry face =>
    "geometry " ++ geometry ++ ": skipped malformed face " ++ toString face
  | formulaCycle morph => "morph " ++ morph ++ ": formula cycle, application skipped"

end Diagnostic

end RiggedScene
