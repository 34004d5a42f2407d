import RiggedScene.Space.Vector

/-!
# The source frame and the output frame

Source data is right-handed, Z up, in centimetres and degrees. Output data is right-handed, Y up,
in metres and radians.

* `Units.pointToOutput`, `rotationToOutput` and `scaleToOutput` convert;
* `Units.pointFromOutput` and `rotationFromOutput` go back.
-/

namespace RiggedScene

namespace Units

/-- Source units in one output unit. -/
def centimetresPerMetre : Float := 100.0

/-- Half a turn, in radians. -/
def pi : Float := 3.141592653589793

/-- Degrees as radians. -/
def toRadians (degrees : Float) : Float := degrees * (pi / 180.0)

/-- Radians as degrees. -/
def toDegrees (radians : Float) : Float := radians * (180.0 / pi)

/-- A point in the output frame: Y and Z change places and the new Z is negated. -/
def pointToOutput (p : Vec3) : Vec3 :=
  ⟨p.x / centimetresPerMetre, p.z / -centimetresPerMetre, p.y / centimetresPerMetre⟩

/-- A point in the source frame. -/
def pointFromOutput (p : Vec3) : Vec3 :=
  ⟨p.x * centimetresPerMetre, p.z * centimetresPerMetre, -p.y * centimetresPerMetre⟩

/-- Turns about the axes: Y and Z change places, no sign is changed. -/
def rotationToOutput (r : Vec3) : Vec3 := r.swapYZ.map toRadians

/-- Turns about the source axes. -/
def rotationFromOutput (r : Vec3) : Vec3 := r.swapYZ.map toDegrees

/-- Scale factors: Y and Z change places. -/
def scaleToOutput (s : Vec3) : Vec3 := s.swapYZ

end Units

end RiggedScene
