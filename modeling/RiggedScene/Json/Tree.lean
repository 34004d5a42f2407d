import RiggedScene.Json.Token

/-!
# Reading JSON

The reader keeps the containers it is in as a list of frames, so that nesting is bounded by
nothing but the text.

* `Json.Reader.step` reads one token;
* `Json.ofTokens?` reads a whole text: one value and nothing after it;
* `Json.parse?` starts from characters.
-/

namespace RiggedScene

namespace Json

/-- A container that is being read, with its nesting level and its items in reverse. -/
inductive Frame where
  | array (level : Nat) (items : List Json)
  | object (level : Nat) (entries : List (Option String × Json)) (key : Option String)

/-- The nesting level of a container. -/
def Frame.level : Frame → Nat
  | array l _ => l
  | object l _ _ => l

/-- What the reader expects next, inside the frames from the innermost outwards. -/
inductive Reader where
  /-- A value. -/
  | value (frames : List Frame)
  /-- A value, or the end of the array just opened. -/
  | firstItem (level : Nat) (frames : List Frame)
  /-- A key, or the end of the object just opened. -/
  | firstKey (level : Nat) (frames : List Frame)
  /-- A key. -/
  | key (level : Nat) (entries : List (Option String × Json)) (frames : List Frame)
  /-- The colon after a key. -/
  | colon (level : Nat) (entries : List (Option String × Json)) (key : Option String)
      (frames : List Frame)
  /-- A comma or the end of the innermost container. -/
  | next (frame : Frame) (frames : List Frame)
  /-- Nothing: the value is complete. -/
  | complete (result : Json)

namespace Reader

/-- The nesting level of a container opened now. -/
def levelWithin : List Frame → Nat
  | [] => 1
  | f :: _ => f.level + 1

/-- A finished value takes its place in the innermost container. -/
def finish (v : Json) : List Frame → Reader
  | [] => complete v
  | .array l items :: fs => next (.array l (v :: items)) fs
  | .object l entries k :: fs => next (.object l ((k, v) :: entries) k) fs

/-- A finished array. -/
def closeArray (level : Nat) (items : List Json) (frames : List Frame) : Reader :=
  finish (if maxDepth < level then .tooDeep else .arr items.reverse) frames

/-- A finished object. -/
def closeObject (level : Nat) (entries : List (Option String × Json)) (frames : List Frame) :
    Reader :=
  finish (if maxDepth < level then .tooDeep else .obj entries.reverse) frames

/-- A token that begins a value. -/
def beginValue (frames : List Frame) : Token → Option Reader
  | .openArray => some (firstItem (levelWithin frames) frames)
  | .openObject => some (firstKey (levelWithin frames) frames)
  | .null => some (finish .null frames)
  | .bool b => some (finish (.bool b) frames)
  | .num n => some (finish (.num n) frames)
  | .str (some s) => some (finish (.str s) frames)
  | .str none => some (finish .illFormed frames)
  | .closeArray | .closeObject | .comma | .colon => none

/-- Reads one token. -/
def step (r : Reader) (t : Token) : Option Reader :=
  match r, t with
  | value fs, t => beginValue fs t
  | firstItem l fs, .closeArray => some (closeArray l [] fs)
  | firstItem l fs, t => beginValue (.array l [] :: fs) t
  | firstKey l fs, .closeObject => some (closeObject l [] fs)
  | firstKey l fs, .str k => some (colon l [] k fs)
  | firstKey _ _, _ => none
  | key l es fs, .str k => some (colon l es k fs)
  | key _ _ _, _ => none
  | colon l es k fs, .colon => some (value (.object l es k :: fs))
  | colon _ _ _ _, _ => none
  | next (.array l items) fs, .comma => some (value (.array l items :: fs))
  | next (.array l items) fs, .closeArray => some (closeArray l items fs)
  | next (.object l es _) fs, .comma => some (key l es fs)
  | next (.object l es _) fs, .closeObject => some (closeObject l es fs)
  | next _ _, _ => none
  | complete _, _ => none

end Reader

/-- The tree of a whole token sequence. -/
def ofTokens? (ts : List Token) : Option Json :=
  match ts.foldlM Reader.step (Reader.value []) with
  | some (.complete v) => some v
  | _ => none

/-- The tree of a text. -/
def parse? (cs : List Char) : Option Json := (Token.scan? cs).bind ofTokens?

end Json

end RiggedScene
