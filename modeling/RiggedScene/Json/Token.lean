import RiggedScene.Json.Basic
import RiggedScene.Numeric.Literal

/-!
# JSON tokens

* `Json.Token.scan?` cuts a text into tokens, one character at a time;
* `Json.Number.ofLexeme?` is the grammar of number literals: no leading zeros, a digit on each
  side of the point, at least one digit in the exponent.

Raw control characters in strings are refused. Strings are read as UTF-16 escapes allow: a pair
of surrogate escapes is one character, a lone one leaves the string without value.
-/

namespace RiggedScene

namespace Json

/-! ### Numbers -/

/-- A point with its digits, or nothing. -/
def Number.fraction? : List Char → Option (List Char × List Char)
  | '.' :: cs =>
    let (ds, rest) := Literal.spanDigits cs
    if ds.isEmpty then none else some (ds, rest)
  | cs => some ([], cs)

/-- Appends digits to a number as long as it fits into 64 bits; the others are left. -/
def Number.take (n : Nat) : List Char → Nat × List Char
  | [] => (n, [])
  | d :: ds =>
    let n' := n * 10 + (d.toNat - 48)
    if n' ≤ maxIndex then take n' ds else (n, d :: ds)

/-- Reads a whole lexeme as a number. Digits of the whole part that do not fit count as zeros, and
those of the fraction do not count. -/
def Number.ofLexeme? (lexeme : List Char) : Option Number :=
  let (negative, body) :=
    match lexeme with
    | '-' :: cs => (true, cs)
    | cs => (false, cs)
  let (int, rest) := Literal.spanDigits body
  if int.isEmpty || (int.head? == some '0' && 1 < int.length) then none
  else
    match fraction? rest with
    | none => none
    | some (frac, rest') =>
      match Literal.power? rest' with
      | none => none
      | some e =>
        let (n, beyond) := take 0 int
        let (n, beyond') := take n frac
        some ⟨negative, n, e + beyond.length - (frac.length - beyond'.length : Nat),
          rest.isEmpty && beyond.isEmpty⟩

/-! ### Strings -/

/-- A unit of a string: a character, or half of a surrogate pair. -/
inductive Unit16 where
  | char (c : Char)
  | surrogate (n : Nat)
  deriving Repr, DecidableEq

/-- Joins surrogate pairs; `none` when a surrogate is left alone. -/
def Unit16.toChars? : List Unit16 → Option (List Char)
  | [] => some []
  | .char c :: us => (toChars? us).map (c :: ·)
  | .surrogate hi :: .surrogate lo :: us =>
    if hi < 0xDC00 ∧ 0xDC00 ≤ lo then
      (toChars? us).map (Char.ofNat (0x10000 + (hi - 0xD800) * 1024 + (lo - 0xDC00)) :: ·)
    else none
  | .surrogate _ :: _ => none

/-- The character of a one-letter escape. -/
def simpleEscape? (c : Char) : Option Char :=
  if c = '\x22' then some '\x22'
  else if c = '\x5c' then some '\x5c'
  else if c = '/' then some '/'
  else if c = 'b' then some '\x08'
  else if c = 'f' then some '\x0c'
  else if c = 'n' then some '\n'
  else if c = 'r' then some '\r'
  else if c = 't' then some '\t'
  else none

/-- The value of a hexadecimal digit. -/
def hexDigit? (c : Char) : Option Nat :=
  if '0' ≤ c ∧ c ≤ '9' then some (c.toNat - 48)
  else if 'a' ≤ c ∧ c ≤ 'f' then some (c.toNat - 97 + 10)
  else if 'A' ≤ c ∧ c ≤ 'F' then some (c.toNat - 65 + 10)
  else none

/-- The unit of a four-digit escape. -/
def Unit16.ofCode (n : Nat) : Unit16 :=
  if 0xD800 ≤ n ∧ n ≤ 0xDFFF then .surrogate n else .char (Char.ofNat n)

/-! ### Tokens -/

/-- A lexical unit. -/
inductive Token where
  | openArray
  | closeArray
  | openObject
  | closeObject
  | comma
  | colon
  | null
  | bool (b : Bool)
  | num (n : Number)
  /-- A string, `none` when it has a lone surrogate. -/
  | str (s : Option String)
  deriving Repr, DecidableEq

namespace Token

/-- Where the scanner stands. Collected characters are in reverse. -/
inductive Scanner where
  /-- Between tokens. -/
  | between
  /-- In a run of letters, digits, signs and points. -/
  | bare (run : List Char)
  /-- In a string. -/
  | quoted (units : List Unit16)
  /-- After the backslash. -/
  | escaped (units : List Unit16)
  /-- In a four-digit escape with some digits missing. -/
  | hexadecimal (units : List Unit16) (missing code : Nat)

/-- Blanks between tokens. -/
def isBlank (c : Char) : Bool := c == ' ' || c == '\n' || c == '\r' || c == '\t'

/-- Characters of words and numbers. -/
def isBare (c : Char) : Bool := c.isAlphanum || c == '+' || c == '-' || c == '.'

/-- The token of a punctuation character. -/
def punctuation? (c : Char) : Option Token :=
  if c = '[' then some .openArray
  else if c = ']' then some .closeArray
  else if c = '\x7b' then some .openObject
  else if c = '\x7d' then some .closeObject
  else if c = ',' then some .comma
  else if c = ':' then some .colon
  else none

/-- The token of a whole run. -/
def ofRun? (run : List Char) : Option Token :=
  if run = "null".toList then some .null
  else if run = "true".toList then some (.bool true)
  else if run = "false".toList then some (.bool false)
  else (Number.ofLexeme? run).map .num

/-- Reads a character that begins something new. -/
def start (c : Char) (acc : List Token) : Option (Scanner × List Token) :=
  if isBlank c then some (.between, acc)
  else if c = '\x22' then some (.quoted [], acc)
  else if isBare c then some (.bare [c], acc)
  else (punctuation? c).map fun t => (.between, t :: acc)

/-- Reads one character, adding finished tokens at the front. -/
def step (c : Char) (acc : List Token) : Scanner → Option (Scanner × List Token)
  | .between => start c acc
  | .bare run =>
    if isBare c then some (.bare (c :: run), acc)
    else (ofRun? run.reverse).bind fun t => start c (t :: acc)
  | .quoted units =>
    if c = '\x22' then
      some (.between, .str ((Unit16.toChars? units.reverse).map String.ofList) :: acc)
    else if c = '\x5c' then some (.escaped units, acc)
    else if c < ' ' then none
    else some (.quoted (.char c :: units), acc)
  | .escaped units =>
    if c = 'u' then some (.hexadecimal units 4 0, acc)
    else (simpleEscape? c).map fun e => (.quoted (.char e :: units), acc)
  | .hexadecimal units missing code =>
    (hexDigit? c).map fun d =>
      let code := code * 16 + d
      if missing ≤ 1 then (.quoted (Unit16.ofCode code :: units), acc)
      else (.hexadecimal units (missing - 1) code, acc)

/-- Scans the rest of a text; the tokens come out in reverse. -/
def scanFrom : Scanner → List Token → List Char → Option (List Token)
  | .between, acc, [] => some acc
  | .bare run, acc, [] => (ofRun? run.reverse).map (· :: acc)
  | .quoted _, _, [] | .escaped _, _, [] | .hexadecimal _ _ _, _, [] => none
  | s, acc, c :: cs =>
    match step c acc s with
    | none => none
    | some (s', acc') => scanFrom s' acc' cs

/-- The tokens of a text, unless some part of it is none. -/
def scan? (cs : List Char) : Option (List Token) := (scanFrom .between [] cs).map List.reverse

end Token

end Json

end RiggedScene
