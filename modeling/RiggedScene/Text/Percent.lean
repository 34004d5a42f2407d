import RiggedScene.Text.Utf8

/-!
# Percent escapes

A byte may be written as a percent sign and two hexadecimal digits.

* `Percent.encode` escapes every byte outside the unreserved set, in upper-case digits;
* `Percent.decode` reads escapes of either case and keeps a malformed one as it stands.
-/

namespace RiggedScene

namespace Percent

/-- The value of a hexadecimal digit. -/
def hexValue (b : UInt8) : Option Nat :=
  let n := b.toNat
  if 0x30 ≤ n ∧ n ≤ 0x39 then some (n - 0x30)
  else if 0x61 ≤ n ∧ n ≤ 0x66 then some (n - 0x61 + 10)
  else if 0x41 ≤ n ∧ n ≤ 0x46 then some (n - 0x41 + 10)
  else none

/-- The upper-case hexadecimal digit of a value below 16. -/
def hexDigit (n : Nat) : Char :=
  if n < 10 then Char.ofNat (0x30 + n) else Char.ofNat (0x41 + n - 10)

/-- The byte of the percent sign. -/
def sign : UInt8 := 0x25

/-- Replaces the escapes among the bytes; the two digits must both follow the sign. -/
def decodeBytes : List UInt8 → List UInt8
  | [] => []
  | [a] => [a]
  | [a, b] => [a, b]
  | a :: b :: c :: rest =>
    if a = sign then
      match hexValue b, hexValue c with
      | some hi, some lo => UInt8.ofNat (hi * 16 + lo) :: decodeBytes rest
      | _, _ => a :: decodeBytes (b :: c :: rest)
    else a :: decodeBytes (b :: c :: rest)

/-- The text with its escapes replaced; bytes that are not UTF-8 are substituted. -/
def decode (s : String) : String :=
  String.ofList (Utf8.decode (decodeBytes (Utf8.encode s.toList)))

/-- Letters, digits and `- . _ ~ / @` stand for themselves. -/
def isUnreserved (b : UInt8) : Bool :=
  let n := b.toNat
  (0x30 ≤ n && n ≤ 0x39) || (0x41 ≤ n && n ≤ 0x5A) || (0x61 ≤ n && n ≤ 0x7A) ||
    n == 0x2D || n == 0x2E || n == 0x5F || n == 0x7E || n == 0x2F || n == 0x40

/-- A byte as it is written in a reference. -/
def encodeByte (b : UInt8) : List Char :=
  if isUnreserved b then [Char.ofNat b.toNat]
  else ['%', hexDigit (b.toNat / 16), hexDigit (b.toNat % 16)]

/-- The text with every other byte escaped. -/
def encode (s : String) : String :=
  String.ofList ((Utf8.encode s.toList).flatMap encodeByte)

end Percent

end RiggedScene
