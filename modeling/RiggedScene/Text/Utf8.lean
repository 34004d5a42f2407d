/-!
# UTF-8

Characters as bytes and back.

* `Utf8.encode` writes each character in its shortest form;
* `Utf8.decode` reads any bytes at all: what is not UTF-8 becomes the replacement character,
  one for each longest piece that still begins a character.
-/

namespace RiggedScene

namespace Utf8

/-- The bytes of one code point. -/
def encodeCode (n : Nat) : List UInt8 :=
  if n < 0x80 then [UInt8.ofNat n]
  else if n < 0x800 then [UInt8.ofNat (0xC0 + n / 64), UInt8.ofNat (0x80 + n % 64)]
  else if n < 0x10000 then
    [UInt8.ofNat (0xE0 + n / 4096), UInt8.ofNat (0x80 + n / 64 % 64), UInt8.ofNat (0x80 + n % 64)]
  else
    [UInt8.ofNat (0xF0 + n / 262144), UInt8.ofNat (0x80 + n / 4096 % 64),
      UInt8.ofNat (0x80 + n / 64 % 64), UInt8.ofNat (0x80 + n % 64)]

/-- The bytes of a text. -/
def encode (cs : List Char) : List UInt8 := cs.flatMap fun c => encodeCode c.toNat

/-- A character of which some bytes have been read. -/
structure Partial where
  /-- Bytes still missing, at least one. -/
  missing : Nat
  /-- The bits read so far. -/
  code : Nat
  /-- Least value of the next byte. -/
  low : Nat
  /-- Greatest value of the next byte. -/
  high : Nat
  deriving Repr, DecidableEq

/-- Stands for bytes that are not UTF-8. -/
def replacement : Char := '\ufffd'

/-- Reads the first byte of a character. The range of the second byte excludes overlong forms,
surrogates and code points beyond the last one. -/
def lead (b : UInt8) : List Char × Option Partial :=
  let n := b.toNat
  if n < 0x80 then ([Char.ofNat n], none)
  else if n < 0xC2 then ([replacement], none)
  else if n < 0xE0 then ([], some ⟨1, n - 0xC0, 0x80, 0xBF⟩)
  else if n < 0xF0 then
    ([], some ⟨2, n - 0xE0, if n = 0xE0 then 0xA0 else 0x80, if n = 0xED then 0x9F else 0xBF⟩)
  else if n < 0xF5 then
    ([], some ⟨3, n - 0xF0, if n = 0xF0 then 0x90 else 0x80, if n = 0xF4 then 0x8F else 0xBF⟩)
  else ([replacement], none)

/-- Reads one byte. A byte that cannot continue a character ends it and begins another. -/
def step : Option Partial → UInt8 → List Char × Option Partial
  | none, b => lead b
  | some p, b =>
    if p.low ≤ b.toNat ∧ b.toNat ≤ p.high then
      let code := p.code * 64 + (b.toNat - 0x80)
      if p.missing ≤ 1 then ([Char.ofNat code], none)
      else ([], some ⟨p.missing - 1, code, 0x80, 0xBF⟩)
    else
      let (cs, next) := lead b
      (replacement :: cs, next)

/-- Reads bytes after a partial character. -/
def decodeAfter : Option Partial → List UInt8 → List Char
  | none, [] => []
  | some _, [] => [replacement]
  | p, b :: bs =>
    let (cs, next) := step p b
    cs ++ decodeAfter next bs

/-- Reads bytes, replacing what is not UTF-8. -/
def decode (bs : List UInt8) : List Char := decodeAfter none bs

end Utf8

end RiggedScene
