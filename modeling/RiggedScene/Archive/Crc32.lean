/-!
# CRC-32

The check sum of gzip: polynomial remainders over bits taken from the low end, started and
finished with all ones.
-/

namespace RiggedScene

namespace Crc32

/-- The generator polynomial, low bit first. -/
def polynomial : UInt32 := 0xEDB88320

/-- Divides one bit out. -/
def shift (c : UInt32) : UInt32 :=
  if c &&& 1 = 1 then (c >>> 1) ^^^ polynomial else c >>> 1

/-- Divides `n` bits out. -/
def shifts : Nat → UInt32 → UInt32
  | 0, c => c
  | n + 1, c => shifts n (shift c)

/-- Takes one byte in. -/
def step (c : UInt32) (b : UInt8) : UInt32 := shifts 8 (c ^^^ b.toUInt32)

/-- The check sum of a byte sequence. -/
def ofBytes (bs : List UInt8) : UInt32 := bs.foldl step 0xFFFFFFFF ^^^ 0xFFFFFFFF

end Crc32

end RiggedScene
