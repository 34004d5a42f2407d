import RiggedScene.Archive.Crc32
import RiggedScene.Archive.Inflate

/-!
# Gzip

A member is a header with optional parts, a compressed stream and a trailer with the check sum
and the length of the contents. `Gzip.decode?` reads the first member; what follows is ignored.
-/

namespace RiggedScene

namespace Gzip

/-- The first two bytes of a member. -/
def magic : List UInt8 := [0x1F, 0x8B]

/-- Whether the bytes begin like a member. -/
def isMember (bs : List UInt8) : Bool := bs.take 2 == magic

/-- The number of a byte sequence, low byte first. -/
def readLE : List UInt8 → Nat
  | [] => 0
  | b :: bs => b.toNat + 256 * readLE bs

/-- Splits after `n` bytes. -/
def take? (n : Nat) (bs : List UInt8) : Option (List UInt8 × List UInt8) :=
  if bs.length < n then none else some (bs.take n, bs.drop n)

/-- Skips a name and the zero byte that ends it. -/
def skipName? : List UInt8 → Option (List UInt8)
  | [] => none
  | b :: bs => if b = 0 then some bs else skipName? bs

/-- The optional part that a flag announces. -/
def skipPart? (flags bit : Nat) (skip : List UInt8 → Option (List UInt8)) (bs : List UInt8) :
    Option (List UInt8) :=
  if flags.testBit bit then skip bs else some bs

/-- Skips extra data with its length in front. -/
def skipExtra? (bs : List UInt8) : Option (List UInt8) := do
  let (length, bs) ← take? 2 bs
  let (_, bs) ← take? (readLE length) bs
  return bs

/-- Skips the header. A check sum of it must be right, reserved flags must not be set. -/
def skipHeader? (bs : List UInt8) : Option (List UInt8) := do
  let (fixed, rest) ← take? 10 bs
  let flags := ((fixed[3]?).getD 0).toNat
  if fixed.take 3 ≠ magic ++ [8] || 32 ≤ flags then none
  let rest ← skipPart? flags 2 skipExtra? rest
  let rest ← skipPart? flags 3 skipName? rest
  let rest ← skipPart? flags 4 skipName? rest
  let header := bs.take (bs.length - rest.length)
  skipPart? flags 1
    (fun rest => do
      let (sum, rest) ← take? 2 rest
      if readLE sum ≠ (Crc32.ofBytes header).toNat % Nat.pow 2 16 then none
      return rest)
    rest

/-- The contents of the first member. -/
def decode? (bs : List UInt8) : Option (List UInt8) := do
  let body ← skipHeader? bs
  let (out, left) ← Inflate.run (Inflate.bitsOf body)
  let contents := out.toList
  let trailer := body.drop (body.length - left.length / 8)
  let (sum, trailer) ← take? 4 trailer
  let (size, _) ← take? 4 trailer
  if readLE sum ≠ (Crc32.ofBytes contents).toNat then none
  if readLE size ≠ contents.length % Nat.pow 2 32 then none
  return contents

end Gzip

end RiggedScene
