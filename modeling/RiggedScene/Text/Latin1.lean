/-!
# Latin-1

Each byte is the character of the same number, so every byte sequence is a text.
-/

namespace RiggedScene

namespace Latin1

/-- The text of a byte sequence. -/
def decode (bs : List UInt8) : List Char := bs.map fun b => Char.ofNat b.toNat

end Latin1

end RiggedScene
