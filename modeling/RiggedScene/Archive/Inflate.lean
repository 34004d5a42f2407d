/-!
# Inflating

A compressed stream is a sequence of bits, the low bit of each byte first. It holds blocks, each
of them stored or coded with two prefix codes: one for bytes and lengths, one for distances.

* `CodeTree.ofLengths?` builds the canonical prefix code of a list of code lengths;
* `Inflate.block` reads one block;
* `Inflate.run` reads blocks up to the final one and returns the bytes and the bits left over.
-/

namespace RiggedScene

/-! ### Prefix codes -/

/-- A prefix code. -/
inductive CodeTree where
  | empty
  | leaf (symbol : Nat)
  | node (zero one : CodeTree)
  deriving Repr, Inhabited

namespace CodeTree

/-- Adds a symbol under a code word. -/
def insert (symbol : Nat) : List Bool → CodeTree → CodeTree
  | [], _ => leaf symbol
  | b :: bs, t =>
    let (zero, one) :=
      match t with
      | node l r => (l, r)
      | _ => (empty, empty)
    if b then node zero (insert symbol bs one) else node (insert symbol bs zero) one

/-- The `n` low bits of a number, high bit first. -/
def word : Nat → Nat → List Bool
  | 0, _ => []
  | n + 1, code => code.testBit n :: word n code

/-- The longest code word. -/
def maxLength : Nat := 15

/-- The symbols with code words of `n` bits, in order. -/
def symbolsOf (lengths : List Nat) (n : Nat) : List Nat :=
  (List.range lengths.length).filter fun i => lengths[i]? == some n

/-- Adds the symbols of one length, numbered upwards from `code`. -/
def insertAll (n : Nat) (symbols : List Nat) (t : CodeTree) (code : Nat) : CodeTree × Nat :=
  symbols.foldl (fun (t, c) s => (t.insert s (word n c), c + 1)) (t, code)

/-- The share of all words of `maxLength` bits that the code uses up. -/
def weight (lengths : List Nat) : Nat :=
  lengths.foldl (fun w n => if n = 0 then w else w + Nat.pow 2 (maxLength - n)) 0

/-- The canonical code of the given lengths, a length of zero standing for no code word. A code
of more than one word must be complete. -/
def ofLengths? (lengths : List Nat) : Option CodeTree :=
  let used := (lengths.filter (0 < ·)).length
  if 1 < used ∧ weight lengths ≠ Nat.pow 2 maxLength then none
  else
    let add (state : CodeTree × Nat) (n : Nat) : CodeTree × Nat :=
      insertAll n (symbolsOf lengths n) state.1 (2 * state.2)
    some (((List.range maxLength).map (· + 1)).foldl add (empty, 0)).1

/-- Reads one code word. -/
def read : CodeTree → List Bool → Option (Nat × List Bool)
  | leaf s, bits => some (s, bits)
  | empty, _ => none
  | node _ _, [] => none
  | node zero one, b :: bits => if b then one.read bits else zero.read bits

end CodeTree

namespace Inflate

/-! ### Bits -/

/-- The bits of a byte, low bit first. -/
def bitsOfByte (b : UInt8) : List Bool := (List.range 8).map b.toNat.testBit

/-- The bits of a byte sequence. -/
def bitsOf (bs : List UInt8) : List Bool := bs.flatMap bitsOfByte

/-- Reads a number of `n` bits, low bit first. -/
def readNat : Nat → List Bool → Option (Nat × List Bool)
  | 0, bits => some (0, bits)
  | _ + 1, [] => none
  | n + 1, b :: bits => (readNat n bits).map fun (v, rest) => (2 * v + b.toNat, rest)

/-- Reads `n` numbers of `width` bits. -/
def readNats (width : Nat) : Nat → List Bool → Option (List Nat × List Bool)
  | 0, bits => some ([], bits)
  | n + 1, bits =>
    match readNat width bits with
    | none => none
    | some (v, rest) => (readNats width n rest).map fun (vs, rest) => (v :: vs, rest)

/-- Skips to the next byte. -/
def align (bits : List Bool) : List Bool := bits.drop (bits.length % 8)

/-! ### Coded blocks -/

/-- Least length and number of further bits, for each length symbol from 257 on. -/
def lengthTable : List (Nat × Nat) :=
  [(3, 0), (4, 0), (5, 0), (6, 0), (7, 0), (8, 0), (9, 0), (10, 0), (11, 1), (13, 1), (15, 1),
    (17, 1), (19, 2), (23, 2), (27, 2), (31, 2), (35, 3), (43, 3), (51, 3), (59, 3), (67, 4),
    (83, 4), (99, 4), (115, 4), (131, 5), (163, 5), (195, 5), (227, 5), (258, 0)]

/-- Least distance and number of further bits, for each distance symbol. -/
def distanceTable : List (Nat × Nat) :=
  [(1, 0), (2, 0), (3, 0), (4, 0), (5, 1), (7, 1), (9, 2), (13, 2), (17, 3), (25, 3), (33, 4),
    (49, 4), (65, 5), (97, 5), (129, 6), (193, 6), (257, 7), (385, 7), (513, 8), (769, 8),
    (1025, 9), (1537, 9), (2049, 10), (3073, 10), (4097, 11), (6145, 11), (8193, 12),
    (12289, 12), (16385, 13), (24577, 13)]

/-- Reads the further bits of a table entry. -/
def readExtended (table : List (Nat × Nat)) (i : Nat) (bits : List Bool) :
    Option (Nat × List Bool) :=
  match table[i]? with
  | none => none
  | some (least, extra) => (readNat extra bits).map fun (v, rest) => (least + v, rest)

/-- Repeats what was written `distance` bytes ago, `length` times byte by byte. -/
def copy (distance : Nat) : Nat → Array UInt8 → Array UInt8
  | 0, out => out
  | n + 1, out => copy distance n (out.push (out.getD (out.size - distance) 0))

/-- Reads symbols up to the end of the block; `fuel` bounds their number. -/
def symbols (literals distances : CodeTree) :
    Nat → Array UInt8 → List Bool → Option (Array UInt8 × List Bool)
  | 0, _, _ => none
  | fuel + 1, out, bits =>
    match literals.read bits with
    | none => none
    | some (s, bits) =>
      if s < 256 then symbols literals distances fuel (out.push (UInt8.ofNat s)) bits
      else if s = 256 then some (out, bits)
      else
        match readExtended lengthTable (s - 257) bits with
        | none => none
        | some (length, bits) =>
          match distances.read bits with
          | none => none
          | some (d, bits) =>
            match readExtended distanceTable d bits with
            | none => none
            | some (distance, bits) =>
              if out.size < distance then none
              else symbols literals distances fuel (copy distance length out) bits

/-- The code lengths of bytes and lengths in a block with the standard code. -/
def fixedLiterals : List Nat :=
  List.replicate 144 8 ++ List.replicate 112 9 ++ List.replicate 24 7 ++ List.replicate 8 8

/-- The code lengths of distances in a block with the standard code. -/
def fixedDistances : List Nat := List.replicate 32 5

/-- The order in which the lengths of the code for code lengths are written. -/
def lengthOrder : List Nat := [16, 17, 18, 0, 8, 7, 9, 6, 10, 5, 11, 4, 12, 3, 13, 2, 14, 1, 15]

/-- Reads `count` code lengths, given those before them in reverse; symbols from 16 on repeat the
last length or write zeros. `fuel` bounds the number of symbols. -/
def codeLengths (code : CodeTree) (count : Nat) :
    Nat → List Nat → List Bool → Option (List Nat × List Bool)
  | 0, _, _ => none
  | fuel + 1, before, bits =>
    if count < before.length then none
    else if before.length = count then some (before.reverse, bits)
    else
      match code.read bits with
      | none => none
      | some (s, bits) =>
        if s < 16 then codeLengths code count fuel (s :: before) bits
        else
          let repeated (length least extra : Nat) : Option (List Nat × List Bool) :=
            match readNat extra bits with
            | none => none
            | some (v, bits) =>
              codeLengths code count fuel (List.replicate (least + v) length ++ before) bits
          if s = 16 then
            match before with
            | [] => none
            | length :: _ => repeated length 3 2
          else if s = 17 then repeated 0 3 3
          else repeated 0 11 7

/-- Reads the two codes of a block that brings its own. -/
def ownCodes (bits : List Bool) : Option ((CodeTree × CodeTree) × List Bool) := do
  let (literalCount, bits) ← readNat 5 bits
  let (distanceCount, bits) ← readNat 5 bits
  let (lengthCount, bits) ← readNat 4 bits
  let literalCount := literalCount + 257
  let distanceCount := distanceCount + 1
  if 286 < literalCount || 30 < distanceCount then none
  let (written, bits) ← readNats 3 (lengthCount + 4) bits
  let lengths := (List.range 19).map fun i =>
    ((lengthOrder.zip written).lookup i).getD 0
  let code ← CodeTree.ofLengths? lengths
  let count := literalCount + distanceCount
  let (all, bits) ← codeLengths code count (count + 1) [] bits
  let literals ← CodeTree.ofLengths? (all.take literalCount)
  let distances ← CodeTree.ofLengths? (all.drop literalCount)
  return ((literals, distances), bits)

/-- Reads a stored block: its length, the complement of it, and the bytes. -/
def stored (out : Array UInt8) (bits : List Bool) : Option (Array UInt8 × List Bool) := do
  let (length, bits) ← readNat 16 (align bits)
  let (complement, bits) ← readNat 16 bits
  if length + complement ≠ 0xFFFF then none
  let (bytes, bits) ← readNats 8 length bits
  return (out ++ (bytes.map UInt8.ofNat).toArray, bits)

/-- Reads one block after its final mark. -/
def block (out : Array UInt8) (bits : List Bool) : Option (Array UInt8 × List Bool) := do
  let (kind, bits) ← readNat 2 bits
  match kind with
  | 0 => stored out bits
  | 1 =>
    let literals ← CodeTree.ofLengths? fixedLiterals
    let distances ← CodeTree.ofLengths? fixedDistances
    symbols literals distances (bits.length + 1) out bits
  | 2 =>
    let ((literals, distances), bits) ← ownCodes bits
    symbols literals distances (bits.length + 1) out bits
  | _ => none

/-- Reads blocks up to the final one; `fuel` bounds their number. -/
def blocks : Nat → Array UInt8 → List Bool → Option (Array UInt8 × List Bool)
  | 0, _, _ => none
  | fuel + 1, out, bits =>
    match bits with
    | [] => none
    | final :: bits =>
      match block out bits with
      | none => none
      | some (out, bits) => if final then some (out, bits) else blocks fuel out bits

/-- Reads a whole stream; each block takes at least one bit. -/
def run (bits : List Bool) : Option (Array UInt8 × List Bool) := blocks (bits.length + 1) #[] bits

end Inflate

end RiggedScene
