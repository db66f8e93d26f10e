/-!
# Words of thirty-two bits

Rotation, the byte orders of a word, and the division of a message into pieces.
-/

namespace RowAccess.Digest

/-- The words that SHA-256 and BLAKE3 start from: the fractional parts of the square roots of
the first eight primes. -/
def startWords : Vector UInt32 8 :=
  #v[0x6a09e667, 0xbb67ae85, 0x3c6ef372, 0xa54ff53a, 0x510e527f, 0x9b05688c, 0x1f83d9ab, 0x5be0cd19]

def rotateRight (x n : UInt32) : UInt32 := (x >>> n) ||| (x <<< (32 - n))

/-- The bytes of a word, the lowest first. -/
def littleEndian (x : UInt32) : List UInt8 :=
  [x.toUInt8, (x >>> 8).toUInt8, (x >>> 16).toUInt8, (x >>> 24).toUInt8]

/-- The bytes of a word, the highest first. -/
def bigEndian (x : UInt32) : List UInt8 :=
  [(x >>> 24).toUInt8, (x >>> 16).toUInt8, (x >>> 8).toUInt8, x.toUInt8]

/-- The word whose bytes, the lowest first, are given; missing bytes are zero. -/
def ofLittleEndian (bytes : List UInt8) : UInt32 :=
  bytes.foldr (fun b x => (x <<< 8) ||| b.toUInt32) 0

/-- The word whose bytes, the highest first, are given. -/
def ofBigEndian (bytes : List UInt8) : UInt32 :=
  bytes.foldl (fun x b => (x <<< 8) ||| b.toUInt32) 0

/-- Pieces of `size` items, the last one perhaps shorter; at most `fuel` pieces. -/
def piecesUpTo {α : Type} (size : Nat) : Nat → List α → List (List α)
  | 0, _ => []
  | fuel + 1, xs =>
    if xs.isEmpty then [] else xs.take size :: piecesUpTo size fuel (xs.drop size)

/-- Pieces of `size` items, the last one perhaps shorter. -/
def pieces {α : Type} (size : Nat) (xs : List α) : List (List α) := piecesUpTo size xs.length xs

@[simp] theorem length_littleEndian (x : UInt32) : (littleEndian x).length = 4 := rfl

@[simp] theorem length_bigEndian (x : UInt32) : (bigEndian x).length = 4 := rfl

end RowAccess.Digest
