import RowAccess.Digest.Words

/-!
# SHA-256

The secure hash with a digest of thirty-two bytes (`length_digest`). The message is
padded to blocks of sixteen words; each block is expanded to sixty-four words and mixed
into a state of eight.
-/

namespace RowAccess.Digest.Sha256

/-- The state of the hash. -/
abbrev State := Vector UInt32 8

def initial : State := startWords

/-- The fractional parts of the cube roots of the first sixty-four primes. -/
def roundConstants : List UInt32 := [
  0x428a2f98, 0x71374491, 0xb5c0fbcf, 0xe9b5dba5, 0x3956c25b, 0x59f111f1, 0x923f82a4, 0xab1c5ed5,
  0xd807aa98, 0x12835b01, 0x243185be, 0x550c7dc3, 0x72be5d74, 0x80deb1fe, 0x9bdc06a7, 0xc19bf174,
  0xe49b69c1, 0xefbe4786, 0x0fc19dc6, 0x240ca1cc, 0x2de92c6f, 0x4a7484aa, 0x5cb0a9dc, 0x76f988da,
  0x983e5152, 0xa831c66d, 0xb00327c8, 0xbf597fc7, 0xc6e00bf3, 0xd5a79147, 0x06ca6351, 0x14292967,
  0x27b70a85, 0x2e1b2138, 0x4d2c6dfc, 0x53380d13, 0x650a7354, 0x766a0abb, 0x81c2c92e, 0x92722c85,
  0xa2bfe8a1, 0xa81a664b, 0xc24b8b70, 0xc76c51a3, 0xd192e819, 0xd6990624, 0xf40e3585, 0x106aa070,
  0x19a4c116, 0x1e376c08, 0x2748774c, 0x34b0bcb5, 0x391c0cb3, 0x4ed8aa4a, 0x5b9cca4f, 0x682e6ff3,
  0x748f82ee, 0x78a5636f, 0x84c87814, 0x8cc70208, 0x90befffa, 0xa4506ceb, 0xbef9a3f7, 0xc67178f2]

/-- The message, a one bit, zeros, and the length in bits as eight bytes: whole blocks. -/
def pad (message : List UInt8) : List UInt8 :=
  let bits := UInt64.ofNat (8 * message.length)
  let zeros := (119 - message.length % 64) % 64
  message ++ 0x80 :: List.replicate zeros (0 : UInt8) ++
    bigEndian (bits >>> 32).toUInt32 ++ bigEndian bits.toUInt32

/-- The words that follow sixteen words of the expanded block. -/
def expand : Nat → Vector UInt32 16 → List UInt32
  | 0, w => w.toList
  | n + 1, w =>
    let s0 := rotateRight w[1] 7 ^^^ rotateRight w[1] 18 ^^^ (w[1] >>> 3)
    let s1 := rotateRight w[14] 17 ^^^ rotateRight w[14] 19 ^^^ (w[14] >>> 10)
    let next := w[0] + s0 + w[9] + s1
    w[0] :: expand n (Vector.ofFn fun i => if h : i.val + 1 < 16 then w[i.val + 1] else next)

/-- One step: a word of the block and its constant. -/
def step (s : State) (constant word : UInt32) : State :=
  let e := s.get 4
  let a := s.get 0
  let choice := (e &&& s.get 5) ^^^ ((~~~e) &&& s.get 6)
  let majority := (a &&& s.get 1) ^^^ (a &&& s.get 2) ^^^ (s.get 1 &&& s.get 2)
  let t1 := s.get 7 + (rotateRight e 6 ^^^ rotateRight e 11 ^^^ rotateRight e 25) + choice +
    constant + word
  let t2 := (rotateRight a 2 ^^^ rotateRight a 13 ^^^ rotateRight a 22) + majority
  #v[t1 + t2, a, s.get 1, s.get 2, s.get 3 + t1, e, s.get 5, s.get 6]

/-- Mixes a block of sixty-four bytes into the state. -/
def compress (s : State) (block : List UInt8) : State :=
  let words := ((pieces 4 block).map ofBigEndian).toArray
  let first : Vector UInt32 16 := Vector.ofFn fun i => words.getD i.val 0
  let mixed := (roundConstants.zip (expand 48 first)).foldl (fun s cw => step s cw.1 cw.2) s
  s.zipWith (· + ·) mixed

/-- The digest of a message. -/
def digest (message : List UInt8) : List UInt8 :=
  ((pieces 64 (pad message)).foldl compress initial).toList.flatMap bigEndian

theorem length_digest (message : List UInt8) : (digest message).length = 32 := by
  have h : ∀ ws : List UInt32, (ws.flatMap bigEndian).length = 4 * ws.length := by
    intro ws
    induction ws with
    | nil => rfl
    | cons w rest ih =>
      simp only [List.flatMap_cons, List.length_append, length_bigEndian, ih, List.length_cons]
      omega
  simp [digest, h]

end RowAccess.Digest.Sha256
