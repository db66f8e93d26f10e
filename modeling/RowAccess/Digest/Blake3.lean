import RowAccess.Digest.Words

/-!
# BLAKE3

The hash with a digest of thirty-two bytes (`length_digest`). The message is cut into
chunks of sixteen blocks; the chunks are the leaves of a binary tree whose left subtrees
are full. A node is kept before its last compression, because the root is compressed with
a flag of its own.
-/

namespace RowAccess.Digest.Blake3

/-- Eight words that a node passes on. -/
abbrev Chain := Vector UInt32 8

/-- The sixteen words of a compression. -/
abbrev Block := Vector UInt32 16

def initial : Chain := startWords

/-! ## Flags -/

def chunkStart : UInt32 := 1

def chunkEnd : UInt32 := 2

def parentFlag : UInt32 := 4

def rootFlag : UInt32 := 8

/-! ## Compression -/

/-- Mixes two words of the message into four words of the state. -/
def mix (v : Block) (a b c d : Fin 16) (x y : UInt32) : Block :=
  let a1 := v[a] + v[b] + x
  let d1 := rotateRight (v[d] ^^^ a1) 16
  let c1 := v[c] + d1
  let b1 := rotateRight (v[b] ^^^ c1) 12
  let a2 := a1 + b1 + y
  let d2 := rotateRight (d1 ^^^ a2) 8
  let c2 := c1 + d2
  let b2 := rotateRight (b1 ^^^ c2) 7
  (((v.set a a2).set b b2).set c c2).set d d2

/-- Mixes the whole message once: the columns of the state, then its diagonals. -/
def round (v m : Block) : Block :=
  let v := mix v 0 4 8 12 m[0] m[1]
  let v := mix v 1 5 9 13 m[2] m[3]
  let v := mix v 2 6 10 14 m[4] m[5]
  let v := mix v 3 7 11 15 m[6] m[7]
  let v := mix v 0 5 10 15 m[8] m[9]
  let v := mix v 1 6 11 12 m[10] m[11]
  let v := mix v 2 7 8 13 m[12] m[13]
  mix v 3 4 9 14 m[14] m[15]

/-- The order of the message words in the next round. -/
def permute (m : Block) : Block :=
  #v[m[2], m[6], m[3], m[10], m[7], m[0], m[4], m[13],
     m[1], m[11], m[12], m[5], m[9], m[14], m[15], m[8]]

/-- A number of rounds, the message permuted between them. -/
def rounds : Nat → Block → Block → Block
  | 0, v, _ => v
  | n + 1, v, m => rounds n (round v m) (permute m)

/-- A node of the tree before its compression. -/
structure Node where
  chain : Chain
  words : Block
  counter : UInt64
  length : UInt32
  flags : UInt32

/-- The eight words that the compression of a node gives. -/
def Node.compress (n : Node) (extra : UInt32) : Chain :=
  let v : Block :=
    #v[n.chain[0], n.chain[1], n.chain[2], n.chain[3],
       n.chain[4], n.chain[5], n.chain[6], n.chain[7],
       initial[0], initial[1], initial[2], initial[3],
       n.counter.toUInt32, (n.counter >>> 32).toUInt32, n.length, n.flags ||| extra]
  let w := rounds 7 v n.words
  Vector.ofFn fun i => w[i.val] ^^^ w[i.val + 8]

/-! ## The tree -/

/-- The words of a block of at most sixty-four bytes, filled up with zeros. -/
def blockWords (bytes : List UInt8) : Block :=
  let words := ((pieces 4 bytes).map ofLittleEndian).toArray
  Vector.ofFn fun i => words.getD i.val 0

/-- The node of the last block, the blocks before it compressed one into the next. -/
def chunkNode (counter : UInt64) (chain : Chain) (start : UInt32) :
    List UInt8 → List (List UInt8) → Node
  | last, [] =>
    ⟨chain, blockWords last, counter, UInt32.ofNat last.length, start ||| chunkEnd⟩
  | block, next :: rest =>
    let node : Node := ⟨chain, blockWords block, counter, UInt32.ofNat block.length, start⟩
    chunkNode counter (node.compress 0) 0 next rest

/-- The leaf of a chunk of at most 1024 bytes. -/
def leaf (index : Nat) (chunk : List UInt8) : Node :=
  match pieces 64 chunk with
  | [] => chunkNode (UInt64.ofNat index) initial chunkStart [] []
  | block :: rest => chunkNode (UInt64.ofNat index) initial chunkStart block rest

/-- The node over two subtrees. -/
def parent (left right : Node) : Node :=
  let l := left.compress 0
  let r := right.compress 0
  ⟨initial, Vector.ofFn fun i => if h : i.val < 8 then l[i.val] else r[i.val - 8], 0, 64,
    parentFlag⟩

/-- Joins neighbours; a node without one waits for the next level. -/
def joinPairs : List Node → List Node
  | a :: b :: rest => parent a b :: joinPairs rest
  | rest => rest

/-- Joins level after level until one node is left. -/
def root : Nat → List Node → Node
  | _, [] => leaf 0 []
  | _, [n] => n
  | 0, n :: _ => n
  | fuel + 1, ns => root fuel (joinPairs ns)

/-- The digest of a message. -/
def digest (message : List UInt8) : List UInt8 :=
  let leaves := (pieces 1024 message).zipIdx.map fun c => leaf c.2 c.1
  ((root leaves.length leaves).compress rootFlag).toList.flatMap littleEndian

theorem length_digest (message : List UInt8) : (digest message).length = 32 := by
  have h : ∀ ws : List UInt32, (ws.flatMap littleEndian).length = 4 * ws.length := by
    intro ws
    induction ws with
    | nil => rfl
    | cons w rest ih =>
      simp only [List.flatMap_cons, List.length_append, length_littleEndian, ih, List.length_cons]
      omega
  simp [digest, h]

end RowAccess.Digest.Blake3
