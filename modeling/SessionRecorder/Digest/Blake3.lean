import SessionRecorder.Digest.Words

/-!
The digest BLAKE3 without a key: chunks of 1024 octets are hashed alone and
joined by a binary tree whose left parts are complete.
-/

namespace SessionRecorder.Digest

namespace Blake3

/-- Four words, on which one step works side by side. -/
structure Row where
  (a b c d : UInt32)

namespace Row

def zipWith (f : UInt32 → UInt32 → UInt32) (x y : Row) : Row :=
  ⟨f x.a y.a, f x.b y.b, f x.c y.c, f x.d y.d⟩

def add : Row → Row → Row := zipWith (· + ·)

def xor : Row → Row → Row := zipWith (· ^^^ ·)

def rotate (n : UInt32) (x : Row) : Row :=
  ⟨rotateRight x.a n, rotateRight x.b n, rotateRight x.c n, rotateRight x.d n⟩

def left (x : Row) : Row := ⟨x.b, x.c, x.d, x.a⟩

def toList (x : Row) : List UInt32 := [x.a, x.b, x.c, x.d]

end Row

structure Square where
  (r0 r1 r2 r3 : Row)

/-- Mixes the columns with two message words each. -/
def mix (s : Square) (x y : Row) : Square :=
  let a := (s.r0.add s.r1).add x
  let d := (s.r3.xor a).rotate 16
  let c := s.r2.add d
  let b := (s.r1.xor c).rotate 12
  let a := (a.add b).add y
  let d := (d.xor a).rotate 8
  let c := c.add d
  let b := (b.xor c).rotate 7
  ⟨a, b, c, d⟩

def toDiagonal (s : Square) : Square := ⟨s.r0, s.r1.left, s.r2.left.left, s.r3.left.left.left⟩

def ofDiagonal (s : Square) : Square := ⟨s.r0, s.r1.left.left.left, s.r2.left.left, s.r3.left⟩

/-- One round over sixteen message words: columns, then diagonals. -/
def round (s : Square) : List UInt32 → Square
  | [m0, m1, m2, m3, m4, m5, m6, m7, m8, m9, m10, m11, m12, m13, m14, m15] =>
    let s := mix s ⟨m0, m2, m4, m6⟩ ⟨m1, m3, m5, m7⟩
    ofDiagonal (mix (toDiagonal s) ⟨m8, m10, m12, m14⟩ ⟨m9, m11, m13, m15⟩)
  | _ => s

/-- The order in which the next round takes the message words. -/
def permute : List UInt32 → List UInt32
  | [m0, m1, m2, m3, m4, m5, m6, m7, m8, m9, m10, m11, m12, m13, m14, m15] =>
    [m2, m6, m3, m10, m7, m0, m4, m13, m1, m11, m12, m5, m9, m14, m15, m8]
  | ms => ms

def rounds : Nat → Square → List UInt32 → Square
  | 0, s, _ => s
  | n + 1, s, ms => rounds n (round s ms) (permute ms)

def startLow : Row := ⟨0x6a09e667, 0xbb67ae85, 0x3c6ef372, 0xa54ff53a⟩

def startHigh : Row := ⟨0x510e527f, 0x9b05688c, 0x1f83d9ab, 0x5be0cd19⟩

/-- Eight words that stand for what was hashed so far. -/
structure Chain where
  (low high : Row)

def startChain : Chain := ⟨startLow, startHigh⟩

def chunkStart : UInt32 := 1
def chunkEnd : UInt32 := 2
def parent : UInt32 := 4
def root : UInt32 := 8

/-- One block that waits to be compressed. -/
structure Node where
  chain : Chain
  words : List UInt32
  counter : Nat
  length : UInt32
  flags : UInt32

def Node.compress (n : Node) (extra : UInt32) : Chain :=
  let s : Square := ⟨n.chain.low, n.chain.high, startLow, 
    ⟨UInt32.ofNat n.counter, UInt32.ofNat (n.counter / 2 ^ 32), n.length, n.flags ||| extra⟩⟩
  let s := rounds 7 s n.words
  ⟨s.r0.xor s.r2, s.r1.xor s.r3⟩

def blockWords (block : Bytes) : List UInt32 :=
  wordsLE (block ++ List.replicate (64 - block.length) 0)

/-- The last block of a chunk, the blocks before it compressed. -/
def chunkNode (counter : Nat) : Chain → UInt32 → List Bytes → Node
  | chain, first, [] => ⟨chain, blockWords [], counter, 0, first ||| chunkEnd⟩
  | chain, first, [block] =>
    ⟨chain, blockWords block, counter, UInt32.ofNat block.length, first ||| chunkEnd⟩
  | chain, first, block :: rest =>
    let node : Node := ⟨chain, blockWords block, counter, UInt32.ofNat block.length, first⟩
    chunkNode counter (node.compress 0) 0 rest

def parentNode (left right : Node) : Node :=
  let l := left.compress 0
  let r := right.compress 0
  ⟨startChain, l.low.toList ++ l.high.toList ++ r.low.toList ++ r.high.toList, 0, 64, parent⟩

/-- Joins neighbours two by two; a last one without neighbour stays. -/
def joinPairs : List Node → List Node
  | left :: right :: rest => parentNode left right :: joinPairs rest
  | nodes => nodes

/-- Joins a first node and the others, level by level, until one is left. -/
def joinAll : Nat → Node → List Node → Node
  | fuel + 1, first, second :: rest => joinAll fuel (parentNode first second) (joinPairs rest)
  | _, first, _ => first

def nodeOf (place : Nat) (chunk : Bytes) : Node :=
  chunkNode place startChain chunkStart (blocks 64 16 chunk)

def top (message : Bytes) : Node :=
  let count := message.length / 1024
  let rest := (blocks 1024 count (message.drop 1024)).mapIdx fun i chunk => nodeOf (i + 1) chunk
  joinAll count (nodeOf 0 (message.take 1024)) rest

end Blake3

open Blake3 in
def blake3 (message : Bytes) : Hash :=
  let chain := (top message).compress root
  ⟨(chain.low.toList ++ chain.high.toList).flatMap octetsLE, rfl⟩

end SessionRecorder.Digest
