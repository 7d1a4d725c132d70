import SessionRecorder.Bytes.Basic

/-!
Digests, and octet strings as the blocks and 32-bit words that digests work on.
-/

namespace SessionRecorder.Digest

@[ext] structure Hash where
  octets : Bytes
  length_octets : octets.length = 32
deriving DecidableEq

/-- Consecutive blocks of `size` octets, the last one shorter if need be. The
first argument bounds their number. -/
def blocks (size : Nat) : Nat → Bytes → List Bytes
  | 0, _ => []
  | _, [] => []
  | fuel + 1, bs => bs.take size :: blocks size fuel (bs.drop size)

def rotateRight (x n : UInt32) : UInt32 := x >>> n ||| x <<< (32 - n)

def wordsLE : Bytes → List UInt32
  | b0 :: b1 :: b2 :: b3 :: rest =>
    (b0.toUInt32 ||| b1.toUInt32 <<< 8 ||| b2.toUInt32 <<< 16 ||| b3.toUInt32 <<< 24) ::
      wordsLE rest
  | _ => []

def wordsBE : Bytes → List UInt32
  | b0 :: b1 :: b2 :: b3 :: rest =>
    (b3.toUInt32 ||| b2.toUInt32 <<< 8 ||| b1.toUInt32 <<< 16 ||| b0.toUInt32 <<< 24) ::
      wordsBE rest
  | _ => []

def octetsLE (w : UInt32) : Bytes :=
  [w.toUInt8, (w >>> 8).toUInt8, (w >>> 16).toUInt8, (w >>> 24).toUInt8]

def octetsBE (w : UInt32) : Bytes := (octetsLE w).reverse

end SessionRecorder.Digest
