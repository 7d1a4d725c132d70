import SessionRecorder.Wire.Frame
import SessionRecorder.Digest.Blake3
import SessionRecorder.Digest.Sha256

/-!
The body of a request that appends a turn. All fields are little-endian:

context id (8), parent turn id (8), length of the type id (4), type id, type
version (4), encoding (4), compression (4), uncompressed length (4), content
digest (32), payload length (4), payload, length of the key (4), key (32).

Nothing is ever compressed, so both lengths are that of the payload.
-/

namespace SessionRecorder.Wire

open Bytes Digest

def encodingMsgpack : Nat := 1

def compressionNone : Nat := 0

def digestSize : Nat := 32

structure AppendRequest where
  contextId : UInt64
  /-- Zero appends behind the head. -/
  parentTurnId : UInt64
  typeId : String
  typeVersion : UInt32
  payload : Bytes
  contentHash : Hash
deriving DecidableEq

/-- The key by which a store recognises a repeated append: equal content in one
context has equal keys. -/
def idempotencyKey (contextId : UInt64) (contentHash : Hash) : Hash :=
  sha256 (ofNatLE 8 contextId.toNat ++ 0x3A :: contentHash.octets)

namespace AppendRequest

def ofPayload (contextId parentTurnId : UInt64) (typeId : String) (typeVersion : UInt32)
    (payload : Bytes) : AppendRequest :=
  ⟨contextId, parentTurnId, typeId, typeVersion, payload, blake3 payload⟩

def body (r : AppendRequest) : Bytes :=
  ofNatLE 8 r.contextId.toNat ++ ofNatLE 8 r.parentTurnId.toNat ++
    ofNatLE 4 (Text.utf8 r.typeId).length ++ Text.utf8 r.typeId ++
    ofNatLE 4 r.typeVersion.toNat ++ ofNatLE 4 encodingMsgpack ++ ofNatLE 4 compressionNone ++
    ofNatLE 4 r.payload.length ++ r.contentHash.octets ++
    ofNatLE 4 r.payload.length ++ r.payload ++
    ofNatLE 4 digestSize ++ (idempotencyKey r.contextId r.contentHash).octets

/-- The octets of the body, unless a length is too large for its field. -/
def encode (r : AppendRequest) : Except WireError Bytes :=
  let typeLength := (Text.utf8 r.typeId).length
  if 2 ^ 32 ≤ typeLength then .error (.lengthOverflow "type_id" typeLength)
  else if 2 ^ 32 ≤ r.payload.length then .error (.lengthOverflow "payload" r.payload.length)
  else .ok r.body

end AppendRequest

end SessionRecorder.Wire
