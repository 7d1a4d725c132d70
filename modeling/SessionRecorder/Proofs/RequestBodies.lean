import SessionRecorder.Proofs.Attribution

/-!
What requests say. The body of each is read field by field as its layout has them, and gives back
what it was written from, with no octet left: the version and the tag of a greeting, and the
arguments of a call (`message_of_body`).
-/

namespace SessionRecorder

open Bytes Wire

namespace Bytes

/-! ## Fields -/

/-- The number in the first `width` octets, and what follows it. -/
def number? (width : Nat) (bs : Bytes) : Option (Nat × Bytes) :=
  (split? width bs).map fun (field, rest) => (toNatLE field, rest)

/-- The octets behind their length, a number of `width` octets, and what follows them. -/
def block? (width : Nat) (bs : Bytes) : Option (Bytes × Bytes) :=
  (number? width bs).bind fun (length, rest) => split? length rest

/-- The text behind its length, and what follows it. -/
def text? (width : Nat) (bs : Bytes) : Option (String × Bytes) :=
  (block? width bs).bind fun (octets, rest) => (Text.ofUtf8? octets).map (·, rest)

theorem split?_left {front : Bytes} {n : Nat} (h : front.length = n) (rest : Bytes) :
    split? n (front ++ rest) = some (front, rest) :=
  h ▸ split?_append front rest

theorem number?_ofNatLE (width : Nat) {n : Nat} (h : n < 256 ^ width) (rest : Bytes) :
    number? width (ofNatLE width n ++ rest) = some (n, rest) := by
  simp only [number?, split?_left (length_ofNatLE width n), Option.map_some, toNatLE_ofNatLE,
    Nat.mod_eq_of_lt h]

theorem block?_append (width : Nat) {octets : Bytes} (h : octets.length < 256 ^ width)
    (rest : Bytes) :
    block? width (ofNatLE width octets.length ++ (octets ++ rest)) = some (octets, rest) := by
  simp only [block?, number?_ofNatLE width h, Option.bind_some, split?_append]

theorem text?_utf8 (width : Nat) {s : String} (h : (Text.utf8 s).length < 256 ^ width)
    (rest : Bytes) :
    text? width (ofNatLE width (Text.utf8 s).length ++ (Text.utf8 s ++ rest)) = some (s, rest) := by
  simp only [text?, block?_append width h, Option.bind_some, Text.ofUtf8?_utf8, Option.map_some]

end Bytes

/-! ## Bodies -/

namespace Wire

/-- What the body of a greeting holds. -/
structure Greeting where
  version : Nat
  tag : String
  /-- How many octets of further data it announces. -/
  further : Nat
deriving DecidableEq

def Greeting.read? (bs : Bytes) : Option Greeting := do
  let (version, bs) ← number? 2 bs
  let (tag, bs) ← text? 2 bs
  let (further, bs) ← number? 4 bs
  if bs = [] then some ⟨version, tag, further⟩ else none

/-- What the body of a request to append holds. -/
structure AppendFields where
  contextId : Nat
  parentTurnId : Nat
  typeId : String
  typeVersion : Nat
  encoding : Nat
  compression : Nat
  uncompressedLength : Nat
  contentHash : Bytes
  payload : Bytes
  key : Bytes
deriving DecidableEq

def AppendFields.read? (bs : Bytes) : Option AppendFields := do
  let (contextId, bs) ← number? 8 bs
  let (parentTurnId, bs) ← number? 8 bs
  let (typeId, bs) ← text? 4 bs
  let (typeVersion, bs) ← number? 4 bs
  let (encoding, bs) ← number? 4 bs
  let (compression, bs) ← number? 4 bs
  let (uncompressedLength, bs) ← number? 4 bs
  let (contentHash, bs) ← split? digestSize bs
  let (payload, bs) ← block? 4 bs
  let (key, bs) ← block? 4 bs
  if bs = [] then
    some ⟨contextId, parentTurnId, typeId, typeVersion, encoding, compression, uncompressedLength,
      contentHash, payload, key⟩
  else none

theorem MessageType.ofCode?_code (type : MessageType) : ofCode? type.code = some type := by
  cases type <;> rfl

/-- The one id that a body holds. -/
def readId? (bs : Bytes) : Option UInt64 := do
  let (id, bs) ← number? 8 bs
  if bs = [] then some (.ofNat id) else none

theorem readId?_ofNatLE (id : UInt64) : readId? (ofNatLE 8 id.toNat) = some id := by
  have hread := number?_ofNatLE 8 id.toNat_lt []
  rw [List.append_nil] at hread
  simp [readId?, hread]

theorem Greeting.read?_of_handshake {tag : String} {body : Bytes} (h : handshake tag = .ok body) :
    Greeting.read? body = some ⟨protocolVersion.toNat, tag, 0⟩ := by
  unfold handshake at h
  simp only at h
  split at h
  · rename_i hlength
    cases h
    simp only [List.append_assoc]
    have hfurther := number?_ofNatLE 4 (n := 0) (by decide) []
    rw [List.append_nil] at hfurther
    simp only [Greeting.read?, number?_ofNatLE 2 protocolVersion.toNat_lt,
      text?_utf8 2 hlength, hfurther, Option.bind_eq_bind, Option.bind_some, ↓reduceIte]
  · cases h

/-- What the layout of a request to append has in its fields. -/
def AppendRequest.fields (r : AppendRequest) : AppendFields where
  contextId := r.contextId.toNat
  parentTurnId := r.parentTurnId.toNat
  typeId := r.typeId
  typeVersion := r.typeVersion.toNat
  encoding := encodingMsgpack
  compression := compressionNone
  uncompressedLength := r.payload.length
  contentHash := r.contentHash.octets
  payload := r.payload
  key := (idempotencyKey r.contextId r.contentHash).octets

theorem AppendFields.read?_of_encode {r : AppendRequest} {body : Bytes}
    (h : r.encode = .ok body) : AppendFields.read? body = some r.fields := by
  unfold AppendRequest.encode at h
  simp only at h
  split at h
  · cases h
  · split at h
    · cases h
    · rename_i htype hpayload
      rw [Nat.not_le] at htype hpayload
      cases h
      have hkey : (idempotencyKey r.contextId r.contentHash).octets.length = digestSize :=
        (idempotencyKey r.contextId r.contentHash).length_octets
      have hsmall : (idempotencyKey r.contextId r.contentHash).octets.length < 256 ^ 4 := by
        rw [hkey]
        decide
      have hlast := block?_append 4 hsmall []
      rw [hkey, List.append_nil] at hlast
      simp only [AppendRequest.body, List.append_assoc]
      simp only [AppendFields.read?, number?_ofNatLE 8 r.contextId.toNat_lt,
        number?_ofNatLE 8 r.parentTurnId.toNat_lt, text?_utf8 4 htype,
        number?_ofNatLE 4 r.typeVersion.toNat_lt,
        number?_ofNatLE 4 (n := encodingMsgpack) (by decide),
        number?_ofNatLE 4 (n := compressionNone) (by decide),
        number?_ofNatLE 4 hpayload,
        split?_left (n := digestSize) r.contentHash.length_octets, block?_append 4 hpayload,
        hlast, Option.bind_eq_bind, Option.bind_some, ↓reduceIte]
      rfl

end Wire

/-! ## Messages -/

/-- What a frame says to the one who reads it. -/
inductive Message where
  | greeting (g : Greeting)
  | request (call : StoreCall)
deriving DecidableEq

/-- The frame as it is read by its type. -/
def Message.ofFrame? (f : Frame) : Option Message :=
  match MessageType.ofCode? f.messageType with
  | some .hello => (Greeting.read? f.payload).map .greeting
  | some .createContext => (readId? f.payload).map (.request <| .create ·)
  | some .forkContext => (readId? f.payload).map (.request <| .fork ·)
  | some .getHead => (readId? f.payload).map (.request <| .head ·)
  | some .appendTurn => (AppendFields.read? f.payload).map fun r =>
    .request (.append (.ofNat r.parentTurnId)
      ⟨.ofNat r.contextId, ⟨r.typeId, .ofNat r.typeVersion⟩, r.payload⟩)
  | some .error | none => none

/-- What a call has to say to the store. -/
def StoreCall.message? (config : ClientConfig) : StoreCall → Option Message
  | .connect => some (.greeting ⟨protocolVersion.toNat, config.tag, 0⟩)
  | .close => none
  | call => some (.request call)

/-- The request of a call is read as what the call has to say. -/
theorem Message.ofFrame?_of_body {config : ClientConfig} {call : StoreCall} {type : MessageType}
    {body : Bytes} (htype : call.type? = some type) (hbody : call.body config = .ok body)
    (flags : UInt16) (id : UInt64) :
    Message.ofFrame? ⟨type.code, flags, id, body⟩ = call.message? config := by
  unfold ofFrame?
  simp only [MessageType.ofCode?_code]
  cases call with
  | close => cases htype
  | connect =>
    cases htype
    simp only [Greeting.read?_of_handshake hbody, Option.map_some, StoreCall.message?]
  | create base | fork base | head base =>
    cases htype
    cases hbody
    simp only [readId?_ofNatLE, Option.map_some, StoreCall.message?]
  | append parent d =>
    cases htype
    simp only [AppendFields.read?_of_encode hbody, Option.map_some, AppendRequest.fields,
      AppendRequest.ofPayload, UInt64.ofNat_toNat, UInt32.ofNat_toNat, StoreCall.message?]

/-- The frame is the request of a call, and is read as what the call has to say. -/
structure Wire.Frame.Asks (config : ClientConfig) (call : StoreCall) (f : Frame) : Prop where
  flags : f.flags = 0
  type : call.type?.map MessageType.code = some f.messageType
  message : Message.ofFrame? f = call.message? config

theorem Wire.Frame.asks_of_body {config : ClientConfig} {call : StoreCall} {type : MessageType}
    {body : Bytes} (htype : call.type? = some type) (hbody : call.body config = .ok body)
    (id : UInt64) : Frame.Asks config call ⟨type.code, 0, id, body⟩ :=
  ⟨rfl, by rw [htype]; rfl, Message.ofFrame?_of_body htype hbody 0 id⟩

end SessionRecorder
