import SessionRecorder.Proofs.Frames
import SessionRecorder.Proofs.LossyText
import SessionRecorder.Store.Client

/-!
Checked reads. `fieldLE` makes do with the octets that are there; a checked read fails where one is
missing. Every reader of what a store sends is written once more with checked reads, and never
fails: behind its length check it reads only what is there. At the end, what is read from the body
of an error answer.
-/

namespace SessionRecorder

open Bytes Wire

namespace Bytes

/-- The octets from `start` up to `stop`, where `bs` has them all. -/
def slice? (start stop : Nat) (bs : Bytes) : Option Bytes :=
  if start ≤ stop ∧ stop ≤ bs.length then some ((bs.drop start).take (stop - start)) else none

/-- As `fieldLE`, where all octets of the field are there. -/
def fieldLE? (offset width : Nat) (bs : Bytes) : Option Nat :=
  (slice? offset (offset + width) bs).map toNatLE

theorem slice?_eq_some_iff {start stop : Nat} {bs part : Bytes} :
    slice? start stop bs = some part ↔
      start ≤ stop ∧ stop ≤ bs.length ∧ (bs.drop start).take (stop - start) = part := by
  unfold slice?
  split
  · rename_i h
    rw [Option.some.injEq]
    exact ⟨fun hpart => ⟨h.1, h.2, hpart⟩, fun hpart => hpart.2.2⟩
  · rename_i h
    exact ⟨nofun, fun hpart => absurd ⟨hpart.1, hpart.2.1⟩ h⟩

theorem fieldLE?_eq_some_iff {offset width n : Nat} {bs : Bytes} :
    fieldLE? offset width bs = some n ↔
      offset + width ≤ bs.length ∧ fieldLE offset width bs = n := by
  simp only [fieldLE?, Option.map_eq_some_iff, slice?_eq_some_iff, Nat.le_add_right, true_and,
    Nat.add_sub_cancel_left]
  exact ⟨fun ⟨_, ⟨hlength, hpart⟩, hn⟩ => ⟨hlength, by rw [fieldLE, hpart, hn]⟩,
    fun ⟨hlength, hn⟩ => ⟨_, ⟨hlength, rfl⟩, hn⟩⟩

theorem fieldLE?_eq {offset width : Nat} {bs : Bytes} (h : offset + width ≤ bs.length) :
    fieldLE? offset width bs = some (fieldLE offset width bs) :=
  fieldLE?_eq_some_iff.2 ⟨h, rfl⟩

end Bytes

/-! ## The readers -/

def Wire.Header.decode? (data : Bytes) : Option (Except WireError Header) :=
  if data.length < headerSize then some (.error (.frameTooShort data.length headerSize))
  else do
    let payloadLength ← fieldLE? 0 4 data
    let messageType ← fieldLE? 4 2 data
    let flags ← fieldLE? 6 2 data
    let requestId ← fieldLE? 8 8 data
    return .ok ⟨.ofNat payloadLength, .ofNat messageType, .ofNat flags, .ofNat requestId⟩

/-- The detail ends where its length says or where the payload ends, whichever comes first. -/
def Wire.decodeError? (payload : Bytes) : Option (Option UInt32 × String) :=
  if payload.length < 8 then some (none, Text.lossy payload)
  else do
    let code ← fieldLE? 0 4 payload
    let length ← fieldLE? 4 4 payload
    let detail ← slice? 8 (min (8 + length) payload.length) payload
    return (some (.ofNat code), Text.lossy detail)

namespace Client

def contextHead? (type : MessageType) (answer : Bytes) : Option (Except StoreError ContextHead) :=
  match require type 20 answer with
  | .error e => some (.error e)
  | .ok octets => do
    let context ← fieldLE? 0 8 octets
    let head ← fieldLE? 8 8 octets
    let depth ← fieldLE? 16 4 octets
    return .ok ⟨.ofNat context, .ofNat head, .ofNat depth⟩

def turnHead? (answer : Bytes) : Option (Except StoreError TurnHead) :=
  match require .getHead 12 answer with
  | .error e => some (.error e)
  | .ok octets => do
    let turn ← fieldLE? 0 8 octets
    let depth ← fieldLE? 8 4 octets
    return .ok ⟨.ofNat turn, .ofNat depth⟩

/-- The session that the answer to a handshake names, if it is long enough to name one. -/
def sessionOf? (answer : Bytes) : Option (Option UInt64) :=
  if 8 ≤ answer.length then (fieldLE? 0 8 answer).map fun id => some (.ofNat id) else some none

end Client

theorem Wire.Header.decode?_eq (data : Bytes) :
    Header.decode? data = some (Header.decode data) := by
  unfold Header.decode? Header.decode
  split
  · rfl
  · rename_i hlength
    rw [headerSize, Nat.not_lt] at hlength
    simp (disch := omega) only [fieldLE?_eq]
    rfl

theorem Wire.decodeError?_eq (payload : Bytes) :
    decodeError? payload = some (decodeError payload) := by
  unfold decodeError? decodeError
  split
  · rfl
  · rename_i hlength
    rw [Nat.not_lt] at hlength
    have hdetail : slice? 8 (min (8 + fieldLE 4 4 payload) payload.length) payload =
        some ((payload.drop 8).take (fieldLE 4 4 payload)) := by
      refine slice?_eq_some_iff.2 ⟨by omega, by omega, ?_⟩
      -- The two ends differ only behind the end of the payload.
      rw [List.take_eq_take_iff, List.length_drop]
      omega
    simp (disch := omega) only [fieldLE?_eq, hdetail, Option.bind_eq_bind, Option.bind_some]
    rfl

namespace Client

/-- What has passed its length check has that length. -/
theorem length_of_require {type : MessageType} {need : Nat} {answer octets : Bytes}
    (h : require type need answer = .ok octets) : need ≤ octets.length := by
  unfold require at h
  split at h <;> cases h
  omega

theorem contextHead?_eq (type : MessageType) (answer : Bytes) :
    contextHead? type answer = some (contextHead type answer) := by
  unfold contextHead? contextHead
  cases hrequire : require type 20 answer with
  | error e => rfl
  | ok octets =>
    have hlength := length_of_require hrequire
    simp (disch := omega) only [fieldLE?_eq]
    rfl

theorem turnHead?_eq (answer : Bytes) : turnHead? answer = some (turnHead answer) := by
  unfold turnHead? turnHead
  cases hrequire : require .getHead 12 answer with
  | error e => rfl
  | ok octets =>
    have hlength := length_of_require hrequire
    simp (disch := omega) only [fieldLE?_eq]
    rfl

theorem sessionOf?_eq (answer : Bytes) : sessionOf? answer =
    some (if 8 ≤ answer.length then some (.ofNat (fieldLE 0 8 answer)) else none) := by
  unfold sessionOf?
  split
  · rename_i hlength
    rw [fieldLE?_eq (by omega), Option.map_some]
  · rfl

end Client

/-! ## Error answers -/

namespace Wire

/-- The body of an error answer that has a code: a length is read as far as there are octets for
it. -/
theorem decodeError_eq (code : UInt32) {n : Nat} (hn : n < 2 ^ 32) (octets : Bytes) :
    decodeError (ofNatLE 4 code.toNat ++ ofNatLE 4 n ++ octets) =
      (some code, Text.lossy (octets.take n)) := by
  have hlength : ¬ (ofNatLE 4 code.toNat ++ ofNatLE 4 n ++ octets).length < 8 := by
    simp only [List.length_append, length_ofNatLE]
    omega
  have hcode : fieldLE 0 4 (ofNatLE 4 code.toNat ++ ofNatLE 4 n ++ octets) = code.toNat := by
    rw [List.append_assoc]
    exact fieldLE_ofNatLE [] (ofNatLE 4 n ++ octets) rfl code.toNat_lt
  have hcount : fieldLE 4 4 (ofNatLE 4 code.toNat ++ ofNatLE 4 n ++ octets) = n := by
    rw [List.append_assoc]
    exact fieldLE_ofNatLE (ofNatLE 4 code.toNat) octets (length_ofNatLE ..) hn
  have hdetail : (ofNatLE 4 code.toNat ++ ofNatLE 4 n ++ octets).drop 8 = octets :=
    List.drop_left' (by simp only [List.length_append, length_ofNatLE])
  rw [decodeError, if_neg hlength, hcode, hcount, hdetail, UInt32.ofNat_toNat]

/-- The length of a detail leaves out what follows the detail. -/
theorem decodeError_detail (code : UInt32) {detail : String}
    (hdetail : (Text.utf8 detail).length < 2 ^ 32) (rest : Bytes) :
    decodeError (ofNatLE 4 code.toNat ++ ofNatLE 4 (Text.utf8 detail).length ++
      (Text.utf8 detail ++ rest)) = (some code, detail) := by
  rw [decodeError_eq code hdetail, List.take_left, Text.lossy_utf8]

/-- A length that runs past the end stands for all that there is. -/
theorem decodeError_clamped (code : UInt32) {n : Nat} (hn : n < 2 ^ 32) {octets : Bytes}
    (hoctets : octets.length ≤ n) :
    decodeError (ofNatLE 4 code.toNat ++ ofNatLE 4 n ++ octets) =
      (some code, Text.lossy octets) := by
  rw [decodeError_eq code hn, List.take_of_length_le hoctets]

theorem decodeError_short {octets : Bytes} (h : octets.length < 8) :
    decodeError octets = (none, Text.lossy octets) := by
  rw [decodeError, if_pos h]

end Wire

end SessionRecorder
