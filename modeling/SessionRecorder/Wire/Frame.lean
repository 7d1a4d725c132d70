import SessionRecorder.Bytes.Basic
import SessionRecorder.Text.Utf8
import SessionRecorder.Wire.Error

/-!
Frames: a header of sixteen octets with little-endian fields, then the payload.

| offset | size | field          |
|--------|------|----------------|
| 0      | 4    | payload length |
| 4      | 2    | message type   |
| 6      | 2    | flags          |
| 8      | 8    | request id     |
-/

namespace SessionRecorder.Wire

open Bytes

def headerSize : Nat := 16

/-- The largest payload that a reader of answers accepts. -/
def maxPayload : Nat := 64 * 1024 * 1024

def protocolVersion : UInt16 := 1

inductive MessageType where
  | hello
  | createContext
  | forkContext
  | getHead
  | appendTurn
  | error
deriving DecidableEq

namespace MessageType

def code : MessageType → UInt16
  | hello => 1
  | createContext => 2
  | forkContext => 3
  | getHead => 4
  | appendTurn => 5
  | error => 255

def name : MessageType → String
  | hello => "HELLO"
  | createContext => "CTX_CREATE"
  | forkContext => "CTX_FORK"
  | getHead => "GET_HEAD"
  | appendTurn => "APPEND_TURN"
  | error => "ERROR"

def all : List MessageType := [hello, createContext, forkContext, getHead, appendTurn, error]

def ofCode? (n : UInt16) : Option MessageType := all.find? (·.code = n)

def nameOf (n : UInt16) : String := ((ofCode? n).map name).getD "UNKNOWN"

end MessageType

structure Header where
  payloadLength : UInt32
  messageType : UInt16
  flags : UInt16
  requestId : UInt64
deriving DecidableEq

namespace Header

def encode (h : Header) : Bytes :=
  ofNatLE 4 h.payloadLength.toNat ++ ofNatLE 2 h.messageType.toNat ++
    ofNatLE 2 h.flags.toNat ++ ofNatLE 8 h.requestId.toNat

def decode (data : Bytes) : Except WireError Header :=
  if data.length < headerSize then .error (.frameTooShort data.length headerSize)
  else .ok {
    payloadLength := UInt32.ofNat (fieldLE 0 4 data)
    messageType := UInt16.ofNat (fieldLE 4 2 data)
    flags := UInt16.ofNat (fieldLE 6 2 data)
    requestId := UInt64.ofNat (fieldLE 8 8 data) }

end Header

structure Frame where
  messageType : UInt16
  flags : UInt16
  requestId : UInt64
  payload : Bytes
deriving DecidableEq

namespace Frame

/-- Header and payload. The length field holds the length modulo 2^32. -/
def encode (f : Frame) : Bytes :=
  Header.encode ⟨UInt32.ofNat f.payload.length, f.messageType, f.flags, f.requestId⟩ ++ f.payload

/-- As `encode`, but refuses a payload whose length the header cannot hold. -/
def encode? (f : Frame) : Except WireError Bytes :=
  if f.payload.length < 2 ^ 32 then .ok f.encode
  else .error (.lengthOverflow "payload" f.payload.length)

/-- The frame at the start of the octets; what follows it is ignored. -/
def decode (data : Bytes) : Except WireError Frame := do
  let h ← Header.decode data
  let expected := h.payloadLength.toNat
  let got := data.length - headerSize
  if got < expected then .error (.incompletePayload got expected)
  else .ok ⟨h.messageType, h.flags, h.requestId, (data.drop headerSize).take expected⟩

end Frame

/-- The code and the detail of an error answer: a code, the length of the detail
and the detail, which ends at the payload's end at the latest. A payload too
short for code and length is a detail without a code. -/
def decodeError (payload : Bytes) : Option UInt32 × String :=
  if payload.length < 8 then (none, Text.lossy payload)
  else
    (some (UInt32.ofNat (fieldLE 0 4 payload)),
      Text.lossy ((payload.drop 8).take (fieldLE 4 4 payload)))

end SessionRecorder.Wire
