import SessionRecorder.Json.Decode
import SessionRecorder.Duration
import SessionRecorder.Text.Blank

/-!
The settings of a mounted recorder, their defaults, and their form as JSON.
-/

namespace SessionRecorder

/-- How the base, debug and raw variants of an event are reduced to one. -/
inductive DedupMode where
  /-- The richest known variant, decided once. -/
  | precomputed
  /-- Each variant richer than those seen in the cycle. -/
  | highWaterMark
deriving DecidableEq

namespace DedupMode

def variants : List (String × DedupMode) := [
  ("preComputed", precomputed), ("pre_computed", precomputed), ("precomputed", precomputed),
  ("highWaterMark", highWaterMark), ("high_water_mark", highWaterMark), ("hwm", highWaterMark)]

def name : DedupMode → String
  | precomputed => "precomputed"
  | highWaterMark => "highWaterMark"

def title : DedupMode → String
  | precomputed => "Precomputed"
  | highWaterMark => "HighWaterMark"

end DedupMode

inductive RecordShape where
  /-- A flat envelope under a type of its own. -/
  | envelope
  /-- A conversation item around the envelope. -/
  | conversationItem
deriving DecidableEq

namespace RecordShape

def variants : List (String × RecordShape) := [
  ("envelope", envelope),
  ("conversationItem", conversationItem), ("conversation_item", conversationItem)]

def name : RecordShape → String
  | envelope => "envelope"
  | conversationItem => "conversationItem"

def title : RecordShape → String
  | envelope => "Envelope"
  | conversationItem => "ConversationItem"

end RecordShape

structure Settings where
  /-- The host of the store; blank turns the recorder off. -/
  host : String := ""
  port : UInt16 := 9009
  /-- The port that the type registry is published to. -/
  httpPort : UInt16 := 80
  connectTimeout : Double := .ofInt 5
  /-- The limit of one request, in seconds. -/
  flushTimeout : Double := .ofInt 5
  bufferSize : UInt64 := 1000
  priority : Int32 := 100
  /-- Names and patterns of events that are left out. -/
  excludeEvents : List String := []
  additionalEvents : List String := []
  dedupMode : DedupMode := .precomputed
  recordShape : RecordShape := .envelope
  publishRegistry : Bool := true
  clientTag : Option String := none
deriving DecidableEq

namespace Settings

instance : Inhabited Settings := ⟨{}⟩

/-- The fields of the JSON form, in the order of declaration. -/
def fields : List (Json.FieldReader Settings) := [
  ⟨"cxdbHost", fun v s => do
    let x ← Json.readString v
    .ok { s with host := x }⟩,
  ⟨"cxdbPort", fun v s => do
    let n ← Json.readInt 0 65535 "u16" v
    .ok { s with port := UInt16.ofNat n.toNat }⟩,
  ⟨"cxdbHttpPort", fun v s => do
    let n ← Json.readInt 0 65535 "u16" v
    .ok { s with httpPort := UInt16.ofNat n.toNat }⟩,
  ⟨"connectTimeoutSeconds", fun v s => do
    let x ← Json.readDouble v
    .ok { s with connectTimeout := x }⟩,
  ⟨"flushTimeoutSeconds", fun v s => do
    let x ← Json.readDouble v
    .ok { s with flushTimeout := x }⟩,
  ⟨"bufferSize", fun v s => do
    let n ← Json.readInt 0 18446744073709551615 "usize" v
    .ok { s with bufferSize := UInt64.ofNat n.toNat }⟩,
  ⟨"priority", fun v s => do
    let n ← Json.readInt (-2147483648) 2147483647 "i32" v
    .ok { s with priority := Int32.ofInt n }⟩,
  ⟨"excludeEvents", fun v s => do
    let xs ← Json.readStrings v
    .ok { s with excludeEvents := xs }⟩,
  ⟨"additionalEvents", fun v s => do
    let xs ← Json.readStrings v
    .ok { s with additionalEvents := xs }⟩,
  ⟨"dedupMode", fun v s => do
    let x ← Json.readVariant DedupMode.variants v
    .ok { s with dedupMode := x }⟩,
  ⟨"eventRecordShape", fun v s => do
    let x ← Json.readVariant RecordShape.variants v
    .ok { s with recordShape := x }⟩,
  ⟨"publishRegistry", fun v s => do
    let b ← Json.readBool v
    .ok { s with publishRegistry := b }⟩,
  ⟨"clientTag", fun v s => do
    let x ← Json.readOption Json.readString v
    .ok { s with clientTag := x }⟩]

/-- The settings that JSON data gives; what it leaves out has its default. -/
def ofJson (data : Json) : Except Json.DecodeError Settings :=
  Json.readRecord "CxdbHookSettings" fields {} data

private def jsonStrings (xs : List String) : Json := .array (xs.map .string)

/-- The JSON form; a client tag that is not set is left out. -/
def toJson (s : Settings) : Json := .object <|
  [("additionalEvents", jsonStrings s.additionalEvents),
   ("bufferSize", .int (.ofUInt64 s.bufferSize))] ++
  (s.clientTag.map fun tag => ("clientTag", Json.string tag)).toList ++
  [("connectTimeoutSeconds", .double s.connectTimeout),
   ("cxdbHost", .string s.host),
   ("cxdbHttpPort", .int (.ofUInt64 s.httpPort.toUInt64)),
   ("cxdbPort", .int (.ofUInt64 s.port.toUInt64)),
   ("dedupMode", .string s.dedupMode.name),
   ("eventRecordShape", .string s.recordShape.name),
   ("excludeEvents", jsonStrings s.excludeEvents),
   ("flushTimeoutSeconds", .double s.flushTimeout),
   ("priority", .int (.ofInt64 s.priority.toInt64)),
   ("publishRegistry", .bool s.publishRegistry)]

def isEnabled (s : Settings) : Bool := (Text.trim s.host) != ""

/-- A number of seconds as a span; five seconds if it is none or not above zero. -/
def timeout (seconds : Double) : Duration :=
  match Duration.ofDouble? seconds with
  | some d => if d.nanoseconds = 0 then .ofSeconds 5 else d
  | none => .ofSeconds 5

end Settings

end SessionRecorder
