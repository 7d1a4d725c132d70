import SessionRecorder.Msgpack.Basic

/-!
MessagePack values read from octets. Every form of a number or a length is
accepted, and strings need not be UTF-8. How deep values may nest is bounded by
a budget: a value costs one, and what its body costs adds along the nesting.
-/

namespace SessionRecorder.Msgpack

open Bytes Text

inductive ReadError where
  /-- The octets end where a marker is due. -/
  | marker
  /-- The octets end inside a number, a length or the type of an extension. -/
  | field
  | body (expected got : Nat)
  | depth
deriving DecidableEq

def ReadError.message : ReadError → String
  | .marker => "I/O error while reading marker byte: failed to fill whole buffer"
  | .field => "I/O error while reading non-marker bytes: failed to fill whole buffer"
  | .body expected got =>
    s!"I/O error while reading non-marker bytes: Expected {expected} bytes, read {got} bytes"
  | .depth => "depth limit exceeded"

/-- The first octet of a value: what follows it. Widths are in octets. -/
inductive Marker where
  | nil
  | bool (b : Bool)
  | fixInt (n : Int)
  | uint (width : Nat)
  | sint (width : Nat)
  | float32
  | float64
  | fixStr (length : Nat)
  | str (width : Nat)
  | bin (width : Nat)
  | fixArray (length : Nat)
  | array (width : Nat)
  | fixMap (length : Nat)
  | map (width : Nat)
  | fixExt (length : Nat)
  | ext (width : Nat)

/-- The marker of an octet. The reserved octet C1 reads as nil. -/
def Marker.ofByte (b : UInt8) : Marker :=
  let n := b.toNat
  if n < 0x80 then .fixInt n
  else if n < 0x90 then .fixMap (n - 0x80)
  else if n < 0xA0 then .fixArray (n - 0x90)
  else if n < 0xC0 then .fixStr (n - 0xA0)
  else if 0xE0 ≤ n then .fixInt (n - 0x100)
  else match n with
    | 0xC2 => .bool false
    | 0xC3 => .bool true
    | 0xC4 => .bin 1
    | 0xC5 => .bin 2
    | 0xC6 => .bin 4
    | 0xC7 => .ext 1
    | 0xC8 => .ext 2
    | 0xC9 => .ext 4
    | 0xCA => .float32
    | 0xCB => .float64
    | 0xCC => .uint 1
    | 0xCD => .uint 2
    | 0xCE => .uint 4
    | 0xCF => .uint 8
    | 0xD0 => .sint 1
    | 0xD1 => .sint 2
    | 0xD2 => .sint 4
    | 0xD3 => .sint 8
    | 0xD4 => .fixExt 1
    | 0xD5 => .fixExt 2
    | 0xD6 => .fixExt 4
    | 0xD7 => .fixExt 8
    | 0xD8 => .fixExt 16
    | 0xD9 => .str 1
    | 0xDA => .str 2
    | 0xDB => .str 4
    | 0xDC => .array 2
    | 0xDD => .array 4
    | 0xDE => .map 2
    | 0xDF => .map 4
    | _ => .nil

/-- An unsigned field, most significant octet first. -/
def readField (width : Nat) (bs : Bytes) : Except ReadError (Nat × Bytes) :=
  match split? width bs with
  | some (front, rest) => .ok (toNatBE front, rest)
  | none => .error .field

def readBody (length : Nat) (bs : Bytes) : Except ReadError (Bytes × Bytes) :=
  match split? length bs with
  | some (front, rest) => .ok (front, rest)
  | none => .error (.body length bs.length)

/-- The number that `n`, a field of `width` octets, stands for with a sign. -/
def signed (width n : Nat) : Int :=
  if n < 2 ^ (8 * width - 1) then n else n - 2 ^ (8 * width)

/-- A whole number as a value; fields of at most eight octets always fit. -/
def ofInt (n : Int) : Msgpack := .int ((WordInt.ofInt? n).getD default)

/-- A string, if its octets are UTF-8. -/
def ofStrBytes (bytes : Bytes) : Msgpack :=
  match ofUtf8? bytes with
  | some s => .str s
  | none => .badStr bytes

/-- The body of a string. Besides the value it costs two. -/
def readStr (budget length : Nat) (bs : Bytes) : Except ReadError (Msgpack × Bytes) :=
  if budget < 2 then .error .depth
  else do
    let (bytes, rest) ← readBody length bs
    .ok (ofStrBytes bytes, rest)

/-- The body of binary data. Besides the value it costs one. -/
def readBin (budget length : Nat) (bs : Bytes) : Except ReadError (Msgpack × Bytes) :=
  if budget < 1 then .error .depth
  else do
    let (bytes, rest) ← readBody length bs
    .ok (.bin bytes, rest)

/-- The type and the body of an extension. Besides the value they cost two. -/
def readExt (budget length : Nat) (bs : Bytes) : Except ReadError (Msgpack × Bytes) :=
  if budget < 1 then .error .depth
  else do
    let (type, rest) ← readField 1 bs
    if budget < 2 then .error .depth
    else do
      let (bytes, rest) ← readBody length rest
      .ok (.ext (UInt8.ofNat type).toInt8 bytes, rest)

def readMany {α : Type} (read : Bytes → Except ReadError (α × Bytes)) :
    Nat → Bytes → Except ReadError (List α × Bytes)
  | 0, bs => .ok ([], bs)
  | count + 1, bs => do
    let (x, rest) ← read bs
    let (xs, rest) ← readMany read count rest
    .ok (x :: xs, rest)

def readEntry (read : Bytes → Except ReadError (Msgpack × Bytes)) (bs : Bytes) :
    Except ReadError ((Msgpack × Msgpack) × Bytes) := do
  let (key, rest) ← read bs
  let (value, rest) ← read rest
  .ok ((key, value), rest)

/-- The items of an array, each of them read by `inner`. Besides the value they cost one. -/
def readItems (inner : Bytes → Except ReadError (Msgpack × Bytes)) (budget length : Nat)
    (bs : Bytes) : Except ReadError (Msgpack × Bytes) :=
  if budget < 1 then .error .depth
  else do
    let (items, rest) ← readMany inner length bs
    .ok (.array items, rest)

/-- The entries of a map. Besides the value they cost one. -/
def readEntries (inner : Bytes → Except ReadError (Msgpack × Bytes)) (budget length : Nat)
    (bs : Bytes) : Except ReadError (Msgpack × Bytes) :=
  if budget < 1 then .error .depth
  else do
    let (entries, rest) ← readMany (readEntry inner) length bs
    .ok (.map entries, rest)

def readMarked (inner : Bytes → Except ReadError (Msgpack × Bytes)) (budget : Nat) (bs : Bytes) :
    Marker → Except ReadError (Msgpack × Bytes)
  | .nil => .ok (.nil, bs)
  | .bool b => .ok (.bool b, bs)
  | .fixInt n => .ok (ofInt n, bs)
  | .uint width => do
    let (n, rest) ← readField width bs
    .ok (ofInt n, rest)
  | .sint width => do
    let (n, rest) ← readField width bs
    .ok (ofInt (signed width n), rest)
  | .float32 => do
    let (n, rest) ← readField 4 bs
    .ok (.float32 ⟨UInt32.ofNat n⟩, rest)
  | .float64 => do
    let (n, rest) ← readField 8 bs
    .ok (.float64 ⟨UInt64.ofNat n⟩, rest)
  | .fixStr length => readStr budget length bs
  | .str width => do
    let (length, rest) ← readField width bs
    readStr budget length rest
  | .bin width => do
    let (length, rest) ← readField width bs
    readBin budget length rest
  | .fixArray length => readItems inner budget length bs
  | .array width => do
    let (length, rest) ← readField width bs
    readItems inner budget length rest
  | .fixMap length => readEntries inner budget length bs
  | .map width => do
    let (length, rest) ← readField width bs
    readEntries inner budget length rest
  | .fixExt length => readExt budget length bs
  | .ext width => do
    let (length, rest) ← readField width bs
    readExt budget length rest

/-- One value within the budget, and the octets that follow it. What an array or a map
holds has two less of the budget than itself. -/
def read : Nat → Bytes → Except ReadError (Msgpack × Bytes)
  | 0, _ => .error .depth
  | _ + 1, [] => .error .marker
  | 1, b :: bs => readMarked (fun _ => .error .depth) 0 bs (Marker.ofByte b)
  | inside + 2, b :: bs => readMarked (read inside) (inside + 1) bs (Marker.ofByte b)

def depthBudget : Nat := 1024

/-- The value at the start of the octets; what follows it is ignored. -/
def ofBytes (bs : Bytes) : Except ReadError Msgpack := (read depthBudget bs).map (·.1)

end SessionRecorder.Msgpack
