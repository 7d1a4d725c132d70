import SessionRecorder.Msgpack.Basic

/-!
MessagePack values as octets, each in its shortest form. Floats keep their
width; a string whose octets are not UTF-8 is written as binary data.
-/

namespace SessionRecorder.Msgpack

open Bytes Text

def writeInt (n : Int) : Bytes :=
  if 0 ≤ n then
    let u := n.toNat
    if u < 2 ^ 7 then [UInt8.ofNat u]
    else if u < 2 ^ 8 then 0xCC :: ofNatBE 1 u
    else if u < 2 ^ 16 then 0xCD :: ofNatBE 2 u
    else if u < 2 ^ 32 then 0xCE :: ofNatBE 4 u
    else 0xCF :: ofNatBE 8 u
  -- A negative number is written as its complement in the width.
  else if -2 ^ 5 ≤ n then [UInt8.ofNat (n + 2 ^ 8).toNat]
  else if -2 ^ 7 ≤ n then 0xD0 :: ofNatBE 1 (n + 2 ^ 8).toNat
  else if -2 ^ 15 ≤ n then 0xD1 :: ofNatBE 2 (n + 2 ^ 16).toNat
  else if -2 ^ 31 ≤ n then 0xD2 :: ofNatBE 4 (n + 2 ^ 32).toNat
  else 0xD3 :: ofNatBE 8 (n + 2 ^ 64).toNat

/-! Headers take a length of 32 bits. What is longer has its length truncated before its marker is
chosen. -/

def strHeader (length : UInt32) : Bytes :=
  let n := length.toNat
  if n < 2 ^ 5 then [UInt8.ofNat (0xA0 + n)]
  else if n < 2 ^ 8 then 0xD9 :: ofNatBE 1 n
  else if n < 2 ^ 16 then 0xDA :: ofNatBE 2 n
  else 0xDB :: ofNatBE 4 n

def binHeader (length : UInt32) : Bytes :=
  let n := length.toNat
  if n < 2 ^ 8 then 0xC4 :: ofNatBE 1 n
  else if n < 2 ^ 16 then 0xC5 :: ofNatBE 2 n
  else 0xC6 :: ofNatBE 4 n

def arrayHeader (length : UInt32) : Bytes :=
  let n := length.toNat
  if n < 2 ^ 4 then [UInt8.ofNat (0x90 + n)]
  else if n < 2 ^ 16 then 0xDC :: ofNatBE 2 n
  else 0xDD :: ofNatBE 4 n

def mapHeader (length : UInt32) : Bytes :=
  let n := length.toNat
  if n < 2 ^ 4 then [UInt8.ofNat (0x80 + n)]
  else if n < 2 ^ 16 then 0xDE :: ofNatBE 2 n
  else 0xDF :: ofNatBE 4 n

def extHeader (length : UInt32) : Bytes :=
  let n := length.toNat
  if n = 1 then [0xD4]
  else if n = 2 then [0xD5]
  else if n = 4 then [0xD6]
  else if n = 8 then [0xD7]
  else if n = 16 then [0xD8]
  else if n < 2 ^ 8 then 0xC7 :: ofNatBE 1 n
  else if n < 2 ^ 16 then 0xC8 :: ofNatBE 2 n
  else 0xC9 :: ofNatBE 4 n

mutual

def write : Msgpack → Bytes
  | .nil => [0xC0]
  | .bool false => [0xC2]
  | .bool true => [0xC3]
  | .int n => writeInt n.val
  | .float32 x => 0xCA :: ofNatBE 4 x.bits.toNat
  | .float64 x => 0xCB :: ofNatBE 8 x.bits.toNat
  | .str s => strHeader (.ofNat (utf8 s).length) ++ utf8 s
  | .badStr bytes => binHeader (.ofNat bytes.length) ++ bytes
  | .bin bytes => binHeader (.ofNat bytes.length) ++ bytes
  | .array items => arrayHeader (.ofNat items.length) ++ writeItems items
  | .map entries => mapHeader (.ofNat entries.length) ++ writeEntries entries
  | .ext type bytes => extHeader (.ofNat bytes.length) ++ type.toUInt8 :: bytes

def writeItems : List Msgpack → Bytes
  | [] => []
  | item :: rest => item.write ++ writeItems rest

def writeEntries : List (Msgpack × Msgpack) → Bytes
  | [] => []
  | (key, value) :: rest => key.write ++ (value.write ++ writeEntries rest)

end

end SessionRecorder.Msgpack
