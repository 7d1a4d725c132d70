import SessionRecorder.Json.Basic
import SessionRecorder.Bytes.Hex

/-!
JSON data as compact text: no blanks, and members in the order of their keys.
-/

namespace SessionRecorder.Json

open Decimal

/-- One character of a string; what is not escaped stands for itself. -/
def stringChar (c : Char) : List Char :=
  if c = '"' then ['\\', '"']
  else if c = '\\' then ['\\', '\\']
  else if c = '\x08' then ['\\', 'b']
  else if c = '\x0c' then ['\\', 'f']
  else if c = '\n' then ['\\', 'n']
  else if c = '\r' then ['\\', 'r']
  else if c = '\t' then ['\\', 't']
  else if c.toNat < 32 then ['\\', 'u', '0', '0'] ++ Bytes.hexPair (UInt8.ofNat c.toNat)
  else [c]

def stringText (s : String) : String :=
  String.ofList ('"' :: s.toList.flatMap stringChar ++ ['"'])

/-- A double; what is not finite has no JSON text and is written as null. -/
def doubleText (x : Double) : String :=
  if x.isFinite then x.text Layout.data else "null"

mutual

def compact : Json → String
  | .null => "null"
  | .bool b => if b then "true" else "false"
  | .int n => toString n.val
  | .double x => doubleText x
  | .string s => stringText s
  | .array items => "[" ++ compactItems items ++ "]"
  | .object members => "\x7b" ++ compactMembers members ++ "\x7d"

def compactItems : List Json → String
  | [] => ""
  | [item] => item.compact
  | item :: rest => item.compact ++ "," ++ compactItems rest

def compactMembers : List (String × Json) → String
  | [] => ""
  | [(key, value)] => stringText key ++ ":" ++ value.compact
  | (key, value) :: rest =>
    stringText key ++ ":" ++ value.compact ++ "," ++ compactMembers rest

end

end SessionRecorder.Json
